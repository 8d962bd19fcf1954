/-
# Where the links of types lead

Wherever a document mentions a type, its page has a link for every name that the type
shows: in the quote of a type's declaration or of a function, and in the row of a
constant or of a field (`Mention`, `Outline.Under`). A link leads to the heading with its
name. Typedefs, enumerations, structures and services have a heading of their own on the
third level, and nothing else has one there (`Document.mem_headings_h3_iff`). So a link
leads nowhere exactly if its name is declared as a union or an exception at most
(`Document.links_lead_to_headings`).

Key definitions: `Declaration.typeName?`, `Document.Declares`, `Mention`, `Outline.Under`,
`Block.Holds`.
Key theorems: `TypeRef.link_infix_text`, `Mention.shown`, `Document.mem_headings_h3_iff`,
`Document.links_lead_to_headings`.
-/
import ThriftPages.Proofs.Reference.Headings
import ThriftPages.Proofs.Reference.Signatures

namespace ThriftPages

/-! ### Which types a document declares -/

/-- The name of the type or service that a declaration introduces. -/
def Declaration.typeName? : Declaration → Option String
  | typedef t => some t.name
  | enumeration e => some e.name
  | struct s | union s | exception s => some s.name
  | service s => some s.name
  | scope _ | inclusion _ | cppInclusion _ | constant _ => none

/-- A document declares a type or service of the kind and name. -/
def Document.Declares (doc : Document) (kind : DeclarationKind) (name : String) : Prop :=
  ∃ d ∈ doc.declarations, d.kind = kind ∧ d.typeName? = some name

instance (doc : Document) (kind : DeclarationKind) (name : String) :
    Decidable (doc.Declares kind name) :=
  inferInstanceAs (Decidable (∃ d ∈ doc.declarations, d.kind = kind ∧ d.typeName? = some name))

/-- The kinds of declarations that have a heading of their own on the third level. -/
def DeclarationKind.headed : List DeclarationKind := [typedef, enumeration, struct, service]

/-! ### Where a document mentions types -/

/-- A part of a document that mentions types. -/
inductive Mention
  | typedef (t : Typedef)
  | constant (c : ConstantDef)
  | field (s : Struct) (f : Field)
  | function (f : Function)

namespace Mention

/-- The types that are mentioned. -/
def types : Mention → List TypeRef
  | typedef t => [t.type]
  | constant c => [c.type]
  | field _ f => [f.type]
  | function f => f.result :: (f.parameters.map Field.type ++ f.throws.map Field.type)

/-- The heading under which the mention is shown. -/
def heading : Mention → Heading
  | typedef t => ⟨.h3, t.name⟩
  | constant _ => ⟨.h2, "Constants"⟩
  | field s _ => ⟨.h3, s.name⟩
  | function f => ⟨.h4, "Function: " ++ f.name⟩

/-- The texts in which it is shown: a single one in a quote, several in the row of a table. -/
def texts (options : PageOptions) : Mention → List String
  | typedef t => [t.type.text ++ " " ++ t.name]
  | constant c => c.row options
  | field _ f => f.row options
  | function f => [f.signature]

end Mention

/-- The parts of a document that mention types. -/
def Document.mentions (doc : Document) : List Mention :=
  doc.typedefs.map .typedef ++ doc.constants.map .constant ++
    (doc.structs.flatMap fun s => s.fields.map (.field s)) ++
    doc.services.flatMap fun s => s.functions.map .function

/-! ### What stands under a heading -/

/-- A block holds some texts: a quote the text that is quoted, a table each of its rows. -/
inductive Block.Holds : Block → List String → Prop
  | quote (text : String) : Holds (.quote (.single text)) [text]
  | row {headers : List String} {rows : List (List String)} {cells : List String}
      (h : cells ∈ rows) : Holds (.table headers rows) cells

/-- The page has the block below the heading, with no other heading between the two. -/
def Outline.Under (page : Outline) (heading : Heading) (block : Block) : Prop :=
  ∃ between : List Piece, (∀ piece ∈ between, piece.heading? = none) ∧
    .block (.heading heading.level heading.text) :: (between ++ [.block block]) <:+: page.pieces

namespace Outline

variable {heading : Heading} {block : Block}

/-- What stands under a heading in a part stands there on the page. -/
theorem Under.of_mem {child : Outline} {children : List Outline} (h : child.Under heading block)
    (hchild : child ∈ children) : (seq children).Under heading block := by
  obtain ⟨between, hbetween, hinfix⟩ := h
  refine ⟨between, hbetween, hinfix.trans ?_⟩
  rw [pieces_seq, List.flatMap_def]
  exact List.infix_of_mem_flatten (List.mem_map_of_mem hchild)

theorem under_next (heading : Heading) (block : Block) :
    (ofBlocks [.heading heading.level heading.text, block]).Under heading block :=
  ⟨[], nofun, by simp [ofBlocks]⟩

theorem under_second (heading : Heading) (code block : Block)
    (hcode : (Piece.block code).heading? = none) :
    (ofBlocks [.heading heading.level heading.text, code, block]).Under heading block :=
  ⟨[.block code], by simpa using hcode, by simp [ofBlocks]⟩

end Outline

/-- A declaration stands in its section. -/
theorem under_headedOutline {heading : Heading} {block : Block} {child : Outline}
    {declarations : List Outline} (title : String) (h : child.Under heading block)
    (hchild : child ∈ declarations) : (headedOutline title declarations).Under heading block :=
  (h.of_mem hchild).of_mem (List.mem_cons_of_mem _ (List.mem_singleton_self _))

/-! ### Links -/

/-- **The text of a type has a link for every name that the type shows.** -/
theorem TypeRef.link_infix_text {type : TypeRef} {name : String} (h : name ∈ type.names) :
    (link name).toList <:+: type.text.toList := by
  induction type with
  | list element ih | set element ih =>
    rw [text, String.toList_append, String.toList_append]
    exact (ih h).trans (List.infix_append _ _ _)
  | map key value _ ih =>
    rw [text, String.toList_append, String.toList_append]
    exact (ih h).trans (List.infix_append _ _ _)
  | named other =>
    obtain rfl := List.mem_singleton.1 h
    exact List.infix_rfl
  | _ => cases h

/-- A list of parameters has the text of the type of each. -/
theorem Field.type_infix_parameterList {f : Field} {fields : List Field} (h : f ∈ fields) :
    f.type.text.toList <:+: (Field.parameterList fields).toList := by
  have hparameter := Text.infix_intercalate ", "
    (List.mem_map_of_mem (f := fun f : Field => f.type.text ++ " " ++ f.name) h)
  refine List.IsInfix.trans ?_ hparameter
  rw [String.toList_append, String.toList_append, List.append_assoc]
  exact (List.prefix_append _ _).isInfix

/-- A signature has the text of the type of everything that is thrown. -/
theorem Field.type_infix_throwsClause {f : Field} {fields : List Field} (h : f ∈ fields) :
    f.type.text.toList <:+: (Field.throwsClause fields).toList := by
  cases fields with
  | nil => cases h
  | cons first rest =>
    rw [throwsClause, String.toList_append]
    exact (type_infix_parameterList h).trans (List.suffix_append _ _).isInfix

/-- A signature has the text of every type in it. -/
theorem Function.type_infix_signature {f : Function} {type : TypeRef}
    (h : type ∈ (Mention.function f).types) : type.text.toList <:+: f.signature.toList := by
  simp only [Mention.types, List.mem_cons, List.mem_append, List.mem_map] at h
  rw [toList_signature]
  rcases h with rfl | ⟨p, hp, rfl⟩ | ⟨p, hp, rfl⟩
  · exact (List.prefix_append _ _).isInfix
  · refine (Field.type_infix_parameterList hp).trans ⟨f.result.text.toList ++ ' ' ::
      (f.name.toList ++ ['(']), ')' :: (Field.throwsClause f.throws).toList, ?_⟩
    simp
  · refine (Field.type_infix_throwsClause hp).trans ⟨f.result.text.toList ++ ' ' ::
      (f.name.toList ++ '(' :: ((Field.parameterList f.parameters).toList ++ [')'])), [], ?_⟩
    simp

namespace Mention

/-- Every type that is mentioned shows its names as links. -/
theorem link_shown {mention : Mention} {type : TypeRef} {name : String} (options : PageOptions)
    (htype : type ∈ mention.types) (hname : name ∈ type.names) :
    ∃ text ∈ mention.texts options, (link name).toList <:+: text.toList := by
  have hlink := TypeRef.link_infix_text hname
  cases mention with
  | typedef t =>
    obtain rfl := List.mem_singleton.1 htype
    refine ⟨_, List.mem_singleton_self _, hlink.trans ?_⟩
    rw [String.toList_append, String.toList_append, List.append_assoc]
    exact (List.prefix_append _ _).isInfix
  | constant c =>
    obtain rfl := List.mem_singleton.1 htype
    exact ⟨c.type.text, by simp [texts, ConstantDef.row], hlink⟩
  | field s f =>
    obtain rfl := List.mem_singleton.1 htype
    exact ⟨f.type.text, by simp [texts, Field.row], hlink⟩
  | function f =>
    exact ⟨f.signature, List.mem_singleton_self _, hlink.trans (f.type_infix_signature htype)⟩

/-- **What mentions a type is shown under its heading**, in a quote or a row. -/
theorem shown {doc : Document} {mention : Mention} (h : mention ∈ doc.mentions)
    (fileName : String) (options : PageOptions) :
    ∃ block, (doc.outline fileName options).Under mention.heading block ∧
      block.Holds (mention.texts options) := by
  have hsection : ∀ (part : Section) (block : Block),
      (part.outline fileName options doc).Under mention.heading block →
      (doc.outline fileName options).Under mention.heading block := fun part block hunder =>
    hunder.of_mem (List.mem_map_of_mem (by cases part <;> decide))
  simp only [Document.mentions, List.mem_append, List.mem_map, List.mem_flatMap] at h
  rcases h with ((⟨t, ht, rfl⟩ | ⟨c, hc, rfl⟩) | ⟨s, hs, f, hf, rfl⟩) | ⟨s, hs, f, hf, rfl⟩
  · have hunder :=
      Outline.under_next ⟨.h3, t.name⟩ (.quote (.single (t.type.text ++ " " ++ t.name)))
    exact ⟨_, hsection .types _ (under_headedOutline _ hunder (List.mem_map_of_mem ht)), .quote _⟩
  · exact ⟨_, hsection .constants _ (Outline.under_next ⟨.h2, "Constants"⟩ _),
      .row (List.mem_map_of_mem hc)⟩
  · have hunder := Outline.under_second ⟨.h3, s.name⟩ (commentBlock options s.comments)
      (.table Struct.headers (s.fields.map (Field.row options))) rfl
    exact ⟨_, hsection .structures _ (under_headedOutline _ hunder (List.mem_map_of_mem hs)),
      .row (List.mem_map_of_mem hf)⟩
  · have hunder := Outline.under_next ⟨.h4, "Function: " ++ f.name⟩ (.quote (.single f.signature))
    have hservice : s.outline.Under ⟨.h4, "Function: " ++ f.name⟩ (.quote (.single f.signature)) :=
      (Outline.Under.of_mem hunder (List.mem_map_of_mem (f := Function.outline) hf)).of_mem
        (List.mem_cons_of_mem _ (List.mem_singleton_self _))
    exact ⟨_, hsection .services _ (under_headedOutline _ hservice (List.mem_map_of_mem hs)),
      .quote _⟩

end Mention

/-! ### Headings -/

namespace Document

/-- The names of one kind are those of its declarations. -/
theorem declares_iff {doc : Document} {name : String} {kind : DeclarationKind} {α : Type}
    {pick : Declaration → Option α} {nameOf : α → String}
    (hpick : ∀ d, (pick d).map nameOf = if d.kind = kind then d.typeName? else none) :
    doc.Declares kind name ↔ ∃ a ∈ doc.declarations.filterMap pick, nameOf a = name := by
  have hname : ∀ d : Declaration, (d.kind = kind ∧ d.typeName? = some name) ↔
      ∃ a, pick d = some a ∧ nameOf a = name := fun d => by
    rw [← Option.map_eq_some_iff, hpick]
    split <;> simp_all
  simp only [Declares, hname, List.mem_filterMap]
  constructor
  · rintro ⟨d, hd, a, ha, hname⟩
    exact ⟨a, ⟨d, hd, ha⟩, hname⟩
  · rintro ⟨a, ⟨d, hd, ha⟩, hname⟩
    exact ⟨d, hd, a, ha, hname⟩

variable (fileName : String) (options : PageOptions) (doc : Document)

/-- **The headings of the third level** are those of the typedefs, enumerations, structures and
services. -/
theorem mem_headings_h3_iff (name : String) :
    ⟨.h3, name⟩ ∈ (doc.outline fileName options).headings ↔
      ∃ kind ∈ DeclarationKind.headed, doc.Declares kind name := by
  have htypedef : doc.Declares .typedef name ↔ ∃ t ∈ doc.typedefs, t.name = name :=
    declares_iff fun d => by cases d <;> rfl
  have henumeration : doc.Declares .enumeration name ↔ ∃ e ∈ doc.enumerations, e.name = name :=
    declares_iff fun d => by cases d <;> rfl
  have hstruct : doc.Declares .struct name ↔ ∃ s ∈ doc.structs, s.name = name :=
    declares_iff fun d => by cases d <;> rfl
  have hservice : doc.Declares .service name ↔ ∃ s ∈ doc.services, s.name = name :=
    declares_iff fun d => by cases d <;> rfl
  rw [headings_outline]
  simp [headings, sections, sectionHeadings, Service.headings, DeclarationKind.headed, htypedef,
    henumeration, hstruct, hservice, eq_comm (a := name)]

/-- A name has no heading of its own if it is declared as a union or an exception at most. -/
theorem not_headed_iff (name : String) :
    (¬ ∃ kind ∈ DeclarationKind.headed, doc.Declares kind name) ↔
      ((doc.Declares .union name ∨ doc.Declares .exception name) ∧
        ∀ kind, doc.Declares kind name → kind = .union ∨ kind = .exception) ∨
      ∀ kind, ¬ doc.Declares kind name := by
  constructor
  · intro h
    have honly : ∀ kind, doc.Declares kind name → kind = .union ∨ kind = .exception := by
      intro kind hdeclares
      obtain ⟨d, -, hkind, hname⟩ := id hdeclares
      by_contra hother
      refine h ⟨kind, ?_, hdeclares⟩
      rw [← hkind] at hother ⊢
      cases d <;> simp_all [Declaration.kind, Declaration.typeName?, DeclarationKind.headed]
    by_cases hany : ∃ kind, doc.Declares kind name
    · obtain ⟨kind, hdeclares⟩ := hany
      refine .inl ⟨?_, honly⟩
      rcases honly kind hdeclares with rfl | rfl
      · exact .inl hdeclares
      · exact .inr hdeclares
    · exact .inr (not_exists.1 hany)
  · rintro (⟨-, honly⟩ | hnone) ⟨kind, hheaded, hdeclares⟩
    · rcases honly kind hdeclares with rfl | rfl <;> exact absurd hheaded (by decide)
    · exact hnone kind hdeclares

/-- **Where links lead.** Every part of a document that mentions types is shown under its
heading, in a quote or in the row of a table, and every name that one of the types shows is a
link there. A heading of the third level has this name exactly if the document declares a
typedef, an enumeration, a structure or a service of the name. So the links without a heading
are those to names that are declared only as a union or an exception, or as no type at all. -/
theorem links_lead_to_headings (fileName : String) (options : PageOptions) (doc : Document) :
    let page := doc.outline fileName options
    ∀ mention ∈ doc.mentions, ∀ type ∈ mention.types, ∀ name ∈ type.names,
      (∃ block, page.Under mention.heading block ∧ block.Holds (mention.texts options) ∧
        ∃ text ∈ mention.texts options, (link name).toList <:+: text.toList) ∧
      (⟨.h3, name⟩ ∈ page.headings ↔ doc.Declares .typedef name ∨
        doc.Declares .enumeration name ∨ doc.Declares .struct name ∨
        doc.Declares .service name) ∧
      (⟨.h3, name⟩ ∉ page.headings ↔
        ((doc.Declares .union name ∨ doc.Declares .exception name) ∧
          ∀ kind, doc.Declares kind name → kind = .union ∨ kind = .exception) ∨
        ∀ kind, ¬ doc.Declares kind name) := by
  intro page mention hmention type htype name hname
  obtain ⟨block, hunder, hholds⟩ := Mention.shown hmention fileName options
  have hheading := doc.mem_headings_h3_iff fileName options name
  refine ⟨⟨block, hunder, hholds, Mention.link_shown options htype hname⟩, ?_, ?_⟩
  · rw [hheading]
    simp [DeclarationKind.headed]
  · rw [hheading]
    exact doc.not_headed_iff name

/-- A function that shows a color, which has a heading, and an exception, which has none. -/
theorem links_of_paint :
    let paint : Function := ⟨"paint", .void,
      [⟨some 1, "colors", .list (.map (.named "Key") (.named "Color")), none, none, []⟩],
      [⟨some 1, "e", .named "Dry", none, none, []⟩], false, []⟩
    let doc : Document := ⟨[.enumeration ⟨"Color", [], []⟩, .exception ⟨"Dry", [], []⟩,
      .service ⟨"Shop", none, [paint], []⟩]⟩
    let page := doc.outline "shop.json" {}
    paint.signature = "void paint(list<map<[Color](#Color)>> colors) throws [Dry](#Dry) e" ∧
      (∃ block, page.Under ⟨.h4, "Function: paint"⟩ block ∧ block.Holds [paint.signature]) ∧
      ⟨.h3, "Color"⟩ ∈ page.headings ∧ ⟨.h3, "Dry"⟩ ∉ page.headings := by
  intro paint doc page
  have hpaint : Mention.function paint ∈ doc.mentions := by simp [mentions, doc, services,
    typedefs, constants, structs]
  have hcolor := links_lead_to_headings "shop.json" {} doc (.function paint) hpaint
    (.list (.map (.named "Key") (.named "Color"))) (by decide) "Color" (by decide)
  have hdry := links_lead_to_headings "shop.json" {} doc (.function paint) hpaint
    (.named "Dry") (by decide) "Dry" (by decide)
  obtain ⟨⟨block, hunder, hholds, -⟩, hheading, -⟩ := hcolor
  obtain ⟨-, -, hmissing⟩ := hdry
  refine ⟨by decide, ⟨block, hunder, hholds⟩, hheading.2 (by decide), hmissing.2 (.inl ⟨?_, ?_⟩)⟩
  · exact .inr (by decide)
  · intro kind
    cases kind <;> decide

end Document

end ThriftPages
