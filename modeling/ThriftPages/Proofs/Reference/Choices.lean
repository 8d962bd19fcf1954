/-
# What the options of a page change

Every option has a place of its own on a page: the mark for a table of contents
is a raw text after the namespaces, what stands for a line break shows in the
column of descriptions, and the language of comments at the head of code blocks.
So the pages of one document under two sets of options go together piece by piece
(`Piece.Restyled`), as long as both or neither have a table of contents; and a
page with the mark is the page without it, with two raw texts put in between
(`Document.options_apart`).

A page is what it opens with, the mark, and what is below (`Document.pieces_outline_eq`).
Only blocks are below (`Outline.Restyled`).

Key definitions: `RowRestyled`, `Block.Restyled`, `Piece.Restyled`,
`Outline.Restyled`, `Document.opening`, `Document.body`.
Key theorems: `Document.pieces_outline_eq`, `Document.restyled_body`,
`Document.options_apart`.
-/
import Mathlib.Data.List.Forall2
import ThriftPages.Proofs.Page.Spacing
import ThriftPages.Reference.Page

namespace ThriftPages

/-! ### What differs under other options -/

section Restyled

variable (o o' : PageOptions)

/-- Rows with the same cells outside of the column of descriptions, where both show the same
comments, each with its own mark for line breaks. -/
inductive RowRestyled (headers : List String) : List String → List String → Prop
  | intro (before after : List String) (comments : List Comment)
      (h : headers[before.length]? = some "Description") :
      RowRestyled headers (before ++ documentationIn o.lineBreakMarker comments :: after)
        (before ++ documentationIn o'.lineBreakMarker comments :: after)

/-- Blocks that differ in what the options decide: a code block in its language, a table in its
descriptions, a heading or a quote in nothing. -/
inductive Block.Restyled : Block → Block → Prop
  | heading (level : HeadingLevel) (text : String) :
      Restyled (.heading level text) (.heading level text)
  | quote (text : BlockText) : Restyled (.quote text) (.quote text)
  | code (text : BlockText) :
      Restyled (.code o.commentLanguage text) (.code o'.commentLanguage text)
  | table {headers : List String} {rows rows' : List (List String)}
      (h : List.Forall₂ (RowRestyled o o' headers) rows rows') :
      Restyled (.table headers rows) (.table headers rows')

/-- Leaves that differ in what the options decide. A raw text is the mark for a table of
contents or the empty line after it. -/
inductive Piece.Restyled : Piece → Piece → Prop
  | block {b b' : Block} (h : b.Restyled o o' b') : Restyled (.block b) (.block b')
  | tocMarker : Restyled (.raw o.tocMarker) (.raw o'.tocMarker)
  | blank : Restyled (.raw "\n\n") (.raw "\n\n")

/-- Blocks, without raw texts between them, that differ in what the options decide. -/
inductive Piece.BlockRestyled : Piece → Piece → Prop
  | intro {b b' : Block} (h : b.Restyled o o' b') : BlockRestyled (.block b) (.block b')

/-- Outlines without raw texts that go together block by block. -/
def Outline.Restyled (t t' : Outline) : Prop :=
  List.Forall₂ (Piece.BlockRestyled o o') t.pieces t'.pieces

end Restyled

section Together

variable {o o' : PageOptions}

theorem Piece.BlockRestyled.restyled {p p' : Piece} (h : p.BlockRestyled o o' p') :
    p.Restyled o o' p' := by
  cases h with
  | intro h => exact .block h

/-- Pieces that go together have the same kind. -/
theorem Piece.Restyled.kind_eq {p p' : Piece} (h : p.Restyled o o' p') : p.kind = p'.kind := by
  cases h with
  | block h => cases h <;> rfl
  | tocMarker => rfl
  | blank => rfl

theorem kinds_eq_of_restyled {ps ps' : List Piece}
    (h : List.Forall₂ (Piece.Restyled o o') ps ps') :
    ps.map Piece.kind = ps'.map Piece.kind := by
  induction h with
  | nil => rfl
  | cons hp _ ih => rw [List.map_cons, List.map_cons, hp.kind_eq, ih]

/-- The raw text that a leaf is, if it is one. -/
def Piece.raw? : Piece → Option String
  | raw text => some text
  | block _ => none

/-- Where pieces go together block by block there is no raw text. -/
theorem filterMap_raw_of_blockRestyled {ps ps' : List Piece}
    (h : List.Forall₂ (Piece.BlockRestyled o o') ps ps') : ps.filterMap Piece.raw? = [] := by
  induction h with
  | nil => rfl
  | cons hp _ ih =>
    cases hp with
    | intro _ => rwa [List.filterMap_cons_none rfl]

namespace Outline.Restyled

theorem block {b b' : Block} (h : b.Restyled o o' b') :
    Outline.Restyled o o' (.block b) (.block b') := by
  rw [Outline.Restyled, pieces_block, pieces_block]
  exact .cons (.intro h) .nil

/-- Sequences go together child by child. -/
theorem seq {ts ts' : List Outline} (h : List.Forall₂ (Outline.Restyled o o') ts ts') :
    Outline.Restyled o o' (.seq ts) (.seq ts') := by
  rw [Outline.Restyled, pieces_seq, pieces_seq]
  exact List.rel_flatMap h fun _ _ htt' => htt'

/-- A group for each of some items. -/
theorem map {α : Type} {group group' : α → Outline}
    (h : ∀ a, Outline.Restyled o o' (group a) (group' a)) (items : List α) :
    Outline.Restyled o o' (.seq (items.map group)) (.seq (items.map group')) := by
  apply seq
  rw [List.forall₂_map_left_iff, List.forall₂_map_right_iff, List.forall₂_same]
  exact fun a _ => h a

theorem ofBlocks {bs bs' : List Block} (h : List.Forall₂ (Block.Restyled o o') bs bs') :
    Outline.Restyled o o' (Outline.ofBlocks bs) (Outline.ofBlocks bs') := by
  apply seq
  rw [List.forall₂_map_left_iff, List.forall₂_map_right_iff]
  exact h.imp fun _ _ hbb' => block hbb'

/-- A heading and groups below it. -/
theorem below {α : Type} {group group' : α → Outline} (level : HeadingLevel) (text : String)
    (h : ∀ a, Outline.Restyled o o' (group a) (group' a)) (items : List α) :
    Outline.Restyled o o' (.seq [.block (.heading level text), .seq (items.map group)])
      (.seq [.block (.heading level text), .seq (items.map group')]) :=
  seq (.cons (block (.heading level text)) (.cons (map h items) .nil))

end Outline.Restyled

end Together

/-! ### The parts of a page -/

section Rows

variable (o o' : PageOptions)

/-- A row for each of some items. -/
theorem restyled_rows {α : Type} {headers : List String} {row : PageOptions → α → List String}
    (h : ∀ a, RowRestyled o o' headers (row o a) (row o' a)) (items : List α) :
    List.Forall₂ (RowRestyled o o' headers) (items.map (row o)) (items.map (row o')) := by
  rw [List.forall₂_map_left_iff, List.forall₂_map_right_iff, List.forall₂_same]
  exact fun a _ => h a

theorem ConstantDef.restyled_row (c : ConstantDef) :
    RowRestyled o o' ConstantDef.headers (c.row o) (c.row o') :=
  .intro [c.name, c.type.text] [c.value.valueText c.type] c.comments rfl

theorem Member.restyled_row (m : Member) :
    RowRestyled o o' Enumeration.headers (m.row o) (m.row o') :=
  .intro [m.name] [] m.comments rfl

theorem Field.restyled_row (f : Field) : RowRestyled o o' Struct.headers (f.row o) (f.row o') :=
  .intro [(f.id.map fun id => toString id.toInt).getD "", f.name, f.type.text]
    [(f.requiredness.map Requiredness.keyword).getD "",
      (f.default.map (Constant.defaultText f.type)).getD ""] f.comments rfl

/-- A heading, comments and a table with a row for each of some items. -/
theorem restyled_commented {α : Type} {headers : List String} {row : PageOptions → α → List String}
    (h : ∀ a, RowRestyled o o' headers (row o a) (row o' a)) (name : String)
    (comments : List Comment) (items : List α) :
    Outline.Restyled o o'
      (.ofBlocks [.heading .h3 name, commentBlock o comments, .table headers (items.map (row o))])
      (.ofBlocks [.heading .h3 name, commentBlock o' comments,
        .table headers (items.map (row o'))]) :=
  .ofBlocks (.cons (.heading .h3 name) (.cons (.code _)
    (.cons (.table (restyled_rows o o' h items)) .nil)))

theorem Typedef.restyled_outline (t : Typedef) : Outline.Restyled o o' t.outline t.outline :=
  .ofBlocks (.cons (.heading .h3 t.name) (.cons (.quote _) .nil))

theorem Enumeration.restyled_outline (e : Enumeration) :
    Outline.Restyled o o' (e.outline o) (e.outline o') :=
  restyled_commented o o' (Member.restyled_row o o') e.name e.comments e.members

theorem Struct.restyled_outline (s : Struct) :
    Outline.Restyled o o' (s.outline o) (s.outline o') :=
  restyled_commented o o' (Field.restyled_row o o') s.name s.comments s.fields

theorem Function.restyled_outline (f : Function) : Outline.Restyled o o' f.outline f.outline :=
  .ofBlocks (.cons (.heading .h4 _) (.cons (.quote _) .nil))

theorem Service.restyled_outline (s : Service) : Outline.Restyled o o' s.outline s.outline :=
  .below .h3 s.name (Function.restyled_outline o o') s.functions

end Rows

/-! ### The page -/

section Page

variable (fileName : String) (doc : Document)

/-- A section below the header goes together block by block. -/
theorem Section.restyled_outline (o o' : PageOptions) {s : Section} (h : s ≠ header) :
    Outline.Restyled o o' (s.outline fileName o doc) (s.outline fileName o' doc) := by
  cases s with
  | header => exact absurd rfl h
  | types => exact .below .h2 "Types" (Typedef.restyled_outline o o') doc.typedefs
  | constants =>
    have hrows := restyled_rows o o' (ConstantDef.restyled_row o o') doc.constants
    exact .ofBlocks (.cons (.heading .h2 "Constants") (.cons (.table hrows) .nil))
  | enumerations =>
    exact .below .h2 "Enumerations" (Enumeration.restyled_outline o o') doc.enumerations
  | structures => exact .below .h2 "Data Structures" (Struct.restyled_outline o o') doc.structs
  | services => exact .below .h2 "Services" (Service.restyled_outline o o') doc.services

namespace Document

/-- What a page opens with: its title and the namespaces. -/
def opening : List Piece :=
  .block (.heading .h1 (FilePath.title fileName)) ::
    doc.namespaces.map fun n => .block (.quote (.single n.name))

/-- What is below the header of a page. -/
def body (options : PageOptions) : List Piece :=
  ([.types, .constants, .enumerations, .structures, .services] : List Section).flatMap
    fun s => (s.outline fileName options doc).pieces

/-- A page is what it opens with, the mark for a table of contents if wanted, and what is
below. -/
theorem pieces_outline_eq (o : PageOptions) :
    (doc.outline fileName o).pieces =
      doc.opening fileName ++ (tocOutline o).flatMap Outline.pieces ++ doc.body fileName o := by
  have hnamespaces : (Outline.ofBlocks
      (doc.namespaces.map fun n => .quote (.single n.name))).pieces =
        doc.namespaces.map fun n => .block (.quote (.single n.name)) := by
    simp only [Outline.ofBlocks, Outline.pieces_seq, List.map_map, List.flatMap_map,
      Function.comp_apply, Outline.pieces_block, ← List.map_eq_flatMap]
  have hheader : (Section.header.outline fileName o doc).pieces =
      doc.opening fileName ++ (tocOutline o).flatMap Outline.pieces := by
    simp [Section.outline, headerOutline, opening, hnamespaces]
  rw [outline, Outline.pieces_seq, List.flatMap_map, Section.all, List.flatMap_cons, hheader]
  rfl

/-- What is below the header goes together block by block. -/
theorem restyled_body (o o' : PageOptions) :
    List.Forall₂ (Piece.BlockRestyled o o') (doc.body fileName o) (doc.body fileName o') := by
  apply List.rel_flatMap (R := fun s s' => s = s' ∧ s ≠ .header)
  · exact List.forall₂_same.2 (by decide)
  · rintro s _ ⟨rfl, hs⟩
    exact Section.restyled_outline fileName doc o o' hs

theorem tocOutline_eq_nil {o : PageOptions} (h : o.tableOfContents = false) :
    tocOutline o = [] := by
  rw [tocOutline, h, if_neg Bool.false_ne_true]

/-- With a table of contents the mark and an empty line follow the opening of the page. -/
theorem pieces_outline_toc (o : PageOptions) :
    (doc.outline fileName { o with tableOfContents := true }).pieces =
      doc.opening fileName ++ [.raw o.tocMarker, .raw "\n\n"] ++ doc.body fileName o := by
  -- What is below the header does not look at the switch.
  have hbody : doc.body fileName { o with tableOfContents := true } = doc.body fileName o := rfl
  rw [pieces_outline_eq, tocOutline, if_pos rfl, hbody]
  simp

/-- Without one the opening is followed by what is below. -/
theorem pieces_outline_noToc (o : PageOptions) :
    (doc.outline fileName { o with tableOfContents := false }).pieces =
      doc.opening fileName ++ doc.body fileName o := by
  have hbody : doc.body fileName { o with tableOfContents := false } = doc.body fileName o := rfl
  rw [pieces_outline_eq, tocOutline_eq_nil rfl, hbody, List.flatMap_nil, List.append_nil]

/-- What a page opens with does not depend on the options. -/
theorem restyled_opening (o o' : PageOptions) :
    List.Forall₂ (Piece.BlockRestyled o o') (doc.opening fileName) (doc.opening fileName) := by
  rw [List.forall₂_same, opening, List.forall_mem_cons, List.forall_mem_map]
  exact ⟨.intro (.heading .h1 _), fun n _ => .intro (.quote (.single n.name))⟩

/-- The mark for a table of contents and the empty line after it. -/
theorem restyled_toc {o o' : PageOptions} (h : o.tableOfContents = o'.tableOfContents) :
    List.Forall₂ (Piece.Restyled o o') ((tocOutline o).flatMap Outline.pieces)
      ((tocOutline o').flatMap Outline.pieces) := by
  unfold tocOutline
  rw [← h]
  split
  · simpa using List.Forall₂.cons Piece.Restyled.tocMarker (.cons .blank .nil)
  · exact .nil

/-- Pages with the same switch go together leaf by leaf. -/
theorem restyled_outline {o o' : PageOptions} (h : o.tableOfContents = o'.tableOfContents) :
    List.Forall₂ (Piece.Restyled o o') (doc.outline fileName o).pieces
      (doc.outline fileName o').pieces := by
  have hopening := (doc.restyled_opening fileName o o').imp fun _ _ h => h.restyled
  have hbody := (doc.restyled_body fileName o o').imp fun _ _ h => h.restyled
  rw [pieces_outline_eq, pieces_outline_eq]
  exact List.rel_append (List.rel_append hopening (restyled_toc h)) hbody

/-- The raw texts of a page are the mark for a table of contents and the empty line after it. -/
theorem raw_outline (o : PageOptions) :
    (doc.outline fileName o).pieces.filterMap Piece.raw? =
      if o.tableOfContents then [o.tocMarker, "\n\n"] else [] := by
  have hopening := filterMap_raw_of_blockRestyled (doc.restyled_opening fileName o o)
  have hbody := filterMap_raw_of_blockRestyled (doc.restyled_body fileName o o)
  rw [pieces_outline_eq, List.filterMap_append, List.filterMap_append, hopening, hbody, tocOutline]
  split <;> simp [Piece.raw?]

/-- **Every option has its own place.** Under two sets of options of which both or neither want
a table of contents the pages of a document have the same leaves in order, and each differs at
most in what its options decide: headings and quotes not at all, code blocks in the language of
comments, tables in their descriptions, raw texts in the mark for a table of contents. Without
a table of contents exactly the mark and the empty line after it are missing, which follow the
namespaces, and the mark does not count. -/
theorem options_apart :
    let page (o : PageOptions) := (doc.outline fileName o).pieces
    (∀ o o' : PageOptions, o.tableOfContents = o'.tableOfContents →
      (page o).length = (page o').length ∧
      (page o).map Piece.kind = (page o').map Piece.kind ∧
      List.Forall₂ (Piece.Restyled o o') (page o) (page o') ∧
      (page o).filterMap Piece.raw? =
        if o.tableOfContents then [o.tocMarker, "\n\n"] else []) ∧
    (∀ o : PageOptions, ∃ start rest : List Piece,
      start = .block (.heading .h1 (FilePath.title fileName)) ::
        doc.namespaces.map (fun n => .block (.quote (.single n.name))) ∧
      page { o with tableOfContents := true } =
        start ++ [.raw o.tocMarker, .raw "\n\n"] ++ rest ∧
      page { o with tableOfContents := false } = start ++ rest ∧
      doc.markdown fileName { o with tableOfContents := true } =
        Piece.textOf start ++ o.tocMarker ++ "\n\n" ++ Piece.textOf rest ∧
      doc.markdown fileName { o with tableOfContents := false } =
        Piece.textOf start ++ Piece.textOf rest) ∧
    ∀ (o : PageOptions) (marker : String), o.tableOfContents = false →
      doc.outline fileName { o with tocMarker := marker } = doc.outline fileName o := by
  intro page
  refine ⟨fun o o' h => ?_, fun o => ?_, fun o marker h => ?_⟩
  · have hrestyled := doc.restyled_outline fileName h
    exact ⟨hrestyled.length_eq, kinds_eq_of_restyled hrestyled, hrestyled,
      doc.raw_outline fileName o⟩
  · have hwith := doc.pieces_outline_toc fileName o
    have hwithout := doc.pieces_outline_noToc fileName o
    refine ⟨doc.opening fileName, doc.body fileName o, rfl, hwith, hwithout, ?_, ?_⟩
    · have hmark : Piece.textOf [.raw o.tocMarker, .raw "\n\n"] = o.tocMarker ++ "\n\n" := by
        rw [← List.singleton_append, Piece.textOf_append, Piece.textOf_singleton,
          Piece.textOf_singleton]
        rfl
      rw [markdown, Outline.text, ← Piece.textOf, hwith, Piece.textOf_append,
        Piece.textOf_append, hmark, ← String.append_assoc]
    · rw [markdown, Outline.text, ← Piece.textOf, hwithout, Piece.textOf_append]
  · -- Only the header looks at the mark, and without a table of contents it does not.
    have hheader : headerOutline fileName { o with tocMarker := marker } doc =
        headerOutline fileName o doc := by
      have htoc : tocOutline { o with tocMarker := marker } = [] := tocOutline_eq_nil h
      rw [headerOutline, headerOutline, htoc, tocOutline_eq_nil h]
    exact congrArg (fun header => Outline.seq (header ::
      ([.types, .constants, .enumerations, .structures, .services] : List Section).map
        (Section.outline fileName o doc))) hheader

/-- The page of an enumeration under other options: its leaves change, each in its own place. -/
theorem enumeration_restyled :
    let doc : Document := ⟨[.scope ⟨"java", "com.shop"⟩,
      .enumeration ⟨"Color", [⟨"RED", none, [.block ["deep\n", " red"]]⟩], [.block ["Hues."]]⟩]⟩
    let o : PageOptions := {}
    let o' : PageOptions :=
      { tocMarker := "[TOC]", lineBreakMarker := " ", commentLanguage := "text" }
    o.tableOfContents = o'.tableOfContents ∧
      (doc.outline "shop.json" o).pieces ≠ (doc.outline "shop.json" o').pieces ∧
      List.Forall₂ (Piece.Restyled o o') (doc.outline "shop.json" o).pieces
        (doc.outline "shop.json" o').pieces ∧
      (doc.outline "shop.json" o').pieces.filterMap Piece.raw? = ["[TOC]", "\n\n"] := by
  intro doc o o'
  have hswitch : o.tableOfContents = o'.tableOfContents := rfl
  have hpages := (options_apart "shop.json" doc).1
  obtain ⟨_, _, hrestyled, _⟩ := hpages o o' hswitch
  obtain ⟨_, _, _, hraw⟩ := hpages o' o hswitch.symm
  exact ⟨hswitch, by decide, hrestyled, hraw⟩

end Document

end Page

end ThriftPages
