/-
# Details that a page does not show

A document says more than its page: the scopes of namespaces, line comments, the
comments of types, services, functions and their parameters, the key types of
maps, the entries of map constants, the values of enumeration members, what a
service extends, whether a function is one-way, and all of a parameter or thrown
field but its type and name. Two documents differ in such details only if they
are equal once these are taken out (`Document.withoutDetails`), and then they
have the same page (`Document.details_not_shown`).

Taking out a detail is a function for every kind of thing, with one lemma that
its text or outline stays as it was.

Key definitions: `TypeRef.withoutKeys`, `Constant.withoutEntries`,
`withoutLineComments`, `Document.withoutDetails`.
Key theorems: `Document.outline_withoutDetails`, `Document.details_not_shown`.
-/
import ThriftPages.Page.Dump
import ThriftPages.Reference.Page

namespace ThriftPages

/-! ### Types, values and comments -/

/-- A type without the key types of its maps. -/
def TypeRef.withoutKeys : TypeRef → TypeRef
  | list element => list element.withoutKeys
  | set element => set element.withoutKeys
  | map _ value => map void value.withoutKeys
  | base => base

/-- The key types of maps are not shown. -/
@[simp] theorem TypeRef.text_withoutKeys (type : TypeRef) : type.withoutKeys.text = type.text := by
  induction type with
  | list element ih | set element ih => rw [withoutKeys, text, text, ih]
  | map key value _ ih => rw [withoutKeys, text, text, ih]
  | _ => rfl

namespace Constant

mutual

/-- A value without the entries of its maps. -/
def withoutEntries : Constant → Constant
  | whole number => whole (withoutEntries number)
  | real number => real (withoutEntries number)
  | list elements => list (elementsWithoutEntries elements)
  | map _ => map []
  | atom => atom

/-- Values without the entries of their maps. -/
def elementsWithoutEntries : List Constant → List Constant
  | [] => []
  | element :: rest => withoutEntries element :: elementsWithoutEntries rest

end

theorem elementsWithoutEntries_eq : ∀ elements : List Constant,
    elementsWithoutEntries elements = elements.map withoutEntries
  | [] => rfl
  | element :: rest => by
    rw [elementsWithoutEntries, elementsWithoutEntries_eq rest, List.map_cons]

/-- Taking out entries makes no value a string and leaves every string. -/
theorem bareOr_withoutEntries (own : String) (value : Constant) :
    bareOr own value.withoutEntries = bareOr own value := by
  cases value <;> rfl

/-- The entries of maps are not shown. -/
theorem text_withoutEntries (value : Constant) : value.withoutEntries.text = value.text := by
  induction value using nested with
  | whole number ih | real number ih => rwa [withoutEntries, text, text]
  | list elements ih =>
    have helements : elementTexts (elements.map withoutEntries) = elementTexts elements :=
      elementTexts_map fun element helement => by
        rw [bareOr_withoutEntries, ih element helement]
    rw [withoutEntries, elementsWithoutEntries_eq, text, text, helements]
  | _ => rfl

/-- Of the declared type of a map constant the key type is not shown. -/
theorem mapText_withoutKeys (declared : TypeRef) :
    mapText (some declared.withoutKeys) = mapText (some declared) := by
  have htext := declared.text_withoutKeys
  cases declared with
  | map key value => rw [TypeRef.withoutKeys, mapText, mapText, value.text_withoutKeys]
  | list element | set element =>
    rw [TypeRef.withoutKeys] at htext ⊢
    rw [mapText, mapText, htext] <;> simp
  | _ => rfl

@[simp] theorem textAs_withoutEntries (declared : TypeRef) (value : Constant) :
    value.withoutEntries.textAs declared.withoutKeys = value.textAs declared := by
  cases value with
  | map entries => exact mapText_withoutKeys declared
  | _ =>
    rw [textAs_of_not_map (by simp [withoutEntries]), textAs_of_not_map (by simp),
      text_withoutEntries]

@[simp] theorem defaultText_withoutEntries (declared : TypeRef) (value : Constant) :
    defaultText declared.withoutKeys value.withoutEntries = defaultText declared value := by
  rw [defaultText, textAs_withoutEntries, bareOr_withoutEntries, defaultText]

end Constant

/-- Whether a comment is a block comment. -/
def Comment.isBlock : Comment → Bool
  | block _ => true
  | line _ => false

/-- Comments without those that end with their line. -/
def withoutLineComments (comments : List Comment) : List Comment := comments.filter Comment.isBlock

/-- Line comments are no documentation. -/
theorem documentationChars_withoutLineComments (comments : List Comment) :
    documentationChars (withoutLineComments comments) = documentationChars comments := by
  unfold documentationChars withoutLineComments
  induction comments with
  | nil => rfl
  | cons comment rest ih =>
    cases comment with
    | block segments => rw [List.filter_cons_of_pos rfl, List.flatMap_cons, List.flatMap_cons, ih]
    | line text =>
      rw [List.filter_cons_of_neg (by simp [Comment.isBlock]), List.flatMap_cons, ih]
      rfl

@[simp] theorem documentation_withoutLineComments (comments : List Comment) :
    documentation (withoutLineComments comments) = documentation comments := by
  rw [documentation, documentationChars_withoutLineComments, documentation]

@[simp] theorem documentationIn_withoutLineComments (marker : String) (comments : List Comment) :
    documentationIn marker (withoutLineComments comments) = documentationIn marker comments := by
  rw [documentationIn, documentationChars_withoutLineComments, documentationIn]

/-! ### Declarations -/

/-- A field of a structure without details. -/
def Field.withoutDetails (f : Field) : Field where
  id := f.id
  name := f.name
  type := f.type.withoutKeys
  requiredness := f.requiredness
  default := f.default.map Constant.withoutEntries
  comments := withoutLineComments f.comments

/-- A parameter or thrown field without details: its type and name. -/
def Field.asParameter (f : Field) : Field where
  id := none
  name := f.name
  type := f.type.withoutKeys
  requiredness := none
  default := none
  comments := []

/-- A function without details. -/
def Function.withoutDetails (f : Function) : Function where
  name := f.name
  result := f.result.withoutKeys
  parameters := f.parameters.map Field.asParameter
  throws := f.throws.map Field.asParameter
  oneway := false
  comments := []

/-- A declared type name without details. -/
def Typedef.withoutDetails (t : Typedef) : Typedef where
  name := t.name
  type := t.type.withoutKeys
  comments := []

/-- A constant without details. -/
def ConstantDef.withoutDetails (c : ConstantDef) : ConstantDef where
  name := c.name
  type := c.type.withoutKeys
  value := c.value.withoutEntries
  comments := withoutLineComments c.comments

/-- A member of an enumeration without details. -/
def Member.withoutDetails (m : Member) : Member where
  name := m.name
  value := none
  comments := withoutLineComments m.comments

/-- An enumeration without details. -/
def Enumeration.withoutDetails (e : Enumeration) : Enumeration where
  name := e.name
  members := e.members.map Member.withoutDetails
  comments := withoutLineComments e.comments

/-- A structure, union or exception without details. -/
def Struct.withoutDetails (s : Struct) : Struct where
  name := s.name
  fields := s.fields.map Field.withoutDetails
  comments := withoutLineComments s.comments

/-- A service without details. -/
def Service.withoutDetails (s : Service) : Service where
  name := s.name
  parent := none
  functions := s.functions.map Function.withoutDetails
  comments := []

/-- A namespace without its scope. -/
def Namespace.withoutDetails (n : Namespace) : Namespace where
  scope := ""
  name := n.name

/-- A declaration without details. -/
def Declaration.withoutDetails : Declaration → Declaration
  | scope n => scope n.withoutDetails
  | inclusion path => inclusion path
  | cppInclusion path => cppInclusion path
  | typedef t => typedef t.withoutDetails
  | constant c => constant c.withoutDetails
  | enumeration e => enumeration e.withoutDetails
  | struct s => struct s.withoutDetails
  | union s => union s.withoutDetails
  | exception s => exception s.withoutDetails
  | service s => service s.withoutDetails

/-- A document without details. -/
def Document.withoutDetails (doc : Document) : Document :=
  ⟨doc.declarations.map Declaration.withoutDetails⟩

/-! ### What the page has of a declaration -/

@[simp] theorem Typedef.outline_withoutDetails (t : Typedef) :
    t.withoutDetails.outline = t.outline := by
  simp [outline, withoutDetails]

@[simp] theorem ConstantDef.row_withoutDetails (options : PageOptions) (c : ConstantDef) :
    c.withoutDetails.row options = c.row options := by
  simp [row, withoutDetails]

@[simp] theorem Member.row_withoutDetails (options : PageOptions) (m : Member) :
    m.withoutDetails.row options = m.row options := by
  simp [row, withoutDetails]

@[simp] theorem Field.row_withoutDetails (options : PageOptions) (f : Field) :
    f.withoutDetails.row options = f.row options := by
  cases hdefault : f.default <;> simp [row, withoutDetails, hdefault]

theorem commentBlock_withoutLineComments (options : PageOptions) (comments : List Comment) :
    commentBlock options (withoutLineComments comments) = commentBlock options comments := by
  rw [commentBlock, documentation_withoutLineComments, commentBlock]

@[simp] theorem Enumeration.outline_withoutDetails (options : PageOptions) (e : Enumeration) :
    e.withoutDetails.outline options = e.outline options := by
  simp [outline, withoutDetails, commentBlock_withoutLineComments, Function.comp_def]

@[simp] theorem Struct.outline_withoutDetails (options : PageOptions) (s : Struct) :
    s.withoutDetails.outline options = s.outline options := by
  simp [outline, withoutDetails, commentBlock_withoutLineComments, Function.comp_def]

@[simp] theorem Field.parameterList_asParameter (fields : List Field) :
    Field.parameterList (fields.map Field.asParameter) = Field.parameterList fields := by
  simp [parameterList, asParameter, Function.comp_def]

@[simp] theorem Function.signature_withoutDetails (f : Function) :
    f.withoutDetails.signature = f.signature := by
  simp [signature, withoutDetails]

@[simp] theorem Function.outline_withoutDetails (f : Function) :
    f.withoutDetails.outline = f.outline := by
  rw [outline, signature_withoutDetails, outline, withoutDetails]

@[simp] theorem Service.outline_withoutDetails (s : Service) :
    s.withoutDetails.outline = s.outline := by
  simp [outline, withoutDetails, Function.comp_def]

/-! ### The page -/

/-- What a list of changed declarations has of one kind, if a change keeps the kind. -/
theorem filterMap_changed {α : Type} {change : Declaration → Declaration}
    {listed : Declaration → Option α} {bare : α → α}
    (h : ∀ d : Declaration, listed (change d) = (listed d).map bare) (ds : List Declaration) :
    (ds.map change).filterMap listed = (ds.filterMap listed).map bare := by
  rw [List.filterMap_map, List.map_filterMap]
  congr 1
  exact funext h

namespace Document

variable (doc : Document)

@[simp] theorem namespaces_withoutDetails :
    doc.withoutDetails.namespaces = doc.namespaces.map Namespace.withoutDetails :=
  filterMap_changed (fun d => by cases d <;> rfl) _

@[simp] theorem typedefs_withoutDetails :
    doc.withoutDetails.typedefs = doc.typedefs.map Typedef.withoutDetails :=
  filterMap_changed (fun d => by cases d <;> rfl) _

@[simp] theorem constants_withoutDetails :
    doc.withoutDetails.constants = doc.constants.map ConstantDef.withoutDetails :=
  filterMap_changed (fun d => by cases d <;> rfl) _

@[simp] theorem enumerations_withoutDetails :
    doc.withoutDetails.enumerations = doc.enumerations.map Enumeration.withoutDetails :=
  filterMap_changed (fun d => by cases d <;> rfl) _

@[simp] theorem structs_withoutDetails :
    doc.withoutDetails.structs = doc.structs.map Struct.withoutDetails :=
  filterMap_changed (fun d => by cases d <;> rfl) _

@[simp] theorem services_withoutDetails :
    doc.withoutDetails.services = doc.services.map Service.withoutDetails :=
  filterMap_changed (fun d => by cases d <;> rfl) _

end Document

/-- No section shows details. -/
theorem Section.outline_withoutDetails (fileName : String) (options : PageOptions)
    (doc : Document) (s : Section) :
    s.outline fileName options doc.withoutDetails = s.outline fileName options doc := by
  cases s with
  | header => simp [outline, headerOutline, Namespace.withoutDetails, Function.comp_def]
  | _ => simp [outline, Function.comp_def]

/-- **A document has the page that it has without details.** -/
theorem Document.outline_withoutDetails (fileName : String) (options : PageOptions)
    (doc : Document) :
    doc.withoutDetails.outline fileName options = doc.outline fileName options :=
  outline_of_sections (Section.outline_withoutDetails fileName options doc)

/-- **Details that are not shown have no effect.** Documents that differ in details only have
the same outline, hence the same page and the same dump. -/
theorem Document.details_not_shown (fileName : String) (options : PageOptions)
    {a b : Document} (h : a.withoutDetails = b.withoutDetails) :
    a.outline fileName options = b.outline fileName options ∧
      a.markdown fileName options = b.markdown fileName options ∧
      (a.outline fileName options).dump = (b.outline fileName options).dump := by
  have houtline : a.outline fileName options = b.outline fileName options := calc
    a.outline fileName options = a.withoutDetails.outline fileName options :=
      (outline_withoutDetails fileName options a).symm
    _ = b.withoutDetails.outline fileName options := by rw [h]
    _ = b.outline fileName options := outline_withoutDetails fileName options b
  exact ⟨houtline, congrArg Outline.text houtline, congrArg Outline.dump houtline⟩

/-- A namespace, a constant and a service that differ in details of every kind. -/
theorem Document.service_details_not_shown :
    let owner (key : TypeRef) (shown : List Comment) : ConstantDef :=
      ⟨"OWNERS", .map key (.list (.named "Owner")),
        .list [.map [(.string "a", .integer "1")], .string "b"], .block ["Who."] :: shown⟩
    let a : Document := ⟨[.scope ⟨"java", "shop"⟩, .constant (owner .string [.line "todo"]),
      .enumeration ⟨"Color", [⟨"RED", some (.integer "1"), []⟩], [.block ["Hue."]]⟩,
      .service ⟨"Shop", some "Base", [⟨"buy", .void, [⟨some 1, "id", .i64, some .required,
        some (.integer "0"), [.block ["Which."]]⟩], [], true, [.line "later"]⟩], []⟩]⟩
    let b : Document := ⟨[.scope ⟨"py", "shop"⟩, .constant { owner .i32 [] with
        value := .list [.map [], .string "b"] },
      .enumeration ⟨"Color", [⟨"RED", none, []⟩], [.line "Tint.", .block ["Hue."]]⟩,
      .service ⟨"Shop", none, [⟨"buy", .void, [⟨none, "id", .i64, none, none, []⟩], [], false,
        []⟩], [.block ["A shop."]]⟩]⟩
    a ≠ b ∧ a.withoutDetails = b.withoutDetails ∧
      a.outline "shop.json" {} = b.outline "shop.json" {} := by
  intro owner a b
  have hdetails : a.withoutDetails = b.withoutDetails := by decide
  exact ⟨by decide, hdetails, (details_not_shown "shop.json" {} hdetails).1⟩

end ThriftPages
