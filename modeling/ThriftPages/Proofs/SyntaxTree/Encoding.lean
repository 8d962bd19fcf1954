/-
# Documents as syntax trees

A document is written as a syntax tree with all its parts, in the order of the
fields: what is tagged starts with its tag, a name stands by itself. A part that
is absent is null or left out, by choice. The tree describes the document, so the
document is loaded from its own text, if that is within the limit.

Key definitions: `Document.toJson`.
Key theorems: `SyntaxTree.describesDocument_toJson`,
`Document.loaded_from_description`.
-/
import ThriftPages.Proofs.Json.Writing
import ThriftPages.Proofs.SyntaxTree.ReadingBack

namespace ThriftPages

open SyntaxTree

/-! ### The encoder -/

/-- An object with a tag. -/
def taggedObject (tag : String) (members : List (String × Json)) : Json :=
  .object ((tagKey, .string tag) :: members)

/-- A type as a tagged object. -/
def TypeRef.toJson : TypeRef → Json
  | list element => taggedObject "ListType" [("valueType", element.toJson)]
  | set element => taggedObject "SetType" [("valueType", element.toJson)]
  | map key value => taggedObject "MapType" [("keyType", key.toJson), ("valueType", value.toJson)]
  | named name => taggedObject "Identifier" [("value", .string name)]
  | t => taggedObject ((keywordOf t).getD "") []

namespace Constant

mutual

/-- A constant as a tagged object. -/
def toJson : Constant → Json
  | boolean b => taggedObject "BooleanLiteral" [("value", .boolean b)]
  | whole number => taggedObject "IntConstant" [("value", toJson number)]
  | real number => taggedObject "DoubleConstant" [("value", toJson number)]
  | list elements => taggedObject "ConstList" [("elements", .array (elementsToJson elements))]
  | map entries => taggedObject "ConstMap" [("properties", .array (entriesToJson entries))]
  | string s => taggedObject "StringLiteral" [("value", .string s)]
  | integer s => taggedObject "IntegerLiteral" [("value", .string s)]
  | hex s => taggedObject "HexLiteral" [("value", .string s)]
  | float s => taggedObject "FloatLiteral" [("value", .string s)]
  | exponential s => taggedObject "ExponentialLiteral" [("value", .string s)]
  | identifier s => taggedObject "Identifier" [("value", .string s)]

/-- The elements of a list. -/
def elementsToJson : List Constant → List Json
  | [] => []
  | element :: rest => toJson element :: elementsToJson rest

/-- The entries of a map. -/
def entriesToJson : List (Constant × Constant) → List Json
  | [] => []
  | (key, value) :: rest =>
    .object [("name", toJson key), ("initializer", toJson value)] :: entriesToJson rest

end

end Constant

/-- A comment as a tagged object. -/
def Comment.toJson : Comment → Json
  | block segments => taggedObject "CommentBlock" [("value", .array (segments.map .string))]
  | line text => taggedObject "CommentLine" [("value", .string text)]

/-- A member that may be absent: then it is null or left out. -/
def optionalMember (nulls : Bool) (key : String) : Option Json → List (String × Json)
  | some value => [(key, value)]
  | none => if nulls then [(key, .null)] else []

/-- The comments at a declaration. -/
def commentsMember (comments : List Comment) : String × Json :=
  ("comments", .array (comments.map Comment.toJson))

/-- The members of a field. -/
def Field.members (nulls : Bool) (f : Field) : List (String × Json) :=
  optionalMember nulls "fieldID" (f.id.map fun id => .ofInt id.toInt) ++
    ("name", .string f.name) :: ("fieldType", f.type.toJson) ::
    (optionalMember nulls "requiredness" (f.requiredness.map fun r => .string r.keyword) ++
      (optionalMember nulls "defaultValue" (f.default.map Constant.toJson) ++
        [commentsMember f.comments]))

/-- A field as an object. -/
def Field.toJson (nulls : Bool) (f : Field) : Json := .object (f.members nulls)

/-- Fields under a key. -/
def fieldsMember (nulls : Bool) (key : String) (fields : List Field) : String × Json :=
  (key, .array (fields.map (Field.toJson nulls)))

/-- A function as an object. -/
def Function.toJson (nulls : Bool) (f : Function) : Json :=
  .object [("name", .string f.name), ("returnType", f.result.toJson),
    fieldsMember nulls "fields" f.parameters, fieldsMember nulls "throws" f.throws,
    ("oneway", .boolean f.oneway), commentsMember f.comments]

/-- A member of an enumeration as an object. -/
def Member.toJson (nulls : Bool) (m : Member) : Json :=
  .object (("name", .string m.name) ::
    (optionalMember nulls "initializer" (m.value.map Constant.toJson) ++
      [commentsMember m.comments]))

/-- The members of a structure, union or exception. -/
def Struct.members (nulls : Bool) (s : Struct) : List (String × Json) :=
  [("name", .string s.name), fieldsMember nulls "fields" s.fields, commentsMember s.comments]

/-- The members of a declaration besides its tag. -/
def Declaration.members (nulls : Bool) : Declaration → List (String × Json)
  | scope n => [("scope", .string n.scope), ("name", .string n.name)]
  | inclusion path => [("path", .string path)]
  | cppInclusion path => [("path", .string path)]
  | typedef t =>
    [("name", .string t.name), ("definitionType", t.type.toJson), commentsMember t.comments]
  | constant c =>
    [("name", .string c.name), ("fieldType", c.type.toJson), ("initializer", c.value.toJson),
      commentsMember c.comments]
  | enumeration e =>
    [("name", .string e.name), ("members", .array (e.members.map (Member.toJson nulls))),
      commentsMember e.comments]
  | struct s => s.members nulls
  | union s => s.members nulls
  | exception s => s.members nulls
  | service s =>
    ("name", .string s.name) :: (optionalMember nulls "extends" (s.parent.map .string) ++
      [("functions", .array (s.functions.map (Function.toJson nulls))),
        commentsMember s.comments])

/-- A declaration as a tagged object. -/
def Declaration.toJson (nulls : Bool) (d : Declaration) : Json :=
  taggedObject (tagOfKind d.kind) (d.members nulls)

/-- A document as an object. -/
def Document.toJson (nulls : Bool) (doc : Document) : Json :=
  .object [(bodyKey, .array (doc.declarations.map (Declaration.toJson nulls)))]

namespace SyntaxTree

/-! ### Types, constants and comments -/

theorem describesType_toJson (t : TypeRef) : DescribesType t.toJson t := by
  induction t with
  | list element ih => exact .list rfl rfl ih
  | set element ih => exact .set rfl rfl ih
  | map key value ihk ihv => exact .map rfl rfl rfl ihk ihv
  | named name => exact .named rfl rfl
  | _ => exact .keyword rfl rfl

mutual

theorem describesConstant_toJson : ∀ c : Constant, DescribesConstant c.toJson c
  | .boolean _ => .boolean rfl rfl
  | .whole number => .whole rfl rfl (describesConstant_toJson number)
  | .real number => .real rfl rfl (describesConstant_toJson number)
  | .list elements => .list rfl rfl (describesConstants_toJson elements)
  | .map entries => .map rfl rfl (describesEntries_toJson entries)
  | .string _ => .literal rfl rfl rfl
  | .integer _ => .literal rfl rfl rfl
  | .hex _ => .literal rfl rfl rfl
  | .float _ => .literal rfl rfl rfl
  | .exponential _ => .literal rfl rfl rfl
  | .identifier _ => .literal rfl rfl rfl

theorem describesConstants_toJson : ∀ cs : List Constant,
    DescribesConstants (Constant.elementsToJson cs) cs
  | [] => .nil
  | c :: cs => .cons (describesConstant_toJson c) (describesConstants_toJson cs)

theorem describesEntries_toJson : ∀ entries : List (Constant × Constant),
    DescribesEntries (Constant.entriesToJson entries) entries
  | [] => .nil
  | (key, value) :: rest =>
    .cons rfl rfl (describesConstant_toJson key) (describesConstant_toJson value)
      (describesEntries_toJson rest)

end

theorem describesComment_toJson : ∀ c : Comment, DescribesComment c.toJson c
  | .block _ => .block rfl rfl
  | .line _ => .line rfl rfl

/-! ### Members -/

section Members

variable {α : Type} {describes : Json → α → Prop} {enc : α → Json} {members : List (String × Json)}
  {key : String}

@[simp] theorem valuesOf_nil (key : String) : valuesOf key [] = [] := rfl

/-- A member that may be absent stands under its own key only. -/
theorem valuesOf_optionalMember (nulls : Bool) (key key' : String) (value : Option Json) :
    valuesOf key (optionalMember nulls key' value) =
      if key' = key then (optionalMember nulls key' value).map Prod.snd else [] := by
  cases value with
  | some value => by_cases hkey : key' = key <;> simp [optionalMember, valuesOf, hkey]
  | none =>
    cases nulls with
    | true => by_cases hkey : key' = key <;> simp [optionalMember, valuesOf, hkey]
    | false => simp [optionalMember, valuesOf]

theorem given_member (he : ∀ a, describes (enc a) a) {a : α}
    (h : valuesOf key members = [enc a]) : Given describes members key a :=
  ⟨enc a, h, he a⟩

theorem givenIfPresent_member (nulls : Bool) (he : ∀ a, describes (enc a) a) {a : Option α}
    (h : valuesOf key members = (optionalMember nulls key (a.map enc)).map Prod.snd) :
    GivenIfPresent describes members key a := by
  cases a with
  | some a => exact ⟨enc a, h, he a⟩
  | none =>
    cases nulls with
    | true => exact .inl h
    | false => exact .inr h

theorem givenAll_member (he : ∀ a, describes (enc a) a) {as : List α}
    (h : valuesOf key members = [.array (as.map enc)]) : GivenAll describes members key as := by
  have hdescribes : List.Forall₂ describes (as.map enc) as :=
    List.forall₂_map_left_iff.2 (List.forall₂_same.2 fun a _ => he a)
  exact .inl ⟨as.map enc, h, hdescribes⟩

end Members

/-! ### Records -/

theorem describesName_string (s : String) : DescribesName (.string s) s := rfl

theorem describesId_ofInt (id : Int64) : DescribesId (.ofInt id.toInt) id := rfl

theorem describesRequiredness_keyword (r : Requiredness) :
    DescribesRequiredness (.string r.keyword) r := rfl

theorem givenAll_comments {members : List (String × Json)} {comments : List Comment}
    (h : valuesOf "comments" members = [(commentsMember comments).2]) :
    GivenAll DescribesComment members "comments" comments :=
  givenAll_member describesComment_toJson h

theorem describesField_toJson (nulls : Bool) (f : Field) : DescribesField (f.toJson nulls) f := by
  refine .object (givenIfPresent_member nulls describesId_ofInt ?_)
    (given_member describesName_string ?_) (given_member describesType_toJson ?_)
    (givenIfPresent_member nulls describesRequiredness_keyword ?_)
    (givenIfPresent_member nulls describesConstant_toJson ?_) (givenAll_comments ?_) <;>
    simp [Field.members, valuesOf_append, valuesOf_cons, valuesOf_optionalMember, commentsMember]

theorem givenAll_fields (nulls : Bool) {members : List (String × Json)} {key : String}
    {fields : List Field} (h : valuesOf key members = [(fieldsMember nulls key fields).2]) :
    GivenAll DescribesField members key fields :=
  givenAll_member (describesField_toJson nulls) h

theorem describesFunction_toJson (nulls : Bool) (f : Function) :
    DescribesFunction (f.toJson nulls) f :=
  .object (given_member describesName_string rfl) (given_member describesType_toJson rfl)
    (givenAll_fields nulls rfl) (givenAll_fields nulls rfl) (.inl rfl) (givenAll_comments rfl)

theorem describesMember_toJson (nulls : Bool) (m : Member) :
    DescribesMember (m.toJson nulls) m := by
  refine .object (given_member describesName_string ?_)
    (givenIfPresent_member nulls describesConstant_toJson ?_) (givenAll_comments ?_) <;>
    simp [valuesOf_append, valuesOf_cons, valuesOf_optionalMember, commentsMember]

/-! ### Declarations and documents -/

theorem describesStruct_members (nulls : Bool) (tag : Json) (s : Struct) :
    DescribesStruct ((tagKey, tag) :: s.members nulls) s :=
  ⟨given_member describesName_string rfl, givenAll_fields nulls rfl, givenAll_comments rfl⟩

theorem describesDeclaration_toJson (nulls : Bool) (d : Declaration) :
    DescribesDeclaration (d.toJson nulls) d := by
  have htag : Tagged ((tagKey, .string (tagOfKind d.kind)) :: d.members nulls)
      (tagOfKind d.kind) := by
    cases d with
    | service s => simp [Tagged, Declaration.members, valuesOf_cons, valuesOf_append,
        valuesOf_optionalMember, commentsMember, tagKey]
    | _ => rfl
  refine .object htag ?_
  cases d with
  | scope n => exact ⟨given_member describesName_string rfl, given_member describesName_string rfl⟩
  | inclusion path => exact given_member describesName_string rfl
  | cppInclusion path => exact given_member describesName_string rfl
  | typedef t =>
    exact ⟨given_member describesName_string rfl, given_member describesType_toJson rfl,
      givenAll_comments rfl⟩
  | constant c =>
    exact ⟨given_member describesName_string rfl, given_member describesType_toJson rfl,
      given_member describesConstant_toJson rfl, givenAll_comments rfl⟩
  | enumeration e =>
    exact ⟨given_member describesName_string rfl,
      givenAll_member (describesMember_toJson nulls) rfl, givenAll_comments rfl⟩
  | struct s => exact describesStruct_members nulls _ s
  | union s => exact describesStruct_members nulls _ s
  | exception s => exact describesStruct_members nulls _ s
  | service s =>
    refine ⟨given_member describesName_string ?_,
      givenIfPresent_member nulls describesName_string ?_,
      givenAll_member (describesFunction_toJson nulls) ?_, givenAll_comments ?_⟩ <;>
      simp [Declaration.members, valuesOf_cons, valuesOf_append, valuesOf_optionalMember,
        commentsMember, tagKey]

/-- A document is described by its own tree. -/
theorem describesDocument_toJson (nulls : Bool) (doc : Document) :
    DescribesDocument (doc.toJson nulls) doc :=
  .object (givenAll_member (describesDeclaration_toJson nulls) rfl)

/-! ### The text of a tree -/

end SyntaxTree

namespace Json

theorem exact_taggedObject {tag : String} {members : List (String × Json)}
    (h : ∀ m ∈ members, m.2.Exact) : (taggedObject tag members).Exact :=
  .object (List.forall_mem_cons.2 ⟨.string tag, h⟩)

/-- The number of a field has 64 bits. -/
theorem exact_ofInt (id : Int64) : (ofInt id.toInt).Exact := by
  have hlow := id.le_toInt
  have hhigh := id.toInt_lt
  refine .number ⟨?_, ?_⟩
  · simp only [signedMax]
    omega
  · simp only [wordMax]
    omega

end Json

open Json (exact_array_iff exact_object_iff exact_taggedObject)

theorem TypeRef.exact_toJson (t : TypeRef) : t.toJson.Exact := by
  induction t with
  | list element ih => exact exact_taggedObject (by simpa using ih)
  | set element ih => exact exact_taggedObject (by simpa using ih)
  | map key value ihk ihv => exact exact_taggedObject (by simpa using ⟨ihk, ihv⟩)
  | named name => exact exact_taggedObject (by simpa using Json.Exact.string name)
  | _ => exact exact_taggedObject (by simp)

namespace Constant

mutual

theorem exact_toJson : ∀ c : Constant, c.toJson.Exact
  | boolean b => exact_taggedObject (by simpa using Json.Exact.boolean b)
  | whole number => exact_taggedObject (by simpa using exact_toJson number)
  | real number => exact_taggedObject (by simpa using exact_toJson number)
  | list elements => exact_taggedObject (by simpa using Json.Exact.array (exact_elements elements))
  | map entries => exact_taggedObject (by simpa using Json.Exact.array (exact_entries entries))
  | string s | integer s | hex s | float s | exponential s | identifier s =>
    exact_taggedObject (by simpa using Json.Exact.string s)

theorem exact_elements : ∀ elements : List Constant, ∀ v ∈ elementsToJson elements, v.Exact
  | [] => nofun
  | element :: rest => List.forall_mem_cons.2 ⟨exact_toJson element, exact_elements rest⟩

theorem exact_entries : ∀ entries : List (Constant × Constant),
    ∀ v ∈ entriesToJson entries, v.Exact
  | [] => nofun
  | (key, value) :: rest => by
    refine List.forall_mem_cons.2 ⟨?_, exact_entries rest⟩
    simpa [exact_object_iff] using ⟨exact_toJson key, exact_toJson value⟩

end

end Constant

theorem Comment.exact_toJson : ∀ c : Comment, c.toJson.Exact
  | block segments => exact_taggedObject (by simp [exact_array_iff, Json.Exact.string])
  | line text => exact_taggedObject (by simp [Json.Exact.string])

theorem exact_commentsMember (comments : List Comment) : (commentsMember comments).2.Exact := by
  simp [commentsMember, exact_array_iff, Comment.exact_toJson]

theorem exact_optionalMember {nulls : Bool} {key : String} {value : Option Json}
    (h : ∀ v ∈ value, v.Exact) : ∀ m ∈ optionalMember nulls key value, m.2.Exact := by
  cases value with
  | some v => simpa [optionalMember] using h
  | none => cases nulls <;> simp [optionalMember, Json.Exact.null]

theorem Field.exact_toJson (nulls : Bool) (f : Field) : (f.toJson nulls).Exact := by
  have hid := @exact_optionalMember nulls "fieldID" (f.id.map fun id => .ofInt id.toInt)
    (by simp [Json.exact_ofInt])
  have hrequiredness := @exact_optionalMember nulls "requiredness"
    (f.requiredness.map fun r => .string r.keyword) (by simp [Json.Exact.string])
  have hdefault := @exact_optionalMember nulls "defaultValue" (f.default.map Constant.toJson)
    (by simp [Constant.exact_toJson])
  refine exact_object_iff.2 ?_
  simp only [members, List.forall_mem_append, List.forall_mem_cons]
  exact ⟨hid, .string _, f.type.exact_toJson, hrequiredness, hdefault,
    exact_commentsMember f.comments, nofun⟩

theorem exact_fieldsMember (nulls : Bool) (key : String) (fields : List Field) :
    (fieldsMember nulls key fields).2.Exact := by
  simp [fieldsMember, exact_array_iff, Field.exact_toJson]

theorem Function.exact_toJson (nulls : Bool) (f : Function) : (f.toJson nulls).Exact := by
  simp [toJson, exact_object_iff, Json.Exact.string, Json.Exact.boolean, TypeRef.exact_toJson,
    exact_fieldsMember, exact_commentsMember]

theorem Member.exact_toJson (nulls : Bool) (m : Member) : (m.toJson nulls).Exact := by
  have hvalue := @exact_optionalMember nulls "initializer" (m.value.map Constant.toJson)
    (by simp [Constant.exact_toJson])
  refine exact_object_iff.2 ?_
  simp only [List.forall_mem_append, List.forall_mem_cons]
  exact ⟨.string _, hvalue, exact_commentsMember m.comments, nofun⟩

theorem Struct.exact_members (nulls : Bool) (s : Struct) : ∀ m ∈ s.members nulls, m.2.Exact := by
  simp [members, Json.Exact.string, exact_fieldsMember, exact_commentsMember]

theorem Declaration.exact_toJson (nulls : Bool) (d : Declaration) : (d.toJson nulls).Exact := by
  refine exact_taggedObject ?_
  cases d with
  | struct s => exact s.exact_members nulls
  | union s => exact s.exact_members nulls
  | exception s => exact s.exact_members nulls
  | service s =>
    have hparent := @exact_optionalMember nulls "extends" (s.parent.map .string)
      (by simp [Json.Exact.string])
    simp only [members, List.forall_mem_append, List.forall_mem_cons]
    exact ⟨.string _, hparent, by simp [exact_array_iff, Function.exact_toJson],
      exact_commentsMember s.comments, nofun⟩
  | _ =>
    simp [members, exact_array_iff, Json.Exact.string, TypeRef.exact_toJson, Constant.exact_toJson,
      Member.exact_toJson, exact_commentsMember]

/-- Every number in the tree of a document is the number of a field. -/
theorem Document.exact_toJson (nulls : Bool) (doc : Document) : (doc.toJson nulls).Exact := by
  simp [toJson, exact_object_iff, exact_array_iff, Declaration.exact_toJson]

/-- **A document is loaded from every text that describes it.** The parts of the
document may stand under their keys in any order and among others; what is absent
is null or left out. Every document has such texts: those of its own tree. -/
theorem Document.loaded_from_description :
    (∀ (doc : Document) (v : Json) (text : String), DescribesDocument v doc →
      v.depth ≤ nestingLimit → Json.SpellsText v text.toList → Document.ofText text = .ok doc) ∧
    ∀ (nulls : Bool) (doc : Document), DescribesDocument (doc.toJson nulls) doc ∧
      ((doc.toJson nulls).depth ≤ nestingLimit →
        Document.ofText (doc.toJson nulls).compact = .ok doc ∧
        Document.ofText (doc.toJson nulls).indented = .ok doc) := by
  refine ⟨fun doc v text => Document.ofText_described, fun nulls doc => ⟨?_, fun hd => ⟨?_, ?_⟩⟩⟩
  · exact describesDocument_toJson nulls doc
  · exact Document.ofText_described (describesDocument_toJson nulls doc) hd
      (Json.spellsText_of_spells (Json.spells_compact (doc.exact_toJson nulls)))
  · exact Document.ofText_described (describesDocument_toJson nulls doc) hd
      (Json.spellsText_of_spells (Json.spells_indentedAt (doc.exact_toJson nulls) 0))

/-- An enumeration whose tag stands last, after a key that is not read, and the tree
of a structure with a field that has neither a number nor a default. -/
theorem Document.enumeration_and_structure_loaded :
    Document.ofText (Json.object [("body", .array [.object [("name", .string "Color"),
        ("loc", .null), ("type", .string "EnumDefinition")]])]).compact =
      .ok ⟨[.enumeration ⟨"Color", [], []⟩]⟩ ∧
    Document.ofText (Document.toJson true ⟨[.struct
        ⟨"Pair", [⟨none, "left", .list (.named "Pair"), some .optional, none, []⟩],
          [.line "two of a kind"]⟩]⟩).compact =
      .ok ⟨[.struct ⟨"Pair", [⟨none, "left", .list (.named "Pair"), some .optional, none, []⟩],
        [.line "two of a kind"]⟩]⟩ := by
  have hexact : (Json.object [("body", .array [.object [("name", .string "Color"),
      ("loc", .null), ("type", .string "EnumDefinition")]])]).Exact := by
    simp [exact_object_iff, exact_array_iff, Json.Exact.string, Json.Exact.null]
  have hdeclaration : DescribesDeclaration
      (.object [("name", .string "Color"), ("loc", .null), ("type", .string "EnumDefinition")])
      (.enumeration ⟨"Color", [], []⟩) :=
    .object rfl ⟨⟨_, rfl, rfl⟩, .inr ⟨rfl, rfl⟩, .inr ⟨rfl, rfl⟩⟩
  exact ⟨Document.loaded_from_description.1 _ _ _
      (.object (.inl ⟨_, rfl, .cons hdeclaration .nil⟩)) (by decide)
      (Json.spellsText_of_spells (Json.spells_compact hexact)),
    ((Document.loaded_from_description.2 true _).2 (by decide)).1⟩

end ThriftPages
