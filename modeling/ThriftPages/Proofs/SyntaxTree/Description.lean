/-
# What describes a document

A value describes a part of a document if the keys of the part are found in it:
each once, in any order and among any others. What is tagged has its tag under
`type`, a name stands by itself, and what is absent is null or left out.

A description is decoded as what it describes: by induction over the description
for types and constants, whose parts are less deep, and field by field for
everything else.

Key definitions: `SyntaxTree.DescribesType`, `SyntaxTree.DescribesConstant`,
`SyntaxTree.DescribesDeclaration`, `SyntaxTree.DescribesDocument`.
Key theorems: `SyntaxTree.typeWithin_described`,
`SyntaxTree.constantWithin_described`.
-/
import Mathlib.Data.List.Forall2
import ThriftPages.Proofs.SyntaxTree.Records
import ThriftPages.SyntaxTree.Decode

namespace ThriftPages.SyntaxTree

/-- An object with this tag. -/
def Tagged (members : List (String × Json)) (tag : String) : Prop :=
  valuesOf tagKey members = [.string tag]

/-! ### Types -/

/-- The tag of a base type. -/
def keywordOf : TypeRef → Option String
  | .void => some "VoidKeyword"
  | .string => some "StringKeyword"
  | .binary => some "BinaryKeyword"
  | .bool => some "BoolKeyword"
  | .byte => some "ByteKeyword"
  | .double => some "DoubleKeyword"
  | .enum => some "EnumKeyword"
  | .i8 => some "I8Keyword"
  | .i16 => some "I16Keyword"
  | .i32 => some "I32Keyword"
  | .i64 => some "I64Keyword"
  | .list _ | .set _ | .map _ _ | .named _ => none

/-- A value that describes a type. -/
inductive DescribesType : Json → TypeRef → Prop
  | keyword {t : TypeRef} {tag : String} {members : List (String × Json)}
      (ht : keywordOf t = some tag) (h : Tagged members tag) : DescribesType (.object members) t
  | list {element : TypeRef} {v : Json} {members : List (String × Json)}
      (h : Tagged members "ListType") (hv : valuesOf "valueType" members = [v])
      (he : DescribesType v element) : DescribesType (.object members) (.list element)
  | set {element : TypeRef} {v : Json} {members : List (String × Json)}
      (h : Tagged members "SetType") (hv : valuesOf "valueType" members = [v])
      (he : DescribesType v element) : DescribesType (.object members) (.set element)
  | map {key value : TypeRef} {k v : Json} {members : List (String × Json)}
      (h : Tagged members "MapType") (hk : valuesOf "keyType" members = [k])
      (hv : valuesOf "valueType" members = [v]) (hkey : DescribesType k key)
      (hvalue : DescribesType v value) : DescribesType (.object members) (.map key value)
  | named {name : String} {members : List (String × Json)} (h : Tagged members "Identifier")
      (hv : valuesOf "value" members = [.string name]) :
      DescribesType (.object members) (.named name)

/-- The description of a type is decoded as that type. -/
theorem typeWithin_described {v : Json} {t : TypeRef} (h : DescribesType v t) :
    ∀ n, v.depth ≤ n → typeWithin n v = .ok t := by
  induction h with
  | @keyword t tag members ht h =>
    intro n hd
    obtain ⟨m, rfl, -⟩ := depth_object hd
    have hunit : Variant.named (typeVariants (typeWithin m)) tag =
        .ok (Variant.unit "FieldType" tag t) := by
      cases t <;> cases ht <;> rfl
    rw [typeWithin, typeOf, tagged_named _ h hunit]
    exact (Fields.Reads.pure t).decode _
  | @list element v members h hv _ ih =>
    intro n hd
    obtain ⟨m, rfl, hdepth⟩ := depth_object hd
    rw [typeWithin, typeOf, tagged_named _ h rfl]
    exact ((Fields.reads_field hv (ih m (hdepth hv))).map TypeRef.list).decode _
  | @set element v members h hv _ ih =>
    intro n hd
    obtain ⟨m, rfl, hdepth⟩ := depth_object hd
    rw [typeWithin, typeOf, tagged_named _ h rfl]
    exact ((Fields.reads_field hv (ih m (hdepth hv))).map TypeRef.set).decode _
  | @map key value k v members h hk hv _ _ ihk ihv =>
    intro n hd
    obtain ⟨m, rfl, hdepth⟩ := depth_object hd
    rw [typeWithin, typeOf, tagged_named _ h rfl]
    exact (((Fields.reads_field hk (ihk m (hdepth hk))).map TypeRef.map).seq
      (Fields.reads_field hv (ihv m (hdepth hv)))).decode _
  | @named name members h hv =>
    intro n hd
    obtain ⟨m, rfl, -⟩ := depth_object hd
    have hname : text (.string name) = .ok name := rfl
    rw [typeWithin, typeOf, tagged_named _ h rfl]
    exact ((Fields.reads_field hv hname).map TypeRef.named).decode _

theorem typeRef_described {v : Json} {t : TypeRef} (h : DescribesType v t) : typeRef v = .ok t :=
  typeWithin_described h v.depth (Nat.le_refl _)

/-! ### Constants -/

/-- The tag of a constant that is a text, and the text. -/
def literalOf : Constant → Option (String × String)
  | .string s => some ("StringLiteral", s)
  | .integer s => some ("IntegerLiteral", s)
  | .hex s => some ("HexLiteral", s)
  | .float s => some ("FloatLiteral", s)
  | .exponential s => some ("ExponentialLiteral", s)
  | .identifier s => some ("Identifier", s)
  | .boolean _ | .whole _ | .real _ | .list _ | .map _ => none

mutual

/-- A value that describes a constant. -/
inductive DescribesConstant : Json → Constant → Prop
  | literal {c : Constant} {tag s : String} {members : List (String × Json)}
      (hc : literalOf c = some (tag, s)) (h : Tagged members tag)
      (hv : valuesOf "value" members = [.string s]) : DescribesConstant (.object members) c
  | boolean {b : Bool} {members : List (String × Json)} (h : Tagged members "BooleanLiteral")
      (hv : valuesOf "value" members = [.boolean b]) :
      DescribesConstant (.object members) (.boolean b)
  | whole {number : Constant} {v : Json} {members : List (String × Json)}
      (h : Tagged members "IntConstant") (hv : valuesOf "value" members = [v])
      (hn : DescribesConstant v number) : DescribesConstant (.object members) (.whole number)
  | real {number : Constant} {v : Json} {members : List (String × Json)}
      (h : Tagged members "DoubleConstant") (hv : valuesOf "value" members = [v])
      (hn : DescribesConstant v number) : DescribesConstant (.object members) (.real number)
  | list {elements : List Constant} {vs : List Json} {members : List (String × Json)}
      (h : Tagged members "ConstList") (hv : valuesOf "elements" members = [.array vs])
      (he : DescribesConstants vs elements) : DescribesConstant (.object members) (.list elements)
  | map {entries : List (Constant × Constant)} {vs : List Json} {members : List (String × Json)}
      (h : Tagged members "ConstMap") (hv : valuesOf "properties" members = [.array vs])
      (he : DescribesEntries vs entries) : DescribesConstant (.object members) (.map entries)

/-- Values that describe constants. -/
inductive DescribesConstants : List Json → List Constant → Prop
  | nil : DescribesConstants [] []
  | cons {c : Constant} {cs : List Constant} {v : Json} {vs : List Json}
      (h : DescribesConstant v c) (hs : DescribesConstants vs cs) :
      DescribesConstants (v :: vs) (c :: cs)

/-- Values that describe the entries of a map. -/
inductive DescribesEntries : List Json → List (Constant × Constant) → Prop
  | nil : DescribesEntries [] []
  | cons {key value : Constant} {entries : List (Constant × Constant)} {k v : Json}
      {vs : List Json} {members : List (String × Json)} (hk : valuesOf "name" members = [k])
      (hv : valuesOf "initializer" members = [v]) (hkey : DescribesConstant k key)
      (hvalue : DescribesConstant v value) (hs : DescribesEntries vs entries) :
      DescribesEntries (.object members :: vs) ((key, value) :: entries)

end

theorem depth_array {n : Nat} {vs : List Json} (hd : (Json.array vs).depth ≤ n) :
    ∃ m, n = m + 1 ∧ ∀ v ∈ vs, v.depth ≤ m := by
  cases n with
  | zero => simp [Json.depth] at hd
  | succ m =>
    rw [Json.depth, Nat.add_le_add_iff_right, Json.depthOfElements_le_iff] at hd
    exact ⟨m, rfl, hd⟩

/-- The entry of a map whose constants are read by `part`. -/
def entryFields (part : Json → Except Fault Constant) : Fields (Constant × Constant) :=
  Prod.mk <$> Fields.required "name" part <*> Fields.required "initializer" part

mutual

/-- The description of a constant is decoded as that constant. -/
theorem constantWithin_described {v : Json} {c : Constant} : DescribesConstant v c →
    ∀ n, v.depth ≤ n → constantWithin n v = .ok c
  | @DescribesConstant.literal c tag s members hc h hv, n, hd => by
    obtain ⟨m, rfl, -⟩ := depth_object hd
    have htext : text (.string s) = .ok s := rfl
    rw [constantWithin, constantOf]
    cases c <;> cases hc <;> rw [tagged_named _ h rfl] <;>
      exact ((Fields.reads_field hv htext).map _).decode _
  | @DescribesConstant.boolean b members h hv, n, hd => by
    obtain ⟨m, rfl, -⟩ := depth_object hd
    have hboolean : boolean (.boolean b) = .ok b := rfl
    rw [constantWithin, constantOf, tagged_named _ h rfl]
    exact ((Fields.reads_field hv hboolean).map Constant.boolean).decode _
  | @DescribesConstant.whole number v members h hv hn, n, hd => by
    obtain ⟨m, rfl, hdepth⟩ := depth_object hd
    rw [constantWithin, constantOf, tagged_named _ h rfl]
    exact ((Fields.reads_field hv (constantWithin_described hn m (hdepth hv))).map
      Constant.whole).decode _
  | @DescribesConstant.real number v members h hv hn, n, hd => by
    obtain ⟨m, rfl, hdepth⟩ := depth_object hd
    rw [constantWithin, constantOf, tagged_named _ h rfl]
    exact ((Fields.reads_field hv (constantWithin_described hn m (hdepth hv))).map
      Constant.real).decode _
  | @DescribesConstant.list elements vs members h hv he, n, hd => by
    obtain ⟨m, rfl, hdepth⟩ := depth_object hd
    obtain ⟨k, rfl, helements⟩ := depth_array (hdepth hv)
    have hlist : listOf (constantWithin (k + 1)) (.array vs) = .ok elements :=
      constants_described he (k + 1) fun v hv => Nat.le_succ_of_le (helements v hv)
    rw [constantWithin, constantOf, tagged_named _ h rfl]
    exact ((Fields.reads_field hv hlist).map Constant.list).decode _
  | @DescribesConstant.map entries vs members h hv he, n, hd => by
    obtain ⟨m, rfl, hdepth⟩ := depth_object hd
    obtain ⟨k, rfl, helements⟩ := depth_array (hdepth hv)
    have hlist : listOf ((entryFields (constantWithin (k + 1))).ofJson "PropertyAssignment")
        (.array vs) = .ok entries :=
      entries_described he (k + 1) fun v hv => Nat.le_succ_of_le (helements v hv)
    rw [constantWithin, constantOf, tagged_named _ h rfl]
    exact ((Fields.reads_field hv hlist).map Constant.map).decode _

theorem constants_described {vs : List Json} {cs : List Constant} : DescribesConstants vs cs →
    ∀ n, (∀ v ∈ vs, v.depth ≤ n) → vs.mapM (constantWithin n) = .ok cs
  | .nil, _, _ => rfl
  | .cons h hs, n, hd => by
    rw [List.mapM_cons, constantWithin_described h n (hd _ (List.mem_cons_self ..)),
      constants_described hs n fun v hv => hd v (List.mem_cons_of_mem _ hv)]
    rfl

theorem entries_described {vs : List Json} {entries : List (Constant × Constant)} :
    DescribesEntries vs entries → ∀ n, (∀ v ∈ vs, v.depth ≤ n) →
      vs.mapM ((entryFields (constantWithin n)).ofJson "PropertyAssignment") = .ok entries
  | .nil, _, _ => rfl
  | @DescribesEntries.cons key value entries k v vs members hk hv hkey hvalue hs, n, hd => by
    obtain ⟨m, rfl, hdepth⟩ := depth_object (hd _ (List.mem_cons_self ..))
    have hread := constantWithin_described hkey (m + 1) (Nat.le_succ_of_le (hdepth hk))
    have hread' := constantWithin_described hvalue (m + 1) (Nat.le_succ_of_le (hdepth hv))
    have hentry : (entryFields (constantWithin (m + 1))).Reads (.members members) (key, value) :=
      ((Fields.reads_field hk hread).map Prod.mk).seq (Fields.reads_field hv hread')
    have hothers := entries_described hs (m + 1) fun v hv => hd v (List.mem_cons_of_mem _ hv)
    rw [List.mapM_cons, hentry.ofJson, hothers]
    rfl

end

theorem constant_described {v : Json} {c : Constant} (h : DescribesConstant v c) :
    constant v = .ok c :=
  constantWithin_described h v.depth (Nat.le_refl _)

/-! ### What stands under a key -/

section Keys

variable {α : Type}

/-- The key has one value, which describes this. -/
def Given (describes : Json → α → Prop) (members : List (String × Json)) (key : String) (a : α) :
    Prop :=
  ∃ v, valuesOf key members = [v] ∧ describes v a

/-- The same of what may be absent: then the value is null, or the key is left out. -/
def GivenIfPresent (describes : Json → α → Prop) (members : List (String × Json))
    (key : String) : Option α → Prop
  | some a => Given describes members key a
  | none => valuesOf key members = [.null] ∨ valuesOf key members = []

/-- The key has an array of what describes these; if there are none, it may be left out. -/
def GivenAll (describes : Json → α → Prop) (members : List (String × Json)) (key : String)
    (as : List α) : Prop :=
  (∃ vs, valuesOf key members = [.array vs] ∧ List.Forall₂ describes vs as) ∨
    as = [] ∧ valuesOf key members = []

/-- The key has this truth value; if it is false, the key may be left out. -/
def GivenFlag (members : List (String × Json)) (key : String) (b : Bool) : Prop :=
  valuesOf key members = [.boolean b] ∨ b = false ∧ valuesOf key members = []

end Keys

/-- A name by itself. -/
def DescribesName (v : Json) (name : String) : Prop := v = .string name

/-- The number of a field by itself. -/
def DescribesId (v : Json) (id : Int64) : Prop := v = .ofInt id.toInt

/-- The keyword. -/
def DescribesRequiredness (v : Json) (r : Requiredness) : Prop := v = .string r.keyword

/-- A value that describes a comment. -/
inductive DescribesComment : Json → Comment → Prop
  | block {segments : List String} {members : List (String × Json)}
      (h : Tagged members "CommentBlock")
      (hv : valuesOf "value" members = [.array (segments.map .string)]) :
      DescribesComment (.object members) (.block segments)
  | line {text : String} {members : List (String × Json)} (h : Tagged members "CommentLine")
      (hv : valuesOf "value" members = [.string text]) :
      DescribesComment (.object members) (.line text)

/-! ### Records -/

/-- A value that describes a field. -/
inductive DescribesField : Json → Field → Prop
  | object {f : Field} {members : List (String × Json)}
      (id : GivenIfPresent DescribesId members "fieldID" f.id)
      (name : Given DescribesName members "name" f.name)
      (type : Given DescribesType members "fieldType" f.type)
      (requiredness : GivenIfPresent DescribesRequiredness members "requiredness" f.requiredness)
      (default : GivenIfPresent DescribesConstant members "defaultValue" f.default)
      (comments : GivenAll DescribesComment members "comments" f.comments) :
      DescribesField (.object members) f

/-- A value that describes a function. -/
inductive DescribesFunction : Json → Function → Prop
  | object {f : Function} {members : List (String × Json)}
      (name : Given DescribesName members "name" f.name)
      (result : Given DescribesType members "returnType" f.result)
      (parameters : GivenAll DescribesField members "fields" f.parameters)
      (throws : GivenAll DescribesField members "throws" f.throws)
      (oneway : GivenFlag members "oneway" f.oneway)
      (comments : GivenAll DescribesComment members "comments" f.comments) :
      DescribesFunction (.object members) f

/-- A value that describes a member of an enumeration. -/
inductive DescribesMember : Json → Member → Prop
  | object {m : Member} {members : List (String × Json)}
      (name : Given DescribesName members "name" m.name)
      (value : GivenIfPresent DescribesConstant members "initializer" m.value)
      (comments : GivenAll DescribesComment members "comments" m.comments) :
      DescribesMember (.object members) m

/-! ### Declarations -/

/-- The tag of a kind of declaration. -/
def tagOfKind : DeclarationKind → String
  | .scope => "NamespaceDefinition"
  | .inclusion => "IncludeDefinition"
  | .cppInclusion => "CppIncludeDefinition"
  | .typedef => "TypedefDefinition"
  | .constant => "ConstDefinition"
  | .enumeration => "EnumDefinition"
  | .struct => "StructDefinition"
  | .union => "UnionDefinition"
  | .exception => "ExceptionDefinition"
  | .service => "ServiceDefinition"

/-- The parts of a structure, union or exception. -/
def DescribesStruct (members : List (String × Json)) (s : Struct) : Prop :=
  Given DescribesName members "name" s.name ∧ GivenAll DescribesField members "fields" s.fields ∧
    GivenAll DescribesComment members "comments" s.comments

/-- The parts of a declaration besides its tag. -/
def DescribesParts (members : List (String × Json)) : Declaration → Prop
  | .scope n =>
    Given DescribesName members "scope" n.scope ∧ Given DescribesName members "name" n.name
  | .inclusion path => Given DescribesName members "path" path
  | .cppInclusion path => Given DescribesName members "path" path
  | .typedef t =>
    Given DescribesName members "name" t.name ∧
      Given DescribesType members "definitionType" t.type ∧
      GivenAll DescribesComment members "comments" t.comments
  | .constant c =>
    Given DescribesName members "name" c.name ∧ Given DescribesType members "fieldType" c.type ∧
      Given DescribesConstant members "initializer" c.value ∧
      GivenAll DescribesComment members "comments" c.comments
  | .enumeration e =>
    Given DescribesName members "name" e.name ∧
      GivenAll DescribesMember members "members" e.members ∧
      GivenAll DescribesComment members "comments" e.comments
  | .struct s => DescribesStruct members s
  | .union s => DescribesStruct members s
  | .exception s => DescribesStruct members s
  | .service s =>
    Given DescribesName members "name" s.name ∧
      GivenIfPresent DescribesName members "extends" s.parent ∧
      GivenAll DescribesFunction members "functions" s.functions ∧
      GivenAll DescribesComment members "comments" s.comments

/-- A value that describes a declaration. -/
inductive DescribesDeclaration : Json → Declaration → Prop
  | object {d : Declaration} {members : List (String × Json)}
      (h : Tagged members (tagOfKind d.kind)) (hp : DescribesParts members d) :
      DescribesDeclaration (.object members) d

/-- A value that describes a document. -/
inductive DescribesDocument : Json → Document → Prop
  | object {doc : Document} {members : List (String × Json)}
      (h : GivenAll DescribesDeclaration members "body" doc.declarations) :
      DescribesDocument (.object members) doc

end ThriftPages.SyntaxTree
