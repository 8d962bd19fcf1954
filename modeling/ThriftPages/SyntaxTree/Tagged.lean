/-
# Tagged values of a syntax tree

A tagged value is an object with a member `type` or an array that starts with
the tag; the tag says which variant the other parts belong to. It is the
variant's name, or inside a statement also the variant's index. An object's tag
is checked before the other members, and must be the only one.

Key definitions: `Variant`, `Variant.select`, `tagged`.
-/
import ThriftPages.SyntaxTree.Record

namespace ThriftPages.SyntaxTree

/-- The key of the tag. -/
def tagKey : String := "type"

/-- A variant: its name and what its other parts describe. -/
structure Variant (α : Type) where
  name : String
  decode : Content → Except Fault α

namespace Variant

/-- A variant with fields. -/
def record {α : Type} (enum name : String) (fields : Fields α) : Variant α :=
  ⟨name, fields.decode (.variant enum name)⟩

/-- A variant without fields: whatever an object has besides the tag is passed
over. -/
def unit {α : Type} (enum name : String) (value : α) : Variant α :=
  record enum name (Fields.none value)

/-- The variant of a given name. -/
def named {α : Type} (variants : List (Variant α)) (name : String) :
    Except Fault (Variant α) :=
  match variants.find? fun v => v.name = name with
  | some v => .ok v
  | none => .error (.unknownVariant name (variants.map Variant.name))

/-- The variant that a tag selects. -/
def select {α : Type} (variants : List (Variant α)) (tag : Json) : Except Fault (Variant α) :=
  match tag with
  | .string name => named variants name
  | .number (.integer (.ofNat index)) =>
    match variants[index]? with
    | some v => .ok v
    | none => .error (.invalidValue tag.found (.variantIndex variants.length))
  | _ => .error (.invalidType tag.found .variantIdentifier)

/-- The variant that the tag among the members selects. -/
def ofMembers {α : Type} (variants : List (Variant α)) (members : List (String × Json)) :
    Except Fault (Variant α) :=
  match (members.filter fun (key, _) => key = tagKey).map Prod.snd with
  | [] => .error (.missingField tagKey)
  | tag :: others => do
    let v ← select variants tag
    if others.isEmpty then .ok v else .error (.duplicateField tagKey)

end Variant

/-- The value that a tagged object or array describes. -/
def tagged {α : Type} (enum : String) (variants : List (Variant α)) : Json → Except Fault α
  | .object members => do
    let v ← Variant.ofMembers variants members
    v.decode (.members members)
  | .array (tag :: rest) => do
    let v ← Variant.select variants tag
    v.decode (.elements rest)
  | .array [] => .error (.missingField tagKey)
  | value => .error (.invalidType value.found (.taggedEnum enum))

end ThriftPages.SyntaxTree
