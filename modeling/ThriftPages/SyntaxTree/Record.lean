/-
# Records of a syntax tree

A record is given as an object, whose members are found by key, or as an array,
whose elements stand in the order of the fields. Fields may be left out if they
have a default; unknown members are passed over.

A record is described by its fields, put together with `<*>` in their order.
Every field is read on its own and reports its fault with the place in the
object or array where it shows; of several faults the one in the earliest place
is the record's. A missing field shows at the end, so that faults of what is
there come first.

Key definitions: `Content`, `Fields`, `Fields.required`, `Fields.optional`,
`Fields.decode`, `Fields.ofJson`.
-/
import ThriftPages.SyntaxTree.Fault

namespace ThriftPages.SyntaxTree

/-- The parts of an object or array that a record is made from. -/
inductive Content
  | members (members : List (String × Json))
  | elements (elements : List Json)

/-- A fault and the place where it shows. -/
structure Located where
  place : Nat
  fault : Fault

/-- The fault in the earlier place, the first one if both are in the same. -/
def Located.earliest (a b : Located) : Located := if b.place < a.place then b else a

/-- A record's shape and number of fields. -/
structure Outer where
  shape : Shape
  size : Nat

/-- Some fields of a record in their order. -/
structure Fields (α : Type) where
  /-- How many fields there are. -/
  size : Nat
  /-- Reads the fields, the first of which has the given index in the record. -/
  read : (outer : Outer) → (index : Nat) → Content → Except Located α

/-- Both values, or the earliest fault. -/
def both {α β : Type} (f : Except Located (α → β)) (a : Except Located α) :
    Except Located β :=
  match f, a with
  | .ok f, .ok a => .ok (f a)
  | .error e, .ok _ => .error e
  | .ok _, .error e => .error e
  | .error d, .error e => .error (d.earliest e)

namespace Fields

/-- No field. -/
def none {α : Type} (value : α) : Fields α := ⟨0, fun _ _ _ => .ok value⟩

instance : Applicative Fields where
  pure := none
  seq f a := ⟨f.size + (a ()).size, fun outer index content =>
    both (f.read outer index content) ((a ()).read outer (index + f.size) content)⟩

/-- The values of a key with their places. -/
def occurrences (key : String) (members : List (String × Json)) : List (Json × Nat) :=
  members.zipIdx.filterMap fun ((k, value), place) =>
    if k = key then some (value, place) else Option.none

/-- A field that is read from its first value; `absent` is its value when it is
left out. A second value for its key is a fault. -/
def field {α : Type} (key : String) (absent : Option α) (read : Json → Except Fault α) :
    Fields α where
  size := 1
  read outer index
    | .members members =>
      match occurrences key members with
      | [] =>
        match absent with
        | some value => .ok value
        | Option.none => .error ⟨members.length, .missingField key⟩
      | (first, place) :: others =>
        match read first, others with
        | .error fault, _ => .error ⟨place, fault⟩
        | .ok value, [] => .ok value
        | .ok _, (_, place) :: _ => .error ⟨place, .duplicateField key⟩
    | .elements elements =>
      match elements[index]?, absent with
      | some element, _ => (read element).mapError fun fault => ⟨index, fault⟩
      | Option.none, some value => .ok value
      | Option.none, Option.none =>
        .error ⟨index, .invalidLength index (.recordOf outer.shape outer.size)⟩

/-- A field that must be given. -/
def required {α : Type} (key : String) (read : Json → Except Fault α) : Fields α :=
  field key Option.none read

/-- A field that may be left out. -/
def optional {α : Type} (key : String) (absent : α) (read : Json → Except Fault α) : Fields α :=
  field key (some absent) read

/-- The record that the parts of an object or array describe. -/
def decode {α : Type} (fields : Fields α) (shape : Shape) (content : Content) :
    Except Fault α := do
  let value ← (fields.read ⟨shape, fields.size⟩ 0 content).mapError Located.fault
  match content with
  | .elements elements =>
    if fields.size < elements.length then
      .error (.invalidLength elements.length (.elements fields.size))
    else .ok value
  | .members _ => .ok value

/-- The record that a value describes. -/
def ofJson {α : Type} (fields : Fields α) (name : String) : Json → Except Fault α
  | .object members => fields.decode (.struct name) (.members members)
  | .array elements => fields.decode (.struct name) (.elements elements)
  | value => .error (.invalidType value.found (.record (.struct name)))

end Fields

end ThriftPages.SyntaxTree
