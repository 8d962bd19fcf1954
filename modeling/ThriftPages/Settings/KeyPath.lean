/-
# Key paths

A key path leads to a setting: a name, followed by more names after points and
by indices in brackets. Names have letters, digits, blanks, `_` and `-`; a
negative index counts from the end of its array.

A setting is placed at the end of a path. On the way tables and arrays are
opened where there are none, and an array grows until it has the index: at its
end, or at its front for an index that counts from the end.

Key definitions: `KeyPath`, `KeyPath.ofText?`, `KeyPath.place`.
-/
import ThriftPages.Settings.Setting
import ThriftPages.Text.Taken

namespace ThriftPages

/-- A step of a key path. -/
inductive KeyPath.Step
  | name (name : String)
  | index (index : Int)
deriving DecidableEq

/-- The way to a setting: a name and the steps from there. -/
structure KeyPath where
  root : String
  steps : List KeyPath.Step
deriving DecidableEq

namespace KeyPath

open Text (Taken)

/-! ### Reading a path -/

/-- The characters of a name. -/
def isNameChar (c : Char) : Bool := c.isAlphanum || c = '_' || c = '-' || c = ' '

/-- A name. -/
def scanName (text : List Char) : Option (Taken String text) :=
  (Text.takeSome isNameChar text).map fun chars => chars.map String.ofList

/-- The number that decimal digits stand for. -/
def decimal (digits : List Char) : Nat :=
  digits.foldl (fun n c => 10 * n + (c.toNat - '0'.toNat)) 0

/-- A closing bracket. -/
def scanClosing : (text : List Char) → Option (Taken Unit text)
  | ']' :: _ => some (.first ())
  | _ => none

/-- The digits of an index and the bracket that closes it. The index must fit 64
bits. -/
def scanDigits (negative : Bool) (text : List Char) : Option (Taken Int text) := do
  let digits ← Text.takeSome Char.isDigit text
  let closing ← scanClosing digits.rest
  let index : Int := if negative then -(decimal digits.value : Int) else decimal digits.value
  if -0x8000000000000000 ≤ index ∧ index < 0x8000000000000000 then
    return (digits.and closing).map fun _ => index
  else none

/-- An index after its opening bracket. -/
def scanIndex : (text : List Char) → Option (Taken Int text)
  | '-' :: rest => (scanDigits true rest).map Taken.after
  | text => scanDigits false text

/-- A step of a path. -/
def scanStep : (text : List Char) → Option (Taken Step text)
  | '.' :: rest => (scanName rest).map fun name => (name.map .name).after
  | '[' :: rest => (scanIndex rest).map fun index => (index.map .index).after
  | _ => none

/-- The path that a text stands for. -/
def ofText? (text : String) : Option KeyPath := do
  let root ← scanName text.toList
  let steps ← Text.all scanStep root.rest
  return ⟨root.value, steps⟩

/-! ### Placing a setting -/

/-- The elements of an array that has an index, and where the index leads. -/
def withRoom (index : Int) (elements : List Setting) : List Setting × Nat :=
  if 0 ≤ index then
    (elements ++ List.replicate (index.toNat + 1 - elements.length) .null, index.toNat)
  else if index.natAbs ≤ elements.length then (elements, elements.length - index.natAbs)
  else (List.replicate (index.natAbs - elements.length) .null ++ elements, 0)

/-- Places a setting at the end of the steps from another one. -/
def placeFrom (setting : Setting) : List Step → Setting → Setting
  | [], _ => setting
  | [.name name], target =>
    let (origin, entries) := target.asTable
    .table origin (entries.put name setting)
  | .name name :: steps, target =>
    let (origin, entries) := target.asTable
    .table origin (entries.update (Text.lowercase name) fun old =>
      placeFrom setting steps (old.getD .null))
  | .index index :: steps, target =>
    let (origin, elements) := target.asArray
    let (elements, position) := withRoom index elements
    .array origin (elements.modify position (placeFrom setting steps))

/-- Places a setting at the end of a path. -/
def place (path : KeyPath) (setting : Setting) (target : Setting) : Setting :=
  placeFrom setting (.name path.root :: path.steps) target

/-- The path of an entry in a file: the one that its key stands for, or the key as
a name by itself. -/
def ofEntryKey (key : String) : KeyPath := (ofText? key).getD ⟨key, []⟩

end KeyPath

end ThriftPages
