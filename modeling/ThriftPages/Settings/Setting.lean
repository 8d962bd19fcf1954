/-
# Settings as a tree

A setting is a scalar, an array or a table of settings. It knows the file that it
comes from, if it comes from one.

A setting is put under a key in lower case. A scalar or an array takes the place
of what stood there. A table is merged into it, key by key, and what stood there
and is no table gives way to a new one; so an empty table changes nothing where
something stands. The tables inside arrays keep their keys as they are.

Key definitions: `Scalar`, `Setting`, `Setting.ofToml`, `Entries.update`,
`Entries.put`.
Key theorems: `Entries.lookup_update_self`, `Entries.lookup_update_of_ne`.
-/
import ThriftPages.Text.Lowercase
import ThriftPages.Toml.Value

namespace ThriftPages

/-- A setting without parts. -/
inductive Scalar
  | null
  | boolean (value : Bool)
  | integer (value : Int)
  | float (value : Binary64)
  | text (value : String)
deriving DecidableEq

/-- A setting, and the file that it comes from. -/
inductive Setting
  | scalar (origin : Option String) (value : Scalar)
  | array (origin : Option String) (elements : List Setting)
  | table (origin : Option String) (entries : List (String × Setting))
deriving Inhabited

/-- The entries of a table. -/
abbrev Entries : Type := List (String × Setting)

namespace Setting

/-- The setting that says nothing. -/
def null : Setting := scalar none .null

/-- The file that a setting comes from. -/
def origin : Setting → Option String
  | scalar origin _ | array origin _ | table origin _ => origin

/-- A table and its origin; anything else gives way to a new table. -/
def asTable : Setting → Option String × Entries
  | table origin entries => (origin, entries)
  | _ => (none, [])

/-- An array and its origin; anything else gives way to a new array. -/
def asArray : Setting → Option String × List Setting
  | array origin elements => (origin, elements)
  | _ => (none, [])

mutual

/-- The setting that a TOML value of a file stands for. A date or time is its
text. -/
def ofToml (origin : Option String) : Toml.Value → Setting
  | .string text => scalar origin (.text text)
  | .integer value => scalar origin (.integer value)
  | .float value => scalar origin (.float value)
  | .boolean value => scalar origin (.boolean value)
  | .datetime value => scalar origin (.text value.write)
  | .array elements => array origin (ofTomlElements origin elements)
  | .table entries => table origin (ofTomlEntries origin entries)

/-- The settings that the elements of an array stand for. -/
def ofTomlElements (origin : Option String) : List Toml.Value → List Setting
  | [] => []
  | value :: rest => ofToml origin value :: ofTomlElements origin rest

/-- The settings that the entries of a table stand for. -/
def ofTomlEntries (origin : Option String) : List (String × Toml.Value) → Entries
  | [] => []
  | (key, value) :: rest => (key, ofToml origin value) :: ofTomlEntries origin rest

end

end Setting

namespace Entries

/-- Changes the setting under a key. A key that is not there is added at the end. -/
def update (key : String) (change : Option Setting → Setting) : Entries → Entries
  | [] => [(key, change none)]
  | (k, setting) :: rest =>
    if key = k then (k, change (some setting)) :: rest
    else (k, setting) :: update key change rest

mutual

/-- Puts a setting under a name. -/
def put (name : String) : Setting → Entries → Entries
  | .table _ [], entries =>
    update (Text.lowercase name) (fun old => old.getD (.table none [])) entries
  | .table _ (first :: others), entries =>
    update (Text.lowercase name) (fun old =>
      let (origin, inner) := (old.map Setting.asTable).getD (none, [])
      .table origin (putAll (first :: others) inner)) entries
  | setting, entries => update (Text.lowercase name) (fun _ => setting) entries

/-- Puts the entries of a table, one after the other. -/
def putAll : Entries → Entries → Entries
  | [], entries => entries
  | (name, setting) :: rest, entries => putAll rest (put name setting entries)

end

/-- What was changed is found under its key. -/
theorem lookup_update_self (key : String) (change : Option Setting → Setting) :
    ∀ entries : Entries, (update key change entries).lookup key = some (change (entries.lookup key))
  | [] => by simp [update]
  | (k, setting) :: rest => by
    unfold update
    split
    · next h => simp [h]
    · next h =>
      have hne : (key == k) = false := by simpa using h
      simpa [List.lookup_cons, hne] using lookup_update_self key change rest

/-- The other keys keep their settings. -/
theorem lookup_update_of_ne {key other : String} (change : Option Setting → Setting)
    (h : other ≠ key) :
    ∀ entries : Entries, (update key change entries).lookup other = entries.lookup other
  | [] => by
    have hne : (other == key) = false := by simpa using h
    simp [update, List.lookup_cons, hne]
  | (k, setting) :: rest => by
    unfold update
    split
    · next hk =>
      have hne : (other == k) = false := by simpa [← hk] using h
      simp [List.lookup_cons, hne]
    · simp only [List.lookup_cons, lookup_update_of_ne change h rest]

end Entries

end ThriftPages
