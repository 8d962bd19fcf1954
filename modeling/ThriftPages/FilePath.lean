/-
# File paths

A path names a file by its components, which slashes separate. Empty components
and `.` say nothing. The file name is the last component, unless that is `..`;
the extension is what follows the last point of the file name, unless that point
is its first character.

A path starts at the root or in the working directory. It can be made to start at
the root, and then be shown from the working directory again.

Key definitions: `Way`, `FilePath.components`, `FilePath.normalized`,
`FilePath.fromRoot`, `FilePath.relativeTo`, `FilePath.fileName?`,
`FilePath.extension?`, `FilePath.title`.
-/

namespace ThriftPages

/-- The way from the root down to a file or directory. -/
abbrev Way : Type := List (List Char)

namespace FilePath

/-- The parts of a text between the occurrences of a character. -/
def splitAt (separator : Char) : List Char → List (List Char)
  | [] => [[]]
  | c :: rest =>
    if c = separator then [] :: splitAt separator rest
    else
      match splitAt separator rest with
      | [] => [[c]]
      | part :: parts => (c :: part) :: parts

/-- The component that stands for the directory itself. -/
def here : List Char := ['.']

/-- The component that stands for the directory above. -/
def above : List Char := ['.', '.']

/-- The parts of a path between its slashes, the empty ones too. -/
def parts (path : String) : List (List Char) := splitAt '/' path.toList

/-- The components of a path. -/
def components (path : String) : List (List Char) :=
  (parts path).filter fun part => part ≠ [] ∧ part ≠ here

/-- Whether a path starts at the root. -/
def isAbsolute (path : String) : Bool := path.toList.head? = some '/'

/-- The path without what says nothing. -/
def normalized (path : String) : String :=
  (if isAbsolute path then "/" else "")
    ++ String.intercalate "/" ((components path).map String.ofList)

/-- The path from the root to what a path leads to from the working directory. -/
def fromRoot (home : Way) (path : String) : String :=
  if isAbsolute path then path
  else String.join (home.map fun name => "/" ++ String.ofList name) ++ "/" ++ path

/-- The components that lead from the end of some components to the end of others. -/
def detour : List (List Char) → List (List Char) → List (List Char)
  | name :: base, other :: rest =>
    if name = other then detour base rest
    else (name :: base).map (fun _ => above) ++ other :: rest
  | base, rest => base.map (fun _ => above) ++ rest

/-- A path from the root as it is seen from the working directory. -/
def relativeTo (home : Way) (path : String) : String :=
  String.intercalate "/" ((detour home (components path)).map String.ofList)

/-- The name of the file that a path leads to, if it has one. -/
def fileNameChars? (path : String) : Option (List Char) :=
  (components path).getLast?.filter (· ≠ above)

/-- The name of the file that a path leads to, if it has one. -/
def fileName? (path : String) : Option String :=
  (fileNameChars? path).map String.ofList

/-- The extension of a file name: what follows its last point, which must not be
its first character. -/
def extensionOf? (name : List Char) : Option (List Char) :=
  let reversed := name.reverse
  let stem := (reversed.dropWhile (· ≠ '.')).drop 1
  if stem = [] then none else some (reversed.takeWhile (· ≠ '.')).reverse

/-- The extension of the file that a path leads to, if it has one. -/
def extension? (path : String) : Option String :=
  (fileNameChars? path).bind fun name => (extensionOf? name).map String.ofList

/-- The title of a document that was read from a path: the file name up to its
first point. -/
def title (path : String) : String :=
  String.ofList (((fileNameChars? path).getD []).takeWhile (· ≠ '.'))

end FilePath

end ThriftPages
