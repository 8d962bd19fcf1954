/-
# Files

The files that a program sees are a value: what stands at the end of a way down
from the root, with the rights to it, and the working directory, in which a path
starts unless it is absolute. Not every directory must be listed. Those above
something that is listed are there, and so is the working directory. Each file
has one way down to it.

A path is walked part by part. Each part needs a directory to start from, also an
empty one, so a slash after a file's name leads nowhere; all other parts, `.` too,
need the right to enter it. A new file needs the right to change its directory.

Key definitions: `FileFault`, `FileReader`, `FileSystem`, `FileSystem.node?`,
`FileSystem.walk`, `FileSystem.place?`, `FileSystem.read`, `FileSystem.write`.
Key theorems: `FileSystem.lookup_replace_self`, `FileSystem.lookup_replace_of_ne`.
-/
import ThriftPages.FilePath

namespace ThriftPages

/-! ### Reading -/

/-- Why a file is not read or written. -/
inductive FileFault
  | notFound
  | notADirectory
  | isADirectory
  | denied
  /-- The content is not UTF-8. -/
  | notText
deriving DecidableEq

/-- The fault in words, with its number if it has one. -/
def FileFault.message : FileFault → String
  | notFound => "No such file or directory (os error 2)"
  | notADirectory => "Not a directory (os error 20)"
  | isADirectory => "Is a directory (os error 21)"
  | denied => "Permission denied (os error 13)"
  | notText => "stream did not contain valid UTF-8"

/-- How files are read: from which directory, what is a file, and what it contains. -/
structure FileReader where
  home : Way
  isFile : String → Bool
  bytes : String → Except FileFault ByteArray

/-- The text that bytes stand for. -/
def FileReader.decoded (bytes : ByteArray) : Except FileFault String :=
  match String.fromUTF8? bytes with
  | some text => .ok text
  | none => .error .notText

/-- The text of the file that a path leads to. -/
def FileReader.text (read : FileReader) (path : String) : Except FileFault String := do
  let bytes ← read.bytes path
  FileReader.decoded bytes

instance : CoeFun FileReader fun _ => String → Except FileFault String := ⟨FileReader.text⟩

/-! ### Files as a value -/

/-- What may be done: a file may be read and written, a directory may be read, changed
and entered. -/
structure Rights where
  read : Bool := true
  write : Bool := true
  enter : Bool := true
deriving DecidableEq

/-- A file or a directory. -/
inductive Node
  | file (content : ByteArray) (rights : Rights)
  | directory (rights : Rights)

/-- The files and directories that are listed, by the way down to them, and the working
directory. -/
structure FileSystem where
  nodes : List (Way × Node)
  home : Way

namespace FileSystem

/-- Files in a working directory by their paths from there. -/
def ofTexts (home : Way) (texts : List (String × String)) : FileSystem where
  nodes := texts.map fun (path, text) =>
    (home ++ FilePath.components path, .file text.toUTF8 {})
  home := home

/-- What stands at the end of a way: what is listed there, or a directory if something is
listed below or the working directory lies there. -/
def node? (fs : FileSystem) (way : Way) : Option Node :=
  match fs.nodes.lookup way with
  | some node => some node
  | none =>
    if way.isPrefixOf fs.home || fs.nodes.any fun node => way.isPrefixOf node.1 then
      some (.directory {})
    else none

/-- The way that a part of a path leads from a directory. -/
def step (part : List Char) (way : Way) : Way :=
  if part = FilePath.here then way
  else if part = FilePath.above then way.dropLast
  else way ++ [part]

/-- The way that the parts of a path lead. -/
def walk (fs : FileSystem) : List (List Char) → Way → Except FileFault Way
  | [], way => .ok way
  | part :: parts, way =>
    match fs.node? way with
    | some (.directory rights) =>
      if part = [] then fs.walk parts way
      else if rights.enter then fs.walk parts (step part way)
      else .error .denied
    | some (.file _ _) => .error .notADirectory
    | none => .error .notFound

/-- Where the parts of a path start. -/
def start (fs : FileSystem) (path : String) : Way :=
  if FilePath.isAbsolute path then [] else fs.home

/-- The place that a path leads to. -/
def place? (fs : FileSystem) (path : String) : Except FileFault Way :=
  if path.isEmpty then .error .notFound
  else fs.walk (FilePath.parts path) (fs.start path)

/-- Whether a path leads to a file. -/
def isFile (fs : FileSystem) (path : String) : Bool :=
  match (fs.place? path).toOption.bind fs.node? with
  | some (.file _ _) => true
  | some (.directory _) | none => false

/-- The content of the file that a path leads to. -/
def bytes (fs : FileSystem) (path : String) : Except FileFault ByteArray := do
  let way ← fs.place? path
  match fs.node? way with
  | some (.file content rights) => if rights.read then .ok content else .error .denied
  | some (.directory rights) => .error (if rights.read then .isADirectory else .denied)
  | none => .error .notFound

/-- How these files are read. -/
def read (fs : FileSystem) : FileReader := ⟨fs.home, fs.isFile, fs.bytes⟩

/-! ### Writing -/

/-- Another node at the end of a way, which is added if nothing is listed there. -/
def replace (way : Way) (node : Node) : List (Way × Node) → List (Way × Node)
  | [] => [(way, node)]
  | (w, n) :: rest => if way = w then (w, node) :: rest else (w, n) :: replace way node rest

/-- The rights to the file at the end of a way, or to a new one there. -/
def rightsAt (fs : FileSystem) (way : Way) : Rights :=
  match fs.node? way with
  | some (.file _ rights) => rights
  | some (.directory _) | none => {}

/-- Puts a file with some content at the end of a way. -/
def put (fs : FileSystem) (way : Way) (content : ByteArray) : FileSystem :=
  { fs with nodes := replace way (.file content (fs.rightsAt way)) fs.nodes }

/-- Whether a file may be written at the end of a way, and else why not. -/
def writable (fs : FileSystem) (way : Way) : Except FileFault Unit :=
  match fs.node? way with
  | some (.directory _) => .error .isADirectory
  | some (.file _ rights) => if rights.write then .ok () else .error .denied
  | none =>
    match fs.node? way.dropLast with
    | some (.directory rights) => if rights.write then .ok () else .error .denied
    | some (.file _ _) => .error .notADirectory
    | none => .error .notFound

/-- Writes the file that a path leads to, whose directory must be there. A path
that ends in a slash cannot be that of a file. -/
def write (fs : FileSystem) (path text : String) : Except FileFault FileSystem :=
  let parts := FilePath.parts path
  let named := (parts.reverse.dropWhile List.isEmpty).reverse
  if path.isEmpty then .error .notFound
  else do
    let way ← fs.walk named (fs.start path)
    if named.length < parts.length then .error .isADirectory
    else do
      fs.writable way
      return fs.put way text.toUTF8

/-- What is put at the end of a way is listed there. -/
theorem lookup_replace_self (way : Way) (node : Node) : ∀ nodes : List (Way × Node),
    (replace way node nodes).lookup way = some node
  | [] => by simp [replace]
  | (w, n) :: rest => by
    unfold replace
    split
    · next h => simp [h]
    · next h =>
      have hne : (way == w) = false := by simpa using h
      simpa [List.lookup_cons, hne] using lookup_replace_self way node rest

/-- All else stays as it is. -/
theorem lookup_replace_of_ne {way other : Way} (node : Node) (h : other ≠ way) :
    ∀ nodes : List (Way × Node), (replace way node nodes).lookup other = nodes.lookup other
  | [] => by
    have hne : (other == way) = false := by simpa using h
    simp [replace, List.lookup_cons, hne]
  | (w, n) :: rest => by
    have ih := lookup_replace_of_ne node h rest
    unfold replace
    split
    · next hw =>
      have hne : (other == w) = false := by simpa [← hw] using h
      simp [List.lookup_cons, hne]
    · simp only [List.lookup_cons] at ih ⊢
      rw [ih]

end FileSystem

end ThriftPages
