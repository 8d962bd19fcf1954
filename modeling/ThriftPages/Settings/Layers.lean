/-
# Layers of settings

Settings come in layers. At the bottom lie those built in, above them files in
the order in which they were added, on top single values. Of two layers that
give a value for the same key the upper one wins.

A file is looked for under its path and then with `.toml` appended to it. One
that may be missing counts as empty if it is, or if it cannot be read; but what is
read of it must be TOML.

Key definitions: `SettingsFile.resolve`, `SettingsFile.entries`, `Layers`,
`Layers.addFile`, `Layers.override`, `Layers.build`.
-/
import ThriftPages.FileSystem
import ThriftPages.Settings.KeyPath
import ThriftPages.Settings.Settings
import ThriftPages.Text.Repair
import ThriftPages.Toml.Document

namespace ThriftPages

/-- A file of settings. -/
structure SettingsFile where
  path : String
  required : Bool
deriving DecidableEq

/-- The layers above the built-in settings. -/
structure Layers where
  files : List SettingsFile := []
  overrides : List (KeyPath × Scalar) := []

namespace SettingsFile

/-- The ending that is appended to a path where no file lies under it. -/
def ending : String := ".toml"

/-- The paths under which a file is looked for. -/
def candidates (home : Way) (path : String) : List String :=
  let full := FilePath.fromRoot home path
  full :: ((FilePath.fileName? full).map fun _ => FilePath.normalized full ++ ending).toList

/-- What is read of a file: the path that messages show, and the text. -/
def loaded (home : Way) (path : String) :
    Except FileFault ByteArray → Except SettingsFault (String × String)
  | .ok bytes => .ok (FilePath.relativeTo home path, Text.ofBytes bytes)
  | .error fault => .error (.unreadable fault)

/-- What is found under a path. -/
def resolve (read : FileReader) (path : String) : Except SettingsFault (String × String) :=
  match (candidates read.home path).find? read.isFile with
  | some found => loaded read.home found (read.bytes found)
  | none => .error (.fileNotFound path)

/-- The entries of the table that a text describes. -/
def entriesOf (uri text : String) : Except SettingsFault Entries :=
  match Toml.ofText? text with
  | none => .error .badSyntax
  | some (.table entries) => .ok (Setting.ofTomlEntries (some uri) entries)
  | some (.datetime value) => .error (.notATable value.write uri)
  | some _ => .error .badSyntax

/-- The entries of a file of which this was found. -/
def entriesIn (file : SettingsFile) :
    Except SettingsFault (String × String) → Except SettingsFault Entries
  | .ok (uri, text) => entriesOf uri text
  | .error fault => if file.required then .error fault else .ok []

/-- The entries of a file. -/
def entries (read : FileReader) (file : SettingsFile) : Except SettingsFault Entries :=
  file.entriesIn (resolve read file.path)

end SettingsFile

namespace Layers

/-- Adds a file that must be there. -/
def addFile (layers : Layers) (path : String) : Layers :=
  { layers with files := layers.files ++ [⟨path, true⟩] }

/-- Adds a file that may be missing. -/
def addOptionalFile (layers : Layers) (path : String) : Layers :=
  { layers with files := layers.files ++ [⟨path, false⟩] }

/-- The overrides with a value for a path, which takes the place of an earlier
one. -/
def overriding (path : KeyPath) (value : Scalar) :
    List (KeyPath × Scalar) → List (KeyPath × Scalar)
  | [] => [(path, value)]
  | (p, v) :: rest =>
    if path = p then (p, value) :: rest else (p, v) :: overriding path value rest

/-- Sets a single value. -/
def override (layers : Layers) (key : String) (value : Scalar) : Except SettingsFault Layers :=
  match KeyPath.ofText? key with
  | some path => .ok { layers with overrides := overriding path value layers.overrides }
  | none => .error .badKey

/-- Lays the entries of a file over a tree. -/
def layEntries (tree : Setting) (entries : Entries) : Setting :=
  entries.foldl (fun tree (key, setting) => (KeyPath.ofEntryKey key).place setting tree) tree

/-- Lays single values over a tree. -/
def layOverrides (tree : Setting) (overrides : List (KeyPath × Scalar)) : Setting :=
  overrides.foldl (fun tree (path, value) => path.place (.scalar none value) tree) tree

/-- The tree of all layers, once the entries of the files are known. -/
def treeOf (layers : Layers) (files : List Entries) : Setting :=
  layOverrides (files.foldl layEntries ({} : Settings).toSetting) layers.overrides

/-- The settings that the layers give. -/
def build (read : FileReader) (layers : Layers) : Except SettingsFault Settings := do
  let files ← layers.files.mapM (SettingsFile.entries read)
  Settings.ofSetting (layers.treeOf files)

end Layers

end ThriftPages
