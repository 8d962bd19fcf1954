/-
# A run of the program

The program of a command line reads its arguments, then the settings, and then
turns the input into a page in the chosen format, which it prints or writes to a
file. The first thing that goes wrong is reported, and the program exits.

`run` takes the program's steps on files given as a value.

Key definitions: `chosenFormat`, `documentName`, `pageOptions`, `Layers.load`,
`Arguments.gather`, `Arguments.place`, `program`, `Outcome`, `run`.
-/
import ThriftPages.CommandLine.Help
import ThriftPages.CommandLine.Program
import ThriftPages.Settings.Layers

namespace ThriftPages

/-! ### What the arguments leave open -/

/-- The name of the format: the one that is asked for, else the one that the
output's extension belongs to, else the one of the settings. -/
def chosenFormat (registry : Registry) (format output : Option String) (settings : Settings) :
    String :=
  match format with
  | some name => name
  | none => (output.bind registry.detect?).getD settings.format

/-- The name of the document: the one that is asked for, else the input's file
name, else the input itself. -/
def documentName (input : String) (name : Option String) : String :=
  name.getD ((FilePath.fileName? input).getD input)

/-- The page options of the settings, perhaps without a table of contents. -/
def pageOptions (settings : Settings) (noToc : Bool) : PageOptions :=
  if noToc then { settings.page with tableOfContents := false } else settings.page

/-- The file of settings that is read if it is there. -/
def localSettings : String := "thriftdoc.toml"

/-- The layers of settings of a run. -/
def Arguments.layers (arguments : Arguments) : Layers :=
  let layers := ({} : Layers).addOptionalFile localSettings
  match arguments.settings with
  | some path => layers.addFile path
  | none => layers

/-! ### Loading the settings -/

namespace SettingsFile

/-- The first of some paths that leads to a file. -/
def locate : List String → Program (Option String)
  | [] => return none
  | candidate :: rest => do
    if ← Program.isFile candidate then return some candidate
    else locate rest

/-- What is found under a path. -/
def fetch (path : String) : Program (Except SettingsFault (String × String)) := do
  let home ← Program.home
  match ← locate (candidates home path) with
  | some found => return loaded home found (← Program.readBytes found)
  | none => return .error (.fileNotFound path)

/-- The entries of a file. -/
def load (file : SettingsFile) : Program Entries := do
  let found ← fetch file.path
  Program.orFail ((file.entriesIn found).mapError .settings)

end SettingsFile

/-- The settings that the layers give. -/
def Layers.load (layers : Layers) : Program Settings := do
  let files ← layers.files.mapM SettingsFile.load
  Program.orFail ((Settings.ofSetting (layers.treeOf files)).mapError .settings)

/-! ### What a run does -/

namespace Arguments

/-- The text of the input in the chosen format. -/
def gather (arguments : Arguments) (registry : Registry) : Program String := do
  let settings ← arguments.layers.load
  let some input := arguments.input | Program.fail .inputRequired
  let format := chosenFormat registry arguments.format arguments.output settings
  let _ ← Program.orFail ((registry.get format).mapError .format)
  let content ← Program.readText input
  let source ← Program.orFail (content.mapError (.reading input))
  let doc ← Program.orFail ((Document.ofText source).mapError .loading)
  Program.orFail ((registry.write (documentName input arguments.name) doc format
    (pageOptions settings arguments.noToc)).mapError .format)

/-- Writes a text to the output, or prints it if there is none. -/
def place : Option String → String → Program Unit
  | none, text => Program.print text
  | some path, text => do
    match ← Program.write path text with
    | .ok () => return
    | .error fault => Program.fail (.writing path fault)

/-- What the arguments ask for. -/
def program (arguments : Arguments) (registry : Registry) : Program Unit :=
  if arguments.listFormats then Program.printLines (Help.formatLines registry)
  else do
    let text ← arguments.gather registry
    place arguments.output text

end Arguments

/-- What comes of a command line whose reading ended early. -/
def Stop.program : Stop → Program Unit
  | shortHelp => do
    Program.print Help.short
    .exit 0
  | longHelp => do
    Program.print Help.long
    .exit 0
  | version => do
    Program.print Help.version
    .exit 0
  | fault cause => do
    Program.report (.usage cause)
    .exit 2

/-- The program of a command line. -/
def program (texts : List String) : Program Unit :=
  match Arguments.read texts with
  | .ok arguments => arguments.program .builtin
  | .error stop => stop.program

/-! ### What a run comes to -/

/-- What a run comes to. -/
structure Outcome where
  exitCode : Nat
  /-- The text that was printed. -/
  output : String
  /-- What was reported. -/
  reports : List Report
  /-- The files after the run. -/
  files : FileSystem

/-- What a run comes to that ends in this way. -/
def Outcome.ofEnd : Except Nat Unit × World → Outcome
  | (.ok (), world) => ⟨0, world.output, world.reports, world.files⟩
  | (.error code, world) => ⟨code, world.output, world.reports, world.files⟩

/-- The run of a command line on files. -/
def run (fs : FileSystem) (texts : List String) : Outcome :=
  .ofEnd ((program texts).run { files := fs })

end ThriftPages
