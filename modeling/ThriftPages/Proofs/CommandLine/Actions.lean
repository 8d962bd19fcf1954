/-
# What a command line does

A conversion is silent until its text is there (`Arguments.gather_silent`), and until
then it reads what the text depends on: what it computes is a function of how files
are read (`Arguments.text`, `Arguments.gather_computes`). So what is left of a command
line when its files have been read is to place the text, or to fail (`action`), and a
run of it does no more (`run_eq_ofEnd_action`).

Whatever a command line is answered, it does not fail after it has printed or written
something (`careful_program`).

Key definitions: `Arguments.text`, `action`, `Program.text?`.
Key theorems: `Layers.load_computes`, `Arguments.gather_computes`,
`Arguments.gather_silent`, `run_eq_ofEnd_action`, `careful_program`.
-/
import ThriftPages.CommandLine.Run
import ThriftPages.Proofs.CommandLine.Programs

namespace ThriftPages

open Program (Computes Silent Careful)

/-! ### Loading the settings -/

namespace SettingsFile

theorem locate_computes (candidates : List String) :
    (locate candidates).Computes fun read => .ok (candidates.find? read.isFile) := by
  induction candidates with
  | nil => exact Program.computes_pure none
  | cons candidate rest ih =>
    intro read
    have hasked : (locate (candidate :: rest)).given read =
        (if read.isFile candidate then pure (some candidate) else locate rest).given read := rfl
    simp only [hasked, List.find?_cons]
    cases read.isFile candidate with
    | true => rfl
    | false => exact ih read

theorem fetch_computes (path : String) :
    (fetch path).Computes fun read => .ok (resolve read path) := by
  intro read
  have hhome : Program.home.given read = pure read.home := rfl
  rw [fetch, Program.given_bind, hhome, pure_bind, Program.given_bind, locate_computes _ read]
  unfold resolve
  beta_reduce
  cases (candidates read.home path).find? read.isFile <;> rfl

/-- What a program loads of a file of settings are its entries. -/
theorem load_computes (file : SettingsFile) :
    file.load.Computes fun read => (file.entries read).mapError .settings :=
  (fetch_computes file.path).bind fun _ => Program.computes_orFail _

theorem locate_silent : ∀ candidates : List String, (locate candidates).Silent
  | [] => trivial
  | candidate :: rest => by
    refine ⟨trivial, fun answer => ?_⟩
    cases (answer : Bool) with
    | true => trivial
    | false => exact locate_silent rest

theorem load_silent (file : SettingsFile) : file.load.Silent := by
  refine Silent.bind ⟨trivial, fun home => (locate_silent _).bind fun found => ?_⟩
    fun _ => Program.silent_orFail _
  cases found with
  | none => trivial
  | some found => exact ⟨trivial, fun _ => trivial⟩

end SettingsFile

/-- **The settings that a program loads are those that the layers give.** -/
theorem Layers.load_computes (layers : Layers) :
    layers.load.Computes fun read => (layers.build read).mapError .settings := by
  have hload := (Computes.mapM SettingsFile.load_computes layers.files).bind fun files =>
    Program.computes_orFail ((Settings.ofSetting (layers.treeOf files)).mapError .settings)
  simp only [← Steps.mapM_mapError, ← Steps.mapError_bind] at hload
  exact hload

theorem Layers.load_silent (layers : Layers) : layers.load.Silent :=
  (Silent.mapM SettingsFile.load_silent layers.files).bind fun _ => Program.silent_orFail _

/-! ### Gathering the text -/

namespace Arguments

/-- The text of the input in the chosen format, as a function of how files are read. -/
def text (arguments : Arguments) (registry : Registry) (read : FileReader) :
    Except RunFault String := do
  let settings ← (arguments.layers.build read).mapError .settings
  let some input := arguments.input | .error .inputRequired
  let format := chosenFormat registry arguments.format arguments.output settings
  let _ ← (registry.get format).mapError .format
  let source ← (read input).mapError (.reading input)
  let doc ← (Document.ofText source).mapError .loading
  (registry.write (documentName input arguments.name) doc format
    (pageOptions settings arguments.noToc)).mapError .format

/-- **What a conversion gathers is a function of how files are read.** -/
theorem gather_computes (arguments : Arguments) (registry : Registry) :
    (arguments.gather registry).Computes (arguments.text registry) := by
  refine (Layers.load_computes _).bind fun settings => ?_
  cases arguments.input with
  | none => exact Program.computes_fail .inputRequired
  | some input =>
    exact (Program.computes_orFail _).bind fun _ => (Program.computes_readText input).bind
      fun _ => (Program.computes_orFail _).bind fun _ => (Program.computes_orFail _).bind
        fun _ => Program.computes_orFail _

/-- **A conversion prints and writes nothing** until its text is there. -/
theorem gather_silent (arguments : Arguments) (registry : Registry) :
    (arguments.gather registry).Silent := by
  refine (Layers.load_silent _).bind fun settings => ?_
  cases arguments.input with
  | none => exact Program.silent_fail .inputRequired
  | some input =>
    exact (Program.silent_orFail _).bind fun _ => (Program.silent_readText input).bind
      fun _ => (Program.silent_orFail _).bind fun _ => (Program.silent_orFail _).bind
        fun _ => Program.silent_orFail _

/-- The text is placed last, and only a text that could not be written is a fault then. -/
theorem place_careful (output : Option String) (text : String) : (place output text).Careful := by
  cases output with
  | none => exact Program.Succeeds.careful fun _ => trivial
  | some path =>
    intro answer
    cases (answer : Except FileFault Unit) with
    | ok => exact ⟨fun _ => trivial, fun _ => trivial⟩
    | error fault => exact ⟨nofun, fun _ => (Program.silent_fail _).careful⟩

end Arguments

/-! ### The whole -/

/-- What a command line does when it has read its files. -/
def action (texts : List String) (read : FileReader) : Program Unit := (program texts).given read

/-- The text that a program puts out next, if it does: it is printed or written. -/
def Program.text? {α : Type} : Program α → Option String
  | ask (.print text) _ | ask (.write _ text) _ => some text
  | _ => none

/-- **A run does what is left to do** when the files have been read. -/
theorem run_eq_ofEnd_action (fs : FileSystem) (texts : List String) :
    run fs texts = .ofEnd ((action texts fs.read).run { files := fs }) := by
  rw [run, action, ← Program.run_given]

theorem Stop.program_careful (stop : Stop) : stop.program.Careful := by
  cases stop with
  | shortHelp | longHelp | version => exact Program.Succeeds.careful fun _ => rfl
  | fault cause => exact Silent.careful ⟨trivial, fun _ => trivial⟩

/-- **The program of a command line is careful.** -/
theorem careful_program (texts : List String) : (program texts).Careful := by
  unfold program
  cases Arguments.read texts with
  | error stop => exact stop.program_careful
  | ok arguments =>
    change (arguments.program .builtin).Careful
    unfold Arguments.program
    split
    · exact (Program.succeeds_printLines _).careful
    · exact (arguments.gather_silent .builtin).careful_bind
        (Arguments.place_careful arguments.output)

end ThriftPages
