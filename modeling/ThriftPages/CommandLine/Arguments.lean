/-
# Arguments

A command line has at most one input, options with a value, and switches. An
option's value is the next argument, or follows after `=`; the short form of an
option may also have it attached. After `--` every argument is an input.

An option whose value may follow is settled when the next option, switch or input
comes, or at the end: only then is it found to lack its value or to be given
twice. An argument that no option knows, a second input, and a value for a switch
are refused before that. Help and version end the reading at once.

Key definitions: `Arguments`, `UsageFault`, `Stop`, `Word`, `Reading`,
`Reading.step`, `Arguments.read`.
-/

namespace ThriftPages

/-! ### What a command line says -/

/-- The options with a value. -/
inductive ValueOption
  | format | output | name | settings
deriving DecidableEq

/-- The switches. -/
inductive Switch
  | noToc | listFormats
deriving DecidableEq

/-- What a command line asks for. -/
structure Arguments where
  input : Option String := none
  format : Option String := none
  output : Option String := none
  name : Option String := none
  settings : Option String := none
  noToc : Bool := false
  listFormats : Bool := false
deriving DecidableEq

/-- Why a command line is not understood. -/
inductive UsageFault
  | nothingGiven
  | unknownArgument
  | missingInput
  | missingValue
  | givenTwice
  | unexpectedValue
deriving DecidableEq

/-- Why the reading of a command line ends early. -/
inductive Stop
  | shortHelp
  | longHelp
  | version
  | fault (fault : UsageFault)
deriving DecidableEq

namespace Arguments

/-- The value of an option. -/
def value? (arguments : Arguments) : ValueOption → Option String
  | .format => arguments.format
  | .output => arguments.output
  | .name => arguments.name
  | .settings => arguments.settings

/-- The arguments with a value for an option. -/
def withValue (arguments : Arguments) (value : String) : ValueOption → Arguments
  | .format => { arguments with format := some value }
  | .output => { arguments with output := some value }
  | .name => { arguments with name := some value }
  | .settings => { arguments with settings := some value }

/-- Whether a switch is on. -/
def isOn (arguments : Arguments) : Switch → Bool
  | .noToc => arguments.noToc
  | .listFormats => arguments.listFormats

/-- The arguments with a switch on. -/
def switchedOn (arguments : Arguments) : Switch → Arguments
  | .noToc => { arguments with noToc := true }
  | .listFormats => { arguments with listFormats := true }

/-- Sets an option, once. -/
def set (arguments : Arguments) (option : ValueOption) (value : String) :
    Except Stop Arguments :=
  if (arguments.value? option).isSome then .error (.fault .givenTwice)
  else .ok (arguments.withValue value option)

/-- Turns a switch on, once. -/
def turnOn (arguments : Arguments) (switch : Switch) : Except Stop Arguments :=
  if arguments.isOn switch then .error (.fault .givenTwice)
  else .ok (arguments.switchedOn switch)

end Arguments

/-! ### The words of a command line -/

/-- What a name after dashes stands for. -/
inductive Flag
  | value (option : ValueOption)
  | switch (switch : Switch)
  | stop (stop : Stop)
deriving DecidableEq

/-- The flag of a long name. -/
def Flag.ofLongName? : String → Option Flag
  | "to" => some (.value .format)
  | "output" => some (.value .output)
  | "name" => some (.value .name)
  | "config" => some (.value .settings)
  | "no-toc" => some (.switch .noToc)
  | "list-formats" => some (.switch .listFormats)
  | "help" => some (.stop .longHelp)
  | "version" => some (.stop .version)
  | _ => none

/-- The flag of a letter. -/
def Flag.ofLetter? : Char → Option Flag
  | 'o' => some (.value .output)
  | 'h' => some (.stop .shortHelp)
  | 'V' => some (.stop .version)
  | _ => none

/-- An argument by its form. -/
inductive Word
  /-- The two dashes after which there are only inputs. -/
  | separator
  /-- A flag, and the value that belongs to it in the same argument. -/
  | flag (flag : Flag) (attached : Option String)
  /-- Dashes and a name that is not known. -/
  | unknown
  /-- Anything else. -/
  | plain
deriving DecidableEq

namespace Word

/-- The text after an equals sign at the front. -/
def afterEquals? : List Char → Option (List Char)
  | '=' :: rest => some rest
  | _ => none

/-- A word with a long name. -/
def ofLong (text : List Char) : Word :=
  let name := text.takeWhile (· ≠ '=')
  match Flag.ofLongName? (String.ofList name) with
  | some meaning =>
    .flag meaning ((afterEquals? (text.dropWhile (· ≠ '='))).map String.ofList)
  | none => .unknown

/-- A word with a letter. What stands after the letter of an option is its value,
of which an equals sign at the front is no part; after another letter it is not
looked at. -/
def ofShort (letter : Char) (rest : List Char) : Word :=
  match Flag.ofLetter? letter with
  | some (.value option) =>
    .flag (.value option)
      (if rest.isEmpty then none else some (String.ofList ((afterEquals? rest).getD rest)))
  | some meaning => .flag meaning none
  | none => .unknown

/-- The form of an argument. A dash alone is no flag. -/
def ofText (text : String) : Word :=
  match text.toList with
  | ['-', '-'] => .separator
  | '-' :: '-' :: rest => ofLong rest
  | '-' :: letter :: rest => ofShort letter rest
  | _ => .plain

end Word

/-! ### Reading -/

/-- An option that is not settled yet, with the value that followed it. -/
structure Pending where
  option : ValueOption
  value : Option String
deriving DecidableEq

/-- How far a command line has been read. -/
structure Reading where
  arguments : Arguments := {}
  pending : Option Pending := none
  onlyInputs : Bool := false
deriving DecidableEq

namespace Reading

/-- The arguments with the pending option settled. -/
def settled (reading : Reading) : Except Stop Arguments :=
  match reading.pending with
  | none => .ok reading.arguments
  | some ⟨_, none⟩ => .error (.fault .missingValue)
  | some ⟨option, some value⟩ => reading.arguments.set option value

/-- Reads a flag. -/
def onFlag (reading : Reading) : Flag → Option String → Except Stop Reading
  | .value option, some value => do
    let arguments ← reading.settled
    let arguments ← arguments.set option value
    return { arguments }
  | .value option, none => do
    let arguments ← reading.settled
    return { arguments, pending := some ⟨option, none⟩ }
  | .switch switch, none => do
    let arguments ← reading.settled
    let arguments ← arguments.turnOn switch
    return { arguments }
  | .stop stop, none => do
    let _ ← reading.settled
    .error stop
  | .switch _, some _ | .stop _, some _ => .error (.fault .unexpectedValue)

/-- Reads an input, of which there is one. -/
def onInput (reading : Reading) (text : String) : Except Stop Reading :=
  if reading.arguments.input.isSome then .error (.fault .unknownArgument)
  else do
    let arguments ← reading.settled
    return { reading with arguments := { arguments with input := some text }, pending := none }

/-- Reads an argument that is no flag: the value of the pending option if that
has none yet, else an input. -/
def onPlain (reading : Reading) (text : String) : Except Stop Reading :=
  match reading.pending with
  | some ⟨option, none⟩ => .ok { reading with pending := some ⟨option, some text⟩ }
  | _ => reading.onInput text

/-- Reads an argument. -/
def step (reading : Reading) (text : String) : Except Stop Reading :=
  if reading.onlyInputs then reading.onInput text
  else
    match Word.ofText text with
    | .separator => .ok { reading with onlyInputs := true }
    | .flag flag attached => reading.onFlag flag attached
    | .unknown => .error (.fault .unknownArgument)
    | .plain => reading.onPlain text

/-- What the command line says when all of it has been read. -/
def finish (reading : Reading) : Except Stop Arguments := do
  let arguments ← reading.settled
  if arguments = {} then .error (.fault .nothingGiven)
  else if arguments.input.isNone ∧ arguments.listFormats = false then
    .error (.fault .missingInput)
  else .ok arguments

end Reading

/-- What a command line, without the program's name, asks for. -/
def Arguments.read (texts : List String) : Except Stop Arguments := do
  let reading ← texts.foldlM Reading.step {}
  reading.finish

end ThriftPages
