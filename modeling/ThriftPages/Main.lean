/-
# The program

Puts the requests of the program of its command line to the system, one by one.

Key definitions: `Request.perform`, `Program.perform`, `main`.
-/
import ThriftPages.CommandLine.Run

namespace ThriftPages

/-- The fault of a number that the system gives, perhaps negated. -/
def faultOfNumber? (number : UInt32) : Option FileFault :=
  match (if number < 0x80000000 then number else 0 - number) with
  | 2 => some .notFound
  | 13 => some .denied
  | 20 => some .notADirectory
  | 21 => some .isADirectory
  | _ => none

/-- The fault that an error of the system is, if it is one that is reported. -/
def faultOf? : IO.Error → Option FileFault
  | .noFileOrDirectory _ number _ | .permissionDenied _ number _
  | .inappropriateType _ number _ => faultOfNumber? number
  | _ => none

/-- An action on a file, or its fault. -/
def attempt {α : Type} (onFile : IO α) : IO (Except FileFault α) := do
  try
    let result ← onFile
    return .ok result
  catch e =>
    match faultOf? e with
    | some fault => return .error fault
    | none => throw e

/-- Whether the system has a file under a path. -/
def isFile (path : String) : IO Bool := do
  try
    let metadata ← ((← IO.currentDir) / path).metadata
    return metadata.type == .file
  catch _ => return false

/-- Shows a report. -/
def Report.show : Report → IO Unit
  | usage _ => IO.eprint Help.short
  | fault cause => IO.eprintln cause.message

/-- Puts a request to the system. -/
def Request.perform : (request : Request) → IO request.Answer
  | home => do
    let directory ← IO.currentDir
    return FilePath.components directory.toString
  | isFile path => ThriftPages.isFile path
  | read path => attempt (IO.FS.readBinFile path)
  | write path text => attempt (IO.FS.writeFile path text)
  | print text => IO.print text
  | report shown => shown.show

/-- Runs a program: how it ends, with a value or an exit code. -/
def Program.perform {α : Type} : Program α → IO (Except Nat α)
  | done value => return .ok value
  | exit code => return .error code
  | ask request next => do
    let answer ← request.perform
    (next answer).perform

end ThriftPages

open ThriftPages in
/-- Runs a command line. -/
def main (texts : List String) : IO UInt32 := do
  match ← (program texts).perform with
  | .ok () => return 0
  | .error code => return code.toUInt32
