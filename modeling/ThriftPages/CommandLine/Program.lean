/-
# Programs

A program asks the system for one thing after another, and goes on with what it is
answered: it looks for files, reads and writes them, prints, reports and may exit.
What it will do next is a function of the answer, so a program says in which order
everything happens.

A `World` answers: it has files, and keeps what was printed and reported. A
program is run by putting its requests to a world, one by one.

Key definitions: `Request`, `Program`, `World.answer`, `Program.run`.
-/
import ThriftPages.CommandLine.Fault

namespace ThriftPages

/-- What is asked of the system. -/
inductive Request
  /-- The working directory. -/
  | home
  /-- Whether there is a file under a path. -/
  | isFile (path : String)
  /-- The content of a file. -/
  | read (path : String)
  /-- A text is to be the content of a file. -/
  | write (path text : String)
  /-- A text is to be shown. -/
  | print (text : String)
  /-- A report is to be shown beside the output. -/
  | report (report : Report)

/-- What the system answers. -/
def Request.Answer : Request → Type
  | home => Way
  | isFile _ => Bool
  | read _ => Except FileFault ByteArray
  | write _ _ => Except FileFault Unit
  | print _ | report _ => Unit

/-- A program that ends with a value, or exits. -/
inductive Program (α : Type) : Type
  | done (value : α)
  | exit (code : Nat)
  | ask (request : Request) (next : request.Answer → Program α)

namespace Program

variable {α β : Type}

/-- A program and then another one, unless the first one exits. -/
def bind : Program α → (α → Program β) → Program β
  | done value, next => next value
  | exit code, _ => exit code
  | ask request rest, next => ask request fun answer => (rest answer).bind next

instance : Monad Program where
  pure := done
  bind := bind

/-! ### Single steps -/

/-- The working directory. -/
def home : Program Way := ask .home done

/-- Whether there is a file under a path. -/
def isFile (path : String) : Program Bool := ask (.isFile path) done

/-- The content of a file. -/
def readBytes (path : String) : Program (Except FileFault ByteArray) := ask (.read path) done

/-- Makes a text the content of a file. -/
def write (path text : String) : Program (Except FileFault Unit) := ask (.write path text) done

/-- Shows a text. -/
def print (text : String) : Program Unit := ask (.print text) done

/-- Shows a report. -/
def report (report : Report) : Program Unit := ask (.report report) done

/-! ### Small programs -/

/-- Reports a fault and exits. -/
def fail (fault : RunFault) : Program α := do
  report (.fault fault)
  exit 1

/-- The result of a step that does not ask for anything, if it has one. -/
def orFail : Except RunFault α → Program α
  | .ok value => return value
  | .error fault => fail fault

/-- The content of a file as text. -/
def readText (path : String) : Program (Except FileFault String) := do
  let content ← readBytes path
  return content.bind FileReader.decoded

/-- Shows lines one after the other. -/
def printLines : List String → Program Unit
  | [] => return
  | line :: lines => do
    print (line ++ "\n")
    printLines lines

end Program

/-! ### Running programs -/

/-- The files, what was printed, and what was reported. -/
structure World where
  files : FileSystem
  output : String := ""
  reports : List Report := []

/-- What a world answers, and what it is then. -/
def World.answer (world : World) : (request : Request) → request.Answer × World
  | .home => (world.files.home, world)
  | .isFile path => (world.files.isFile path, world)
  | .read path => (world.files.bytes path, world)
  | .write path text =>
    match world.files.write path text with
    | .ok files => (.ok (), { world with files })
    | .error fault => (.error fault, world)
  | .print text => ((), { world with output := world.output ++ text })
  | .report report => ((), { world with reports := world.reports ++ [report] })

/-- Runs a program in a world: how it ends, with a value or an exit code, and what the world
is then. -/
def Program.run {α : Type} : Program α → World → Except Nat α × World
  | done value, world => (.ok value, world)
  | exit code, world => (.error code, world)
  | ask request next, world => (next (world.answer request).1).run (world.answer request).2

end ThriftPages
