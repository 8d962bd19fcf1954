/-
# What programs do

What a program reads before it does anything else can be answered beforehand, and
what is left of it (`Program.given`) is run like the whole (`Program.run_given`). A
program computes a value if nothing is left of it but that, or to fail
(`Program.Computes`); programs in a row compute what their values come to.

A program that asks for nothing to be printed or written is silent
(`Program.Silent`). One that does not fail after something was printed or written,
whatever it was answered, is careful (`Program.Careful`). No single answer changes
the files or the output but to such a request (`World.answer_of_not_leavesTrace`), so
a run of a careful program that fails leaves both as they were
(`Program.Careful.run`).

Key definitions: `Program.given`, `Program.Computes`, `Program.Silent`,
`Program.Careful`.
Key theorems: `Program.run_given`, `Program.Computes.bind`, `Program.Careful.run`.
-/
import ThriftPages.CommandLine.Program
import ThriftPages.Proofs.Steps

namespace ThriftPages

/-! ### Answers -/

/-- The answer to a request that can be had by reading. -/
def Request.answer? (read : FileReader) : (request : Request) → Option request.Answer
  | home => some read.home
  | isFile path => some (read.isFile path)
  | .read path => some (read.bytes path)
  | write _ _ | print _ | report _ => none

theorem World.answer_of_answer? {world : World} {request : Request} {answer : request.Answer}
    (h : request.answer? world.files.read = some answer) :
    world.answer request = (answer, world) := by
  cases request with
  | home | isFile | read =>
    obtain rfl := Option.some.inj h
    rfl
  | write | print | report => cases h

/-- A request that does not ask for anything to be printed or written. -/
def Request.IsQuiet : Request → Prop
  | home | isFile _ | read _ | report _ => True
  | print _ | write _ _ => False

/-- Something was printed, or a file was written. -/
def Request.LeavesTrace : (request : Request) → request.Answer → Prop
  | home, _ | isFile _, _ | read _, _ | report _, _ => False
  | print _, _ => True
  | write _ _, answer => answer = Except.ok ()

theorem Request.IsQuiet.not_leavesTrace {request : Request} (h : request.IsQuiet)
    (answer : request.Answer) : ¬ request.LeavesTrace answer := by
  cases request with
  | home | isFile | read | report => exact id
  | print | write => exact h.elim

/-- **What leaves no trace changes neither the output nor the files.** -/
theorem World.answer_of_not_leavesTrace {world : World} {request : Request}
    (h : ¬ request.LeavesTrace (world.answer request).1) :
    (world.answer request).2.output = world.output ∧
      (world.answer request).2.files = world.files := by
  cases request with
  | home | isFile | read | report => exact ⟨rfl, rfl⟩
  | print => exact absurd trivial h
  | write path text =>
    revert h
    simp only [World.answer, Request.LeavesTrace]
    cases world.files.write path text with
    | ok files => exact fun h => absurd rfl h
    | error fault => exact fun _ => ⟨rfl, rfl⟩

namespace Program

variable {α β γ : Type}

/-! ### Programs in a row -/

theorem bind_assoc (p : Program α) (f : α → Program β) (g : β → Program γ) :
    (p.bind f).bind g = p.bind fun value => (f value).bind g := by
  induction p with
  | done value => rfl
  | exit code => rfl
  | ask request next ih => exact congrArg (ask request) (funext ih)

theorem bind_done (p : Program α) : p.bind done = p := by
  induction p with
  | done value => rfl
  | exit code => rfl
  | ask request next ih => exact congrArg (ask request) (funext ih)

instance : LawfulMonad Program :=
  LawfulMonad.mk' Program bind_done (fun _ _ => rfl) bind_assoc

/-- A program that writes a file goes on with whether it could be written. -/
theorem run_write_bind (path text : String) (next : Except FileFault Unit → Program β)
    (world : World) :
    (write path text >>= next).run world =
      match world.files.write path text with
      | .ok files => (next (.ok ())).run { world with files }
      | .error fault => (next (.error fault)).run world := by
  have hrun : (write path text >>= next).run world =
      (next (world.answer (.write path text)).1).run (world.answer (.write path text)).2 := rfl
  rw [hrun, World.answer]
  cases world.files.write path text <;> rfl

/-! ### Reading first -/

/-- What is left of a program when all has been read that it asks for first. -/
def given (read : FileReader) : Program α → Program α
  | done value => done value
  | exit code => exit code
  | ask request next =>
    match request.answer? read with
    | some answer => (next answer).given read
    | none => ask request next

/-- **A program may read first** and do the rest then. -/
theorem run_given (p : Program α) (world : World) :
    (p.given world.files.read).run world = p.run world := by
  induction p with
  | done value => rfl
  | exit code => rfl
  | ask request next ih =>
    unfold given
    cases hanswer : request.answer? world.files.read with
    | none => rfl
    | some answer =>
      rw [run, World.answer_of_answer? hanswer]
      exact ih answer

/-- Of programs in a row the first one is done first. -/
theorem given_bind (p : Program α) (next : α → Program β) (read : FileReader) :
    (p >>= next).given read = (p.given read >>= next).given read := by
  induction p with
  | done value => rfl
  | exit code => rfl
  | ask request rest ih =>
    have hask : ask request rest >>= next = ask request fun answer => rest answer >>= next := rfl
    rw [hask, given, given]
    cases hanswer : request.answer? read with
    | none => simp only [hask, given, hanswer]
    | some answer => exact ih answer

/-- Once all has been read that a program asks for first, nothing is left of it but a value, or
to fail. -/
def Computes (p : Program α) (f : FileReader → Except RunFault α) : Prop :=
  ∀ read, p.given read = orFail (f read)

theorem computes_pure (value : α) : Computes (pure value) fun _ => .ok value := fun _ => rfl

theorem computes_orFail (step : Except RunFault α) : Computes (orFail step) fun _ => step := by
  intro read
  cases step <;> rfl

theorem computes_fail (fault : RunFault) :
    Computes (fail fault : Program α) fun _ => .error fault :=
  fun _ => rfl

theorem computes_readText (path : String) : Computes (readText path) fun read => .ok (read path) :=
  fun _ => rfl

/-- **Programs in a row compute** what their values come to. -/
theorem Computes.bind {p : Program α} {f : FileReader → Except RunFault α}
    {next : α → Program β} {g : α → FileReader → Except RunFault β} (h : p.Computes f)
    (hnext : ∀ value, (next value).Computes (g value)) :
    (p >>= next).Computes fun read => f read >>= fun value => g value read := by
  intro read
  change _ = orFail (f read >>= fun value => g value read)
  rw [given_bind, h read]
  cases f read with
  | ok value => exact hnext value read
  | error fault => rfl

theorem Computes.mapM {step : α → Program β} {f : α → FileReader → Except RunFault β}
    (h : ∀ a, (step a).Computes (f a)) (as : List α) :
    (as.mapM step).Computes fun read => as.mapM fun a => f a read := by
  induction as with
  | nil => exact computes_pure []
  | cons a as ih =>
    simp only [List.mapM_cons]
    exact (h a).bind fun b => ih.bind fun bs => computes_pure (b :: bs)

/-! ### Silence -/

/-- Whatever it is answered, a program asks for nothing to be printed or written. -/
def Silent : Program α → Prop
  | done _ | exit _ => True
  | ask request next => request.IsQuiet ∧ ∀ answer, (next answer).Silent

theorem Silent.bind {p : Program α} {next : α → Program β} (h : p.Silent)
    (hnext : ∀ value, (next value).Silent) : (p >>= next).Silent := by
  induction p with
  | done value => exact hnext value
  | exit code => trivial
  | ask request rest ih => exact ⟨h.1, fun answer => ih answer (h.2 answer)⟩

theorem Silent.mapM {step : α → Program β} (h : ∀ a, (step a).Silent) (as : List α) :
    (as.mapM step).Silent := by
  induction as with
  | nil => trivial
  | cons a as ih =>
    rw [List.mapM_cons]
    exact (h a).bind fun _ => ih.bind fun _ => trivial

theorem silent_fail (fault : RunFault) : (fail fault : Program α).Silent :=
  ⟨trivial, fun _ => trivial⟩

theorem silent_orFail (step : Except RunFault α) : (orFail step).Silent := by
  cases step with
  | ok value => trivial
  | error fault => exact silent_fail fault

theorem silent_readText (path : String) : (readText path).Silent := ⟨trivial, fun _ => trivial⟩

/-! ### Care -/

/-- Whatever it is answered, a program does not exit with another code than zero. -/
def Succeeds : Program α → Prop
  | done _ => True
  | exit code => code = 0
  | ask _ next => ∀ answer, (next answer).Succeeds

/-- Whatever it is answered, a program does not fail after something was printed or written. -/
def Careful : Program α → Prop
  | done _ | exit _ => True
  | ask request next => ∀ answer,
    (request.LeavesTrace answer → (next answer).Succeeds) ∧
      (¬ request.LeavesTrace answer → (next answer).Careful)

theorem Succeeds.careful {p : Program α} (h : p.Succeeds) : p.Careful := by
  induction p with
  | done value => trivial
  | exit code => trivial
  | ask request next ih => exact fun answer => ⟨fun _ => h answer, fun _ => ih answer (h answer)⟩

/-- A program may be silent first. -/
theorem Silent.careful_bind {p : Program α} {next : α → Program β} (h : p.Silent)
    (hnext : ∀ value, (next value).Careful) : (p >>= next).Careful := by
  induction p with
  | done value => exact hnext value
  | exit code => trivial
  | ask request rest ih =>
    exact fun answer => ⟨fun htrace => absurd htrace (h.1.not_leavesTrace answer),
      fun _ => ih answer (h.2 answer)⟩

theorem Silent.careful {p : Program α} (h : p.Silent) : p.Careful := by
  rw [← bind_done p]
  exact h.careful_bind fun _ => trivial

theorem succeeds_printLines : ∀ lines : List String, (printLines lines).Succeeds
  | [] => trivial
  | _ :: lines => fun _ => succeeds_printLines lines

theorem Succeeds.run {p : Program α} (h : p.Succeeds) {world world' : World} {code : Nat}
    (hrun : p.run world = (.error code, world')) : code = 0 := by
  induction p generalizing world with
  | done value => cases hrun
  | exit other =>
    obtain rfl : other = code := Except.error.inj (congrArg Prod.fst hrun)
    exact h
  | ask request next ih => exact ih _ (h _) hrun

/-- **A run of a careful program that fails changes neither the output nor the files.** -/
theorem Careful.run {p : Program α} (h : p.Careful) {world world' : World} {code : Nat}
    (hrun : p.run world = (.error code, world')) (hcode : code ≠ 0) :
    world'.output = world.output ∧ world'.files = world.files := by
  induction p generalizing world with
  | done value => cases hrun
  | exit other =>
    obtain ⟨-, rfl⟩ := Prod.mk.inj hrun
    exact ⟨rfl, rfl⟩
  | ask request next ih =>
    obtain ⟨htrace, hquiet⟩ := h (world.answer request).1
    by_cases hleaves : request.LeavesTrace (world.answer request).1
    · exact absurd ((htrace hleaves).run hrun) hcode
    · obtain ⟨houtput, hfiles⟩ := World.answer_of_not_leavesTrace hleaves
      obtain ⟨houtput', hfiles'⟩ := ih _ (hquiet hleaves) hrun
      exact ⟨houtput'.trans houtput, hfiles'.trans hfiles⟩

end Program

end ThriftPages
