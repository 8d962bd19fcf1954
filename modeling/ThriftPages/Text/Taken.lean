/-
# Taking something off the front of a text

A reader takes a value off the front of a text and gives it together with what
is left. What is left is shorter if something was taken (`Taken`), and no longer
if that is left open (`Remaining`). So reading again and again comes to an end:
`row` reads part after part up to a last one, `all` reads a text to its end, and
`loop` goes from state to state.

Key definitions: `Text.Taken`, `Text.Remaining`, `Text.row`, `Text.all`,
`Text.loop`, `Text.takeMany`, `Text.takeSome`.
Key theorems: `Text.length_dropWhile_le`.
-/

namespace ThriftPages.Text

/-- What was taken off the front of `text`, and what is left of it. -/
structure Taken (α : Type) (text : List Char) where
  value : α
  rest : List Char
  shorter : rest.length < text.length

/-- What was found at the front of `text`, where perhaps nothing was taken, and
what remains. -/
structure Remaining (α : Type) (text : List Char) where
  value : α
  rest : List Char
  noLonger : rest.length ≤ text.length

variable {α β : Type} {c d : Char} {rest s text : List Char}

namespace Taken

/-- The first character was taken. -/
def first (value : α) : Taken α (c :: rest) := ⟨value, rest, by simp⟩

/-- The first two characters were taken. -/
def second (value : α) : Taken α (c :: d :: rest) :=
  ⟨value, rest, by simp only [List.length_cons]; omega⟩

/-- The same with a character before it. -/
def after (taken : Taken α rest) : Taken α (c :: rest) :=
  ⟨taken.value, taken.rest, Nat.lt_succ_of_lt taken.shorter⟩

/-- The same off a longer text. -/
def widen (taken : Taken α s) (h : s.length ≤ text.length) : Taken α text :=
  ⟨taken.value, taken.rest, Nat.lt_of_lt_of_le taken.shorter h⟩

/-- What was taken, with another value. -/
def map (f : α → β) (taken : Taken α text) : Taken β text :=
  ⟨f taken.value, taken.rest, taken.shorter⟩

/-- What was taken by two readers, one after the other. -/
def and (a : Taken α text) (b : Taken β a.rest) : Taken (α × β) text :=
  ⟨(a.value, b.value), b.rest, Nat.lt_trans b.shorter a.shorter⟩

/-- What was taken as what was found. -/
def found (taken : Taken α text) : Remaining α text :=
  ⟨taken.value, taken.rest, Nat.le_of_lt taken.shorter⟩

end Taken

namespace Remaining

/-- Nothing was taken. -/
def nothing (value : α) : Remaining α text := ⟨value, text, Nat.le_refl _⟩

/-- The same with a character before it, which was taken. -/
def after (found : Remaining α rest) : Taken α (c :: rest) :=
  ⟨found.value, found.rest, Nat.lt_succ_of_le found.noLonger⟩

/-- What was found, with another value. -/
def map (f : α → β) (found : Remaining α text) : Remaining β text :=
  ⟨f found.value, found.rest, found.noLonger⟩

/-- What was found by two readers, one after the other. -/
def and (a : Remaining α text) (b : Remaining β a.rest) : Remaining (α × β) text :=
  ⟨(a.value, b.value), b.rest, Nat.le_trans b.noLonger a.noLonger⟩

/-- What was found, and then something taken. -/
def andTaken (a : Remaining α text) (b : Taken β a.rest) : Taken (α × β) text :=
  ⟨(a.value, b.value), b.rest, Nat.lt_of_lt_of_le b.shorter a.noLonger⟩

end Remaining

/-- Something was taken, and then perhaps more. -/
def Taken.andFound (a : Taken α text) (b : Remaining β a.rest) : Taken (α × β) text :=
  ⟨(a.value, b.value), b.rest, Nat.lt_of_le_of_lt b.noLonger a.shorter⟩

/-! ### Characters of a class -/

/-- A text without its leading characters of a class is no longer. -/
theorem length_dropWhile_le (p : Char → Bool) (text : List Char) :
    (text.dropWhile p).length ≤ text.length :=
  (List.dropWhile_suffix p).length_le

/-- The leading characters of a class. -/
def takeMany (p : Char → Bool) (text : List Char) : Remaining (List Char) text :=
  ⟨text.takeWhile p, text.dropWhile p, length_dropWhile_le p text⟩

/-- The leading characters of a class, if there are some. -/
def takeSome (p : Char → Bool) : (text : List Char) → Option (Taken (List Char) text)
  | [] => none
  | c :: rest => if p c then some ((takeMany p rest).map (c :: ·)).after else none

/-! ### Reading again and again -/

section Repeated

variable {m : Type → Type} [Monad m] {σ : Type}

/-- Reads one part after the other up to a last one. -/
@[specialize]
def row (step : (text : List Char) → m (Taken (α ⊕ β) text)) (text : List Char) :
    m (Taken (List α × β) text) := do
  let taken ← step text
  match taken.value with
  | .inr last => return taken.map fun _ => ([], last)
  | .inl part =>
    let others ← row step taken.rest
    return (taken.and others).map fun (_, parts, last) => (part :: parts, last)
termination_by text.length
decreasing_by exact taken.shorter

/-- Reads one part after the other up to the end of the text. -/
@[specialize]
def all (step : (text : List Char) → m (Taken α text)) (text : List Char) : m (List α) :=
  match text with
  | [] => return []
  | c :: rest => do
    let taken ← step (c :: rest)
    let others ← all step taken.rest
    return taken.value :: others
termination_by text.length
decreasing_by exact taken.shorter

/-- Goes from state to state up to a last one. -/
@[specialize]
def loop (step : σ → (text : List Char) → m (Taken (σ ⊕ β) text)) (state : σ)
    (text : List Char) : m (Taken β text) := do
  let taken ← step state text
  match taken.value with
  | .inr last => return taken.map fun _ => last
  | .inl next =>
    let others ← loop step next taken.rest
    return (taken.and others).map Prod.snd
termination_by text.length
decreasing_by exact taken.shorter

end Repeated

end ThriftPages.Text
