/-
# What a reader finds

A reader gives back a value and what is left of the text, together with a proof
that less is left. Two readings of different texts can only be compared without
that proof: `outcome` forgets it, and `run` reads to an outcome. Of reading again
and again, one step is enough to know (`run_row`, `run_loop`): what follows is
the same reading of what is left.

Key definitions: `Text.outcome`, `Text.run`.
Key theorems: `Text.run_row`, `Text.run_loop`.
-/
import ThriftPages.Text.Taken

namespace ThriftPages.Text

variable {φ α β γ : Type} {c d : Char} {rest s text : List Char}

/-- What was taken and what is left. -/
def Taken.parts (taken : Taken α text) : α × List Char := (taken.value, taken.rest)

/-- What a reader found and left, or why it failed. -/
def outcome (result : Except φ (Taken α text)) : Except φ (α × List Char) :=
  result.map Taken.parts

@[simp] theorem outcome_ok (taken : Taken α text) :
    outcome (.ok taken : Except φ (Taken α text)) = .ok (taken.value, taken.rest) := rfl

@[simp] theorem outcome_error (fault : φ) :
    outcome (.error fault : Except φ (Taken α text)) = .error fault := rfl

/-- An outcome is that of one thing taken. -/
theorem outcome_eq_ok_iff {result : Except φ (Taken α text)} {value : α} :
    outcome result = .ok (value, rest) ↔ ∃ h, result = .ok ⟨value, rest, h⟩ := by
  constructor
  · intro h
    cases result with
    | error fault => cases h
    | ok taken =>
      obtain ⟨rfl, rfl⟩ : taken.value = value ∧ taken.rest = rest := by simpa using h
      exact ⟨taken.shorter, rfl⟩
  · rintro ⟨h, rfl⟩
    rfl

/-- What was found and what remains. -/
def Remaining.parts (found : Remaining α text) : α × List Char := (found.value, found.rest)

/-- What a reader found that perhaps took nothing, or why it failed. -/
def finding (result : Except φ (Remaining α text)) : Except φ (α × List Char) :=
  result.map Remaining.parts

/-- A finding is that of one thing found. -/
theorem finding_eq_ok_iff {result : Except φ (Remaining α text)} {value : α} :
    finding result = .ok (value, rest) ↔ ∃ h, result = .ok ⟨value, rest, h⟩ := by
  constructor
  · intro h
    cases result with
    | error fault => cases h
    | ok found =>
      obtain ⟨rfl, rfl⟩ : found.value = value ∧ found.rest = rest := by
        simpa [finding, Except.map, Remaining.parts] using h
      exact ⟨found.noLonger, rfl⟩
  · rintro ⟨h, rfl⟩
    rfl

@[simp] theorem outcome_map (f : α → β) (result : Except φ (Taken α text)) :
    outcome (result.map fun taken => taken.map f) =
      (outcome result).map fun found => (f found.1, found.2) := by
  cases result <;> rfl

@[simp] theorem outcome_after (result : Except φ (Taken α rest)) :
    outcome (result.map fun taken => (taken.after : Taken α (c :: rest))) = outcome result := by
  cases result <;> rfl

@[simp] theorem outcome_map_after (f : α → β) (result : Except φ (Taken α rest)) :
    outcome (result.map fun taken => ((taken.map f).after : Taken β (c :: rest))) =
      (outcome result).map fun found => (f found.1, found.2) := by
  cases result <;> rfl

@[simp] theorem outcome_widen (h : s.length ≤ text.length) (result : Except φ (Taken α s)) :
    outcome (result.map fun taken => taken.widen h) = outcome result := by
  cases result <;> rfl

/-- What is read next depends on what was found and left only. -/
theorem outcome_bind {result : Except φ (Taken α text)} {next : Taken α text → Except φ (Taken β s)}
    {f : α × List Char → Except φ (β × List Char)}
    (h : ∀ taken, outcome (next taken) = f taken.parts) :
    outcome (result >>= next) = outcome result >>= f := by
  cases result with
  | error fault => rfl
  | ok taken => exact h taken

/-- What a reader finds in a text and leaves of it, or why it fails. -/
def run (read : (text : List Char) → Except φ (Taken α text)) (text : List Char) :
    Except φ (α × List Char) :=
  outcome (read text)

theorem run_eq_ok_iff {read : (text : List Char) → Except φ (Taken α text)} {value : α} :
    run read text = .ok (value, rest) ↔ ∃ h, read text = .ok ⟨value, rest, h⟩ :=
  outcome_eq_ok_iff

theorem run_eq_error_iff {read : (text : List Char) → Except φ (Taken α text)} {fault : φ} :
    run read text = .error fault ↔ read text = .error fault := by
  unfold run
  cases read text <;> simp

theorem run_map (f : α → β) (read : (text : List Char) → Except φ (Taken α text)) :
    run (fun text => (read text).map fun taken => taken.map f) text =
      (run read text).map fun found => (f found.1, found.2) :=
  outcome_map f _

section Repeated

variable {σ : Type}

/-- A row is its first part and the row of what is left. -/
theorem run_row (step : (text : List Char) → Except φ (Taken (α ⊕ β) text)) (text : List Char) :
    run (row step) text = run step text >>= fun
      | (.inr last, rest) => .ok (([], last), rest)
      | (.inl part, rest) =>
        (run (row step) rest).map fun found => ((part :: found.1.1, found.1.2), found.2) := by
  unfold run
  rw [row]
  refine outcome_bind fun taken => ?_
  obtain ⟨part | last, rest, h⟩ := taken
  · simp only [Taken.parts]
    cases row step rest <;> rfl
  · rfl

/-- A loop is its first step and the loop from there. -/
theorem run_loop (step : σ → (text : List Char) → Except φ (Taken (σ ⊕ β) text)) (state : σ)
    (text : List Char) :
    run (loop step state) text = run (step state) text >>= fun
      | (.inr last, rest) => .ok (last, rest)
      | (.inl next, rest) => run (loop step next) rest := by
  unfold run
  rw [loop]
  refine outcome_bind fun taken => ?_
  obtain ⟨next | last, rest, h⟩ := taken
  · simp only [Taken.parts]
    cases loop step next rest <;> rfl
  · rfl

end Repeated

end ThriftPages.Text
