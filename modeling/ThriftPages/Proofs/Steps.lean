/-
# Steps that may fail

A row of steps gives a result if each of them does, and fails with the first
fault otherwise.

Key theorems: `Steps.bind_eq_ok_iff`, `Steps.mapM_eq_ok_iff`.
-/
import Mathlib.Data.List.Forall2

namespace ThriftPages.Steps

variable {φ ψ α β γ : Type}

theorem ok_bind (value : α) (next : α → Except φ β) : Except.ok value >>= next = next value := rfl

theorem ok_mapError (value : α) (f : φ → ψ) : (Except.ok value).mapError f = .ok value := rfl

theorem map_bind (step : Except φ α) (f : α → β) (next : β → Except φ γ) :
    step.map f >>= next = step >>= fun value => next (f value) := by
  cases step <;> rfl

/-- Two steps give a result if the first gives one with which the second does. -/
theorem bind_eq_ok_iff {step : Except φ α} {next : α → Except φ β} {result : β} :
    step >>= next = .ok result ↔ ∃ value, step = .ok value ∧ next value = .ok result := by
  cases step with
  | error fault => exact ⟨nofun, nofun⟩
  | ok value => exact ⟨fun h => ⟨value, rfl, h⟩, fun ⟨_, hvalue, h⟩ => Except.ok.inj hvalue ▸ h⟩

theorem mapError_eq_ok_iff {step : Except φ α} {f : φ → ψ} {result : α} :
    step.mapError f = .ok result ↔ step = .ok result := by
  cases step with
  | error fault => exact ⟨nofun, nofun⟩
  | ok value =>
    exact ⟨fun h => congrArg Except.ok (Except.ok.inj h),
      fun h => congrArg Except.ok (Except.ok.inj h)⟩

/-- The first fault of a row of steps may be changed before or after. -/
theorem mapError_bind (step : Except φ α) (next : α → Except φ β) (f : φ → ψ) :
    (step >>= next).mapError f = step.mapError f >>= fun value => (next value).mapError f := by
  cases step <;> rfl

theorem mapM_mapError (step : α → Except φ β) (f : φ → ψ) (as : List α) :
    (as.mapM step).mapError f = as.mapM fun a => (step a).mapError f := by
  induction as with
  | nil => rfl
  | cons a as ih =>
    simp only [List.mapM_cons, mapError_bind, ih]
    rfl

theorem toOption_eq_some_iff {step : Except φ α} {result : α} :
    step.toOption = some result ↔ step = .ok result := by
  cases step <;> simp [Except.toOption]

/-- The same step on every element gives one result for each. -/
theorem mapM_eq_ok_iff {step : α → Except φ β} {as : List α} {bs : List β} :
    as.mapM step = .ok bs ↔ List.Forall₂ (fun a b => step a = .ok b) as bs := by
  induction as generalizing bs with
  | nil =>
    rw [List.mapM_nil, List.forall₂_nil_left_iff]
    exact ⟨fun h => (Except.ok.inj h).symm, fun h => h ▸ rfl⟩
  | cons a as ih =>
    rw [List.mapM_cons, List.forall₂_cons_left_iff]
    constructor
    · intro h
      obtain ⟨b, hb, h⟩ := bind_eq_ok_iff.1 h
      obtain ⟨others, hothers, h⟩ := bind_eq_ok_iff.1 h
      exact ⟨b, others, hb, ih.1 hothers, (Except.ok.inj h).symm⟩
    · rintro ⟨b, others, hb, hothers, rfl⟩
      rw [hb, ih.2 hothers]
      rfl

end ThriftPages.Steps
