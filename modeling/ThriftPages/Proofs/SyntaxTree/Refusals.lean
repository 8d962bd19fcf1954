/-
# Refusals

When a part of a value is changed, the value may be read as before, or refused for a
fault in the changed part; but an earlier fault stays what it was (`Turned`). In a
record the earliest fault is the one in the earliest place (`TurnedAt`). A part that is
added moves the places after it but not their order, so that the same fault stays the
earliest.

Key definitions: `SyntaxTree.Turned`, `SyntaxTree.TurnedAt`.
Key theorems: `SyntaxTree.Turned.mapM_mid`, `SyntaxTree.Turned.foldlM_mid`,
`SyntaxTree.TurnedAt.left`, `SyntaxTree.TurnedAt.right`.
-/
import ThriftPages.SyntaxTree.Record

namespace ThriftPages.SyntaxTree

/-! ### Results -/

/-- Nothing but a fault comes of it. -/
def Failed {ε α : Type} (result : Except ε α) : Prop := ∃ fault, result = .error fault

/-- What becomes of a result. Without a fault it stays; with one, it becomes the fault,
unless there was an earlier one, which stays. -/
inductive Turned {ε α : Type} : Option ε → Except ε α → Except ε α → Prop
  | same (result : Except ε α) : Turned none result result
  | earlier (fault first : ε) : Turned (some fault) (.error first) (.error first)
  | refused (fault : ε) (result : Except ε α) : Turned (some fault) result (.error fault)

namespace Turned

variable {ε ε' α β : Type} {fault : Option ε} {result result' : Except ε α}

theorem of_failed (h : Failed result) : Turned fault result result := by
  obtain ⟨first, rfl⟩ := h
  cases fault with
  | none => exact .same _
  | some fault => exact .earlier fault first

theorem bind (h : Turned fault result result') (next : α → Except ε β) :
    Turned fault (result >>= next) (result' >>= next) := by
  cases h with
  | same => exact .same _
  | earlier fault first => exact .earlier fault first
  | refused fault => exact .refused fault _

/-- What comes before is read alike. -/
theorem after {f g : α → Except ε β} (h : ∀ a, Turned fault (f a) (g a)) (before : Except ε α) :
    Turned fault (before >>= f) (before >>= g) := by
  cases before with
  | ok a => exact h a
  | error first => exact of_failed ⟨first, rfl⟩

theorem map (h : Turned fault result result') (f : α → β) :
    Turned fault (result.map f) (result'.map f) := by
  cases h with
  | same => exact .same _
  | earlier fault first => exact .earlier fault first
  | refused fault => exact .refused fault _

theorem mapError (h : Turned fault result result') (f : ε → ε') :
    Turned (fault.map f) (result.mapError f) (result'.mapError f) := by
  cases h with
  | same => exact .same _
  | earlier fault first => exact .earlier (f fault) (f first)
  | refused fault => exact .refused (f fault) _

/-- One element of a list is changed. -/
theorem mapM_mid {f : α → Except ε β} {a b : α} (h : Turned fault (f a) (f b))
    (before others : List α) :
    Turned fault ((before ++ a :: others).mapM f) ((before ++ b :: others).mapM f) := by
  rw [List.mapM_append, List.mapM_append, List.mapM_cons, List.mapM_cons]
  exact after (fun _ => (h.bind _).bind _) _

/-- One step of a fold is changed. -/
theorem foldlM_mid {f : β → α → Except ε β} {a b : α} (h : ∀ s, Turned fault (f s a) (f s b))
    (before others : List α) (s : β) :
    Turned fault ((before ++ a :: others).foldlM f s) ((before ++ b :: others).foldlM f s) := by
  rw [List.foldlM_append, List.foldlM_append]
  refine after (fun s => ?_) _
  rw [List.foldlM_cons, List.foldlM_cons]
  exact (h s).bind _

end Turned

/-! ### Places of faults -/

/-- The same fault in another place. -/
def Located.moved (move : Nat → Nat) (l : Located) : Located := ⟨move l.place, l.fault⟩

/-- Places are moved without changing their order. -/
def KeepsOrder (move : Nat → Nat) : Prop := ∀ p q, move p < move q ↔ p < q

theorem keepsOrder_id : KeepsOrder id := fun _ _ => Iff.rfl

/-- Places from the given one on are moved by one. -/
def shift (start p : Nat) : Nat := if p < start then p else p + 1

theorem keepsOrder_shift (start : Nat) : KeepsOrder (shift start) := by
  intro p q
  unfold shift
  by_cases hp : p < start
  · by_cases hq : q < start
    · rw [if_pos hp, if_pos hq]
    · rw [if_pos hp, if_neg hq]
      omega
  · by_cases hq : q < start
    · rw [if_neg hp, if_pos hq]
      omega
    · rw [if_neg hp, if_neg hq]
      omega

theorem mapError_id {α : Type} (result : Except Located α) :
    result.mapError (Located.moved id) = result := by
  cases result <;> rfl

theorem Located.earliest_moved {move : Nat → Nat} (h : KeepsOrder move) (a b : Located) :
    (a.moved move).earliest (b.moved move) = (a.earliest b).moved move := by
  have hiff : (b.moved move).place < (a.moved move).place ↔ b.place < a.place := h _ _
  unfold Located.earliest
  by_cases hlt : b.place < a.place
  · rw [if_pos hlt, if_pos (hiff.2 hlt)]
  · rw [if_neg hlt, if_neg fun hlt' => hlt (hiff.1 hlt')]

theorem both_moved {α β : Type} {move : Nat → Nat} (h : KeepsOrder move)
    (f : Except Located (α → β)) (a : Except Located α) :
    both (f.mapError (Located.moved move)) (a.mapError (Located.moved move)) =
      (both f a).mapError (Located.moved move) := by
  cases f with
  | ok f => cases a <;> rfl
  | error d =>
    cases a with
    | ok a => rfl
    | error e => exact congrArg Except.error (Located.earliest_moved h d e)

/-- No fault is in an earlier place. -/
def Late {α : Type} (move : Nat → Nat) (place : Nat) (result : Except Located α) : Prop :=
  ∀ first, result = .error first → place ≤ move first.place

theorem Late.both {α β : Type} {move : Nat → Nat} {place : Nat} {f : Except Located (α → β)}
    {a : Except Located α} (hf : Late move place f) (ha : Late move place a) :
    Late move place (both f a) := by
  intro first h
  cases f with
  | ok g =>
    cases a with
    | ok a => cases h
    | error e =>
      cases h
      exact ha first rfl
  | error d =>
    cases a with
    | ok a =>
      cases h
      exact hf first rfl
    | error e =>
      cases h
      unfold Located.earliest
      by_cases hlt : e.place < d.place
      · rw [if_pos hlt]
        exact ha e rfl
      · rw [if_neg hlt]
        exact hf d rfl

/-- What becomes of the fields of a record when there may be a fault in the given place:
an earlier one stays, in its own place. -/
inductive TurnedAt {α : Type} (move : Nat → Nat) (place : Nat) :
    Option Fault → Except Located α → Except Located α → Prop
  | same (result : Except Located α) :
      TurnedAt move place none result (result.mapError (Located.moved move))
  | earlier (fault : Fault) (first : Located) :
      TurnedAt move place (some fault) (.error first) (.error (first.moved move))
  | refused (fault : Fault) {result : Except Located α} (h : Late move place result) :
      TurnedAt move place (some fault) result (.error ⟨place, fault⟩)

namespace TurnedAt

variable {α β : Type} {move : Nat → Nat} {place : Nat} {fault : Option Fault}

theorem of_failed {result : Except Located α} (h : Failed result) :
    TurnedAt move place fault result (result.mapError (Located.moved move)) := by
  obtain ⟨first, rfl⟩ := h
  cases fault with
  | none => exact .same _
  | some fault => exact .earlier fault first

/-- Nothing is changed, and nothing moved. -/
theorem same_id (result : Except Located α) : TurnedAt id place none result result := by
  have h : TurnedAt id place none result _ := same result
  rwa [mapError_id] at h

theorem of_failed_id {result : Except Located α} (h : Failed result) :
    TurnedAt id place fault result result := by
  have h' : TurnedAt id place fault result _ := of_failed h
  rwa [mapError_id] at h'

theorem turned {result result' : Except Located α} (h : TurnedAt move place fault result result') :
    Turned fault (result.mapError Located.fault) (result'.mapError Located.fault) := by
  cases h with
  | same =>
    cases result with
    | ok a => exact .same _
    | error first => exact .same _
  | earlier fault first => exact .earlier fault first.fault
  | refused fault => exact .refused fault _

/-- The other fields are read alike, and behind. -/
theorem left (hm : KeepsOrder move) {f f' : Except Located (α → β)}
    (h : TurnedAt move place fault f f') (a : Except Located α) :
    TurnedAt move place fault (both f a) (both f' (a.mapError (Located.moved move))) := by
  cases h with
  | same =>
    rw [both_moved hm]
    exact .same _
  | earlier fault first =>
    have hfails : Failed (both (.error first) a : Except Located β) := by
      cases a with
      | ok a => exact ⟨first, rfl⟩
      | error e => exact ⟨first.earliest e, rfl⟩
    have hturned : TurnedAt move place (some fault) _ _ := of_failed hfails
    rwa [← both_moved hm] at hturned
  | refused fault hlate =>
    cases a with
    | ok a => exact .refused fault (hlate.both nofun)
    | error e =>
      by_cases hlt : move e.place < place
      · have hfirst : both f (.error e) = .error e := by
          cases f with
          | ok g => rfl
          | error d =>
            have hd : move e.place < move d.place := Nat.lt_of_lt_of_le hlt (hlate d rfl)
            exact congrArg Except.error (if_pos ((hm _ _).1 hd))
        have hmoved : (⟨place, fault⟩ : Located).earliest (e.moved move) = e.moved move :=
          if_pos hlt
        show TurnedAt move place _ _ (.error ((⟨place, fault⟩ : Located).earliest (e.moved move)))
        rw [hfirst, hmoved]
        exact .earlier fault e
      · have hplace : (⟨place, fault⟩ : Located).earliest (e.moved move) = ⟨place, fault⟩ :=
          if_neg hlt
        show TurnedAt move place _ _ (.error ((⟨place, fault⟩ : Located).earliest (e.moved move)))
        rw [hplace]
        refine .refused fault (hlate.both fun first hfirst => ?_)
        cases hfirst
        exact Nat.le_of_not_lt hlt

/-- The other fields are read alike, and before. -/
theorem right (hm : KeepsOrder move) (f : Except Located (α → β)) {a a' : Except Located α}
    (h : TurnedAt move place fault a a') :
    TurnedAt move place fault (both f a) (both (f.mapError (Located.moved move)) a') := by
  cases h with
  | same =>
    rw [both_moved hm]
    exact .same _
  | earlier fault first =>
    have hfails : Failed (both f (.error first) : Except Located β) := by
      cases f with
      | ok g => exact ⟨first, rfl⟩
      | error d => exact ⟨d.earliest first, rfl⟩
    have hturned : TurnedAt move place (some fault) _ _ := of_failed hfails
    rwa [← both_moved hm] at hturned
  | refused fault hlate =>
    cases f with
    | ok g => exact .refused fault (Late.both nofun hlate)
    | error d =>
      by_cases hlt : place < move d.place
      · have hplace : (d.moved move).earliest ⟨place, fault⟩ = ⟨place, fault⟩ := if_pos hlt
        show TurnedAt move place _ _ (.error ((d.moved move).earliest ⟨place, fault⟩))
        rw [hplace]
        refine .refused fault (Late.both (fun first hfirst => ?_) hlate)
        cases hfirst
        exact Nat.le_of_lt hlt
      · have hfirst : both (.error d) a = (.error d : Except Located β) := by
          cases a with
          | ok a => rfl
          | error e =>
            have he : ¬move e.place < move d.place := by
              have hle := hlate e rfl
              omega
            exact congrArg Except.error (if_neg fun hed => he ((hm _ _).2 hed))
        have hmoved : (d.moved move).earliest ⟨place, fault⟩ = d.moved move := if_neg hlt
        show TurnedAt move place _ _ (.error ((d.moved move).earliest ⟨place, fault⟩))
        rw [hfirst, hmoved]
        exact .earlier fault d

end TurnedAt

end ThriftPages.SyntaxTree
