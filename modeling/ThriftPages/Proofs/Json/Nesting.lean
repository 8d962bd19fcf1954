/-
# Nesting of JSON values

What holds of scalars, and of an array or object whenever it holds of its parts,
holds of every value (`Json.nested`). A value is within a limit if no more
brackets are open in it at once (`Json.within`); then its parts are within one
level less.

Key definitions: `Json.within`.
Key theorems: `Json.within_array`, `Json.within_object`.
-/
import ThriftPages.Json.Reader

namespace ThriftPages.Json

/-- Induction on the nesting of a value. -/
@[elab_as_elim] theorem nested {P : Json → Prop} (null : P .null)
    (boolean : ∀ value, P (.boolean value)) (number : ∀ value, P (.number value))
    (string : ∀ value, P (.string value))
    (array : ∀ elements, (∀ v ∈ elements, P v) → P (.array elements))
    (object : ∀ members, (∀ m ∈ members, P m.2) → P (.object members)) (value : Json) :
    P value :=
  @Json.rec P (fun elements => ∀ v ∈ elements, P v) (fun members => ∀ m ∈ members, P m.2)
    (fun m => P m.2) null boolean number string array object (by simp)
    (fun _ _ head tail => List.forall_mem_cons.2 ⟨head, tail⟩) (by simp)
    (fun _ _ head tail => List.forall_mem_cons.2 ⟨head, tail⟩) (fun _ _ h => h) value

/-! ### Depth -/

theorem depthOfElements_cons_le_iff {n : Nat} {value : Json} {rest : List Json} :
    depthOfElements (value :: rest) ≤ n ↔ value.depth ≤ n ∧ depthOfElements rest ≤ n := by
  rw [depthOfElements, Nat.max_le]

theorem depthOfMembers_cons_le_iff {n : Nat} {key : String} {value : Json}
    {rest : List (String × Json)} :
    depthOfMembers ((key, value) :: rest) ≤ n ↔ value.depth ≤ n ∧ depthOfMembers rest ≤ n := by
  rw [depthOfMembers, Nat.max_le]

theorem depthOfElements_le_iff {n : Nat} : ∀ elements : List Json,
    depthOfElements elements ≤ n ↔ ∀ v ∈ elements, v.depth ≤ n
  | [] => by simp [depthOfElements]
  | value :: rest => by simp [depthOfElements_cons_le_iff, depthOfElements_le_iff rest]

theorem depthOfMembers_le_iff {n : Nat} : ∀ members : List (String × Json),
    depthOfMembers members ≤ n ↔ ∀ m ∈ members, m.2.depth ≤ n
  | [] => by simp [depthOfMembers]
  | (key, value) :: rest => by
    simp [depthOfMembers_cons_le_iff, depthOfMembers_le_iff rest]

theorem depthOfElements_append (before others : List Json) :
    depthOfElements (before ++ others) = max (depthOfElements before) (depthOfElements others) := by
  induction before with
  | nil => simp [depthOfElements]
  | cons value before ih =>
    rw [List.cons_append, depthOfElements, depthOfElements, ih, Nat.max_assoc]

theorem depthOfMembers_append (before others : List (String × Json)) :
    depthOfMembers (before ++ others) = max (depthOfMembers before) (depthOfMembers others) := by
  induction before with
  | nil => simp [depthOfMembers]
  | cons m before ih =>
    rw [List.cons_append, depthOfMembers, depthOfMembers, ih, Nat.max_assoc]

section

variable {ε : Type} {levels : Nat}

/-- A value, unless too many brackets are open in it at once. -/
def within (levels : Nat) (value : Json) : Except (ReadError ε) Json :=
  if value.depth ≤ levels then .ok value else malformed .tooDeep

/-- A member in front of others, if its value is within the limit. -/
def collectWithin (levels : Nat) (before : List (String × Json)) (m : String × Json) :
    Except (ReadError ε) (List (String × Json)) :=
  (within levels m.2).map fun value => (m.1, value) :: before

theorem within_of_le {value : Json} (h : value.depth ≤ levels) :
    within (ε := ε) levels value = .ok value := if_pos h

theorem within_of_lt {value : Json} (h : ¬value.depth ≤ levels) :
    within (ε := ε) levels value = malformed .tooDeep := if_neg h

/-- The elements of an array are within the limit if the deepest is. -/
theorem mapM_within (elements : List Json) :
    elements.mapM (within (ε := ε) levels) =
      if depthOfElements elements ≤ levels then .ok elements else malformed .tooDeep := by
  induction elements with
  | nil => simp [depthOfElements, pure, Except.pure]
  | cons value rest ih =>
    rw [List.mapM_cons, ih]
    by_cases hv : value.depth ≤ levels
    · by_cases hr : depthOfElements rest ≤ levels <;>
        simp [within_of_le hv, depthOfElements_cons_le_iff, hv, hr, bind, Except.bind, pure,
          Except.pure, malformed]
    · simp [within_of_lt hv, depthOfElements_cons_le_iff, hv, bind, Except.bind, malformed]

/-- The members of an object are within the limit if the deepest value is. -/
theorem foldlM_collectWithin (members before : List (String × Json)) :
    members.foldlM (collectWithin (ε := ε) levels) before =
      if depthOfMembers members ≤ levels then .ok (members.reverse ++ before)
      else malformed .tooDeep := by
  induction members generalizing before with
  | nil => simp [depthOfMembers, pure, Except.pure]
  | cons m rest ih =>
    obtain ⟨key, value⟩ := m
    rw [List.foldlM_cons, collectWithin]
    by_cases hv : value.depth ≤ levels
    · simp [within_of_le hv, Except.map, bind, Except.bind, ih, depthOfMembers_cons_le_iff, hv]
    · simp [within_of_lt hv, Except.map, bind, Except.bind, depthOfMembers_cons_le_iff, hv,
        malformed]

/-- An array is within a limit if its elements are within one level less. -/
theorem within_array (elements : List Json) :
    within (ε := ε) (levels + 1) (.array elements) =
      (elements.mapM (within levels)).map Json.array := by
  rw [mapM_within]
  simp only [within, depth, Nat.add_le_add_iff_right]
  split <;> rfl

/-- An object is within a limit if its values are within one level less. -/
theorem within_object (members : List (String × Json)) :
    within (ε := ε) (levels + 1) (.object members) =
      (members.foldlM (collectWithin levels) []).map fun found => Json.object found.reverse := by
  rw [foldlM_collectWithin]
  simp only [within, depth, Nat.add_le_add_iff_right]
  split
  · simp [Except.map]
  · rfl

end

end ThriftPages.Json
