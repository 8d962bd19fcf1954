/-
# Values are read as they are spelled

A value is read from any of its spellings and from the text after it nothing is
taken. It fails only if more brackets are open in the value than may be, and
then for this reason (`Json.value_spelled`).

Without a limit a text is read by allowing as many brackets as it has
characters: no value needs more (`Json.Spells.depth_le`).

Key definitions: `Json.ofTextWithin?`, `Json.ofText?`.
Key theorems: `Json.value_spelled`, `Json.ofText?_spelled`.
-/
import ThriftPages.Json.Value
import ThriftPages.Proofs.Json.Brackets
import ThriftPages.Proofs.Json.Nesting

namespace ThriftPages.Json

open Text (Taken Remaining outcome run outcome_eq_ok_iff run_eq_ok_iff outcome_bind)

variable {ε : Type}

/-! ### The beginning of a value -/

theorem run_lead (text : List Char) :
    run (lead (ε := ε)) text = run leadFrom (skipBlanks text) :=
  run_afterBlanks _ _

theorem run_lead_array {before : List Char} (hb : Blanks before) (rest : List Char) :
    run (lead (ε := ε)) (before ++ '[' :: rest) = .ok (.array, rest) := by
  rw [run_lead, skipBlanks_append hb, skipBlanks_cons (by decide)]
  rfl

theorem run_lead_object {before : List Char} (hb : Blanks before) (rest : List Char) :
    run (lead (ε := ε)) (before ++ '{' :: rest) = .ok (.object, rest) := by
  rw [run_lead, skipBlanks_append hb, skipBlanks_cons (by decide)]
  rfl

/-- A scalar is read whole. -/
theorem run_lead_scalar {value : Json} {before text rest : List Char}
    (ha : ∀ elements, value ≠ .array elements) (ho : ∀ members, value ≠ .object members)
    (hb : Blanks before) (h : Spells value text) (hr : EndsNumber rest) :
    run (lead (ε := ε)) (before ++ (text ++ rest)) = .ok (.scalar value, rest) := by
  rw [run_lead, h.skipBlanks_before hb]
  cases h with
  | null => rfl
  | @boolean value => cases value <;> rfl
  | @number n _ h =>
    have hnumber := run_readNumber (ε := ε) h hr
    obtain ⟨literal, -, hspelled⟩ := h
    obtain ⟨c, others, he, hc⟩ := hspelled.head rest
    rw [he] at hnumber ⊢
    have hlead : leadFrom (ε := ε) (c :: others) = (readNumber (c :: others)).map fun n =>
        n.map fun n => Lead.scalar (.number n) := by
      rw [leadFrom.eq_8, if_pos hc] <;> rintro rfl <;> simp at hc
    refine (congrArg outcome hlead).trans ((Text.outcome_map _ _).trans ?_)
    rw [show outcome (readNumber (c :: others)) = _ from hnumber]
    rfl
  | string h =>
    rw [List.cons_append, List.append_assoc, List.singleton_append]
    have hs := run_stringRest (ε := ε) h rest
    simp only [run, leadFrom] at hs ⊢
    rw [Text.outcome_map_after, hs]
    rfl
  | array => exact absurd rfl (ha _)
  | object => exact absurd rfl (ho _)

/-- How a value begins. -/
def Lead.of : Json → Lead
  | .array _ => .array
  | .object _ => .object
  | value => .scalar value

/-- The beginning of a value tells what it is. -/
theorem run_lead_of {value : Json} {before text rest : List Char} (hb : Blanks before)
    (h : Spells value text) (hr : EndsNumber rest) :
    ∃ left, run (lead (ε := ε)) (before ++ (text ++ rest)) = .ok (Lead.of value, left) := by
  cases value with
  | array elements =>
    cases h with
    | array h => exact ⟨_, run_lead_array hb _⟩
  | object members =>
    cases h with
    | object h => exact ⟨_, run_lead_object hb _⟩
  | _ => exact ⟨rest, run_lead_scalar (by simp) (by simp) hb h hr⟩

/-! ### Whole values -/

theorem run_valueOf_scalar {text rest : List Char} {value : Json} (part : Option (Reader ε Json))
    (h : run (lead (ε := ε)) text = .ok (.scalar value, rest)) :
    run (valueOf part) text = .ok (value, rest) := by
  obtain ⟨_, hlead⟩ := run_eq_ok_iff.1 h
  simp [run, valueOf, hlead, bind, Except.bind, pure, Except.pure, Taken.map]

theorem run_valueOf_none {text rest : List Char} {first : Lead}
    (h : run (lead (ε := ε)) text = .ok (first, rest)) (hf : first = .array ∨ first = .object) :
    run (valueOf (ε := ε) none) text = malformed .tooDeep := by
  obtain ⟨_, hlead⟩ := run_eq_ok_iff.1 h
  rcases hf with rfl | rfl <;>
    simp [run, valueOf, hlead, bind, Except.bind, malformed]

theorem run_valueOf_array {text rest : List Char} (part : Reader ε Json)
    (h : run (lead (ε := ε)) text = .ok (.array, rest)) :
    run (valueOf (some part)) text =
      (run (elements part) rest).map fun found => (.array found.1, found.2) := by
  obtain ⟨_, hlead⟩ := run_eq_ok_iff.1 h
  simp only [run, valueOf, hlead, bind, Except.bind]
  cases elements part rest <;> rfl

theorem run_valueOf_object {text rest : List Char} (part : Reader ε Json)
    (h : run (lead (ε := ε)) text = .ok (.object, rest)) :
    run (valueOf (some part)) text =
      (run (members (collect part) []) rest).map fun found =>
        (.object found.1.reverse, found.2) := by
  obtain ⟨_, hlead⟩ := run_eq_ok_iff.1 h
  simp only [run, valueOf, hlead, bind, Except.bind]
  cases members (collect part) [] rest <;> rfl

theorem readsMember_collect {m : String × Json} {read : Reader ε Json} {levels : Nat}
    (h : ReadsAs read m.2 (within levels m.2)) :
    ReadsMember (collect read) m fun before => collectWithin levels before m :=
  fun before => h.map fun v => (m.1, v) :: before

/-- **A value is read from each of its spellings**, if it is within the limit. -/
theorem value_spelled (v : Json) : ∀ levels,
    ReadsAs (value (ε := ε) levels) v (within levels v) := by
  have hscalar : ∀ v : Json, v.depth = 0 → (∀ elements, v ≠ .array elements) →
      (∀ members, v ≠ .object members) → ∀ levels,
      ReadsAs (value (ε := ε) levels) v (within levels v) := by
    intro v hd ha ho levels before text rest hb h hr
    rw [within_of_le (by omega)]
    have hlead := run_lead_scalar (ε := ε) ha ho hb h hr
    cases levels with
    | zero => exact run_valueOf_scalar none hlead
    | succ levels => exact run_valueOf_scalar (some (value levels)) hlead
  induction v using nested with
  | null | boolean | number | string => exact hscalar _ rfl (by simp) (by simp)
  | array vs ih =>
    intro levels before text rest hb h hr
    cases h with
    | @array _ text h =>
      rw [List.cons_append, List.append_assoc, List.singleton_append]
      have hlead := run_lead_array (ε := ε) hb (text ++ ']' :: rest)
      cases levels with
      | zero =>
        rw [within_of_lt (by simp [depth])]
        exact run_valueOf_none hlead (.inl rfl)
      | succ levels =>
        rw [value, run_valueOf_array _ hlead, elements_spelled h fun v hv => ih v hv levels,
          within_array]
        cases List.mapM (within levels) vs <;> rfl
  | object ms ih =>
    intro levels before text rest hb h hr
    cases h with
    | @object _ text h =>
      rw [List.cons_append, List.append_assoc, List.singleton_append]
      have hlead := run_lead_object (ε := ε) hb (text ++ '}' :: rest)
      cases levels with
      | zero =>
        rw [within_of_lt (by simp [depth])]
        exact run_valueOf_none hlead (.inr rfl)
      | succ levels =>
        rw [value, run_valueOf_object _ hlead,
          members_spelled h fun m hm => readsMember_collect (ih m hm levels), within_object]
        cases List.foldlM (collectWithin levels) [] ms <;> rfl

/-! ### Whole texts -/

/-- The value that a whole text spells, if no more than `levels` brackets are open in it
at once. -/
def ofTextWithin? (levels : Nat) (text : String) : Option Json :=
  match value (ε := Empty) levels text.toList with
  | .ok taken => if (skipBlanks taken.rest).isEmpty then some taken.value else none
  | .error _ => none

/-- The value that a whole text spells. As many brackets may be open in it as it has
characters, which is no limit. -/
def ofText? (text : String) : Option Json := ofTextWithin? text.length text

theorem ofTextWithin?_spelled {v : Json} {levels : Nat} {text : String}
    (h : SpellsText v text.toList) (hd : v.depth ≤ levels) :
    ofTextWithin? levels text = some v := by
  obtain ⟨before, inner, after, hb, hs, ha, ht⟩ := h
  have hread := value_spelled (ε := Empty) v levels before inner after hb hs
    (by simpa using endsNumber_nil.append ha)
  rw [within_of_le hd, ← ht] at hread
  obtain ⟨_, hvalue⟩ := run_eq_ok_iff.1 hread
  simp [ofTextWithin?, hvalue, skipBlanks_blanks ha]

/-- Elements are spelled inside the text of their array. -/
theorem SpellsElements.mem {v : Json} : ∀ {values : List Json} {text : List Char},
    SpellsElements values text → v ∈ values →
      ∃ inner, Spells v inner ∧ inner.length ≤ text.length
  | _, _, .nil _, hv => absurd hv List.not_mem_nil
  | _, _, .one _ h _, hv => by
    obtain rfl := List.mem_singleton.1 hv
    exact ⟨_, h, by simp only [List.length_append]; omega⟩
  | _, _, .cons _ h _ ho, hv => by
    rcases List.mem_cons.1 hv with rfl | hv
    · exact ⟨_, h, by simp only [List.length_append]; omega⟩
    · obtain ⟨inner, hs, hl⟩ := ho.mem hv
      refine ⟨inner, hs, ?_⟩
      simp only [List.length_append, List.length_cons]
      omega

/-- A value is spelled inside the text of its member. -/
theorem SpellsMember.value {m : String × Json} {text : List Char} (h : SpellsMember m text) :
    ∃ inner, Spells m.2 inner ∧ inner.length ≤ text.length := by
  obtain ⟨hb, hk, hc, hd, h, ha⟩ := h
  refine ⟨_, h, ?_⟩
  simp only [List.length_append, List.length_cons]
  omega

/-- Values of members are spelled inside the text of their object. -/
theorem SpellsMembers.mem {m : String × Json} : ∀ {members : List (String × Json)}
    {text : List Char}, SpellsMembers members text → m ∈ members →
      ∃ inner, Spells m.2 inner ∧ inner.length ≤ text.length
  | _, _, .nil _, hm => absurd hm List.not_mem_nil
  | _, _, .one h, hm => by
    obtain rfl := List.mem_singleton.1 hm
    exact h.value
  | _, _, .cons h ho, hm => by
    rcases List.mem_cons.1 hm with rfl | hm
    · obtain ⟨inner, hs, hl⟩ := h.value
      exact ⟨inner, hs, by simp only [List.length_append]; omega⟩
    · obtain ⟨inner, hs, hl⟩ := ho.mem hm
      refine ⟨inner, hs, ?_⟩
      simp only [List.length_append, List.length_cons]
      omega

/-- Every bracket of a value takes a character of its spelling. -/
theorem Spells.depth_le {v : Json} :
    ∀ {text : List Char}, Spells v text → v.depth ≤ text.length := by
  induction v using nested with
  | null | boolean | number | string => intros; simp [depth]
  | array vs ih =>
    intro text h
    cases h with
    | @array _ text h =>
      have hparts : depthOfElements vs ≤ text.length := by
        refine (depthOfElements_le_iff vs).2 fun v hv => ?_
        obtain ⟨inner, hs, hl⟩ := h.mem hv
        exact Nat.le_trans (ih v hv hs) hl
      simp only [depth, List.length_cons, List.length_append]
      omega
  | object ms ih =>
    intro text h
    cases h with
    | @object _ text h =>
      have hparts : depthOfMembers ms ≤ text.length := by
        refine (depthOfMembers_le_iff ms).2 fun m hm => ?_
        obtain ⟨inner, hs, hl⟩ := h.mem hm
        exact Nat.le_trans (ih m hm hs) hl
      simp only [depth, List.length_cons, List.length_append]
      omega

/-- **A whole text that spells a value is read as this value**, however deeply it is
nested. -/
theorem ofText?_spelled {v : Json} {text : String} (h : SpellsText v text.toList) :
    ofText? text = some v := by
  refine ofTextWithin?_spelled h ?_
  obtain ⟨before, inner, after, hb, hs, ha, ht⟩ := h
  have hlength : text.length = before.length + (inner.length + after.length) := by
    rw [← String.length_toList, ht, List.length_append, List.length_append]
  have hdepth := hs.depth_le
  omega

end ThriftPages.Json
