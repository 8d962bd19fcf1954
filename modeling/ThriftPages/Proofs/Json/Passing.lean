/-
# Values are passed over as they are spelled

`Json.skip` goes through a value with a list of the brackets that are open in
place of a recursion. Whatever brackets are open around a value, it is passed
over from its beginning to its end, and then the reader is where it would be
after any other value (`Json.passesOver`). So a value that nobody asks for is
skipped wherever it is spelled, however deeply it is nested.

Key definitions: `Json.passed`, `Json.PassesOver`.
Key theorems: `Json.passesOver`, `Json.skip_spelled`.
-/
import ThriftPages.Json.Skip
import ThriftPages.Proofs.Json.Brackets
import ThriftPages.Proofs.Json.Nesting

namespace ThriftPages.Json

open Text (Taken Remaining outcome run finding outcome_eq_ok_iff run_eq_ok_iff finding_eq_ok_iff)

/-! ### Strings -/

theorem run_skipString (text : List Char) :
    run skipString text = run skipStringItem text >>= fun
      | (.inr _, rest) => .ok ((), rest)
      | (.inl _, rest) => run skipString rest := by
  refine (Text.run_loop (fun _ => skipStringItem) () text).trans ?_
  cases run skipStringItem text with
  | error fault => rfl
  | ok found =>
    obtain ⟨next | last, rest⟩ := found <;> rfl

/-- An escaped unit is passed over, be it a surrogate or not. -/
theorem run_skipString_unit {n : Nat} {digits : List Char} (h : SpellsUnit n digits)
    (rest : List Char) :
    run skipString ('\\' :: 'u' :: (digits ++ rest)) = run skipString rest := by
  have hitem : run skipStringItem ('\\' :: 'u' :: (digits ++ rest)) = .ok (.inl (), rest) := by
    obtain ⟨_, hunit⟩ := outcome_eq_ok_iff.1 (unit_spelled h rest)
    simp only [run, skipStringItem, hunit]
    rfl
  rw [run_skipString, hitem]
  rfl

theorem run_skipString_char {c : Char} {text : List Char} (h : SpellsChar c text)
    (rest : List Char) : run skipString (text ++ rest) = run skipString rest := by
  cases h with
  | plain visible quote backslash =>
    have hitem : run skipStringItem (c :: rest) = .ok (.inl (), rest) := by
      unfold run
      rw [skipStringItem.eq_6 _ _ quote (by simp [backslash]) (by simp [backslash])
        (by simp [backslash]), if_neg visible]
      rfl
    rw [List.singleton_append, run_skipString, hitem]
    rfl
  | @short _ letter h =>
    have hu : letter ≠ 'u' := by rintro rfl; simp [shortEscape?] at h
    have hitem : run skipStringItem ('\\' :: letter :: rest) = .ok (.inl (), rest) := by
      unfold run
      rw [skipStringItem.eq_5 _ _ hu, h]
      rfl
    rw [List.cons_append, List.singleton_append, run_skipString, hitem]
    rfl
  | unit h trailing leading => exact run_skipString_unit h rest
  | pair h₁ leading h₂ trailing =>
    rw [List.cons_append, List.cons_append, List.append_assoc, List.cons_append, List.cons_append,
      run_skipString_unit h₁, run_skipString_unit h₂]

/-- A string literal is passed over up to its quotation mark. -/
theorem run_skipString_spelled {cs text : List Char} (h : SpellsChars cs text)
    (rest : List Char) : run skipString (text ++ '"' :: rest) = .ok ((), rest) := by
  induction h with
  | nil =>
    rw [List.nil_append, run_skipString]
    rfl
  | cons head tail ih => rw [List.append_assoc, run_skipString_char head, ih]

/-! ### Scalars -/

/-- A scalar is passed over. -/
theorem run_skipScalar {value : Json} {text rest : List Char}
    (ha : ∀ elements, value ≠ .array elements) (ho : ∀ members, value ≠ .object members)
    (h : Spells value text) (hr : EndsNumber rest) :
    run skipScalar (text ++ rest) = .ok (none, rest) := by
  cases h with
  | null => rfl
  | @boolean value => cases value <;> rfl
  | @number n _ h =>
    obtain ⟨literal, -, hspelled⟩ := h
    obtain ⟨c, others, he, hc⟩ := hspelled.head rest
    have hnumber := scanNumber_spelled hspelled hr
    rw [he] at hnumber ⊢
    obtain ⟨_, hscan⟩ := outcome_eq_ok_iff.1 hnumber
    unfold run
    rw [skipScalar.eq_8, if_pos hc, hscan]
    · rfl
    all_goals rintro rfl; simp at hc
  | string h =>
    rw [List.cons_append, List.append_assoc, List.singleton_append]
    obtain ⟨_, hs⟩ := run_eq_ok_iff.1 (run_skipString_spelled h rest)
    simp only [run, skipScalar, hs]
    rfl
  | array => exact absurd rfl (ha _)
  | object => exact absurd rfl (ho _)

/-! ### Brackets -/

/-- The rest of a value is passed over from a state, or the value has ended. -/
def passed : SkipState ⊕ Unit → List Char → Except Malformed (Unit × List Char)
  | .inr (), text => .ok ((), text)
  | .inl state, text => run (Text.loop skipStep state) text

/-- A step is made, and the rest is passed over. -/
def passedAfter (found : Except Malformed ((SkipState ⊕ Unit) × List Char)) :
    Except Malformed (Unit × List Char) :=
  found >>= fun found => passed found.1 found.2

theorem passed_inl (state : SkipState) (text : List Char) :
    passed (.inl state) text = passedAfter (run (skipStep state) text) := by
  refine (Text.run_loop skipStep state text).trans ?_
  unfold passedAfter
  cases run (skipStep state) text with
  | error fault => rfl
  | ok found =>
    obtain ⟨next | last, rest⟩ := found <;> rfl

/-- Whatever brackets are open around it, a value is passed over to its end. -/
def PassesOver (value : Json) : Prop :=
  ∀ opened before text rest, Blanks before → Spells value text → EndsNumber rest →
    passedAfter (run (afterBlanks (skipValue opened)) (before ++ (text ++ rest))) =
      passed (afterValue opened) rest

section Entries

variable {outer : List Bracket}

theorem passed_comma {blanks : List Char} (h : Blanks blanks) (bracket : Bracket)
    (text : List Char) :
    passed (.inl ⟨.next, bracket, outer⟩) (blanks ++ ',' :: text) =
      passed (.inl ⟨bracket.afterComma, bracket, outer⟩) text := by
  rw [passed_inl, skipStep, run_afterBlanks, skipBlanks_append h, skipBlanks_cons (by decide)]
  rfl

/-- The closing bracket ends the value. -/
theorem passed_close {blanks : List Char} (h : Blanks blanks) {expecting : Expecting}
    (he : expecting = .next ∨ expecting = .entry) (bracket : Bracket) (rest : List Char) :
    passed (.inl ⟨expecting, bracket, outer⟩) (blanks ++ bracket.closing :: rest) =
      passed (afterValue outer) rest := by
  have hblank : isBlank bracket.closing = false := by cases bracket <;> rfl
  have hcomma : bracket.closing ≠ ',' := by cases bracket <;> decide
  rw [passed_inl, skipStep, run_afterBlanks, skipBlanks_append h, skipBlanks_cons hblank]
  rcases he with rfl | rfl
  · simp only [run, skipNext, if_neg hcomma, if_pos]
    rfl
  · simp only [run, skipEntry, if_pos]
    rfl

/-- Elements are passed over one after the other, up to the end of their array. -/
theorem passed_elements {value : Json} {values : List Json} {text : List Char}
    (h : SpellsElements (value :: values) text) (hv : ∀ v ∈ value :: values, PassesOver v)
    (rest : List Char) :
    passed (.inl ⟨.value, .square, outer⟩) (text ++ ']' :: rest) =
      passed (afterValue outer) rest := by
  induction values generalizing value text with
  | nil =>
    cases h with
    | one hb h ha =>
      have hvalue := hv value (List.mem_cons_self ..) (.square :: outer) _ _ (_ ++ ']' :: rest) hb h
        ((endsNumber_square rest).append ha)
      rw [passed_inl, List.append_assoc, List.append_assoc]
      exact hvalue.trans (passed_close ha (.inl rfl) .square rest)
  | cons next values ih =>
    cases h with
    | @cons _ _ _ _ _ after others hb h ha ho =>
      have hvalue := hv value (List.mem_cons_self ..) (.square :: outer) _ _
        (after ++ ',' :: (others ++ ']' :: rest)) hb h ((endsNumber_comma _).append ha)
      rw [passed_inl, List.append_assoc, List.append_assoc, List.append_assoc, List.cons_append]
      refine hvalue.trans ((passed_comma ha .square _).trans ?_)
      exact ih ho fun v hm => hv v (List.mem_cons_of_mem _ hm)

/-- The first element of an array is passed over like the others. -/
theorem passed_entry_square {text others : List Char} {c : Char}
    (h : skipBlanks text = c :: others) (hne : c ≠ ']') :
    passed (.inl ⟨.entry, .square, outer⟩) text = passed (.inl ⟨.value, .square, outer⟩) text := by
  have hentry : skipEntry .square outer (c :: others) =
      skipValue (.square :: outer) (c :: others) := if_neg hne
  rw [passed_inl, passed_inl, skipStep, skipStep, run_afterBlanks, run_afterBlanks, h]
  exact congrArg (fun result => passedAfter (outcome result)) hentry

/-- The first key of an object is passed over like the others. -/
theorem passed_entry_curly {text others : List Char} (h : skipBlanks text = '"' :: others) :
    passed (.inl ⟨.entry, .curly, outer⟩) text = passed (.inl ⟨.key, .curly, outer⟩) text := by
  rw [passed_inl, passed_inl, skipStep, skipStep, run_afterBlanks, run_afterBlanks, h]
  rfl

theorem passed_key {before keyText beforeColon : List Char} {key : String} (hb : Blanks before)
    (hk : SpellsString key keyText) (hc : Blanks beforeColon) (text : List Char) :
    passed (.inl ⟨.key, .curly, outer⟩)
        (before ++ '"' :: (keyText ++ '"' :: (beforeColon ++ ':' :: text))) =
      passed (.inl ⟨.value, .curly, outer⟩) text := by
  obtain ⟨_, hkey⟩ := run_eq_ok_iff.1 (run_skipString_spelled hk (beforeColon ++ ':' :: text))
  have hcolon : run skipColon (beforeColon ++ ':' :: text) = .ok ((), text) := by
    rw [skipColon, run_afterBlanks, skipBlanks_append hc, skipBlanks_cons (by decide)]
    rfl
  obtain ⟨_, hcolon⟩ := run_eq_ok_iff.1 hcolon
  rw [passed_inl, skipStep, run_afterBlanks, skipBlanks_append hb, skipBlanks_cons (by decide)]
  simp only [run, skipKey, hkey, bind, Except.bind, hcolon]
  rfl

/-- Members are passed over one after the other, up to the end of their object. -/
theorem passed_members {m : String × Json} {members : List (String × Json)} {text : List Char}
    (h : SpellsMembers (m :: members) text) (hv : ∀ m' ∈ m :: members, PassesOver m'.2)
    (rest : List Char) :
    passed (.inl ⟨.key, .curly, outer⟩) (text ++ '}' :: rest) =
      passed (afterValue outer) rest := by
  induction members generalizing m text with
  | nil =>
    cases h with
    | one h =>
      cases h with
      | @member _ _ _ _ _ _ _ after hb hk hc hd h ha =>
        have hvalue := hv _ (List.mem_cons_self ..) (.curly :: outer) _ _ (after ++ '}' :: rest)
          hd h ((endsNumber_curly rest).append ha)
        simp only [List.append_assoc, List.cons_append]
        rw [passed_key hb hk hc, passed_inl]
        exact hvalue.trans (passed_close ha (.inl rfl) .curly rest)
  | cons next members ih =>
    cases h with
    | @cons _ _ _ _ others h ho =>
      cases h with
      | @member _ _ _ _ _ _ _ after hb hk hc hd h ha =>
        have hvalue := hv _ (List.mem_cons_self ..) (.curly :: outer) _ _
          (after ++ ',' :: (others ++ '}' :: rest)) hd h ((endsNumber_comma _).append ha)
        simp only [List.append_assoc, List.cons_append]
        rw [passed_key hb hk hc, passed_inl]
        refine hvalue.trans ((passed_comma ha .curly _).trans ?_)
        exact ih ho fun m' hm => hv m' (List.mem_cons_of_mem _ hm)

end Entries

/-! ### Whole values -/

/-- After an opening bracket the reader looks for the first entry. -/
theorem passedAfter_open {before : List Char} (hb : Blanks before) (bracket : Bracket)
    {opening : Char} (ho : opening = '[' ∧ bracket = .square ∨ opening = '{' ∧ bracket = .curly)
    (opened : List Bracket) (text : List Char) :
    passedAfter (run (afterBlanks (skipValue opened)) (before ++ opening :: text)) =
      passed (.inl ⟨.entry, bracket, opened⟩) text := by
  rcases ho with ⟨rfl, rfl⟩ | ⟨rfl, rfl⟩ <;>
    (rw [run_afterBlanks, skipBlanks_append hb, skipBlanks_cons (by decide)]; rfl)

/-- Members start with a quotation mark. -/
theorem SpellsMembers.quote {m : String × Json} {members : List (String × Json)}
    {text : List Char} (h : SpellsMembers (m :: members) text) (rest : List Char) :
    ∃ others, skipBlanks (text ++ rest) = '"' :: others := by
  have hmember : ∀ {text : List Char} (rest : List Char), SpellsMember m text →
      ∃ others, skipBlanks (text ++ rest) = '"' :: others := by
    intro text rest h
    cases h with
    | member hb =>
      rw [List.append_assoc, skipBlanks_append hb, List.cons_append, skipBlanks_cons (by decide)]
      exact ⟨_, rfl⟩
  cases h with
  | one h => exact hmember rest h
  | cons h _ =>
    rw [List.append_assoc]
    exact hmember _ h

/-- **A value is passed over in each of its spellings.** -/
theorem passesOver (value : Json) : PassesOver value := by
  have hscalar : ∀ value : Json, (∀ elements, value ≠ .array elements) →
      (∀ members, value ≠ .object members) → PassesOver value := by
    intro value ha ho opened before text rest hb h hr
    obtain ⟨_, hskip⟩ := run_eq_ok_iff.1 (run_skipScalar ha ho h hr)
    rw [run_afterBlanks, h.skipBlanks_before hb]
    simp only [run, skipValue, hskip]
    rfl
  induction value using nested with
  | null | boolean | number | string => exact hscalar _ (by simp) (by simp)
  | array values ih =>
    intro opened before text rest hb h hr
    cases h with
    | @array _ text h =>
      rw [List.cons_append, List.append_assoc, List.singleton_append,
        passedAfter_open hb .square (.inl ⟨rfl, rfl⟩)]
      cases values with
      | nil =>
        cases h with
        | nil hblanks => exact passed_close hblanks (.inr rfl) .square rest
      | cons value values =>
        obtain ⟨blanks, c, others, hblanks, htext, hc, hne, -⟩ := h.trim
        have hskip : skipBlanks (text ++ ']' :: rest) = c :: (others ++ ']' :: rest) := by
          rw [htext, List.append_assoc, skipBlanks_append hblanks, List.cons_append,
            skipBlanks_cons hc]
        rw [passed_entry_square hskip hne, passed_elements h ih]
  | object members ih =>
    intro opened before text rest hb h hr
    cases h with
    | @object _ text h =>
      rw [List.cons_append, List.append_assoc, List.singleton_append,
        passedAfter_open hb .curly (.inr ⟨rfl, rfl⟩)]
      cases members with
      | nil =>
        cases h with
        | nil hblanks => exact passed_close hblanks (.inr rfl) .curly rest
      | cons m members =>
        obtain ⟨others, hskip⟩ := h.quote ('}' :: rest)
        rw [passed_entry_curly hskip, passed_members h ih]

theorem skipRest_of_passed {state : SkipState ⊕ Unit} {text rest : List Char}
    (h : passed state text = .ok ((), rest)) :
    ∃ hle, skipRest text state = .ok ⟨(), rest, hle⟩ := by
  cases state with
  | inl state =>
    obtain ⟨hlt, hloop⟩ := run_eq_ok_iff.1 h
    refine ⟨Nat.le_of_lt hlt, ?_⟩
    rw [skipRest, hloop]
    rfl
  | inr last =>
    cases h
    exact ⟨Nat.le_refl _, rfl⟩

/-- A value that nobody asks for is skipped wherever it is spelled. -/
theorem skip_spelled {ε : Type} (value : Json) : ReadsAs (skip (ε := ε)) value (.ok ()) := by
  intro before text rest hb h hr
  have hpassed := passesOver value [] before text rest hb h hr
  rw [run_afterBlanks] at hpassed
  rw [skip, run_afterBlanks]
  revert hpassed
  generalize skipBlanks (before ++ (text ++ rest)) = whole
  intro hpassed
  unfold run at hpassed ⊢
  cases hfirst : skipValue [] whole with
  | error fault =>
    rw [hfirst] at hpassed
    cases hpassed
  | ok first =>
    rw [hfirst] at hpassed
    have hvalue : passed first.value first.rest = .ok ((), rest) := hpassed
    obtain ⟨_, hrest⟩ := skipRest_of_passed hvalue
    simp only [hfirst, hrest]
    rfl

end ThriftPages.Json
