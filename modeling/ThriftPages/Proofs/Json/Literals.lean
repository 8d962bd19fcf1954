/-
# Literals are read as they are spelled

A string literal is read up to its closing quotation mark, whatever follows it.
A number literal has no such end: it is read whole if what follows cannot
continue it (`EndsNumber`), and that holds wherever a value may end.

Key definitions: `Json.EndsNumber`.
Key theorems: `Json.run_stringRest`, `Json.run_readNumber`.
-/
import ThriftPages.Proofs.Json.Spelling
import ThriftPages.Proofs.Text.Outcome

namespace ThriftPages.Json

open Text (Taken Remaining outcome run finding outcome_eq_ok_iff run_eq_ok_iff finding_eq_ok_iff)

/-! ### Strings -/

theorem unit_spelled {n : Nat} {digits : List Char} (h : SpellsUnit n digits)
    (rest : List Char) : outcome (unit (digits ++ rest)) = .ok (n, rest) := by
  obtain ⟨ha, hb, hc, hd⟩ := h
  simp only [List.cons_append, List.nil_append, unit, ha, hb, hc, hd]
  rfl

theorem trailingEscape_spelled {n : Nat} {digits : List Char} (h : SpellsUnit n digits)
    (trailing : isTrailing n = true) (rest : List Char) :
    outcome (trailingEscape ('\\' :: 'u' :: (digits ++ rest))) = .ok (n, rest) := by
  obtain ⟨hlt, hu⟩ := outcome_eq_ok_iff.1 (unit_spelled h rest)
  simp only [trailingEscape, hu]
  simp [bind, Except.bind, trailing, Taken.after]

theorem unicodeEscape_unit {n : Nat} {digits : List Char} (h : SpellsUnit n digits)
    (trailing : isTrailing n = false) (leading : isLeading n = false) (rest : List Char) :
    outcome (unicodeEscape (digits ++ rest)) = .ok (Char.ofNat n, rest) := by
  obtain ⟨hlt, hu⟩ := outcome_eq_ok_iff.1 (unit_spelled h rest)
  simp [unicodeEscape, hu, bind, Except.bind, trailing, leading, Taken.map]

theorem unicodeEscape_pair {m n : Nat} {first second : List Char} (h₁ : SpellsUnit m first)
    (leading : isLeading m = true) (h₂ : SpellsUnit n second) (trailing : isTrailing n = true)
    (rest : List Char) :
    outcome (unicodeEscape (first ++ '\\' :: 'u' :: (second ++ rest))) =
      .ok (pairChar m n, rest) := by
  have notTrailing : isTrailing m = false := by
    simp only [isLeading, isTrailing, Bool.and_eq_true, decide_eq_true_eq] at leading ⊢
    simp
    omega
  obtain ⟨_, hu⟩ := outcome_eq_ok_iff.1
    (unit_spelled h₁ ('\\' :: 'u' :: (second ++ rest)))
  obtain ⟨_, ht⟩ := outcome_eq_ok_iff.1 (trailingEscape_spelled h₂ trailing rest)
  simp [unicodeEscape, hu, ht, bind, Except.bind, pure, Except.pure, notTrailing, leading,
    Taken.map, Taken.and]

/-- A spelled character is read as one character. -/
theorem run_stringItem {c : Char} {text : List Char} (h : SpellsChar c text) (rest : List Char) :
    run stringItem (text ++ rest) = .ok (.inl c, rest) := by
  unfold run
  cases h with
  | plain visible quote backslash =>
    rw [List.singleton_append, stringItem.eq_4 _ _ quote backslash, if_neg visible]
    rfl
  | @short _ letter h =>
    have hu : letter ≠ 'u' := by rintro rfl; simp [shortEscape?] at h
    simp only [List.cons_append, List.nil_append, stringItem]
    rw [escape.eq_3 _ _ hu, h]
    rfl
  | unit h trailing leading =>
    simp only [List.cons_append, stringItem, escape, Text.outcome_map_after, Text.outcome_after]
    rw [unicodeEscape_unit h trailing leading rest]
    rfl
  | pair h₁ leading h₂ trailing =>
    simp only [List.cons_append, stringItem, escape, Text.outcome_map_after, Text.outcome_after]
    rw [List.append_assoc, List.cons_append, List.cons_append,
      unicodeEscape_pair h₁ leading h₂ trailing rest, Except.map]

theorem run_row_stringItem {cs text : List Char} (h : SpellsChars cs text) (rest : List Char) :
    run (Text.row stringItem) (text ++ '"' :: rest) = .ok ((cs, ()), rest) := by
  induction h with
  | nil =>
    rw [Text.run_row]
    rfl
  | cons head tail ih =>
    rw [List.append_assoc, Text.run_row, run_stringItem head]
    simp only [bind, Except.bind, ih, Except.map]

/-- A string literal is read up to its quotation mark. -/
theorem run_stringRest {ε : Type} {s : String} {text : List Char} (h : SpellsString s text)
    (rest : List Char) :
    run (stringRest (ε := ε)) (text ++ '"' :: rest) = .ok (s, rest) := by
  obtain ⟨_, hr⟩ := run_eq_ok_iff.1 (run_row_stringItem h rest)
  simp [run, stringRest, stringChars, hr, Except.map, Taken.map]

/-! ### Numbers -/

/-- Nothing that could continue a number literal. -/
def EndsNumber (rest : List Char) : Prop :=
  ∀ c ∈ rest.head?, c.isDigit = false ∧ c ≠ '.' ∧ c ≠ 'e' ∧ c ≠ 'E'

theorem endsNumber_nil : EndsNumber [] := by simp [EndsNumber]

theorem EndsNumber.noDigit {rest : List Char} (h : EndsNumber rest) :
    ∀ c ∈ rest.head?, c.isDigit = false :=
  fun c hc => (h c hc).1

/-- The leading characters of a class are all taken, and no more. -/
theorem takeSome_append {p : Char → Bool} {taken rest : List Char} (hne : taken ≠ [])
    (h : ∀ c ∈ taken, p c = true) (hr : ∀ c ∈ rest.head?, p c = false) :
    (Text.takeSome p (taken ++ rest)).map Taken.parts = some (taken, rest) := by
  obtain ⟨c, cs, rfl⟩ := List.exists_cons_of_ne_nil hne
  simp only [List.mem_cons, forall_eq_or_imp] at h
  have hempty : rest.takeWhile p = [] ∧ rest.dropWhile p = rest := by
    cases rest with
    | nil => simp
    | cons d ds => simp [hr d rfl]
  have htake : (cs ++ rest).takeWhile p = cs := by
    rw [List.takeWhile_append_of_pos h.2, hempty.1, List.append_nil]
  have hdrop : (cs ++ rest).dropWhile p = rest := by
    rw [List.dropWhile_append_of_pos h.2, hempty.2]
  simp [Text.takeSome, h.1, Text.takeMany, Remaining.map, Remaining.after, Taken.parts, htake,
    hdrop]

theorem someDigits_spelled {digits rest : List Char} (h : Digits digits)
    (hr : ∀ c ∈ rest.head?, c.isDigit = false) :
    outcome (someDigits (digits ++ rest)) = .ok (digits, rest) := by
  obtain ⟨taken, ht, hparts⟩ := Option.map_eq_some_iff.1 (takeSome_append h.1 h.2 hr)
  simp only [someDigits, ht]
  exact congrArg Except.ok hparts

theorem wholeDigits_spelled {digits rest : List Char} (h : WholeDigits digits)
    (hr : ∀ c ∈ rest.head?, c.isDigit = false) :
    outcome (wholeDigits (digits ++ rest)) = .ok (digits, rest) := by
  obtain ⟨_, ht⟩ := outcome_eq_ok_iff.1 (someDigits_spelled h.1 hr)
  have hz : ¬(digits.head? = some '0' ∧ digits.length ≠ 1) := fun hz => hz.2 (h.2 hz.1)
  simp only [wholeDigits, ht, bind, Except.bind, if_neg hz]
  rfl

/-- A fraction is read, or found to be missing. -/
theorem scanFraction_spelled {fraction : Option (List Char)} {text rest : List Char}
    (h : SpellsFraction fraction text) (hr : ∀ c ∈ rest.head?, c.isDigit = false)
    (hp : rest.head? ≠ some '.') :
    finding (scanFraction (text ++ rest)) = .ok (fraction, rest) := by
  cases h with
  | none =>
    have hnone : scanFraction rest = .ok (.nothing none) :=
      scanFraction.eq_2 _ fun others he => hp (by rw [he]; rfl)
    rw [List.nil_append, hnone]
    rfl
  | some h =>
    obtain ⟨_, hd⟩ := outcome_eq_ok_iff.1 (someDigits_spelled h hr)
    simp only [List.cons_append, scanFraction, hd]
    rfl

theorem digits_head {digits : List Char} (h : Digits digits) (rest : List Char) :
    ∃ c others, digits ++ rest = c :: others ∧ c.isDigit = true := by
  obtain ⟨c, cs, rfl⟩ := List.exists_cons_of_ne_nil h.1
  exact ⟨c, cs ++ rest, rfl, h.2 c (List.mem_cons_self ..)⟩

theorem scanExponentDigits_spelled {negative : Bool} {sign digits rest : List Char}
    (hs : SpellsSign negative sign) (h : Digits digits)
    (hr : ∀ c ∈ rest.head?, c.isDigit = false) :
    outcome (scanExponentDigits (sign ++ (digits ++ rest))) = .ok ((negative, digits), rest) := by
  obtain ⟨_, hd⟩ := outcome_eq_ok_iff.1 (someDigits_spelled h hr)
  cases hs with
  | none =>
    obtain ⟨c, others, he, hc⟩ := digits_head h rest
    have hplus : c ≠ '+' := by rintro rfl; simp at hc
    have hminus : c ≠ '-' := by rintro rfl; simp at hc
    have hscan : scanExponentDigits (digits ++ rest) =
        (someDigits (digits ++ rest)).map fun digits => digits.map (false, ·) := by
      rw [he]
      exact scanExponentDigits.eq_3 _ (fun r hr => hplus (List.cons.inj hr).1)
        fun r hr => hminus (List.cons.inj hr).1
    rw [List.nil_append, hscan, hd]
    rfl
  | plus | minus =>
    simp only [List.singleton_append, scanExponentDigits, hd]
    rfl

/-- An exponent is read, or found to be missing. -/
theorem scanExponent_spelled {exponent : Option (Bool × List Char)} {text rest : List Char}
    (h : SpellsExponent exponent text) (hr : EndsNumber rest) :
    finding (scanExponent (text ++ rest)) = .ok (exponent, rest) := by
  cases h with
  | none =>
    have hnone : scanExponent rest = .ok (.nothing none) :=
      scanExponent.eq_3 _ (fun r he => (hr 'e' (by rw [he]; rfl)).2.2.1 rfl)
        fun r he => (hr 'E' (by rw [he]; rfl)).2.2.2 rfl
    rw [List.nil_append, hnone]
    rfl
  | some hm hs h =>
    obtain ⟨_, hd⟩ := outcome_eq_ok_iff.1 (scanExponentDigits_spelled hs h hr.noDigit)
    rw [List.cons_append, List.append_assoc]
    rcases hm with rfl | rfl <;>
    · simp only [scanExponent, hd]
      rfl

/-- What follows the digits before the point cannot continue them. -/
theorem fraction_exponent_head {fraction : Option (List Char)}
    {exponent : Option (Bool × List Char)} {fractionText exponentText rest : List Char}
    (hf : SpellsFraction fraction fractionText) (he : SpellsExponent exponent exponentText)
    (hr : EndsNumber rest) :
    (∀ c ∈ (fractionText ++ (exponentText ++ rest)).head?, c.isDigit = false) ∧
    (∀ c ∈ (exponentText ++ rest).head?, c.isDigit = false) ∧
    (exponentText ++ rest).head? ≠ some '.' := by
  have hexp : (∀ c ∈ (exponentText ++ rest).head?, c.isDigit = false) ∧
      (exponentText ++ rest).head? ≠ some '.' := by
    cases he with
    | none => exact ⟨hr.noDigit, fun h => (hr _ h).2.1 rfl⟩
    | some hm _ _ => rcases hm with rfl | rfl <;> simp
  refine ⟨?_, hexp⟩
  cases hf with
  | none => exact hexp.1
  | some _ => simp

theorem scanUnsigned_spelled {negative : Bool} {whole fractionText exponentText rest : List Char}
    {fraction : Option (List Char)} {exponent : Option (Bool × List Char)}
    (hw : WholeDigits whole) (hf : SpellsFraction fraction fractionText)
    (he : SpellsExponent exponent exponentText) (hr : EndsNumber rest) :
    outcome (scanUnsigned negative (whole ++ (fractionText ++ (exponentText ++ rest)))) =
      .ok (⟨negative, whole, fraction, exponent⟩, rest) := by
  obtain ⟨h₁, h₂, h₃⟩ := fraction_exponent_head hf he hr
  obtain ⟨_, hwhole⟩ := outcome_eq_ok_iff.1 (wholeDigits_spelled hw h₁)
  obtain ⟨_, hfraction⟩ := finding_eq_ok_iff.1 (scanFraction_spelled hf h₂ h₃)
  obtain ⟨_, hexponent⟩ := finding_eq_ok_iff.1 (scanExponent_spelled he hr)
  simp only [scanUnsigned, hwhole, hfraction, hexponent, bind, Except.bind]
  rfl

/-- A number literal is read whole where nothing continues it. -/
theorem scanNumber_spelled {literal : NumberLiteral} {text rest : List Char}
    (h : SpellsLiteral literal text) (hr : EndsNumber rest) :
    outcome (scanNumber (text ++ rest)) = .ok (literal, rest) := by
  obtain ⟨hw, hf, he⟩ := h
  rename_i negative whole fractionText exponentText fraction exponent
  have hscan : outcome (scanUnsigned negative (whole ++ (fractionText ++ (exponentText ++ rest)))) =
      .ok (⟨negative, whole, fraction, exponent⟩, rest) := scanUnsigned_spelled hw hf he hr
  rw [List.append_assoc, List.append_assoc, List.append_assoc]
  cases negative with
  | true =>
    rw [if_pos rfl, List.singleton_append]
    exact (Text.outcome_after _).trans hscan
  | false =>
    obtain ⟨c, others, hc, hd⟩ := digits_head hw.1 (fractionText ++ (exponentText ++ rest))
    have hminus : c ≠ '-' := by rintro rfl; simp at hd
    have hsign : scanNumber (whole ++ (fractionText ++ (exponentText ++ rest))) =
        scanUnsigned false (whole ++ (fractionText ++ (exponentText ++ rest))) := by
      rw [hc]
      exact scanNumber.eq_2 _ fun r hr => hminus (List.cons.inj hr).1
    rw [if_neg Bool.false_ne_true, List.nil_append, hsign, hscan]

/-- A number is read as it is spelled. -/
theorem run_readNumber {ε : Type} {n : Number} {text rest : List Char} (h : SpellsNumber n text)
    (hr : EndsNumber rest) :
    run (readNumber (ε := ε)) (text ++ rest) = .ok (n, rest) := by
  obtain ⟨literal, hvalue, hspelled⟩ := h
  obtain ⟨_, hscan⟩ := outcome_eq_ok_iff.1 (scanNumber_spelled hspelled hr)
  simp [run, readNumber, hscan, hvalue, Taken.map]

/-- A literal starts with a minus or a digit. -/
theorem SpellsLiteral.head {literal : NumberLiteral} {text : List Char}
    (h : SpellsLiteral literal text) (rest : List Char) :
    ∃ c others, text ++ rest = c :: others ∧ (c = '-' ∨ c.isDigit = true) := by
  obtain ⟨hw, hf, he⟩ := h
  rename_i negative whole fractionText exponentText fraction exponent
  cases negative with
  | true => exact ⟨'-', _, rfl, .inl rfl⟩
  | false =>
    obtain ⟨c, others, hc, hd⟩ := digits_head hw.1 (fractionText ++ (exponentText ++ rest))
    exact ⟨c, others, by simpa using hc, .inr hd⟩

end ThriftPages.Json
