/-
# Written values spell themselves

The compact and the indented text of a value are two of its spellings, if all
its numbers are integers of 64 bits (`Json.Exact`). So each of them is read back
as the value (`Json.ofText?_compact`, `Json.ofText?_indented`).

Key definitions: `Json.Exact`.
Key theorems: `Json.spells_compact`, `Json.spells_indentedAt`,
`Json.ofText?_compact`, `Json.ofText?_indented`.
-/
import Mathlib.Tactic.SplitIfs
import ThriftPages.Json.Written
import ThriftPages.Proofs.Json.Values

namespace ThriftPages.Json

/-! ### Strings -/

theorem hexDigit?_digitChar {n : Nat} (h : n < 16) : Text.hexDigit? (Nat.digitChar n) = some n := by
  have hall : ∀ m : Fin 16, Text.hexDigit? (Nat.digitChar m) = some m.val := by decide
  exact hall ⟨n, h⟩

/-- A control character is spelled by its code. -/
theorem spellsChar_control {c : Char} (h : c < ' ') :
    SpellsChar c ['\\', 'u', '0', '0', Nat.digitChar (c.toNat / 16),
      Nat.digitChar (c.toNat % 16)] := by
  have hc : c.toNat < 32 := h
  have hunit : SpellsUnit (((0 * 16 + 0) * 16 + c.toNat / 16) * 16 + c.toNat % 16)
      ['0', '0', Nat.digitChar (c.toNat / 16), Nat.digitChar (c.toNat % 16)] :=
    .digits (by decide) (by decide) (hexDigit?_digitChar (by omega))
      (hexDigit?_digitChar (by omega))
  rw [show ((0 * 16 + 0) * 16 + c.toNat / 16) * 16 + c.toNat % 16 = c.toNat by omega] at hunit
  have htrailing : isTrailing c.toNat = false := by
    simp only [isTrailing, Bool.and_eq_false_iff, decide_eq_false_iff_not]
    omega
  have hleading : isLeading c.toNat = false := by
    simp only [isLeading, Bool.and_eq_false_iff, decide_eq_false_iff_not]
    omega
  have hspelled := SpellsChar.unit hunit htrailing hleading
  rwa [Char.ofNat_toNat] at hspelled

theorem spellsChar_escapeChar (c : Char) : SpellsChar c (escapeChar c) := by
  unfold escapeChar
  split_ifs with h₁ h₂ h₃ h₄ h₅ h₆ h₇ h₈
  · subst h₁; exact .short rfl
  · subst h₂; exact .short rfl
  · subst h₃; exact .short rfl
  · subst h₄; exact .short rfl
  · subst h₅; exact .short rfl
  · subst h₆; exact .short rfl
  · subst h₇; exact .short rfl
  · exact spellsChar_control h₈
  · exact .plain h₈ h₁ h₂

theorem spellsChars_escape : ∀ cs : List Char, SpellsChars cs (cs.flatMap escapeChar)
  | [] => .nil
  | c :: cs => by
    rw [List.flatMap_cons]
    exact .cons (spellsChar_escapeChar c) (spellsChars_escape cs)

theorem spells_quoted (s : String) : Spells (.string s) (quoted s).toList := by
  rw [quoted, String.toList_ofList]
  exact .string (spellsChars_escape s.toList)

/-! ### Numbers -/

/-- The digits of a number do not start with a superfluous zero. -/
theorem wholeDigits_toDigits (n : Nat) : WholeDigits (Nat.toDigits 10 n) := by
  refine ⟨⟨Nat.toDigits_ne_nil, fun c hc => Nat.isDigit_of_mem_toDigits (by decide) (by decide) hc⟩,
    ?_⟩
  induction n using Nat.strongRecOn with
  | _ n ih =>
    intro hzero
    by_cases hn : n < 10
    · rw [Nat.toDigits_of_lt_base hn]
      rfl
    · -- the digits before the last would be a zero alone, but they stand for `n / 10`
      exfalso
      obtain ⟨c, cs, hc⟩ := List.exists_cons_of_ne_nil (Nat.toDigits_ne_nil (n := n / 10) (b := 10))
      rw [Nat.toDigits_of_base_le (by decide) (by omega), hc] at hzero
      obtain rfl : c = '0' := by simpa using hzero
      obtain rfl : cs = [] := by
        have hlength := ih (n / 10) (by omega) (by rw [hc]; rfl)
        simpa [hc] using hlength
      have hvalue : Nat.ofDigitChars 10 (Nat.toDigits 10 (n / 10)) 0 = n / 10 :=
        Nat.ofDigitChars_ten_toDigits
      rw [hc] at hvalue
      have hzero' : Nat.ofDigitChars 10 ['0'] 0 = 0 := rfl
      omega

theorem digitsValue_toDigits (n : Nat) : digitsValue (Nat.toDigits 10 n) = n :=
  Nat.ofDigitChars_ten_toDigits

/-- An integer of 64 bits, with a sign or without one. -/
def Number.Exact : Number → Prop
  | .integer i => -(signedMax : Int) ≤ i ∧ i ≤ wordMax
  | .float _ => False

/-- Every number of the value is an integer of 64 bits. -/
inductive Exact : Json → Prop
  | null : Exact .null
  | boolean (value : Bool) : Exact (.boolean value)
  | number {n : Number} (h : n.Exact) : Exact (.number n)
  | string (s : String) : Exact (.string s)
  | array {elements : List Json} (h : ∀ v ∈ elements, Exact v) : Exact (.array elements)
  | object {members : List (String × Json)} (h : ∀ m ∈ members, Exact m.2) :
      Exact (.object members)

theorem exact_array_iff {elements : List Json} :
    (array elements).Exact ↔ ∀ v ∈ elements, v.Exact :=
  ⟨fun h => by cases h; assumption, .array⟩

theorem exact_object_iff {members : List (String × Json)} :
    (object members).Exact ↔ ∀ m ∈ members, m.2.Exact :=
  ⟨fun h => by cases h; assumption, .object⟩

theorem spellsNumber_write {n : Number} (h : n.Exact) : SpellsNumber n n.write.toList := by
  cases n with
  | float _ => exact h.elim
  | integer i =>
    obtain ⟨hlow, hhigh⟩ := h
    rw [Number.write, Int.toString_eq_repr, Int.repr_eq_if]
    have hdigits := fun n => wholeDigits_toDigits n
    by_cases hi : 0 ≤ i
    · refine ⟨⟨false, Nat.toDigits 10 i.toNat, none, none⟩, ?_, ?_⟩
      · have hword : i.toNat ≤ wordMax := by omega
        have hvalue : (i.toNat : Int) = i := by omega
        simp only [NumberLiteral.value, digitsValue_toDigits, if_pos hword, hvalue,
          Bool.false_eq_true, if_false]
      · have hspelled : SpellsLiteral ⟨false, Nat.toDigits 10 i.toNat, none, none⟩ _ :=
          .unsigned (hdigits _) .none .none
        simpa [hi] using hspelled
    · refine ⟨⟨true, Nat.toDigits 10 (-i).toNat, none, none⟩, ?_, ?_⟩
      · have hsigned : 0 < (-i).toNat ∧ (-i).toNat ≤ signedMax := by omega
        have hvalue : -((-i).toNat : Int) = i := by omega
        simp only [NumberLiteral.value, digitsValue_toDigits, if_pos hsigned, hvalue, if_true]
      · have hspelled : SpellsLiteral ⟨true, Nat.toDigits 10 (-i).toNat, none, none⟩ _ :=
          .unsigned (hdigits _) .none .none
        simpa [hi, String.toList_append] using hspelled

/-! ### Brackets -/

/-- Elements with commas between them, each after the same blanks. -/
theorem spellsElements_intercalate (write : Json → List Char) {before after : List Char}
    (hb : Blanks before) (ha : Blanks after) : ∀ (value : Json) (values : List Json),
    (∀ v ∈ value :: values, Spells v (write v)) →
    SpellsElements (value :: values)
      (before ++ ((',' :: before).intercalate ((value :: values).map write) ++ after))
  | value, [], h => by
    simpa using SpellsElements.one hb (h value (List.mem_cons_self ..)) ha
  | value, next :: values, h => by
    have hothers := spellsElements_intercalate write hb ha next values fun v hv =>
      h v (List.mem_cons_of_mem _ hv)
    have hspelled := SpellsElements.cons hb (h value (List.mem_cons_self ..)) blanks_nil hothers
    simpa [List.intercalate_cons_cons] using hspelled

/-- A member: the key, a colon, blanks, the value. -/
def memberText (space : List Char) (write : Json → List Char) (m : String × Json) : List Char :=
  (quoted m.1).toList ++ ':' :: (space ++ write m.2)

theorem spellsMember_memberText {write : Json → List Char} {before space after : List Char}
    {m : String × Json} (hb : Blanks before) (hs : Blanks space) (ha : Blanks after)
    (h : Spells m.2 (write m.2)) :
    SpellsMember m (before ++ (memberText space write m ++ after)) := by
  obtain ⟨key, value⟩ := m
  have hspelled := SpellsMember.member hb (spellsChars_escape key.toList) blanks_nil hs h ha
  simpa [memberText, quoted, SpellsString] using hspelled

/-- Members with commas between them, each after the same blanks. -/
theorem spellsMembers_intercalate (write : Json → List Char) {before space after : List Char}
    (hb : Blanks before) (hs : Blanks space) (ha : Blanks after) :
    ∀ (m : String × Json) (members : List (String × Json)),
    (∀ m' ∈ m :: members, Spells m'.2 (write m'.2)) →
    SpellsMembers (m :: members)
      (before ++
        ((',' :: before).intercalate ((m :: members).map (memberText space write)) ++ after))
  | m, [], h => by
    simpa using SpellsMembers.one (spellsMember_memberText hb hs ha (h m (List.mem_cons_self ..)))
  | m, next :: members, h => by
    have hothers := spellsMembers_intercalate write hb hs ha next members fun m' hm =>
      h m' (List.mem_cons_of_mem _ hm)
    have hspelled := SpellsMembers.cons
      (spellsMember_memberText hb hs blanks_nil (h m (List.mem_cons_self ..))) hothers
    simpa [List.intercalate_cons_cons] using hspelled

/-! ### Compact texts -/

theorem compactElements_eq : ∀ elements : List Json, compactElements elements = elements.map compact
  | [] => rfl
  | value :: rest => by rw [compactElements, compactElements_eq rest, List.map_cons]

theorem toList_compactMembers : ∀ members : List (String × Json),
    (compactMembers members).map String.toList =
      members.map (memberText [] fun v => v.compact.toList)
  | [] => rfl
  | (key, value) :: rest => by simp [compactMembers, toList_compactMembers rest, memberText]

/-- The compact text of a value is one of its spellings. -/
theorem spells_compact {v : Json} (h : Exact v) : Spells v v.compact.toList := by
  induction v using nested with
  | null => exact .null
  | boolean value => cases value <;> exact .boolean
  | number n =>
    cases h with
    | number h => exact .number (spellsNumber_write h)
  | string s => exact spells_quoted s
  | array vs ih =>
    cases h with
    | array h =>
      rw [compact, String.toList_append, String.toList_append, String.toList_intercalate,
        compactElements_eq, List.map_map]
      cases vs with
      | nil => exact .array (.nil blanks_nil)
      | cons v vs =>
        have helements := spellsElements_intercalate (fun v => v.compact.toList) blanks_nil
          blanks_nil v vs fun w hw => ih w hw (h w hw)
        rw [List.nil_append, List.append_nil] at helements
        exact .array helements
  | object ms ih =>
    cases h with
    | object h =>
      rw [compact, String.toList_append, String.toList_append, String.toList_intercalate,
        toList_compactMembers]
      cases ms with
      | nil => exact .object (.nil blanks_nil)
      | cons m ms =>
        have hmembers := spellsMembers_intercalate (fun v => v.compact.toList) blanks_nil
          blanks_nil blanks_nil m ms fun m' hm => ih m' hm (h m' hm)
        rw [List.nil_append, List.append_nil] at hmembers
        exact .object hmembers

/-! ### Indented texts -/

theorem blanks_newLine (level : Nat) : Blanks (newLine level).toList := by
  intro c hc
  simp only [newLine, String.toList_ofList, List.mem_cons, List.mem_replicate] at hc
  rcases hc with rfl | ⟨-, rfl⟩ <;> rfl

theorem indentedElements_eq (level : Nat) : ∀ elements : List Json,
    indentedElements level elements = elements.map (indentedAt level)
  | [] => rfl
  | value :: rest => by rw [indentedElements, indentedElements_eq level rest, List.map_cons]

theorem toList_indentedMembers (level : Nat) : ∀ members : List (String × Json),
    (indentedMembers level members).map String.toList =
      members.map (memberText [' '] fun v => (indentedAt level v).toList)
  | [] => rfl
  | (key, value) :: rest => by
    simp [indentedMembers, toList_indentedMembers level rest, memberText]

theorem toList_bracketed_nil (opening closing : String) (level : Nat) :
    (bracketed opening closing level []).toList = opening.toList ++ closing.toList := by
  simp [bracketed]

/-- Parts on lines of their own, the closing bracket on the next. -/
theorem toList_bracketed (opening closing : String) (level : Nat) {parts : List String}
    (h : parts ≠ []) :
    (bracketed opening closing level parts).toList = opening.toList ++
      ((newLine (level + 1)).toList ++ ((',' :: (newLine (level + 1)).toList).intercalate
        (parts.map String.toList) ++ (newLine level).toList) ++ closing.toList) := by
  simp [bracketed, h, String.toList_intercalate]

/-- The indented text of a value, at any level, is one of its spellings. -/
theorem spells_indentedAt {v : Json} (h : Exact v) :
    ∀ level, Spells v (indentedAt level v).toList := by
  induction v using nested with
  | null =>
    intro level
    rw [indentedAt]
    exact .null
  | boolean value =>
    intro level
    rw [indentedAt]
    cases value <;> exact .boolean
  | number n =>
    cases h with
    | number h =>
      intro level
      rw [indentedAt]
      exact .number (spellsNumber_write h)
  | string s =>
    intro level
    rw [indentedAt]
    exact spells_quoted s
  | array vs ih =>
    cases h with
    | array h =>
      intro level
      rw [indentedAt, indentedElements_eq]
      cases vs with
      | nil =>
        rw [List.map_nil, toList_bracketed_nil]
        exact .array (.nil blanks_nil)
      | cons v vs =>
        have helements := spellsElements_intercalate (fun v => (indentedAt (level + 1) v).toList)
          (blanks_newLine (level + 1)) (blanks_newLine level) v vs
          fun w hw => ih w hw (h w hw) (level + 1)
        rw [toList_bracketed _ _ _ (by simp), List.map_map]
        exact .array helements
  | object ms ih =>
    cases h with
    | object h =>
      intro level
      rw [indentedAt]
      cases ms with
      | nil =>
        rw [indentedMembers, toList_bracketed_nil]
        exact .object (.nil blanks_nil)
      | cons m ms =>
        have hspace : Blanks [' '] := by simp [Blanks, isBlank]
        have hmembers := spellsMembers_intercalate (fun v => (indentedAt (level + 1) v).toList)
          (blanks_newLine (level + 1)) hspace (blanks_newLine level) m ms
          fun m' hm => ih m' hm (h m' hm) (level + 1)
        rw [toList_bracketed _ _ _ (by simp [indentedMembers]), toList_indentedMembers]
        exact .object hmembers

/-! ### Reading back -/

theorem spellsText_of_spells {v : Json} {text : List Char} (h : Spells v text) :
    SpellsText v text :=
  ⟨[], text, [], blanks_nil, h, blanks_nil, by simp⟩

/-- The compact text of a value is read back. -/
theorem ofText?_compact {v : Json} (h : Exact v) : ofText? v.compact = some v :=
  ofText?_spelled (spellsText_of_spells (spells_compact h))

/-- The indented text of a value is read back. -/
theorem ofText?_indented {v : Json} (h : Exact v) : ofText? v.indented = some v :=
  ofText?_spelled (spellsText_of_spells (spells_indentedAt h 0))

end ThriftPages.Json
