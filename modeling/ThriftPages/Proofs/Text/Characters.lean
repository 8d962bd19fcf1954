/-
# The characters of a text

What holds of every character of a text is settled piece by piece: a text that
is put together from others has a property of this kind if and only if they have
it. A text of one line is one without line feeds and carriage returns.

Key definitions: `Text.Each`, `Text.OneLine`, `Text.Lacks`.
Key theorems: `Text.each_append`, `Text.each_intercalate`, `Text.infix_intercalate`,
`Text.each_toString_int`, `Text.append_mark_inj`.
-/
import ThriftPages.Text.WhiteSpace

namespace ThriftPages.Text

variable {good : Char → Prop}

/-- Every character of a text is of a class. -/
def Each (good : Char → Prop) (text : String) : Prop := ∀ c ∈ text.toList, good c

instance [DecidablePred good] (text : String) : Decidable (Each good text) :=
  List.decidableBAll good text.toList

@[simp] theorem each_empty : Each good "" := by simp [Each]

@[simp] theorem each_append (a b : String) : Each good (a ++ b) ↔ Each good a ∧ Each good b := by
  simp [Each, or_imp, forall_and]

@[simp] theorem each_ofList (chars : List Char) :
    Each good (String.ofList chars) ↔ ∀ c ∈ chars, good c := by
  rw [Each, String.toList_ofList]

theorem each_join (texts : List String) :
    Each good (String.join texts) ↔ ∀ text ∈ texts, Each good text := by
  simp only [Each, String.toList_join, List.mem_flatMap]
  exact ⟨fun h text ht c hc => h c ⟨text, ht, hc⟩, fun h c ⟨text, ht, hc⟩ => h text ht c hc⟩

theorem each_intercalate {separator : String} (h : Each good separator) :
    ∀ texts : List String,
      Each good (String.intercalate separator texts) ↔ ∀ text ∈ texts, Each good text
  | [] => by simp
  | [text] => by simp
  | text :: next :: rest => by
    rw [String.intercalate_cons_cons, each_append, each_append, each_intercalate h (next :: rest),
      List.forall_mem_cons]
    simp [h]

/-- A text stands in every list of texts that it is one of. -/
theorem infix_intercalate (separator : String) {text : String} {texts : List String}
    (h : text ∈ texts) : text.toList <:+: (String.intercalate separator texts).toList := by
  induction texts with
  | nil => cases h
  | cons first rest ih =>
    cases rest with
    | nil =>
      obtain rfl := List.mem_singleton.1 h
      exact ⟨[], [], by simp [String.intercalate_singleton]⟩
    | cons next rest =>
      rw [String.intercalate_cons_cons, String.toList_append, String.toList_append]
      rcases List.mem_cons.1 h with rfl | h
      · exact ((List.prefix_append _ _).trans (List.prefix_append _ _)).isInfix
      · exact (ih h).trans (List.suffix_append _ _).isInfix

/-- A number is written with digits and, below zero, a minus sign. -/
theorem each_toString_int (hdigit : ∀ c : Char, c.isDigit → good c) (hminus : Each good "-")
    (n : Int) : Each good (toString n) := by
  have hnat : ∀ m : Nat, Each good m.repr := by
    intro m c hc
    rw [Nat.toList_repr] at hc
    exact hdigit c (Nat.isDigit_of_mem_toDigits (by decide) (by decide) hc)
  rw [Int.toString_eq_repr, Int.repr_eq_if]
  split
  · exact hnat _
  · exact (each_append _ _).2 ⟨hminus, hnat _⟩

/-- What stands before the first mark of a text is determined by the text. -/
theorem append_mark_inj {mark : Char → Prop} {a b r s : List Char} {c d : Char}
    (ha : ∀ x ∈ a, ¬ mark x) (hb : ∀ x ∈ b, ¬ mark x) (hc : mark c) (hd : mark d)
    (h : a ++ c :: r = b ++ d :: s) : a = b ∧ c :: r = d :: s := by
  induction a generalizing b with
  | nil =>
    cases b with
    | nil => exact ⟨rfl, h⟩
    | cons y b =>
      obtain ⟨rfl, _⟩ := List.cons.inj h
      exact absurd hc (hb _ (List.mem_cons_self ..))
  | cons x a ih =>
    cases b with
    | nil =>
      obtain ⟨rfl, _⟩ := List.cons.inj h
      exact absurd hd (ha _ (List.mem_cons_self ..))
    | cons y b =>
      obtain ⟨rfl, htail⟩ := List.cons.inj h
      obtain ⟨rfl, hrest⟩ := ih (List.forall_mem_cons.1 ha).2 (List.forall_mem_cons.1 hb).2 htail
      exact ⟨rfl, hrest⟩

/-- The characters that end a line. -/
def IsLineBreak (c : Char) : Prop := c = '\n' ∨ c = '\r'

instance : DecidablePred IsLineBreak := fun c => inferInstanceAs (Decidable (c = '\n' ∨ c = '\r'))

/-- A text without line breaks. -/
abbrev OneLine (text : String) : Prop := Each (fun c => ¬ IsLineBreak c) text

/-- A text without a certain character. -/
abbrev Lacks (mark : Char) (text : String) : Prop := Each (· ≠ mark) text

end ThriftPages.Text
