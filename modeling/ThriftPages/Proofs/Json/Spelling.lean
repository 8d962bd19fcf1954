/-
# The texts of a JSON value

A value may be spelled in many ways: blanks may stand between its parts, a
character of a string may stand for itself or be escaped, alone or as a pair of
surrogates, and a number may be any literal of its value. `Spells` is the
grammar: it says which texts mean a value, without regard to how one is read or
written. The members of an object are spelled in their order, equal keys
included.

Key definitions: `Json.Blanks`, `Json.SpellsChar`, `Json.SpellsNumber`,
`Json.Spells`, `Json.SpellsText`.
-/
import ThriftPages.Json.NumberLiteral
import ThriftPages.Json.StringLiteral

namespace ThriftPages.Json

/-- A text of blanks only. -/
def Blanks (text : List Char) : Prop := ∀ c ∈ text, isBlank c = true

/-! ### Strings -/

/-- Four hexadecimal digits and the UTF-16 unit that they stand for. -/
inductive SpellsUnit : Nat → List Char → Prop
  | digits {a b c d : Char} {w x y z : Nat} (ha : Text.hexDigit? a = some w)
      (hb : Text.hexDigit? b = some x) (hc : Text.hexDigit? c = some y)
      (hd : Text.hexDigit? d = some z) :
      SpellsUnit (((w * 16 + x) * 16 + y) * 16 + z) [a, b, c, d]

/-- How a character may stand in a string literal. -/
inductive SpellsChar : Char → List Char → Prop
  /-- By itself, if it needs no escape. -/
  | plain {c : Char} (visible : ¬c < ' ') (quote : c ≠ '"') (backslash : c ≠ '\\') :
      SpellsChar c [c]
  /-- By a letter after a backslash. -/
  | short {c letter : Char} (h : shortEscape? letter = some c) : SpellsChar c ['\\', letter]
  /-- By one unit, which is no surrogate. -/
  | unit {n : Nat} {digits : List Char} (h : SpellsUnit n digits)
      (trailing : isTrailing n = false) (leading : isLeading n = false) :
      SpellsChar (Char.ofNat n) ('\\' :: 'u' :: digits)
  /-- By a pair of surrogates. -/
  | pair {m n : Nat} {first second : List Char} (h₁ : SpellsUnit m first)
      (leading : isLeading m = true) (h₂ : SpellsUnit n second)
      (trailing : isTrailing n = true) :
      SpellsChar (pairChar m n) ('\\' :: 'u' :: (first ++ '\\' :: 'u' :: second))

/-- How characters may stand in a string literal one after the other. -/
inductive SpellsChars : List Char → List Char → Prop
  | nil : SpellsChars [] []
  | cons {c : Char} {cs spelled others : List Char} (head : SpellsChar c spelled)
      (tail : SpellsChars cs others) : SpellsChars (c :: cs) (spelled ++ others)

/-- The literals of a string, without the quotation marks. -/
def SpellsString (s : String) (text : List Char) : Prop := SpellsChars s.toList text

/-! ### Numbers -/

/-- At least one decimal digit, and nothing else. -/
def Digits (text : List Char) : Prop := text ≠ [] ∧ ∀ c ∈ text, c.isDigit = true

/-- Digits without a superfluous leading zero. -/
def WholeDigits (text : List Char) : Prop :=
  Digits text ∧ (text.head? = some '0' → text.length = 1)

/-- The fraction of a literal, if it has one. -/
inductive SpellsFraction : Option (List Char) → List Char → Prop
  | none : SpellsFraction none []
  | some {digits : List Char} (h : Digits digits) : SpellsFraction (some digits) ('.' :: digits)

/-- The sign of an exponent; that of a positive one may be left out. -/
inductive SpellsSign : Bool → List Char → Prop
  | none : SpellsSign false []
  | plus : SpellsSign false ['+']
  | minus : SpellsSign true ['-']

/-- The exponent of a literal, if it has one. -/
inductive SpellsExponent : Option (Bool × List Char) → List Char → Prop
  | none : SpellsExponent none []
  | some {mark : Char} {negative : Bool} {sign digits : List Char}
      (hm : mark = 'e' ∨ mark = 'E') (hs : SpellsSign negative sign) (h : Digits digits) :
      SpellsExponent (some (negative, digits)) (mark :: (sign ++ digits))

/-- The texts of a number literal. -/
inductive SpellsLiteral : NumberLiteral → List Char → Prop
  | unsigned {negative : Bool} {whole fractionText exponentText : List Char}
      {fraction : Option (List Char)} {exponent : Option (Bool × List Char)}
      (hw : WholeDigits whole) (hf : SpellsFraction fraction fractionText)
      (he : SpellsExponent exponent exponentText) :
      SpellsLiteral ⟨negative, whole, fraction, exponent⟩
        ((if negative then ['-'] else []) ++ (whole ++ (fractionText ++ exponentText)))

/-- The texts of a number: those of the literals that have its value. -/
def SpellsNumber (n : Number) (text : List Char) : Prop :=
  ∃ literal : NumberLiteral, literal.value = .ok n ∧ SpellsLiteral literal text

/-! ### Values -/

mutual

/-- The texts of a value, without blanks around them. -/
inductive Spells : Json → List Char → Prop
  | null : Spells .null ['n', 'u', 'l', 'l']
  | boolean {value : Bool} :
      Spells (.boolean value) (if value then ['t', 'r', 'u', 'e'] else ['f', 'a', 'l', 's', 'e'])
  | number {n : Number} {text : List Char} (h : SpellsNumber n text) : Spells (.number n) text
  | string {s : String} {text : List Char} (h : SpellsString s text) :
      Spells (.string s) ('"' :: (text ++ ['"']))
  | array {values : List Json} {text : List Char} (h : SpellsElements values text) :
      Spells (.array values) ('[' :: (text ++ [']']))
  | object {members : List (String × Json)} {text : List Char}
      (h : SpellsMembers members text) : Spells (.object members) ('{' :: (text ++ ['}']))

/-- The texts of the elements of an array, blanks and commas included. -/
inductive SpellsElements : List Json → List Char → Prop
  | nil {blanks : List Char} (h : Blanks blanks) : SpellsElements [] blanks
  | one {value : Json} {before text after : List Char} (hb : Blanks before)
      (h : Spells value text) (ha : Blanks after) :
      SpellsElements [value] (before ++ (text ++ after))
  | cons {value next : Json} {values : List Json} {before text after others : List Char}
      (hb : Blanks before) (h : Spells value text) (ha : Blanks after)
      (ho : SpellsElements (next :: values) others) :
      SpellsElements (value :: next :: values) (before ++ (text ++ (after ++ ',' :: others)))

/-- The texts of a member of an object: the key, a colon, the value, with blanks around
each. -/
inductive SpellsMember : String × Json → List Char → Prop
  | member {key : String} {value : Json} {before keyText beforeColon afterColon text
      after : List Char} (hb : Blanks before) (hk : SpellsString key keyText)
      (hc : Blanks beforeColon) (hd : Blanks afterColon) (h : Spells value text)
      (ha : Blanks after) :
      SpellsMember (key, value) (before ++ '"' :: (keyText ++ '"' :: (beforeColon ++
        ':' :: (afterColon ++ (text ++ after)))))

/-- The texts of the members of an object, blanks and commas included. -/
inductive SpellsMembers : List (String × Json) → List Char → Prop
  | nil {blanks : List Char} (h : Blanks blanks) : SpellsMembers [] blanks
  | one {m : String × Json} {text : List Char} (h : SpellsMember m text) :
      SpellsMembers [m] text
  | cons {m next : String × Json} {members : List (String × Json)} {text others : List Char}
      (h : SpellsMember m text) (ho : SpellsMembers (next :: members) others) :
      SpellsMembers (m :: next :: members) (text ++ ',' :: others)

end

/-- The texts that consist of a value and blanks around it. -/
def SpellsText (value : Json) (text : List Char) : Prop :=
  ∃ before inner after, Blanks before ∧ Spells value inner ∧ Blanks after ∧
    text = before ++ (inner ++ after)

/-! ### Blanks -/

theorem blanks_nil : Blanks [] := by simp [Blanks]

theorem skipBlanks_append {blanks : List Char} (h : Blanks blanks) (text : List Char) :
    skipBlanks (blanks ++ text) = skipBlanks text :=
  List.dropWhile_append_of_pos h

theorem skipBlanks_blanks {blanks : List Char} (h : Blanks blanks) :
    skipBlanks blanks = [] := by
  have := skipBlanks_append h []
  simpa [skipBlanks] using this

theorem skipBlanks_cons {c : Char} (h : isBlank c = false) (rest : List Char) :
    skipBlanks (c :: rest) = c :: rest := by
  simp [skipBlanks, h]

end ThriftPages.Json
