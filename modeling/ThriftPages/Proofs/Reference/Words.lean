/-
# The words in types and values

Types and values are written with keywords, marks and what the source has: names
of types, string literals, numerals and identifiers. These are the words that a
type or value shows; the key types of a map and the entries of a map constant
are not among them. As long as the keywords and marks are of a class of
characters, a written type or value is of that class if and only if its words
are (`TypeRef.each_text`, `Constant.each_text`).

Key definitions: `inlineMarks`, `TypeRef.names`, `Constant.atoms`,
`Constant.source`, `Constant.strings`, `Constant.words`.
Key theorems: `TypeRef.each_text`, `Constant.each_text`, `Constant.each_textAs`,
`each_documentationIn`.
-/
import ThriftPages.Proofs.Text.Characters
import ThriftPages.Reference.Inline

namespace ThriftPages

open Text

/-- The keywords and marks that types and values are written with. -/
def inlineMarks : List String :=
  ["void", "string", "binary", "bool", "byte", "double", "enum", "i8", "i16", "i32", "i64",
    "list<", "set<", "map<", ">", "map<>", "true", "false", ",", "\"", "#", "[", "](#", ")"]

/-- The names that a type shows. -/
def TypeRef.names : TypeRef → List String
  | list element => element.names
  | set element => element.names
  | map _ value => value.names
  | named name => [name]
  | _ => []

namespace Constant

mutual

/-- The values without parts that a value shows, from left to right. A map shows none of
its entries. -/
def atoms : Constant → List Constant
  | whole number => atoms number
  | real number => atoms number
  | list elements => atomsOfAll elements
  | map _ => []
  | atom => [atom]

/-- What the values show, one after the other. -/
def atomsOfAll : List Constant → List Constant
  | [] => []
  | element :: rest => atoms element ++ atomsOfAll rest

end

theorem atomsOfAll_eq : ∀ elements : List Constant, atomsOfAll elements = elements.flatMap atoms
  | [] => rfl
  | element :: rest => by rw [atomsOfAll, atomsOfAll_eq rest, List.flatMap_cons]

/-- What the source has for a value without parts, between its quotes if it is a string. -/
def source : Constant → String
  | string text => text
  | integer text => text
  | hex text => text
  | float text => text
  | exponential text => text
  | identifier name => name
  | _ => ""

/-- Whether a value is a string. -/
def isString : Constant → Bool
  | string _ => true
  | _ => false

/-- The string literals that a value shows. -/
def strings (value : Constant) : List String := (value.atoms.filter isString).map source

/-- The numerals and identifiers that a value shows. -/
def words (value : Constant) : List String :=
  (value.atoms.filter fun atom => !atom.isString).map source

/-- What a value shows from the source is its strings and its other words. -/
theorem forall_source {P : String → Prop} (value : Constant) :
    (∀ atom ∈ value.atoms, P atom.source) ↔
      (∀ s ∈ value.strings, P s) ∧ ∀ w ∈ value.words, P w := by
  simp only [strings, words, List.forall_mem_map, List.mem_filter]
  constructor
  · intro h
    exact ⟨fun atom hatom => h atom hatom.1, fun atom hatom => h atom hatom.1⟩
  · rintro ⟨hstrings, hwords⟩ atom hatom
    cases hkind : atom.isString with
    | true => exact hstrings atom ⟨hatom, hkind⟩
    | false => exact hwords atom ⟨hatom, by simp [hkind]⟩

end Constant

section

variable {good : Char → Prop} (hmarks : ∀ mark ∈ inlineMarks, Each good mark)

include hmarks

theorem each_link (name : String) : Each good (link name) ↔ Each good name := by
  have hopen := hmarks "[" (by decide)
  have hmiddle := hmarks "](#" (by decide)
  have hclose := hmarks ")" (by decide)
  simp [link, hopen, hmiddle, hclose]

/-- **A written type is of a class of characters if and only if its names are.** -/
theorem TypeRef.each_text (type : TypeRef) :
    Each good type.text ↔ ∀ name ∈ type.names, Each good name := by
  have hlink := each_link hmarks
  simp only [inlineMarks, List.forall_mem_cons] at hmarks
  induction type with
  | list element ih | set element ih => simp [text, names, hmarks, ih]
  | map _ value _ ih => simp [text, names, hmarks, ih]
  | named name => simp [text, names, hlink]
  | _ => simp [text, names, hmarks]

namespace Constant

theorem each_mapText (declared : TypeRef) (hnames : ∀ name ∈ declared.names, Each good name) :
    Each good (mapText (some declared)) := by
  have hopen := hmarks "map<" (by decide)
  have hclose := hmarks ">" (by decide)
  cases declared with
  | map _ value => simp [mapText, hopen, hclose, (value.each_text hmarks).2 hnames]
  | _ => simp [mapText, hopen, hclose, (TypeRef.each_text hmarks _).2 hnames]

/-- Bare or not, a value shows the same words. -/
theorem each_bareOr (value : Constant) :
    Each good (bareOr value.text value) ↔ Each good value.text := by
  cases value with
  | string s => simp [bareOr, text, hmarks "\"" (by decide)]
  | _ => rfl

/-- **A written value is of a class of characters if and only if its words are.** -/
theorem each_text (value : Constant) :
    Each good value.text ↔ ∀ atom ∈ value.atoms, Each good atom.source := by
  have hlink := each_link hmarks
  have hbare := each_bareOr hmarks
  have hlist := each_intercalate (hmarks "," (by decide))
  simp only [inlineMarks, List.forall_mem_cons] at hmarks
  induction value using nested with
  | string s => simp [text, atoms, source, hmarks]
  | boolean b => cases b <;> simp [text, atoms, source, hmarks]
  | integer s | float s | exponential s => simp [text, atoms, source]
  | hex s => simp [text, atoms, source, hmarks]
  | whole number ih | real number ih => rwa [text, atoms]
  | list elements ih =>
    rw [text, elementTexts_eq, each_append, each_append, hlist, List.forall_mem_map, atoms,
      atomsOfAll_eq]
    simp only [hbare, hmarks, true_and, and_true, List.mem_flatMap]
    constructor
    · rintro h atom ⟨element, helement, hatom⟩
      exact (ih element helement).1 (h element helement) atom hatom
    · intro h element helement
      exact (ih element helement).2 fun atom hatom => h atom ⟨element, helement, hatom⟩
  | map entries => simp [text, atoms, mapText, hmarks]
  | identifier name => simp [text, atoms, source, hlink]

/-- A value whose type is known shows the names of the type at most. -/
theorem each_textAs (declared : TypeRef) (hnames : ∀ name ∈ declared.names, Each good name)
    (value : Constant) :
    Each good (value.textAs declared) ↔ ∀ atom ∈ value.atoms, Each good atom.source := by
  cases value with
  | map entries => simp [textAs, textDeclared, atoms, each_mapText hmarks declared hnames]
  | _ =>
    rw [textAs_of_not_map (by simp)]
    exact each_text hmarks _

/-- A default value shows the same words, but a string has no quotes. -/
theorem each_defaultText (declared : TypeRef) (hnames : ∀ name ∈ declared.names, Each good name)
    (value : Constant) :
    Each good (defaultText declared value) ↔ ∀ atom ∈ value.atoms, Each good atom.source := by
  rw [← each_textAs hmarks declared hnames]
  cases value with
  | string s => exact each_bareOr hmarks (.string s)
  | _ => rfl

end Constant

end

/-- Documentation in a table is of a class of characters if what stands for a line break is, and
what the comments have besides line breaks. -/
theorem each_documentationIn {good : Char → Prop} {marker : String} (hmarker : Each good marker)
    (comments : List Comment) :
    Each good (documentationIn marker comments) ↔
      ∀ c ∈ documentationChars comments, ¬ IsLineBreak c → good c := by
  rw [documentationIn, each_ofList, List.forall_mem_flatMap]
  refine forall₂_congr fun c _ => ?_
  split
  · next hbreak => exact ⟨fun _ hnot => absurd hbreak hnot, fun _ => hmarker⟩
  · next hbreak => simp [IsLineBreak, hbreak]

end ThriftPages
