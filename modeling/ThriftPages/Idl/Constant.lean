/-
# Constant values

Numbers keep the text that they were written with. A number stands inside a
wrapper that says whether it is whole. Two values are equal when they are
written alike.

Key definitions: `Constant`, `Constant.same`.
Key theorems: `Constant.nested`, `Constant.same_iff`.
-/

namespace ThriftPages

/-- The value of a constant, a default or an enumeration member. -/
inductive Constant
  | string (text : String)
  | boolean (value : Bool)
  | integer (text : String)
  | hex (text : String)
  | float (text : String)
  | exponential (text : String)
  | whole (number : Constant)
  | real (number : Constant)
  | list (elements : List Constant)
  | map (entries : List (Constant × Constant))
  | identifier (name : String)

namespace Constant

/-- Induction over a value, the elements of its lists and the entries of its maps. -/
@[elab_as_elim] theorem nested {P : Constant → Prop} (string : ∀ text, P (.string text))
    (boolean : ∀ value, P (.boolean value)) (integer : ∀ text, P (.integer text))
    (hex : ∀ text, P (.hex text)) (float : ∀ text, P (.float text))
    (exponential : ∀ text, P (.exponential text))
    (whole : ∀ number, P number → P (.whole number))
    (real : ∀ number, P number → P (.real number))
    (list : ∀ elements, (∀ element ∈ elements, P element) → P (.list elements))
    (map : ∀ entries, (∀ entry ∈ entries, P entry.1 ∧ P entry.2) → P (.map entries))
    (identifier : ∀ name, P (.identifier name)) (value : Constant) : P value := by
  refine value.rec (motive_2 := fun elements => ∀ element ∈ elements, P element)
    (motive_3 := fun entries => ∀ entry ∈ entries, P entry.1 ∧ P entry.2)
    (motive_4 := fun entry => P entry.1 ∧ P entry.2)
    string boolean integer hex float exponential whole real list map identifier ?_ ?_ ?_ ?_ ?_
  · simp
  · exact fun _ _ hhead htail => List.forall_mem_cons.2 ⟨hhead, htail⟩
  · simp
  · exact fun _ _ hhead htail => List.forall_mem_cons.2 ⟨hhead, htail⟩
  · exact fun _ _ hkey hvalue => ⟨hkey, hvalue⟩

mutual

/-- Whether two values are equal. -/
def same : Constant → Constant → Bool
  | string a, string b => a = b
  | boolean a, boolean b => a = b
  | integer a, integer b => a = b
  | hex a, hex b => a = b
  | float a, float b => a = b
  | exponential a, exponential b => a = b
  | whole a, whole b => same a b
  | real a, real b => same a b
  | list a, list b => sameElements a b
  | map a, map b => sameEntries a b
  | identifier a, identifier b => a = b
  | _, _ => false

/-- Whether two lists have equal elements. -/
def sameElements : List Constant → List Constant → Bool
  | [], [] => true
  | a :: as, b :: bs => same a b && sameElements as bs
  | _, _ => false

/-- Whether two maps have equal entries in the same order. -/
def sameEntries : List (Constant × Constant) → List (Constant × Constant) → Bool
  | [], [] => true
  | (a, v) :: as, (b, w) :: bs => same a b && same v w && sameEntries as bs
  | _, _ => false

end

mutual

theorem same_iff : ∀ a b : Constant, same a b = true ↔ a = b
  | string _, b | boolean _, b | integer _, b | hex _, b | float _, b | exponential _, b
  | identifier _, b => by cases b <;> simp [same]
  | whole a, b => by cases b <;> simp [same, same_iff a]
  | real a, b => by cases b <;> simp [same, same_iff a]
  | list as, b => by cases b <;> simp [same, sameElements_iff as]
  | map as, b => by cases b <;> simp [same, sameEntries_iff as]

theorem sameElements_iff : ∀ as bs : List Constant, sameElements as bs = true ↔ as = bs
  | [], bs => by cases bs <;> simp [sameElements]
  | a :: as, bs => by cases bs <;> simp [sameElements, same_iff a, sameElements_iff as]

theorem sameEntries_iff : ∀ as bs : List (Constant × Constant),
    sameEntries as bs = true ↔ as = bs
  | [], bs => by cases bs <;> simp [sameEntries]
  | (a, v) :: as, bs => by
    cases bs <;> simp [sameEntries, same_iff a, same_iff v, sameEntries_iff as, Prod.ext_iff]

end

instance : DecidableEq Constant := fun a b => decidable_of_iff _ (same_iff a b)

end Constant

end ThriftPages
