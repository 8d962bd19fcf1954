/-
# Map constants and their declared types

A value may match its declared type part by part: the elements of a list constant match the
element type of a list or set type, a map constant stands where the type is that of a map,
and scalars and identifiers stand anywhere (`Constant.Matches`). Such a value can be shown by
going down the type and the value together (`Constant.shownAs`): then every map constant
shows the value type that it is declared with.

The text of a value goes down the value alone. A map constant that is declared itself shows
its value type, but one that is an element of a list shows `map<>`. So the text is the one
shown by the type if and only if no map stands in a list (`Constant.textAs_eq_shownAs_iff`):
a map in a list makes the text shorter, since every type has a text.

Key definitions: `Constant.Matches`, `Constant.shownAs`, `Constant.ShowsMap`.
Key theorems: `Constant.length_text_lt`, `Constant.textDeclared_of_matches`.
-/
import Mathlib.Algebra.GroupWithZero.Nat
import Mathlib.Algebra.Order.BigOperators.Group.List
import Mathlib.Algebra.Order.Group.Nat
import ThriftPages.Proofs.Text.Characters
import ThriftPages.Reference.Inline

namespace ThriftPages

/-! ### Lengths -/

/-- Every type has a text. -/
theorem TypeRef.length_text_pos (type : TypeRef) : 0 < type.text.length := by
  cases type with
  | list element | set element | map key value =>
    simp only [text, String.length_append, Nat.add_assoc]
    exact Nat.add_pos_left (by decide) _
  | named name =>
    simp only [text, link, String.length_append, Nat.add_assoc]
    exact Nat.add_pos_left (by decide) _
  | _ => decide

theorem length_commaList : ∀ texts : List String,
    (String.intercalate "," texts).length = (texts.map String.length).sum + (texts.length - 1)
  | [] => by simp
  | [text] => by simp
  | text :: next :: rest => by
    rw [String.intercalate_cons_cons, String.length_append, String.length_append,
      length_commaList (next :: rest)]
    have hcomma : (",".length) = 1 := rfl
    simp only [List.map_cons, List.sum_cons, List.length_cons, hcomma]
    omega

namespace Constant

/-! ### The text by the type -/

/-- Neither a list nor a map, nor a wrapper of one. -/
def isScalar : Constant → Bool
  | list _ => false
  | map _ => false
  | whole number => number.isScalar
  | real number => number.isScalar
  | _ => true

/-- The value has the structure of the type: a list constant has a list or set type whose
element type its elements match, and a map constant has a map type. -/
inductive Matches : TypeRef → Constant → Prop
  | scalar {type : TypeRef} {value : Constant} (h : value.isScalar = true) : Matches type value
  | list {element : TypeRef} {values : List Constant} (h : ∀ v ∈ values, Matches element v) :
      Matches (.list element) (.list values)
  | set {element : TypeRef} {values : List Constant} (h : ∀ v ∈ values, Matches element v) :
      Matches (.set element) (.list values)
  | map (key value : TypeRef) (entries : List (Constant × Constant)) :
      Matches (.map key value) (.map entries)

mutual

/-- The text of a value by its type: a list constant shows its elements by the element type,
and a map constant shows the value type of its own map type. -/
def shownAs : TypeRef → Constant → String
  | .list element, list values =>
    "list<" ++ String.intercalate "," (elementsShownAs element values) ++ ">"
  | .set element, list values =>
    "list<" ++ String.intercalate "," (elementsShownAs element values) ++ ">"
  | .map _ value, map _ => "map<" ++ value.text ++ ">"
  | _, value => value.text

/-- What a list shows of elements of a type; a string stands bare. -/
def elementsShownAs (element : TypeRef) : List Constant → List String
  | [] => []
  | value :: rest => bareOr (shownAs element value) value :: elementsShownAs element rest

end

theorem elementsShownAs_eq (element : TypeRef) : ∀ values : List Constant,
    elementsShownAs element values = values.map fun v => bareOr (v.shownAs element) v
  | [] => by simp [elementsShownAs]
  | value :: rest => by simp [elementsShownAs, elementsShownAs_eq element rest]

theorem shownAs_scalar {value : Constant} (h : value.isScalar = true) (type : TypeRef) :
    value.shownAs type = value.text := by
  cases value with
  | list values => cases h
  | map entries => cases h
  | _ => cases type <;> simp only [shownAs]

/-- The value is a map, or a list in which a map is shown. -/
inductive ShowsMap : Constant → Prop
  | map (entries : List (Constant × Constant)) : ShowsMap (.map entries)
  | list {values : List Constant} {value : Constant} (hv : value ∈ values)
      (h : ShowsMap value) : ShowsMap (.list values)

theorem not_showsMap_scalar {value : Constant} (h : value.isScalar = true) : ¬value.ShowsMap := by
  rintro (_ | _) <;> cases h

/-! ### The text without the type -/

/-- What a list shows of its elements is the same if their texts are. -/
theorem list_text_eq {element : TypeRef} {values : List Constant}
    (h : ∀ v ∈ values, v.shownAs element = v.text) :
    elementTexts values = elementsShownAs element values := by
  rw [elementTexts_eq, elementsShownAs_eq]
  exact List.map_congr_left fun v hv => by rw [h v hv]

/-- Where no map is shown the type is of no use. -/
theorem shownAs_eq_text {type : TypeRef} {value : Constant} (h : Matches type value)
    (hmap : ¬value.ShowsMap) : value.shownAs type = value.text := by
  induction h with
  | scalar h => exact shownAs_scalar h _
  | @list element values h ih | @set element values h ih =>
    have helements : ∀ v ∈ values, v.shownAs element = v.text :=
      fun v hv => ih v hv fun hv' => hmap (.list hv hv')
    rw [shownAs, text, list_text_eq helements]
  | map key value entries => exact absurd (.map entries) hmap

theorem length_bareOr_le {a b : String} (h : a.length ≤ b.length) (value : Constant) :
    (bareOr a value).length ≤ (bareOr b value).length := by
  cases value <;> first | exact Nat.le_refl _ | exact h

theorem bareOr_of_showsMap {value : Constant} (h : value.ShowsMap) (own : String) :
    bareOr own value = own := by
  cases h <;> rfl

/-- The elements of a list take no less room by their type, and more if one shows a map. -/
theorem length_elements {element : TypeRef} {values : List Constant}
    (hle : ∀ v ∈ values, v.text.length ≤ (v.shownAs element).length)
    (hlt : ∀ v ∈ values, v.ShowsMap → v.text.length < (v.shownAs element).length) :
    (text (.list values)).length ≤
      ("list<" ++ String.intercalate "," (elementsShownAs element values) ++ ">").length ∧
    ((list values).ShowsMap → (text (.list values)).length <
      ("list<" ++ String.intercalate "," (elementsShownAs element values) ++ ">").length) := by
  have hsum : ∀ v ∈ values, (bareOr v.text v).length ≤ (bareOr (v.shownAs element) v).length :=
    fun v hv => length_bareOr_le (hle v hv) v
  simp only [text, String.length_append, length_commaList, elementTexts_eq, elementsShownAs_eq,
    List.map_map, List.length_map, Function.comp_def]
  refine ⟨?_, fun h => ?_⟩
  · have hle' := List.sum_le_sum hsum
    omega
  · obtain _ | @⟨_, v, hv, hshows⟩ := h
    have hlt' := List.sum_lt_sum _ _ hsum ⟨v, hv, by
      rw [bareOr_of_showsMap hshows, bareOr_of_showsMap hshows]
      exact hlt v hv hshows⟩
    omega

/-- **A map in a list loses its value type.** The text of a value takes no more room than the
one by its type, and less if it shows a map. -/
theorem length_text_lt {type : TypeRef} {value : Constant} (h : Matches type value) :
    value.text.length ≤ (value.shownAs type).length ∧
      (value.ShowsMap → value.text.length < (value.shownAs type).length) := by
  induction h with
  | scalar h =>
    rw [shownAs_scalar h]
    exact ⟨Nat.le_refl _, fun hshows => absurd hshows (not_showsMap_scalar h)⟩
  | @list element values h ih | @set element values h ih =>
    rw [shownAs]
    exact length_elements (fun v hv => (ih v hv).1) fun v hv => (ih v hv).2
  | map key value entries =>
    have hpos := value.length_text_pos
    have hlt : (text (.map entries)).length < (shownAs (.map key value) (.map entries)).length := by
      simp only [text, mapText, shownAs, String.length_append]
      show 5 < 4 + value.text.length + 1
      omega
    exact ⟨Nat.le_of_lt hlt, fun _ => hlt⟩

/-- Every map that a value shows is shown as one without a type. -/
theorem infix_text {value : Constant} (h : value.ShowsMap) :
    "map<>".toList <:+: value.text.toList := by
  induction h with
  | map entries => exact List.infix_rfl
  | @list values v hv h ih =>
    have helement : v.text ∈ elementTexts values := by
      rw [elementTexts_eq]
      exact List.mem_map.2 ⟨v, hv, bareOr_of_showsMap h _⟩
    rw [text, String.toList_append, String.toList_append]
    exact ih.trans ((Text.infix_intercalate "," helement).trans (List.infix_append _ _ _))

/-- The text of a declared value is the one by its type if and only if no map stands in a
list. -/
theorem textAs_eq_shownAs_iff {type : TypeRef} {value : Constant} (h : Matches type value) :
    value.textAs type = value.shownAs type ↔
      ∀ values, value = .list values → ¬value.ShowsMap := by
  cases value with
  | map entries =>
    refine ⟨fun _ _ hlist => (nomatch hlist), fun _ => ?_⟩
    cases h with
    | scalar h => cases h
    | map key value entries => simp only [textAs, textDeclared, mapText, shownAs]
  | list values =>
    rw [textAs_of_not_map (by simp)]
    constructor
    · intro heq _ _ hshows
      have hlt := (length_text_lt h).2 hshows
      rw [heq] at hlt
      exact Nat.lt_irrefl _ hlt
    · intro hnone
      exact (shownAs_eq_text h (hnone values rfl)).symm
  | _ =>
    rw [textAs_of_not_map (by simp)]
    refine ⟨fun _ _ hlist => (nomatch hlist), fun _ => ?_⟩
    exact (shownAs_eq_text h nofun).symm

/-- **A declared value shows the value types of its maps, but for those in lists.** The text of
a value that matches its declared type is the one by the type, unless a map stands in a list:
then the text is shorter, and a map in it is shown as one without a type. -/
theorem textDeclared_of_matches {type : TypeRef} {value : Constant} (h : Matches type value) :
    (textDeclared (some type) value = value.shownAs type ↔
      ∀ values, value = .list values → ¬value.ShowsMap) ∧
    ∀ values, value = .list values → value.ShowsMap →
      (textDeclared (some type) value).length < (value.shownAs type).length ∧
      "map<>".toList <:+: (textDeclared (some type) value).toList := by
  refine ⟨textAs_eq_shownAs_iff h, ?_⟩
  rintro values rfl hshows
  exact ⟨(length_text_lt h).2 hshows, infix_text hshows⟩

/-- A map is shown with its value type, and a list of one without it. -/
theorem textDeclared_map_in_list :
    let numbers := TypeRef.map .string .i32
    textDeclared (some numbers) (.map []) = "map<i32>" ∧
    shownAs (.list numbers) (.list [.map []]) = "list<map<i32>>" ∧
    textDeclared (some (.list numbers)) (.list [.map []]) ≠ "list<map<i32>>" ∧
    "map<>".toList <:+: (textDeclared (some (.list numbers)) (.list [.map []])).toList := by
  intro numbers
  have hmap := textDeclared_of_matches (.map .string .i32 [])
  have helements : ∀ v ∈ [Constant.map []], Matches numbers v :=
    fun v hv => List.mem_singleton.1 hv ▸ .map .string .i32 []
  have hlist := textDeclared_of_matches (.list helements)
  have hshows : (Constant.list [.map []]).ShowsMap := .list (List.mem_singleton_self _) (.map [])
  have hshown : shownAs (.list numbers) (.list [.map []]) = "list<map<i32>>" := by decide
  refine ⟨(hmap.1.2 nofun).trans (by decide), hshown, ?_, (hlist.2 _ rfl hshows).2⟩
  rw [← hshown]
  exact fun heq => hlist.1.1 heq _ rfl hshows

end Constant

end ThriftPages
