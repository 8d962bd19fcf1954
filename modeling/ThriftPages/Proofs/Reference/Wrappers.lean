/-
# Wrapped numbers

Every number in a document stands in a wrapper that says whether it is whole. A page does not
show it: a wrapper has the text of what it holds. That alone does not make wrappers invisible,
since the places that show a value go by its form, and a wrapper hides the form of what it
holds. A string in a wrapper would have quotes where a bare string has none, and a map in one
would not show its value type.

As long as wrappers finally hold numerals (`Constant.WrapsNumbers`) there is no such place, and
a document has the page that it has with every wrapper replaced by what it finally holds
(`Document.wrappers_not_shown`).

Key definitions: `Constant.unwrapped`, `Constant.HasWrapper`, `Constant.WrapsNumbers`.
Key theorems: `Constant.not_hasWrapper_unwrapped`, `Constant.textDeclared_unwrapped`,
`Document.wrappers_not_shown`.
-/
import ThriftPages.Proofs.Reference.DocumentValues

namespace ThriftPages

namespace Constant

/-! ### Values without wrappers -/

mutual

/-- A value with every wrapper in it replaced by what it finally holds. -/
def unwrapped : Constant → Constant
  | whole number => unwrapped number
  | real number => unwrapped number
  | list elements => list (elementsUnwrapped elements)
  | map entries => map (entriesUnwrapped entries)
  | atom => atom

/-- Values without wrappers. -/
def elementsUnwrapped : List Constant → List Constant
  | [] => []
  | element :: rest => unwrapped element :: elementsUnwrapped rest

/-- Entries without wrappers. -/
def entriesUnwrapped : List (Constant × Constant) → List (Constant × Constant)
  | [] => []
  | (key, value) :: rest => (unwrapped key, unwrapped value) :: entriesUnwrapped rest

end

theorem elementsUnwrapped_eq : ∀ elements : List Constant,
    elementsUnwrapped elements = elements.map unwrapped
  | [] => rfl
  | element :: rest => by rw [elementsUnwrapped, elementsUnwrapped_eq rest, List.map_cons]

theorem entriesUnwrapped_eq : ∀ entries : List (Constant × Constant),
    entriesUnwrapped entries = entries.map fun entry => (entry.1.unwrapped, entry.2.unwrapped)
  | [] => rfl
  | (key, value) :: rest => by rw [entriesUnwrapped, entriesUnwrapped_eq rest, List.map_cons]

/-- The value is a wrapper or has one at some depth. -/
inductive HasWrapper : Constant → Prop
  | whole (number : Constant) : HasWrapper (.whole number)
  | real (number : Constant) : HasWrapper (.real number)
  | element {elements : List Constant} {element : Constant} (h : element ∈ elements)
      (helement : HasWrapper element) : HasWrapper (.list elements)
  | key {entries : List (Constant × Constant)} {entry : Constant × Constant}
      (h : entry ∈ entries) (hkey : HasWrapper entry.1) : HasWrapper (.map entries)
  | value {entries : List (Constant × Constant)} {entry : Constant × Constant}
      (h : entry ∈ entries) (hvalue : HasWrapper entry.2) : HasWrapper (.map entries)

/-- No wrapper is left. -/
theorem not_hasWrapper_unwrapped (value : Constant) : ¬ value.unwrapped.HasWrapper := by
  induction value using nested with
  | whole number ih | real number ih => rwa [unwrapped]
  | list elements ih =>
    rw [unwrapped, elementsUnwrapped_eq]
    intro hwrapper
    cases hwrapper with
    | element h helement =>
      obtain ⟨element, hmem, rfl⟩ := List.mem_map.1 h
      exact ih element hmem helement
  | map entries ih =>
    rw [unwrapped, entriesUnwrapped_eq]
    intro hwrapper
    cases hwrapper with
    | key h hkey =>
      obtain ⟨entry, hmem, rfl⟩ := List.mem_map.1 h
      exact (ih entry hmem).1 hkey
    | value h hvalue =>
      obtain ⟨entry, hmem, rfl⟩ := List.mem_map.1 h
      exact (ih entry hmem).2 hvalue
  | _ => exact nofun

/-! ### Wrappers of numerals -/

/-- A numeral, or a wrapper that finally holds one. -/
def isNumber : Constant → Bool
  | integer _ => true
  | hex _ => true
  | float _ => true
  | exponential _ => true
  | whole number => number.isNumber
  | real number => number.isNumber
  | _ => false

/-- Every wrapper in the value finally holds a numeral. -/
inductive WrapsNumbers : Constant → Prop
  | number {value : Constant} (h : value.isNumber = true) : WrapsNumbers value
  | string (text : String) : WrapsNumbers (.string text)
  | boolean (value : Bool) : WrapsNumbers (.boolean value)
  | identifier (name : String) : WrapsNumbers (.identifier name)
  | list {elements : List Constant} (h : ∀ element ∈ elements, WrapsNumbers element) :
      WrapsNumbers (.list elements)
  | map {entries : List (Constant × Constant)}
      (hkeys : ∀ entry ∈ entries, WrapsNumbers entry.1)
      (hvalues : ∀ entry ∈ entries, WrapsNumbers entry.2) : WrapsNumbers (.map entries)

/-- What a wrapper finally holds is a numeral, and has the text of the wrapper. -/
theorem number_unwrapped {value : Constant} (h : value.isNumber = true) :
    value.unwrapped.isNumber = true ∧ value.unwrapped.text = value.text := by
  induction value using nested with
  | whole number ih | real number ih =>
    rw [unwrapped, text]
    exact ih h
  | integer s | hex s | float s | exponential s => exact ⟨rfl, rfl⟩
  | _ => cases h

/-- A number is shown by its text in every place. -/
theorem number_shown {value : Constant} (h : value.isNumber = true) :
    (∀ own, bareOr own value = own) ∧ ∀ declared, value.textDeclared declared = value.text := by
  cases value with
  | string _ | boolean _ | list _ | map _ | identifier _ => cases h
  | _ => exact ⟨fun _ => rfl, fun _ => rfl⟩

/-- A value is a string exactly if it is one without its wrappers. -/
theorem bareOr_unwrapped {value : Constant} (h : value.WrapsNumbers) (own : String) :
    bareOr own value.unwrapped = bareOr own value := by
  cases h with
  | number h =>
    rw [(number_shown h).1, (number_shown (number_unwrapped h).1).1]
  | _ => rfl

/-- Numbers have the same text with and without their wrappers. -/
theorem text_unwrapped {value : Constant} (h : value.WrapsNumbers) :
    value.unwrapped.text = value.text := by
  induction h with
  | number h => exact (number_unwrapped h).2
  | @list elements h ih =>
    have helements : elementTexts (elements.map unwrapped) = elementTexts elements :=
      elementTexts_map fun element helement => by
        rw [bareOr_unwrapped (h element helement), ih element helement]
    rw [unwrapped, elementsUnwrapped_eq, text, text, helements]
  | _ => rfl

/-- **Declared values have the same text with and without the wrappers of their numbers.** -/
theorem textDeclared_unwrapped {value : Constant} (h : value.WrapsNumbers)
    (declared : Option TypeRef) :
    value.unwrapped.textDeclared declared = value.textDeclared declared := by
  cases h with
  | number h =>
    rw [(number_shown h).2, (number_shown (number_unwrapped h).1).2, (number_unwrapped h).2]
  | list h => exact text_unwrapped (.list h)
  | _ => rfl

theorem shownAlike_unwrapped {value : Constant} (h : value.WrapsNumbers) :
    value.unwrapped.ShownAlike value where
  value declared := by
    rw [valueText_eq, valueText_eq]
    exact textDeclared_unwrapped h (some declared)
  default declared := by
    rw [defaultText, defaultText, bareOr_unwrapped h]
    exact congrArg (bareOr · value) (textDeclared_unwrapped h (some declared))

end Constant

/-! ### Documents -/

/-- **Wrappers of numbers are not shown.** If all wrappers in a value finally hold numerals, the
value has the same text with and without them, by itself and declared with any type or none; and
if that holds of every value in a document, the document has the page that it has without
wrappers. -/
theorem Document.wrappers_not_shown :
    (∀ value : Constant, ¬ value.unwrapped.HasWrapper) ∧
    (∀ value : Constant, value.WrapsNumbers → value.unwrapped.text = value.text ∧
      ∀ declared, value.unwrapped.textDeclared declared = value.textDeclared declared) ∧
    ∀ (fileName : String) (options : PageOptions) (doc : Document),
      (∀ v ∈ doc.values, v.WrapsNumbers) →
      (doc.mapValues Constant.unwrapped).values = doc.values.map Constant.unwrapped ∧
      (doc.mapValues Constant.unwrapped).outline fileName options =
        doc.outline fileName options := by
  refine ⟨Constant.not_hasWrapper_unwrapped, fun value h => ?_, fun fileName options doc h => ?_⟩
  · exact ⟨Constant.text_unwrapped h, Constant.textDeclared_unwrapped h⟩
  · have hshown : ∀ v ∈ doc.values, v.unwrapped.ShownAlike v :=
      fun v hv => Constant.shownAlike_unwrapped (h v hv)
    exact ⟨doc.values_mapValues _, outline_mapValues options hshown fileName⟩

/-- Wrappers in a list, in the entries of a map, in a default value and in an enumeration. A
string in a wrapper is shown in another way without it. -/
theorem Document.limits_without_wrappers :
    let limits (one two : Constant) : Document := ⟨[
      .constant ⟨"LIMITS", .list .i32, .list [one, .string "a", .map [(.string "b", two)]], []⟩,
      .struct ⟨"Range", [⟨some 1, "low", .i32, none, some one, []⟩], []⟩,
      .enumeration ⟨"Level", [⟨"LOW", some two, []⟩], []⟩]⟩
    let wrapped := limits (.whole (.hex "0x1F")) (.real (.whole (.float "0.5")))
    let bare := limits (.hex "0x1F") (.float "0.5")
    let hidden : Constant := .list [.whole (.string "a")]
    (∀ v ∈ wrapped.values, v.WrapsNumbers) ∧
      wrapped.mapValues Constant.unwrapped = bare ∧ wrapped ≠ bare ∧
      bare.outline "range.thrift" {} = wrapped.outline "range.thrift" {} ∧
      ¬ hidden.WrapsNumbers ∧ hidden.unwrapped.text ≠ hidden.text := by
  intro limits wrapped bare hidden
  have hone : (Constant.whole (.hex "0x1F")).WrapsNumbers := .number rfl
  have htwo : (Constant.real (.whole (.float "0.5"))).WrapsNumbers := .number rfl
  have hmap : (Constant.map [(.string "b", .real (.whole (.float "0.5")))]).WrapsNumbers :=
    .map (by simpa using .string "b") (by simpa using htwo)
  have hlist := Constant.WrapsNumbers.list (List.forall_mem_cons.2 ⟨hone,
    List.forall_mem_cons.2 ⟨.string "a", List.forall_mem_singleton.2 hmap⟩⟩)
  have hvalues : ∀ v ∈ wrapped.values, v.WrapsNumbers :=
    List.forall_mem_cons.2 ⟨hlist, List.forall_mem_cons.2 ⟨hone, List.forall_mem_singleton.2 htwo⟩⟩
  have hbare : wrapped.mapValues Constant.unwrapped = bare := by decide
  obtain ⟨-, htexts, hpages⟩ := wrappers_not_shown
  have hpage := (hpages "range.thrift" {} wrapped hvalues).2
  have hdiffers : hidden.unwrapped.text ≠ hidden.text := by decide
  exact ⟨hvalues, hbare, by decide, hbare ▸ hpage, fun h => hdiffers (htexts hidden h).1,
    hdiffers⟩

end ThriftPages
