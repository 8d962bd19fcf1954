/-
# A registry and its history

A registry remembers of every name the format that was registered last under it
(`Registry.Remembers`). One registration keeps this (`Registry.Remembers.register`),
so any number of them do (`Registry.Remembers.registerAll`), and all that a
registry can be asked follows: which names there are, in the order of their
bytes, the format of a name, and the text of a document (`Registry.AnswersFor`).
Two histories in which each name has the same registrations in the same order
cannot be told apart (`Registry.Remembers.congr`).

Key definitions: `Registry.registerAll`, `Registry.lastNamed?`,
`Registry.Remembers`, `Registry.AnswersFor`.
Key theorems: `Registry.Remembers.registerAll`, `Registry.Remembers.answersFor`,
`Registry.answers_by_history`.
-/
import Mathlib.Data.List.Sort
import ThriftPages.Formats.Registry
import ThriftPages.Proofs.Text.Bytes

namespace ThriftPages.Registry

/-- The registry after formats were registered one after the other. -/
def registerAll (registry : Registry) (formats : List Format) : Registry :=
  formats.foldl register registry

/-- The format that was registered last under a name. -/
def lastNamed? (name : String) (history : List Format) : Option Format :=
  (history.filter fun f => f.name = name).getLast?

/-! ### The last format of a name -/

section LastNamed

variable {name : String} {history : List Format}

theorem lastNamed?_append_self (format : Format) :
    lastNamed? format.name (history ++ [format]) = some format := by
  simp [lastNamed?]

theorem lastNamed?_append_of_ne {format : Format} (h : format.name ≠ name) :
    lastNamed? name (history ++ [format]) = lastNamed? name history := by
  simp [lastNamed?, h]

theorem lastNamed?_eq_none_iff :
    lastNamed? name history = none ↔ ∀ f ∈ history, f.name ≠ name := by
  simp [lastNamed?]

theorem name_of_lastNamed? {format : Format} (h : lastNamed? name history = some format) :
    format.name = name := by
  have hmem := List.mem_of_getLast? h
  simpa using (List.mem_filter.1 hmem).2

end LastNamed

/-! ### What one registration keeps -/

/-- A registry has under every name the format that was registered last under it. -/
def Remembers (registry : Registry) (history : List Format) : Prop :=
  ∀ name, registry.find? name = lastNamed? name history

theorem remembers_empty : empty.Remembers [] := fun _ => rfl

theorem Remembers.register {registry : Registry} {history : List Format}
    (h : registry.Remembers history) (format : Format) :
    (registry.register format).Remembers (history ++ [format]) := by
  intro name
  by_cases hname : format.name = name
  · rw [← hname, find?_register_self, lastNamed?_append_self]
  · rw [find?_register_of_ne registry hname, lastNamed?_append_of_ne hname, h name]

/-- **Any number of registrations are remembered.** -/
theorem Remembers.registerAll {registry : Registry} {history : List Format}
    (h : registry.Remembers history) (formats : List Format) :
    (registry.registerAll formats).Remembers (history ++ formats) := by
  induction formats generalizing registry history with
  | nil => rwa [List.append_nil]
  | cons format rest ih =>
    rw [Registry.registerAll, List.foldl_cons, List.append_cons]
    exact ih (h.register format)

theorem remembers_builtin : builtin.Remembers [.markdown, .json] :=
  (remembers_empty.register .markdown).register .json

/-! ### What a registry can be asked -/

/-- The names of a registry are those under which there is a format. -/
theorem mem_names_iff {registry : Registry} {name : String} :
    name ∈ registry.names ↔ (registry.find? name).isSome := by
  simp [names, find?, List.find?_isSome]

/-- Names are listed in the order of their bytes, none twice. -/
theorem names_increasing (registry : Registry) :
    registry.names.Pairwise fun a b => Text.bytes a < Text.bytes b := by
  simp only [names, List.pairwise_map, Text.bytes_lt_iff]
  exact registry.sorted

/-- What a registry answers after a history of registrations. -/
structure AnswersFor (history : List Format) (registry : Registry) : Prop where
  /-- The names are listed in the strict order of their bytes. -/
  increasing : registry.names.Pairwise fun a b => Text.bytes a < Text.bytes b
  /-- They are the names that were registered. -/
  mem_names : ∀ name, name ∈ registry.names ↔ ∃ f ∈ history, f.name = name
  /-- A name leads to the format that was registered last under it. -/
  get : ∀ name, registry.get name =
    match lastNamed? name history with
    | some format => .ok format
    | none => .error (.notFound name)
  /-- It leads nowhere exactly if it was never registered. -/
  not_found : ∀ name, registry.get name = .error (.notFound name) ↔ ∀ f ∈ history, f.name ≠ name
  /-- A format is found under its own name. -/
  own_name : ∀ name format, registry.get name = .ok format → format.name = name
  /-- One more registration leaves the other names alone. -/
  others : ∀ (format : Format) (name : String), format.name ≠ name →
    (registry.register format).get name = registry.get name
  /-- A document is written by the format of the name, with the result that this gives. -/
  write : ∀ fileName doc name options, registry.write fileName doc name options =
    match lastNamed? name history with
    | some format => format.write fileName doc options
    | none => .error (.notFound name)

section Answers

variable {registry : Registry} {history : List Format}

theorem Remembers.get_eq (h : registry.Remembers history) (name : String) :
    registry.get name =
      match lastNamed? name history with
      | some format => .ok format
      | none => .error (.notFound name) := by
  have hfind : registry.find? name = lastNamed? name history := h name
  cases hlast : lastNamed? name history <;> simp [Registry.get, hfind, hlast]

theorem Remembers.get_eq_ok_iff (h : registry.Remembers history) {name : String}
    {format : Format} :
    registry.get name = .ok format ↔ lastNamed? name history = some format := by
  rw [h.get_eq]
  cases lastNamed? name history <;> simp

theorem Remembers.get_eq_notFound_iff (h : registry.Remembers history) {name : String} :
    registry.get name = .error (.notFound name) ↔ ∀ f ∈ history, f.name ≠ name := by
  rw [h.get_eq, ← lastNamed?_eq_none_iff]
  cases lastNamed? name history <;> simp

theorem Remembers.mem_names_iff (h : registry.Remembers history) {name : String} :
    name ∈ registry.names ↔ ∃ f ∈ history, f.name = name := by
  rw [Registry.mem_names_iff, h name, ← Option.not_isNone, Bool.not_eq_true',
    ← Bool.not_eq_true, Option.isNone_iff_eq_none, lastNamed?_eq_none_iff]
  simp

theorem Remembers.write_eq (h : registry.Remembers history) (fileName : String) (doc : Document)
    (name : String) (options : PageOptions) :
    registry.write fileName doc name options =
      match lastNamed? name history with
      | some format => format.write fileName doc options
      | none => .error (.notFound name) := by
  rw [Registry.write, h.get_eq]
  cases lastNamed? name history <;> rfl

/-- **The history of a registry settles its answers.** -/
theorem Remembers.answersFor (h : registry.Remembers history) : AnswersFor history registry where
  increasing := registry.names_increasing
  mem_names _ := h.mem_names_iff
  get := h.get_eq
  not_found _ := h.get_eq_notFound_iff
  own_name _ _ hget := name_of_lastNamed? (h.get_eq_ok_iff.1 hget)
  others format name hname := by
    rw [Registry.get, Registry.get, find?_register_of_ne registry hname]
  write := h.write_eq

end Answers

/-! ### Histories that cannot be told apart -/

/-- Histories in which each name has the same registrations in the same order. -/
def SameByName (history history' : List Format) : Prop :=
  ∀ name, (history.filter fun f => f.name = name) = history'.filter fun f => f.name = name

/-- What is before them does not matter. -/
theorem SameByName.append {history history' : List Format} (h : SameByName history history')
    (before : List Format) : SameByName (before ++ history) (before ++ history') := by
  intro name
  rw [List.filter_append, List.filter_append, h name]

/-- Neighbours of different names may be exchanged. -/
theorem sameByName_swap {a b : Format} (h : a.name ≠ b.name) (after : List Format) :
    SameByName (a :: b :: after) (b :: a :: after) := by
  intro name
  by_cases ha : a.name = name
  · have hb : b.name ≠ name := fun hb => h (ha.trans hb.symm)
    simp [ha, hb]
  · simp [List.filter_cons, ha]

/-- Registries with the same formats under all names list the same names. -/
theorem names_congr {registry registry' : Registry}
    (h : ∀ name, registry.find? name = registry'.find? name) :
    registry.names = registry'.names := by
  have hnames : ∀ name, name ∈ registry.names ↔ name ∈ registry'.names := fun name => by
    rw [mem_names_iff, mem_names_iff, h name]
  exact (List.pairwise_map.2 registry.sorted).eq_of_mem_iff
    (List.pairwise_map.2 registry'.sorted) hnames

/-- **The order of registrations under different names does not show**: neither in the names,
nor in the format of a name, nor in the text of a document. -/
theorem Remembers.congr {registry registry' : Registry} {history history' : List Format}
    (h : registry.Remembers history) (h' : registry'.Remembers history')
    (hsame : SameByName history history') :
    registry.names = registry'.names ∧ (∀ name, registry.get name = registry'.get name) ∧
      ∀ fileName doc name options,
        registry.write fileName doc name options = registry'.write fileName doc name options := by
  have hlast : ∀ name, lastNamed? name history = lastNamed? name history' := fun name => by
    rw [lastNamed?, lastNamed?, hsame name]
  refine ⟨names_congr fun name => ?_, fun name => ?_, fun fileName doc name options => ?_⟩
  · rw [h name, h' name, hlast name]
  · rw [h.get_eq, h'.get_eq, hlast name]
  · rw [h.write_eq, h'.write_eq, hlast name]

/-- **A registry answers by its history.** After any registrations, on a registry without
formats or with those built in, it lists the registered names in the strict order of their
bytes, leads from a name to the format that was registered last under it, which has that name,
and to none exactly if there never was one, and writes a document as that format does. One more
registration leaves the other names alone, and the order of registrations under different names
does not show. -/
theorem answers_by_history (formats : List Format) :
    AnswersFor formats (empty.registerAll formats) ∧
    AnswersFor ([.markdown, .json] ++ formats) (builtin.registerAll formats) ∧
    ∀ formats', SameByName formats formats' → ∀ start ∈ [empty, builtin],
      (start.registerAll formats).names = (start.registerAll formats').names ∧
      (∀ name, (start.registerAll formats).get name = (start.registerAll formats').get name) ∧
      ∀ fileName doc name options,
        (start.registerAll formats).write fileName doc name options =
          (start.registerAll formats').write fileName doc name options := by
  have hempty : ∀ formats, (empty.registerAll formats).Remembers formats :=
    remembers_empty.registerAll
  have hbuiltin : ∀ formats,
      (builtin.registerAll formats).Remembers ([.markdown, .json] ++ formats) :=
    remembers_builtin.registerAll
  refine ⟨(hempty formats).answersFor, (hbuiltin formats).answersFor,
    fun formats' hsame start hstart => ?_⟩
  rcases List.mem_pair.1 hstart with rfl | rfl
  · exact (hempty formats).congr (hempty formats') hsame
  · exact (hbuiltin formats).congr (hbuiltin formats') (hsame.append [.markdown, .json])

/-- Two formats in either order, one of which replaces a built-in one. -/
theorem replaced_and_added_in_either_order :
    let page : Format := { Format.markdown with extensions := ["md"] }
    let count : Format := ⟨"count", "", [], fun fileName doc _ =>
      .ok (fileName ++ ": " ++ toString doc.declarations.length)⟩
    SameByName [page, count] [count, page] ∧
      (builtin.registerAll [page, count]).names = ["count", "json", "markdown"] ∧
      (builtin.registerAll [count, page]).names = ["count", "json", "markdown"] := by
  intro page count
  have hsame : SameByName [page, count] [count, page] := sameByName_swap (by decide) []
  have hnames : (builtin.registerAll [page, count]).names = ["count", "json", "markdown"] := by
    decide
  obtain ⟨hother, -, -⟩ := (answers_by_history [page, count]).2.2 [count, page] hsame builtin
    (List.mem_pair.2 (.inr rfl))
  exact ⟨hsame, hnames, hother ▸ hnames⟩

end ThriftPages.Registry
