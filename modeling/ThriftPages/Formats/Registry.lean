/-
# The registry of formats

A registry holds formats in the order of their names, one per name. Registering
a format replaces the one of its name. So a registry does not tell in which
order formats of different names were registered.

Key definitions: `Registry`, `Registry.register`, `Registry.get`,
`Registry.detect?`, `Registry.write`, `Registry.builtin`.
Key theorems: `Registry.find?_register_self`, `Registry.find?_register_of_ne`.
-/
import ThriftPages.FilePath
import ThriftPages.Formats.Format

namespace ThriftPages

/-- Formats in the order of their names, no name twice. -/
structure Registry where
  formats : List Format
  sorted : formats.Pairwise fun a b => a.name < b.name

namespace Registry

/-- Puts a format in its place, instead of the one of its name. -/
def place (format : Format) : List Format → List Format
  | [] => [format]
  | f :: rest =>
    if format.name < f.name then format :: f :: rest
    else if format.name = f.name then format :: rest
    else f :: place format rest

theorem mem_place {format g : Format} : ∀ {formats : List Format},
    g ∈ place format formats → g = format ∨ g ∈ formats
  | [], h => by simpa [place] using h
  | f :: rest, h => by
    unfold place at h
    split at h
    · simpa using h
    · split at h
      · rcases List.mem_cons.1 h with h | h
        · exact .inl h
        · exact .inr (List.mem_cons_of_mem _ h)
      · rcases List.mem_cons.1 h with h | h
        · exact .inr (h ▸ List.mem_cons_self)
        · exact (mem_place h).imp id (List.mem_cons_of_mem _)

theorem sorted_place (format : Format) : ∀ {formats : List Format},
    formats.Pairwise (fun a b => a.name < b.name) →
    (place format formats).Pairwise fun a b => a.name < b.name
  | [], _ => by simp [place]
  | f :: rest, h => by
    have ⟨head, tail⟩ := List.pairwise_cons.1 h
    unfold place
    split
    · next hlt =>
      refine List.pairwise_cons.2 ⟨fun g hg => ?_, h⟩
      rcases List.mem_cons.1 hg with rfl | hg
      · exact hlt
      · exact String.lt_trans hlt (head g hg)
    · next hnlt =>
      split
      · next heq => exact List.pairwise_cons.2 ⟨fun g hg => heq ▸ head g hg, tail⟩
      · next hne =>
        refine List.pairwise_cons.2 ⟨fun g hg => ?_, sorted_place format tail⟩
        rcases mem_place hg with rfl | hg
        · rcases Std.lt_trichotomy f.name g.name with h | h | h
          · exact h
          · exact absurd h.symm hne
          · exact absurd h hnlt
        · exact head g hg

/-- The registry without formats. -/
def empty : Registry := ⟨[], .nil⟩

/-- Adds a format under its name. -/
def register (registry : Registry) (format : Format) : Registry :=
  ⟨place format registry.formats, sorted_place format registry.sorted⟩

/-- The format of a name, if there is one. -/
def find? (registry : Registry) (name : String) : Option Format :=
  registry.formats.find? fun f => f.name = name

/-- The format of a name. -/
def get (registry : Registry) (name : String) : Except FormatError Format :=
  match registry.find? name with
  | some format => .ok format
  | none => .error (.notFound name)

/-- The names in order. -/
def names (registry : Registry) : List String := registry.formats.map Format.name

/-- The name of the first format to which files with the extension of `fileName`
belong. -/
def detect? (registry : Registry) (fileName : String) : Option String :=
  (FilePath.extension? fileName).bind fun extension =>
    (registry.formats.find? fun f => extension ∈ f.extensions).map Format.name

/-- The text of a document in the format of a name. -/
def write (registry : Registry) (fileName : String) (doc : Document) (name : String)
    (options : PageOptions) : Except FormatError String := do
  let format ← registry.get name
  format.write fileName doc options

/-- The registry of the built-in formats. -/
def builtin : Registry := (empty.register .markdown).register .json

/-- A registered format is found under its name. -/
theorem find?_register_self (registry : Registry) (format : Format) :
    (registry.register format).find? format.name = some format := by
  unfold find? register
  show (place format registry.formats).find? _ = _
  induction registry.formats with
  | nil => simp [place]
  | cons f rest ih =>
    unfold place
    split
    · simp
    · split
      · simp
      · next hne => simpa [Ne.symm hne] using ih

/-- Registering a format does not touch the other names. -/
theorem find?_register_of_ne (registry : Registry) {format : Format} {name : String}
    (h : format.name ≠ name) :
    (registry.register format).find? name = registry.find? name := by
  unfold find? register
  show (place format registry.formats).find? _ = _
  induction registry.formats with
  | nil => simp [place, h]
  | cons f rest ih =>
    unfold place
    split
    · simp [h]
    · split
      · next heq => simp [h, ← heq]
      · simp only [List.find?_cons, ih]

end Registry

end ThriftPages
