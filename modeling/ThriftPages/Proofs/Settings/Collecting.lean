/-
# Collecting layers

Settings are gathered in steps, each of which adds a file or sets a single value
(`LayerStep`). Whatever the order of the steps, the files are collected in their
order, and of each key that was set the last value (`Layers.Collects`): one step
keeps this, so any number of them do. Single values that are laid over a tree are
found in their places (`Layers.at?_layOverrides`).

Key definitions: `LayerStep`, `Layers.after`, `Layers.filesOf`,
`Layers.lastValue?`, `Layers.Collects`.
Key theorems: `Layers.Collects.take`, `Layers.collects_after`,
`Layers.at?_layOverrides`.
-/
import Mathlib.Data.List.Nodup
import ThriftPages.Proofs.Settings.Keys

namespace ThriftPages

/-! ### Steps -/

/-- A step that adds a layer. -/
inductive LayerStep
  | override (key : SettingKey) (value : Scalar)
  | file (path : String)
  | optionalFile (path : String)

namespace LayerStep

/-- The file that a step adds. -/
def file? : LayerStep → Option SettingsFile
  | override _ _ => none
  | file path => some ⟨path, true⟩
  | optionalFile path => some ⟨path, false⟩

/-- The value that a step sets for a key. -/
def value? (key : SettingKey) : LayerStep → Option Scalar
  | override k value => if k = key then some value else none
  | file _ | optionalFile _ => none

end LayerStep

namespace Layers

/-- Takes a step. -/
def take (layers : Layers) : LayerStep → Except SettingsFault Layers
  | .override key value => layers.override key.text value
  | .file path => .ok (layers.addFile path)
  | .optionalFile path => .ok (layers.addOptionalFile path)

/-- The layers after steps above the built-in settings. -/
def after (steps : List LayerStep) : Except SettingsFault Layers := steps.foldlM take {}

/-- The files that steps add, in their order. -/
def filesOf (steps : List LayerStep) : List SettingsFile := steps.filterMap LayerStep.file?

/-- The value that steps set last for a key. -/
def lastValue? (key : SettingKey) (steps : List LayerStep) : Option Scalar :=
  (steps.filterMap (LayerStep.value? key)).getLast?

/-! ### What the steps leave -/

section Overriding

variable {path other : KeyPath} {value : Scalar}

theorem lookup_overriding_self : ∀ overrides : List (KeyPath × Scalar),
    (overriding path value overrides).lookup path = some value
  | [] => by simp [overriding]
  | (p, v) :: rest => by
    unfold overriding
    split
    · next h => simp [h]
    · next h =>
      have hne : (path == p) = false := by simpa using h
      simpa [List.lookup_cons, hne] using lookup_overriding_self rest

theorem lookup_overriding_of_ne (h : other ≠ path) : ∀ overrides : List (KeyPath × Scalar),
    (overriding path value overrides).lookup other = overrides.lookup other
  | [] => by
    have hne : (other == path) = false := by simpa using h
    simp [overriding, List.lookup_cons, hne]
  | (p, v) :: rest => by
    unfold overriding
    split
    · next hp =>
      have hne : (other == p) = false := by simpa [← hp] using h
      simp [List.lookup_cons, hne]
    · simp only [List.lookup_cons, lookup_overriding_of_ne h rest]

/-- A path that is set again keeps its place in the row, a new one comes at its end. -/
theorem map_fst_overriding : ∀ overrides : List (KeyPath × Scalar),
    (overriding path value overrides).map Prod.fst =
      if path ∈ overrides.map Prod.fst then overrides.map Prod.fst
      else overrides.map Prod.fst ++ [path]
  | [] => by simp [overriding]
  | (p, v) :: rest => by
    have ih := map_fst_overriding rest
    unfold overriding
    by_cases hp : path = p
    · simp [hp]
    · rw [if_neg hp, List.map_cons, ih]
      by_cases hrest : path ∈ rest.map Prod.fst
      · have hin : path ∈ ((p, v) :: rest).map Prod.fst := List.mem_cons_of_mem p hrest
        rw [if_pos hrest, if_pos hin, List.map_cons]
      · have hnot : path ∉ ((p, v) :: rest).map Prod.fst := by
          rw [List.map_cons, List.mem_cons, not_or]
          exact ⟨hp, hrest⟩
        rw [if_neg hrest, if_neg hnot, List.map_cons, List.cons_append]

end Overriding

/-- The layers hold what the steps added: the files in their order, and for each key that was
set one value, the last. -/
structure Collects (steps : List LayerStep) (layers : Layers) : Prop where
  files : layers.files = filesOf steps
  keys : ∀ path ∈ layers.overrides.map Prod.fst, ∃ key : SettingKey, path = key.path
  once : (layers.overrides.map Prod.fst).Nodup
  values : ∀ key : SettingKey, layers.overrides.lookup key.path = lastValue? key steps

theorem collects_nil : Collects [] {} where
  files := rfl
  keys := nofun
  once := List.nodup_nil
  values _ := rfl

theorem filesOf_append (before later : List LayerStep) :
    filesOf (before ++ later) = filesOf before ++ filesOf later :=
  List.filterMap_append

theorem lastValue?_append (key : SettingKey) (steps : List LayerStep) (step : LayerStep) :
    lastValue? key (steps ++ [step]) = (step.value? key).or (lastValue? key steps) := by
  rw [lastValue?, List.filterMap_append, List.getLast?_append]
  cases hvalue : step.value? key <;> simp [lastValue?, hvalue]

/-- A single value that is set again is collected in the place of the earlier one. -/
theorem Collects.override {steps : List LayerStep} {layers : Layers} (h : Collects steps layers)
    (key : SettingKey) (value : Scalar) :
    Collects (steps ++ [.override key value])
      { layers with overrides := overriding key.path value layers.overrides } where
  files := by
    rw [filesOf_append, ← h.files]
    exact (List.append_nil _).symm
  keys path hpath := by
    rw [map_fst_overriding] at hpath
    split at hpath
    · exact h.keys path hpath
    · rcases List.mem_append.1 hpath with hold | hnew
      · exact h.keys path hold
      · exact ⟨key, List.mem_singleton.1 hnew⟩
  once := by
    rw [map_fst_overriding]
    split
    · exact h.once
    · next hnot =>
      have hapart : List.Disjoint (layers.overrides.map Prod.fst) [key.path] :=
        List.disjoint_singleton.2 hnot
      exact List.Nodup.append h.once (List.nodup_singleton _) hapart
  values other := by
    rw [lastValue?_append, LayerStep.value?]
    by_cases hkey : key = other
    · rw [if_pos hkey, ← hkey, lookup_overriding_self, Option.some_or]
    · have hpath : other.path ≠ key.path := fun heq => hkey (SettingKey.path_injective heq).symm
      rw [if_neg hkey, lookup_overriding_of_ne hpath, Option.none_or, h.values other]

/-- A file is collected behind the earlier ones. -/
theorem Collects.addFiles {steps : List LayerStep} {layers : Layers} (h : Collects steps layers)
    {step : LayerStep} {file : SettingsFile} (hfile : step.file? = some file)
    (hvalue : ∀ key, step.value? key = none) :
    Collects (steps ++ [step]) { layers with files := layers.files ++ [file] } where
  files := by
    rw [filesOf_append, ← h.files, filesOf, List.filterMap_cons_some hfile]
    rfl
  keys := h.keys
  once := h.once
  values key := by rw [lastValue?_append, hvalue, Option.none_or, h.values key]

/-- A step on what was collected succeeds and is collected. -/
theorem Collects.take {steps : List LayerStep} {layers : Layers} (h : Collects steps layers)
    (step : LayerStep) :
    ∃ layers', layers.take step = .ok layers' ∧ Collects (steps ++ [step]) layers' := by
  cases step with
  | override key value =>
    refine ⟨_, ?_, h.override key value⟩
    rw [Layers.take, Layers.override, SettingKey.ofText?_text]
  | file path => exact ⟨_, rfl, h.addFiles rfl fun _ => rfl⟩
  | optionalFile path => exact ⟨_, rfl, h.addFiles rfl fun _ => rfl⟩

theorem Collects.takeAll {before : List LayerStep} {layers : Layers} (h : Collects before layers)
    (steps : List LayerStep) :
    ∃ layers', steps.foldlM Layers.take layers = .ok layers' ∧
      Collects (before ++ steps) layers' := by
  induction steps generalizing before layers with
  | nil => exact ⟨layers, rfl, by rwa [List.append_nil]⟩
  | cons step steps ih =>
    obtain ⟨next, htake, hnext⟩ := h.take step
    obtain ⟨layers', hrun, hlast⟩ := ih hnext
    refine ⟨layers', ?_, by rwa [List.append_cons]⟩
    rw [List.foldlM_cons, htake]
    exact hrun

/-- **Any number of steps succeeds, and all of them are collected.** -/
theorem collects_after (steps : List LayerStep) :
    ∃ layers, after steps = .ok layers ∧ Collects steps layers :=
  collects_nil.takeAll steps

/-- Single values that are laid over a tree are found in their places. -/
theorem at?_layOverrides {key : SettingKey} {overrides : List (KeyPath × Scalar)} {tree : Setting}
    (hkeys : ∀ path ∈ overrides.map Prod.fst, ∃ key : SettingKey, path = key.path)
    (honce : (overrides.map Prod.fst).Nodup) :
    (layOverrides tree overrides).at? key =
      ((overrides.lookup key.path).map (Setting.scalar none)).or (tree.at? key) := by
  induction overrides generalizing tree with
  | nil => rfl
  | cons first rest ih =>
    obtain ⟨path, value⟩ := first
    obtain ⟨hnot, hrest⟩ := List.nodup_cons.1 honce
    obtain ⟨other, rfl⟩ : ∃ other : SettingKey, path = other.path := hkeys _ List.mem_cons_self
    have hlaid : (layOverrides tree ((other.path, value) :: rest)).at? key =
        ((rest.lookup key.path).map (Setting.scalar none)).or
          ((other.path.place (.scalar none value) tree).at? key) :=
      ih (fun path hpath => hkeys path (List.mem_cons_of_mem _ hpath)) hrest
    rw [hlaid]
    by_cases hkey : key = other
    · -- A path is set once, so nothing of what follows takes the value away again.
      subst hkey
      have hnone : rest.lookup key.path = none := by
        refine List.lookup_eq_none_iff.2 fun later hlater => ?_
        have hlater : later.1 ∈ rest.map Prod.fst := List.mem_map_of_mem hlater
        have hne : key.path ≠ later.1 := fun heq => hnot (heq ▸ hlater)
        simpa using hne
      rw [hnone, Setting.at?_place_self, List.lookup_cons, beq_self_eq_true]
      rfl
    · have hpath : (key.path == other.path) = false := by
        simpa using fun heq => hkey (SettingKey.path_injective heq)
      rw [Setting.at?_place_of_ne hkey, List.lookup_cons, hpath]

end Layers

end ThriftPages
