/-
# What a file of settings gives

The key of an entry is a path. It leads to a section, or on to one of its fields, or
somewhere else. A file is plain if what its entries put under the keys of the
sections are scalars (`SettingsFile.IsPlain`); whatever else is in it may be anything.
An entry of such a file is laid over the place of a key if it has a value for it and
leaves it alone otherwise (`Layers.at?_place_entry`), so the last value that a file
has for a key shows (`Layers.at?_layEntries`), and of several files the last one that
has a value (`Layers.mapM_entries`).

An entry that takes its section as an array, or a key's value as a table, is not
plain: what it does depends on all that stood there.

Key definitions: `SettingsFile.IsPlain`, `SettingsFile.setting?`,
`SettingsFile.isMissing`.
Key theorems: `Layers.at?_place_entry`, `Layers.at?_layEntries`,
`Layers.mapM_entries`, `Layers.mapM_entries_of_missing`.
-/
import ThriftPages.Proofs.Settings.Keys

namespace ThriftPages

/-! ### Plain files -/

/-- A value without parts. -/
def Toml.Value.IsScalar : Toml.Value → Prop
  | array _ | table _ => False
  | string _ | integer _ | float _ | boolean _ | datetime _ => True

instance : DecidablePred Toml.Value.IsScalar
  | .array _ | .table _ => inferInstanceAs (Decidable False)
  | .string _ | .integer _ | .float _ | .boolean _ | .datetime _ =>
    inferInstanceAs (Decidable True)

theorem Setting.ofToml_of_isScalar {value : Toml.Value} (h : value.IsScalar)
    (origin : Option String) : ∃ scalar, Setting.ofToml origin value = .scalar origin scalar := by
  cases value with
  | array | table => exact h.elim
  | _ => exact ⟨_, rfl⟩

theorem Setting.ofTomlEntries_eq (origin : Option String) :
    ∀ entries : List (String × Toml.Value), Setting.ofTomlEntries origin entries =
      entries.map fun entry => (entry.1, Setting.ofToml origin entry.2)
  | [] => rfl
  | (key, value) :: rest => by
    rw [Setting.ofTomlEntries, Setting.ofTomlEntries_eq origin rest, List.map_cons]

namespace SettingsFile

/-- An entry of a file leads to the section of a key. -/
def LeadsTo (key : SettingKey) (name : String) : Prop :=
  Text.lowercase (KeyPath.ofEntryKey name).root = key.sectionKey

instance (key : SettingKey) (name : String) : Decidable (LeadsTo key name) :=
  inferInstanceAs (Decidable (_ = _))

/-- A table has scalars under a key, in whatever case; anything else is no such table. -/
def HasScalars (key : SettingKey) : Toml.Value → Prop
  | .table fields => ∀ field ∈ fields, Text.lowercase field.1 = key.field → field.2.IsScalar
  | _ => False

instance (key : SettingKey) : DecidablePred (HasScalars key)
  | .table fields => inferInstanceAs (Decidable (∀ field ∈ fields, _ → _))
  | .string _ | .integer _ | .float _ | .boolean _ | .datetime _ | .array _ =>
    inferInstanceAs (Decidable False)

theorem HasScalars.exists_fields {key : SettingKey} {value : Toml.Value}
    (h : HasScalars key value) :
    ∃ fields, value = .table fields ∧
      ∀ field ∈ fields, Text.lowercase field.1 = key.field → field.2.IsScalar := by
  cases value with
  | table fields => exact ⟨fields, rfl, h⟩
  | _ => exact h.elim

/-- What stands at the end of some steps from the section of a key is a table with scalars under
the key, or a scalar if the steps lead to the key, or does not concern the key. -/
def IsPlainAt (key : SettingKey) (value : Toml.Value) : List KeyPath.Step → Prop
  | [] => HasScalars key value
  | [.name field] => Text.lowercase field = key.field → value.IsScalar
  | .name field :: _ :: _ => Text.lowercase field ≠ key.field
  | .index _ :: _ => False

instance (key : SettingKey) (value : Toml.Value) : DecidablePred (IsPlainAt key value)
  | [] => inferInstanceAs (Decidable (HasScalars key value))
  | [.name _] => inferInstanceAs (Decidable (_ → _))
  | .name _ :: _ :: _ => inferInstanceAs (Decidable (_ ≠ _))
  | .index _ :: _ => inferInstanceAs (Decidable False)

/-- An entry that leads to a section, its name in whatever case, has scalars for the section's
keys. -/
def IsPlainEntry (entry : String × Toml.Value) : Prop :=
  ∀ key, LeadsTo key entry.1 → IsPlainAt key entry.2 (KeyPath.ofEntryKey entry.1).steps

instance : DecidablePred IsPlainEntry := fun _ => inferInstanceAs (Decidable (∀ _, _))

/-- The values for a key of what stands at the end of some steps from its section, in whatever
case. -/
def valuesAt (key : SettingKey) (value : Toml.Value) : List KeyPath.Step → List Toml.Value
  | [] =>
    match value with
    | .table fields => (fields.filter fun field => Text.lowercase field.1 = key.field).map Prod.snd
    | _ => []
  | [.name field] => if Text.lowercase field = key.field then [value] else []
  | .name _ :: _ :: _ | .index _ :: _ => []

/-- The values that an entry has for a key, in whatever case. -/
def valuesIn (key : SettingKey) (entry : String × Toml.Value) : List Toml.Value :=
  if LeadsTo key entry.1 then valuesAt key entry.2 (KeyPath.ofEntryKey entry.1).steps else []

/-- The setting that the entries of a file have for a key. -/
def settingIn? (uri : String) (key : SettingKey) (entries : List (String × Toml.Value)) :
    Option Setting :=
  (entries.flatMap (valuesIn key)).getLast?.map (Setting.ofToml (some uri))

/-- What is found under a path, if anything is. -/
def find? (read : FileReader) (path : String) : Option (String × String) :=
  (resolve read path).toOption

/-- The setting that a file has for a key, if the file is there. -/
def setting? (read : FileReader) (key : SettingKey) (file : SettingsFile) : Option Setting :=
  match find? read file.path with
  | some (uri, text) =>
    match Toml.ofText? text with
    | some (.table entries) => settingIn? uri key entries
    | _ => none
  | none => none

/-- What was read of a text is a table whose entries are plain. -/
def IsPlainTable : Option Toml.Value → Prop
  | some (.table entries) => ∀ entry ∈ entries, IsPlainEntry entry
  | _ => False

instance : DecidablePred IsPlainTable
  | some (.table entries) => inferInstanceAs (Decidable (∀ entry ∈ entries, IsPlainEntry entry))
  | some (.string _) | some (.integer _) | some (.float _) | some (.boolean _)
  | some (.datetime _) | some (.array _) | none => inferInstanceAs (Decidable False)

theorem IsPlainTable.exists_entries {value : Option Toml.Value} (h : IsPlainTable value) :
    ∃ entries, value = some (.table entries) ∧ ∀ entry ∈ entries, IsPlainEntry entry := by
  unfold IsPlainTable at h
  split at h
  · exact ⟨_, rfl, h⟩
  · exact h.elim

/-- If the file is there, it is TOML with scalars under the keys of the sections. -/
def IsPlain (read : FileReader) (file : SettingsFile) : Prop :=
  ∀ found ∈ find? read file.path, IsPlainTable (Toml.ofText? found.2)

instance (read : FileReader) : DecidablePred (IsPlain read) := fun file =>
  inferInstanceAs (Decidable (∀ found ∈ find? read file.path, IsPlainTable (Toml.ofText? found.2)))

/-- The file must be there and is not, or cannot be read. -/
def isMissing (read : FileReader) (file : SettingsFile) : Bool :=
  file.required && (find? read file.path).isNone

theorem entries_of_find? {read : FileReader} {file : SettingsFile} {uri text : String}
    (h : find? read file.path = some (uri, text)) : file.entries read = entriesOf uri text := by
  rw [entries, Steps.toOption_eq_some_iff.1 h, entriesIn]

/-- Why a file cannot be read shows if the file must be there. -/
theorem entries_of_find?_none {read : FileReader} {file : SettingsFile}
    (h : find? read file.path = none) : ∃ fault, resolve read file.path = .error fault ∧
      file.entries read = if file.required then .error fault else .ok [] := by
  unfold find? at h
  unfold entries
  cases hresolve : resolve read file.path with
  | ok found => simp [hresolve, Except.toOption] at h
  | error fault => exact ⟨fault, rfl, rfl⟩

theorem entries_of_isMissing {read : FileReader} {file : SettingsFile}
    (h : file.isMissing read = true) :
    ∃ fault, resolve read file.path = .error fault ∧ file.entries read = .error fault := by
  obtain ⟨hrequired, hnone⟩ : file.required = true ∧ find? read file.path = none := by
    simpa [isMissing] using h
  obtain ⟨fault, hfault, hentries⟩ := entries_of_find?_none hnone
  exact ⟨fault, hfault, by rw [hentries, if_pos hrequired]⟩

end SettingsFile

/-! ### Files laid over a tree -/

namespace Layers

open SettingsFile (IsPlainEntry LeadsTo IsPlain isMissing valuesIn settingIn? setting?)

variable {read : FileReader} {key : SettingKey}

/-- What stands at the end of some steps from the section of a key is laid over its place if it has
a value for it, and leaves it alone otherwise. -/
theorem at?_place_steps {root : String} {steps : List KeyPath.Step} {value : Toml.Value}
    (hroot : Text.lowercase root = key.sectionKey) (h : SettingsFile.IsPlainAt key value steps)
    (origin : Option String) (tree : Setting) :
    ((KeyPath.mk root steps).place (Setting.ofToml origin value) tree).at? key =
      ((SettingsFile.valuesAt key value steps).getLast?.map (Setting.ofToml origin)).or
        (tree.at? key) := by
  match steps with
  | [] =>
    obtain ⟨fields, rfl, hscalars⟩ := SettingsFile.HasScalars.exists_fields h
    have hsettings : ∀ field ∈ Setting.ofTomlEntries origin fields,
        Text.lowercase field.1 = key.field → ∃ origin value, field.2 = .scalar origin value := by
      intro field hfield hname
      rw [Setting.ofTomlEntries_eq] at hfield
      obtain ⟨written, hwritten, rfl⟩ := List.mem_map.1 hfield
      exact ⟨origin, Setting.ofToml_of_isScalar (hscalars written hwritten hname) origin⟩
    rw [Setting.ofToml, Setting.at?_place_table hroot origin tree hsettings,
      Setting.ofTomlEntries_eq]
    simp [SettingsFile.valuesAt, List.filter_map, Function.comp_def]
  | [.name field] =>
    by_cases hfield : Text.lowercase field = key.field
    · obtain ⟨scalar, hscalar⟩ := Setting.ofToml_of_isScalar (h hfield) origin
      rw [hscalar, Setting.at?_place_field hroot hfield]
      simp [SettingsFile.valuesAt, hfield, hscalar]
    · rw [Setting.at?_place_other_field hroot hfield]
      simp [SettingsFile.valuesAt, hfield]
  | .name field :: step :: steps =>
    rw [Setting.at?_place_other_field hroot h]
    rfl
  | .index _ :: _ => exact h.elim

/-- An entry of a file is laid over the place of a key if it has a value for it, and leaves it
alone otherwise. -/
theorem at?_place_entry {entry : String × Toml.Value} (h : IsPlainEntry entry)
    (origin : Option String) (tree : Setting) :
    ((KeyPath.ofEntryKey entry.1).place (Setting.ofToml origin entry.2) tree).at? key =
      ((valuesIn key entry).getLast?.map (Setting.ofToml origin)).or (tree.at? key) := by
  unfold valuesIn
  by_cases hleads : LeadsTo key entry.1
  · rw [if_pos hleads]
    exact at?_place_steps hleads (h key hleads) origin tree
  · rw [if_neg hleads, Setting.at?_place_elsewhere (Ne.symm hleads)]
    rfl

/-- The entries of a file are laid over the place of a key: the last value that they have for it
shows. -/
theorem at?_layEntries {entries : List (String × Toml.Value)} {uri : String} {tree : Setting}
    (h : ∀ entry ∈ entries, IsPlainEntry entry) :
    (layEntries tree (Setting.ofTomlEntries (some uri) entries)).at? key =
      (settingIn? uri key entries).or (tree.at? key) := by
  induction entries generalizing tree with
  | nil => rfl
  | cons entry rest ih =>
    have hlaid : (layEntries tree (Setting.ofTomlEntries (some uri) (entry :: rest))).at? key =
        (settingIn? uri key rest).or (((KeyPath.ofEntryKey entry.1).place
          (Setting.ofToml (some uri) entry.2) tree).at? key) :=
      ih fun other hother => h other (List.mem_cons_of_mem _ hother)
    rw [hlaid, at?_place_entry (h entry List.mem_cons_self), settingIn?, settingIn?,
      List.flatMap_cons, List.getLast?_append, Option.map_or, Option.or_assoc]

/-- A plain file that is not missing gives entries, which are laid over the places of the keys. -/
theorem entries_of_isPlain {file : SettingsFile} (h : file.IsPlain read)
    (hmissing : file.isMissing read = false) :
    ∃ entries, file.entries read = .ok entries ∧ ∀ tree key,
      (layEntries tree entries).at? key = (file.setting? read key).or (tree.at? key) := by
  unfold setting?
  cases hfind : SettingsFile.find? read file.path with
  | none =>
    have hoptional : file.required = false := by simpa [isMissing, hfind] using hmissing
    obtain ⟨fault, -, hentries⟩ := SettingsFile.entries_of_find?_none hfind
    rw [hentries, hoptional]
    exact ⟨[], rfl, fun tree key => rfl⟩
  | some found =>
    obtain ⟨uri, text⟩ := found
    obtain ⟨entries, htext, hplain⟩ := (h (uri, text) hfind).exists_entries
    replace htext : Toml.ofText? text = some (.table entries) := htext
    refine ⟨Setting.ofTomlEntries (some uri) entries, ?_, fun tree key => ?_⟩
    · simp only [SettingsFile.entries_of_find? hfind, SettingsFile.entriesOf, htext]
    · simp only [htext]
      exact at?_layEntries hplain

/-- The first file that is missing is the fault. -/
theorem mapM_entries_of_missing {files : List SettingsFile} {file : SettingsFile}
    (h : ∀ file ∈ files, file.IsPlain read) (hmissing : files.find? (isMissing read) = some file) :
    ∃ fault, SettingsFile.resolve read file.path = .error fault ∧
      files.mapM (SettingsFile.entries read) = .error fault := by
  induction files with
  | nil => cases hmissing
  | cons first rest ih =>
    rw [List.mapM_cons]
    cases hfirst : first.isMissing read with
    | true =>
      rw [List.find?_cons_of_pos hfirst] at hmissing
      obtain rfl := Option.some.inj hmissing
      obtain ⟨fault, hfault, hentries⟩ := SettingsFile.entries_of_isMissing hfirst
      rw [hentries]
      exact ⟨fault, hfault, rfl⟩
    | false =>
      obtain ⟨entries, hentries, -⟩ := entries_of_isPlain (h first List.mem_cons_self) hfirst
      rw [List.find?_cons_of_neg (by simp [hfirst])] at hmissing
      obtain ⟨fault, hfault, hrest⟩ :=
        ih (fun other hother => h other (List.mem_cons_of_mem _ hother)) hmissing
      rw [hentries, Steps.ok_bind, hrest]
      exact ⟨fault, hfault, rfl⟩

/-- Files of which none is missing are laid over the places of the keys: the last one that has
a setting for a key shows. -/
theorem mapM_entries {files : List SettingsFile} (h : ∀ file ∈ files, file.IsPlain read)
    (hmissing : files.find? (isMissing read) = none) :
    ∃ laid, files.mapM (SettingsFile.entries read) = .ok laid ∧ ∀ tree key,
      (laid.foldl layEntries tree).at? key =
        (files.filterMap (setting? read key)).getLast?.or (tree.at? key) := by
  induction files with
  | nil => exact ⟨[], rfl, fun tree key => rfl⟩
  | cons first rest ih =>
    obtain ⟨hfirst, hnone⟩ : first.isMissing read = false ∧ rest.find? (isMissing read) = none := by
      simpa using hmissing
    obtain ⟨entries, hentries, hlaid⟩ := entries_of_isPlain (h first List.mem_cons_self) hfirst
    obtain ⟨laid, hrest, hrestLaid⟩ :=
      ih (fun other hother => h other (List.mem_cons_of_mem _ hother)) hnone
    refine ⟨entries :: laid, ?_, fun tree key => ?_⟩
    · rw [List.mapM_cons, hentries, Steps.ok_bind, hrest]
      rfl
    · rw [List.foldl_cons, hrestLaid, hlaid, ← Option.or_assoc]
      congr 1
      cases hsetting : first.setting? read key with
      | none => simp [hsetting]
      | some setting => simp [hsetting, List.getLast?_cons]

end Layers

end ThriftPages
