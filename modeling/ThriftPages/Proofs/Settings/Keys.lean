/-
# The keys of the settings

Of a tree of settings only seven places are read, one for each field
(`SettingKey`). The settings that a tree gives are those that the values in these
places convert to, whatever else there is in it (`Settings.ofSetting_eq`).

A setting that is placed at one of the keys is found there and leaves the others
alone (`Setting.at?_place_self`, `Setting.at?_place_of_ne`). So does what is placed at
or below a field that no key has (`Setting.at?_place_other_field`). A table that is
put under a section's name gives the section its own fields and keeps the rest
(`Setting.at?_place_table`); what goes under another name does not show
(`Setting.at?_place_elsewhere`).

Key definitions: `SettingKey`, `Setting.at?`, `Setting.Holds`,
`Settings.ofValues`, `Settings.Fills`.
Key theorems: `Setting.at?_place_self`, `Setting.at?_place_of_ne`,
`Setting.at?_place_table`, `Settings.ofSetting_eq`, `Settings.ofValues_eq_ok_iff`.
-/
import Mathlib.Data.List.Basic
import ThriftPages.Proofs.Steps
import ThriftPages.Settings.Layers

namespace ThriftPages

/-! ### The keys -/

/-- The keys that the settings have a field for. -/
inductive SettingKey
  | tableOfContents | tocMarker | lineBreakMarker | commentLanguage
  | format
  | logLevel | logStyle
deriving DecidableEq

namespace SettingKey

/-- All keys. -/
def all : List SettingKey :=
  [tableOfContents, tocMarker, lineBreakMarker, commentLanguage, format, logLevel, logStyle]

theorem mem_all (key : SettingKey) : key ∈ all := by
  cases key <;> decide

instance {P : SettingKey → Prop} [DecidablePred P] : Decidable (∀ key, P key) :=
  decidable_of_iff (∀ key ∈ all, P key) ⟨fun h key => h key key.mem_all, fun h key _ => h key⟩

/-- The section that a key is in. -/
def sectionKey : SettingKey → String
  | tableOfContents | tocMarker | lineBreakMarker | commentLanguage => pageKey
  | format => outputKey
  | logLevel | logStyle => logKey

/-- The key within its section. -/
def field : SettingKey → String
  | tableOfContents => tableOfContentsKey
  | tocMarker => tocMarkerKey
  | lineBreakMarker => lineBreakMarkerKey
  | commentLanguage => commentLanguageKey
  | format => formatKey
  | logLevel => levelKey
  | logStyle => formatKey

/-- A key as it is written. -/
def text (key : SettingKey) : String := key.sectionKey ++ "." ++ key.field

/-- The way to the place of a key. -/
def path (key : SettingKey) : KeyPath := ⟨key.sectionKey, [.name key.field]⟩

/-- The built-in value of a key. -/
def builtin : SettingKey → Scalar
  | tableOfContents => .boolean ({} : PageOptions).tableOfContents
  | tocMarker => .text ({} : PageOptions).tocMarker
  | lineBreakMarker => .text ({} : PageOptions).lineBreakMarker
  | commentLanguage => .text ({} : PageOptions).commentLanguage
  | format => .text ({} : Settings).format
  | logLevel => .text ({} : LogSettings).level
  | logStyle => .text ({} : LogSettings).style.name

theorem ofText?_text (key : SettingKey) : KeyPath.ofText? key.text = some key.path := by
  cases key <;> decide +kernel

@[simp] theorem lowercase_sectionKey (key : SettingKey) :
    Text.lowercase key.sectionKey = key.sectionKey := by
  cases key <;> decide +kernel

@[simp] theorem lowercase_field (key : SettingKey) : Text.lowercase key.field = key.field := by
  cases key <;> decide +kernel

/-- Two keys differ in their section or in their place in it. -/
theorem field_ne_of_ne {key other : SettingKey} (h : other ≠ key)
    (hsection : other.sectionKey = key.sectionKey) : other.field ≠ key.field := by
  revert key other
  decide

theorem path_injective {key other : SettingKey} (h : other.path = key.path) : other = key := by
  obtain ⟨hsection, hfield⟩ : other.sectionKey = key.sectionKey ∧ other.field = key.field := by
    simpa [path] using h
  by_contra hne
  exact field_ne_of_ne hne hsection hfield

end SettingKey

/-! ### Putting entries -/

namespace Entries

/-- What is put under one name does not show under another. -/
theorem lookup_put_of_ne {name key : String} (h : key ≠ Text.lowercase name) (setting : Setting)
    (entries : Entries) : (put name setting entries).lookup key = entries.lookup key := by
  unfold put
  split <;> exact lookup_update_of_ne _ h entries

/-- A scalar is put in the place of what was there. -/
theorem lookup_put_scalar (name : String) (origin : Option String) (value : Scalar)
    (entries : Entries) :
    (put name (.scalar origin value) entries).lookup (Text.lowercase name) =
      some (.scalar origin value) := by
  unfold put
  exact lookup_update_self _ _ entries

/-- The entries of the table under a key: none if there is no table. -/
def under (key : String) (entries : Entries) : Entries :=
  ((entries.lookup key).getD .null).asTable.2

/-- A table is put into what was there, entry by entry. -/
theorem under_put_table (name : String) (origin : Option String) (fields entries : Entries) :
    under (Text.lowercase name) (put name (.table origin fields) entries) =
      putAll fields (under (Text.lowercase name) entries) := by
  unfold under
  cases fields with
  | nil =>
    rw [put, lookup_update_self, putAll]
    cases entries.lookup (Text.lowercase name) <;> rfl
  | cons first others =>
    rw [put, lookup_update_self]
    cases entries.lookup (Text.lowercase name) <;> rfl

/-- Of entries that are put one after the other, the last one under a key is found, if those
under it are scalars. -/
theorem lookup_putAll {key : String} : ∀ (fields entries : Entries),
    (∀ field ∈ fields, Text.lowercase field.1 = key →
      ∃ origin value, field.2 = .scalar origin value) →
    (putAll fields entries).lookup key =
      ((fields.filter fun field => Text.lowercase field.1 = key).getLast?.map Prod.snd).or
        (entries.lookup key)
  | [], entries, _ => by simp [putAll]
  | (name, setting) :: rest, entries, h => by
    have hrest := lookup_putAll rest (put name setting entries) fun field hfield =>
      h field (List.mem_cons_of_mem _ hfield)
    rw [putAll, hrest]
    by_cases hname : Text.lowercase name = key
    · obtain ⟨origin, value, rfl⟩ : ∃ origin value, setting = .scalar origin value :=
        h _ List.mem_cons_self hname
      have hput := lookup_put_scalar name origin value entries
      rw [hname] at hput
      rw [hput, List.filter_cons_of_pos (by simpa using hname), List.getLast?_cons]
      cases (rest.filter fun field => Text.lowercase field.1 = key).getLast? <;> rfl
    · rw [lookup_put_of_ne (Ne.symm hname), List.filter_cons_of_neg (by simpa using hname)]

end Entries

/-! ### The places of the keys in a tree -/

namespace Setting

/-- What is found in the place of a key. -/
def at? (key : SettingKey) (tree : Setting) : Option Setting :=
  (Entries.under key.sectionKey tree.asTable.2).lookup key.field

/-- The values in the places of the keys. -/
def Holds (tree : Setting) (value : SettingKey → Setting) : Prop :=
  ∀ key, tree.at? key = some (value key)

variable {key other : SettingKey} {tree : Setting}

/-- What is placed at a field of a section is put under the field's name. -/
theorem under_place {root : String} (h : Text.lowercase root = key.sectionKey) (field : String)
    (setting tree : Setting) :
    Entries.under key.sectionKey ((KeyPath.mk root [.name field]).place setting tree).asTable.2 =
      Entries.put field setting (Entries.under key.sectionKey tree.asTable.2) := by
  simp only [KeyPath.place, KeyPath.placeFrom, asTable, Entries.under, h,
    Entries.lookup_update_self, Option.getD_some]

/-- A scalar that is placed at a field of a section is found there. -/
theorem at?_place_field {root field : String} (h : Text.lowercase root = key.sectionKey)
    (hfield : Text.lowercase field = key.field) (origin : Option String) (value : Scalar)
    (tree : Setting) :
    ((KeyPath.mk root [.name field]).place (.scalar origin value) tree).at? key =
      some (.scalar origin value) := by
  have hput := Entries.lookup_put_scalar field origin value
    (Entries.under key.sectionKey tree.asTable.2)
  rw [hfield] at hput
  rw [at?, under_place h, hput]

/-- A scalar that is placed at a key is found there. -/
theorem at?_place_self (key : SettingKey) (origin : Option String) (value : Scalar)
    (tree : Setting) :
    (key.path.place (.scalar origin value) tree).at? key = some (.scalar origin value) :=
  at?_place_field key.lowercase_sectionKey key.lowercase_field origin value tree

/-- What is placed at or below another field of its section leaves the place of a key alone. -/
theorem at?_place_other_field {root field : String} (h : Text.lowercase root = key.sectionKey)
    (hfield : Text.lowercase field ≠ key.field) (steps : List KeyPath.Step)
    (setting tree : Setting) :
    ((KeyPath.mk root (.name field :: steps)).place setting tree).at? key = tree.at? key := by
  cases steps with
  | nil => rw [at?, at?, under_place h, Entries.lookup_put_of_ne hfield.symm]
  | cons step steps =>
    simp only [at?, KeyPath.place, KeyPath.placeFrom, asTable, Entries.under, h,
      Entries.lookup_update_self, Option.getD_some, Entries.lookup_update_of_ne _ hfield.symm]

/-- What is placed under a name that is not its section's leaves the place of a key alone. -/
theorem at?_place_elsewhere {path : KeyPath} (h : key.sectionKey ≠ Text.lowercase path.root)
    (setting tree : Setting) : (path.place setting tree).at? key = tree.at? key := by
  have hlookup : (path.place setting tree).asTable.2.lookup key.sectionKey =
      tree.asTable.2.lookup key.sectionKey := by
    unfold KeyPath.place
    cases path.steps with
    | nil => exact Entries.lookup_put_of_ne h setting _
    | cons step steps => exact Entries.lookup_update_of_ne _ h _
  rw [at?, at?, Entries.under, Entries.under, hlookup]

/-- What is placed at a key leaves the places of the others alone. -/
theorem at?_place_of_ne (h : other ≠ key) (setting tree : Setting) :
    (key.path.place setting tree).at? other = tree.at? other := by
  by_cases hsection : other.sectionKey = key.sectionKey
  · have hroot : Text.lowercase key.sectionKey = other.sectionKey := by
      rw [SettingKey.lowercase_sectionKey, hsection]
    have hfield : Text.lowercase key.field ≠ other.field := by
      rw [SettingKey.lowercase_field]
      exact (SettingKey.field_ne_of_ne h hsection).symm
    exact at?_place_other_field hroot hfield [] setting tree
  · refine at?_place_elsewhere (fun heq => hsection ?_) setting tree
    rwa [SettingKey.path, SettingKey.lowercase_sectionKey] at heq

/-- A table that is placed under a section's name fills the places of its keys with its own
scalars, and leaves those it has none for alone. -/
theorem at?_place_table {root : String} (h : Text.lowercase root = key.sectionKey)
    (origin : Option String) {fields : Entries} (tree : Setting)
    (hfields : ∀ field ∈ fields, Text.lowercase field.1 = key.field →
      ∃ origin value, field.2 = .scalar origin value) :
    ((KeyPath.mk root []).place (.table origin fields) tree).at? key =
      ((fields.filter fun field => Text.lowercase field.1 = key.field).getLast?.map Prod.snd).or
        (tree.at? key) := by
  have hunder := Entries.under_put_table root origin fields tree.asTable.2
  rw [h] at hunder
  rw [at?, at?, ← Entries.lookup_putAll fields _ hfields, ← hunder]
  rfl

theorem holds_builtin : ({} : Settings).toSetting.Holds fun key => .scalar none key.builtin := by
  intro key
  cases key <;> rfl

end Setting

/-! ### What the values give -/

namespace Settings

/-- The settings that values for the keys convert to. -/
def ofValues (value : SettingKey → Setting) : Except SettingsFault Settings := do
  let tableOfContents ← (value .tableOfContents).toFlag SettingKey.tableOfContents.text
  let tocMarker ← (value .tocMarker).toText SettingKey.tocMarker.text
  let lineBreakMarker ← (value .lineBreakMarker).toText SettingKey.lineBreakMarker.text
  let commentLanguage ← (value .commentLanguage).toText SettingKey.commentLanguage.text
  let format ← (value .format).toText SettingKey.format.text
  let level ← (value .logLevel).toText SettingKey.logLevel.text
  let style ← (value .logStyle).toStyle SettingKey.logStyle.text
  return {
    page := { tableOfContents, tocMarker, lineBreakMarker, commentLanguage }
    format
    log := { level, style } }

/-- Every field is what the value of its key converts to. -/
structure Fills (value : SettingKey → Setting) (settings : Settings) : Prop where
  tableOfContents : (value .tableOfContents).toFlag SettingKey.tableOfContents.text =
    .ok settings.page.tableOfContents
  tocMarker : (value .tocMarker).toText SettingKey.tocMarker.text = .ok settings.page.tocMarker
  lineBreakMarker : (value .lineBreakMarker).toText SettingKey.lineBreakMarker.text =
    .ok settings.page.lineBreakMarker
  commentLanguage : (value .commentLanguage).toText SettingKey.commentLanguage.text =
    .ok settings.page.commentLanguage
  format : (value .format).toText SettingKey.format.text = .ok settings.format
  level : (value .logLevel).toText SettingKey.logLevel.text = .ok settings.log.level
  style : (value .logStyle).toStyle SettingKey.logStyle.text = .ok settings.log.style

/-- The values give settings exactly if all of them convert, each to its field. -/
theorem ofValues_eq_ok_iff {value : SettingKey → Setting} {settings : Settings} :
    ofValues value = .ok settings ↔ Fills value settings := by
  simp only [ofValues, Steps.bind_eq_ok_iff]
  constructor
  · rintro ⟨_, h₁, _, h₂, _, h₃, _, h₄, _, h₅, _, h₆, _, h₇, heq⟩
    obtain rfl := Except.ok.inj heq
    exact ⟨h₁, h₂, h₃, h₄, h₅, h₆, h₇⟩
  · intro h
    exact ⟨_, h.tableOfContents, _, h.tocMarker, _, h.lineBreakMarker, _, h.commentLanguage,
      _, h.format, _, h.level, _, h.style, rfl⟩

end Settings

section Reading

variable {key : SettingKey} {tree : Setting} {value : SettingKey → Setting}

/-- The section of a key that has a value is a table. -/
theorem SettingsSection.ofTree_of_holds (h : tree.Holds value) (key : SettingKey)
    (record : Record) :
    ofTree key.sectionKey record tree.asTable.2 =
      .ok ⟨key.sectionKey, record, .keyed (Entries.under key.sectionKey tree.asTable.2)⟩ := by
  have hvalue : (Entries.under key.sectionKey tree.asTable.2).lookup key.field =
      some (value key) := h key
  unfold ofTree
  unfold Entries.under at hvalue ⊢
  cases hsection : tree.asTable.2.lookup key.sectionKey with
  | none =>
    rw [hsection] at hvalue
    cases hvalue
  | some setting =>
    rw [hsection] at hvalue
    cases setting with
    | table => rfl
    | scalar | array => cases hvalue

/-- The field of a key is given. -/
theorem SettingsSection.given_of_holds {α : Type} (h : tree.Holds value) (key : SettingKey)
    (record : Record) (convert : String → Setting → Except SettingsFault α) (index : Nat) :
    given ⟨key.sectionKey, record, .keyed (Entries.under key.sectionKey tree.asTable.2)⟩ convert
      key.field index = (convert key.text (value key)).map some := by
  have hvalue : (Entries.under key.sectionKey tree.asTable.2).lookup key.field =
      some (value key) := h key
  simp only [given, hvalue]
  rfl

theorem PageOptions.ofSection_of_holds (h : tree.Holds value) (record : Record) :
    PageOptions.ofSection ⟨pageKey, record, .keyed (Entries.under pageKey tree.asTable.2)⟩ = do
      let tableOfContents ← (value .tableOfContents).toFlag SettingKey.tableOfContents.text
      let tocMarker ← (value .tocMarker).toText SettingKey.tocMarker.text
      let lineBreakMarker ← (value .lineBreakMarker).toText SettingKey.lineBreakMarker.text
      let commentLanguage ← (value .commentLanguage).toText SettingKey.commentLanguage.text
      return { tableOfContents, tocMarker, lineBreakMarker, commentLanguage } := by
  have h₀ := SettingsSection.given_of_holds h .tableOfContents record Setting.toFlag 0
  have h₁ := SettingsSection.given_of_holds h .tocMarker record Setting.toText 1
  have h₂ := SettingsSection.given_of_holds h .lineBreakMarker record Setting.toText 2
  have h₃ := SettingsSection.given_of_holds h .commentLanguage record Setting.toText 3
  simp only [SettingKey.sectionKey, SettingKey.field] at h₀ h₁ h₂ h₃
  simp only [PageOptions.ofSection, h₀, h₁, h₂, h₃, Steps.map_bind]
  rfl

theorem LogSettings.ofSection_of_holds (h : tree.Holds value) (record : Record) :
    LogSettings.ofSection ⟨logKey, record, .keyed (Entries.under logKey tree.asTable.2)⟩ = do
      let level ← (value .logLevel).toText SettingKey.logLevel.text
      let style ← (value .logStyle).toStyle SettingKey.logStyle.text
      return { level, style } := by
  have h₀ := SettingsSection.given_of_holds h .logLevel record Setting.toText 0
  have h₁ := SettingsSection.given_of_holds h .logStyle record Setting.toStyle 1
  simp only [SettingKey.sectionKey, SettingKey.field] at h₀ h₁
  simp only [LogSettings.ofSection, h₀, h₁, Steps.map_bind]
  rfl

/-- **Only the values in the places of the keys matter.** -/
theorem Settings.ofSetting_eq (h : tree.Holds value) :
    Settings.ofSetting tree = Settings.ofValues value := by
  have hpage := SettingsSection.ofTree_of_holds h .tableOfContents ⟨"RenderConfig", 4⟩
  have houtput := SettingsSection.ofTree_of_holds h .format ⟨"ConvertConfig", 1⟩
  have hlog := SettingsSection.ofTree_of_holds h .logLevel ⟨"LoggingConfig", 2⟩
  have hformat := SettingsSection.given_of_holds h .format ⟨"ConvertConfig", 1⟩ Setting.toText 0
  simp only [SettingKey.sectionKey, SettingKey.field] at hpage houtput hlog hformat
  simp only [Settings.ofSetting, Settings.ofValues, hpage, houtput, hlog, hformat, required,
    PageOptions.ofSection_of_holds h, LogSettings.ofSection_of_holds h, bind_assoc, pure_bind,
    Steps.ok_bind, Steps.map_bind]

end Reading

end ThriftPages
