/-
# The settings

The settings fill three records, each from a section of the tree: how a page
looks, the format that is written where nothing else chooses one, and how much is
logged in which style. A section is a table with the fields' keys, or an array of
the fields in their order.

A switch may be a number, which is on unless it is zero, or one of a few words.
A text may be a truth value or a number.

Key definitions: `Settings`, `Setting.toFlag`, `Setting.toText`,
`Setting.toStyle`, `Settings.ofSetting`, `Settings.toSetting`.
-/
import ThriftPages.Reference.Options
import ThriftPages.Settings.Fault

namespace ThriftPages

/-- The styles of log lines. -/
inductive LogStyle
  | pretty | json
deriving DecidableEq

/-- How much is logged, and in which style. -/
structure LogSettings where
  level : String := "warn"
  style : LogStyle := .pretty
deriving DecidableEq

/-- The settings of a run. -/
structure Settings where
  page : PageOptions := {}
  /-- The name of the format that is written where nothing else chooses one. -/
  format : String := "markdown"
  log : LogSettings := {}
deriving DecidableEq

/-- The name of a style. -/
def LogStyle.name : LogStyle → String
  | pretty => "pretty"
  | json => "json"

/-- The style of a name, whatever its case. -/
def LogStyle.ofName? (name : String) : Option LogStyle :=
  [pretty, json].find? fun style => Text.lowercase style.name = Text.lowercase name

/-! ### Fields -/

/-- The switch that a word stands for, whatever its case. -/
def flagWord? (word : String) : Option Bool :=
  if ["1", "true", "on", "yes"].contains word then some true
  else if ["0", "false", "off", "no"].contains word then some false
  else none

/-- The switch that a setting stands for; `place` is where it stands. -/
def Setting.toFlag (place : String) : Setting → Except SettingsFault Bool
  | scalar _ (.boolean value) => .ok value
  | scalar _ (.integer value) => .ok (value ≠ 0)
  | scalar _ (.float value) => .ok (!value.isZero)
  | scalar origin (.text value) =>
    match flagWord? (Text.lowercase value) with
    | some flag => .ok flag
    | none =>
      .error (.wrongType (.scalar (.text (Text.lowercase value))) .boolean place origin)
  | setting => .error (.wrongType setting.shape .boolean place setting.origin)

/-- The text that a setting stands for. -/
def Setting.toText (place : String) : Setting → Except SettingsFault String
  | scalar _ (.text value) => .ok value
  | scalar _ (.boolean value) => .ok (if value then "true" else "false")
  | scalar _ (.integer value) => .ok (toString value)
  | scalar _ (.float value) => .ok (Scalar.floatLayout.write value)
  | setting => .error (.wrongType setting.shape .string place setting.origin)

/-- The style that a name stands for. -/
def LogStyle.ofName (name : String) : Except SettingsFault LogStyle :=
  match LogStyle.ofName? name with
  | some style => .ok style
  | none => .error (.unknownStyle name)

/-- The style that a setting stands for: its name, or a table whose only key is
the name. -/
def Setting.toStyle (_place : String) : Setting → Except SettingsFault LogStyle
  | scalar _ (.text value) => LogStyle.ofName value
  | table _ [(key, _)] => LogStyle.ofName key
  | _ => .error .notAStyle

/-! ### Sections -/

/-- The fields of a section, by key or by position. -/
inductive Fields
  | keyed (entries : Entries)
  | listed (elements : List Setting)

/-- A section: its key, the record that it fills, and the fields that are given. -/
structure SettingsSection where
  key : String
  record : Record
  fields : Fields

namespace SettingsSection

/-- The section under a key of the whole tree. -/
def ofTree (key : String) (record : Record) (tree : Entries) :
    Except SettingsFault SettingsSection :=
  match tree.lookup key with
  | none => .error (.missingField key)
  | some (.table _ entries) => .ok ⟨key, record, .keyed entries⟩
  | some (.array _ elements) => .ok ⟨key, record, .listed elements⟩
  | some (.scalar _ value) => .error (.notARecord (.scalar value) record)

/-- Reads a field if it is given. In an array it must be. -/
def given {α : Type} (s : SettingsSection) (convert : String → Setting → Except SettingsFault α)
    (field : String) (index : Nat) : Except SettingsFault (Option α) :=
  match s.fields with
  | .keyed entries =>
    match entries.lookup field with
    | some setting => (convert (s.key ++ "." ++ field) setting).map some
    | none => .ok none
  | .listed elements =>
    match elements[index]? with
    | some setting => (convert (s.key ++ "[" ++ toString index ++ "]") setting).map some
    | none => .error (.tooShort index s.record)

end SettingsSection

/-- A field that must be given. -/
def required {α : Type} (field : String) : Option α → Except SettingsFault α
  | some value => .ok value
  | none => .error (.missingField field)

/-! ### The keys of the sections and their fields -/

def pageKey : String := "render"
def tableOfContentsKey : String := "table_of_contents"
def tocMarkerKey : String := "toc_marker"
def lineBreakMarkerKey : String := "line_break_marker"
def commentLanguageKey : String := "comment_language"
def outputKey : String := "convert"
def logKey : String := "logging"
def levelKey : String := "level"
def formatKey : String := "format"

/-! ### The whole -/

/-- The page options of a section. A wrong field goes before a missing one. -/
def PageOptions.ofSection (s : SettingsSection) : Except SettingsFault PageOptions := do
  let tableOfContents ← s.given Setting.toFlag tableOfContentsKey 0
  let tocMarker ← s.given Setting.toText tocMarkerKey 1
  let lineBreakMarker ← s.given Setting.toText lineBreakMarkerKey 2
  let commentLanguage ← s.given Setting.toText commentLanguageKey 3
  return {
    tableOfContents := ← required tableOfContentsKey tableOfContents
    tocMarker := ← required tocMarkerKey tocMarker
    lineBreakMarker := ← required lineBreakMarkerKey lineBreakMarker
    commentLanguage := ← required commentLanguageKey commentLanguage }

/-- The log settings of a section. -/
def LogSettings.ofSection (s : SettingsSection) : Except SettingsFault LogSettings := do
  let level ← s.given Setting.toText levelKey 0
  let style ← s.given Setting.toStyle formatKey 1
  return { level := ← required levelKey level, style := ← required formatKey style }

namespace Settings

/-- The settings that a tree describes. -/
def ofSetting (tree : Setting) : Except SettingsFault Settings := do
  let entries := tree.asTable.2
  let pageSection ← SettingsSection.ofTree pageKey ⟨"RenderConfig", 4⟩ entries
  let page ← PageOptions.ofSection pageSection
  let outputSection ← SettingsSection.ofTree outputKey ⟨"ConvertConfig", 1⟩ entries
  let format ← outputSection.given Setting.toText formatKey 0
  let format ← required formatKey format
  let logSection ← SettingsSection.ofTree logKey ⟨"LoggingConfig", 2⟩ entries
  let log ← LogSettings.ofSection logSection
  return { page, format, log }

/-- The tree that describes settings. -/
def toSetting (settings : Settings) : Setting :=
  let text (value : String) : Setting := .scalar none (.text value)
  .table none [
    (pageKey, .table none [
      (tableOfContentsKey, .scalar none (.boolean settings.page.tableOfContents)),
      (tocMarkerKey, text settings.page.tocMarker),
      (lineBreakMarkerKey, text settings.page.lineBreakMarker),
      (commentLanguageKey, text settings.page.commentLanguage)]),
    (outputKey, .table none [(formatKey, text settings.format)]),
    (logKey, .table none [
      (levelKey, text settings.log.level),
      (formatKey, text settings.log.style.name)])]

end Settings

end ThriftPages
