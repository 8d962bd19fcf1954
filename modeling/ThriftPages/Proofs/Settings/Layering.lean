/-
# Which layer wins

Of each key one setting wins: the one set last, else the one in the last file that
has one, else the built-in one (`Layers.winner`). The settings are those that the
seven winners convert to (`Layers.settingsAfter_eq`), so steps with the same winners
have the same result (`Layers.settingsAfter_congr`), and nothing that loses, is
unknown or may be missing matters (`Layers.winners_settle_settings`).

An entry that no section names may count all the same: its key may be a path into a
section, or it may be a table that is taken for a date
(`Layers.unnamed_entries_count`).

Key definitions: `Layers.settingsAfter`, `Layers.winner`.
Key theorems: `Layers.settingsAfter_eq`, `Layers.settingsAfter_congr`,
`Layers.winners_settle_settings`.
-/
import ThriftPages.Proofs.Settings.Collecting
import ThriftPages.Proofs.Settings.Files

namespace ThriftPages.Layers

open SettingsFile (isMissing setting?)

variable {read : FileReader}

/-- The settings after steps above the built-in ones. -/
def settingsAfter (read : FileReader) (steps : List LayerStep) : Except SettingsFault Settings := do
  let layers ← after steps
  layers.build read

/-- The setting of a key that wins over all others: the one set last, else the one in the last
file that has one, else the built-in one. -/
def winner (read : FileReader) (steps : List LayerStep) (key : SettingKey) : Setting :=
  (((lastValue? key steps).map (Setting.scalar none)).or
    ((filesOf steps).filterMap (setting? read key)).getLast?).getD (.scalar none key.builtin)

/-- **The settings are those that the winners convert to**, if no file is missing. -/
theorem settingsAfter_eq {steps : List LayerStep}
    (h : ∀ file ∈ filesOf steps, file.IsPlain read)
    (hthere : (filesOf steps).find? (isMissing read) = none) :
    settingsAfter read steps = Settings.ofValues (winner read steps) := by
  obtain ⟨layers, hafter, hcollects⟩ := collects_after steps
  obtain ⟨laid, hlaid, hfiles⟩ := mapM_entries h hthere
  have hholds : (layers.treeOf laid).Holds (winner read steps) := by
    intro key
    rw [treeOf, at?_layOverrides hcollects.keys hcollects.once, hcollects.values, hfiles,
      Setting.holds_builtin, winner, ← Option.or_assoc]
    cases hwinner : ((lastValue? key steps).map (Setting.scalar none)).or
      ((filesOf steps).filterMap (setting? read key)).getLast? <;> simp
  rw [settingsAfter, hafter, Steps.ok_bind, build, hcollects.files, hlaid]
  exact Settings.ofSetting_eq hholds

/-- The first file that is missing is the fault. -/
theorem settingsAfter_of_missing {steps : List LayerStep} {file : SettingsFile}
    (h : ∀ file ∈ filesOf steps, file.IsPlain read)
    (hmissing : (filesOf steps).find? (isMissing read) = some file) :
    ∃ fault, SettingsFile.resolve read file.path = .error fault ∧
      settingsAfter read steps = .error fault := by
  obtain ⟨layers, hafter, hcollects⟩ := collects_after steps
  obtain ⟨fault, hfault, hfiles⟩ := mapM_entries_of_missing h hmissing
  refine ⟨fault, hfault, ?_⟩
  rw [settingsAfter, hafter, Steps.ok_bind, build, hcollects.files, hfiles]
  rfl

/-- Two rows of steps have the same settings if the same files are missing and the same settings
win. -/
theorem settingsAfter_congr {steps steps' : List LayerStep}
    (h : ∀ file ∈ filesOf steps, file.IsPlain read)
    (h' : ∀ file ∈ filesOf steps', file.IsPlain read)
    (hmissing : (filesOf steps').find? (isMissing read) = (filesOf steps).find? (isMissing read))
    (hwinner : ∀ key, winner read steps' key = winner read steps key) :
    settingsAfter read steps' = settingsAfter read steps := by
  cases hfirst : (filesOf steps).find? (isMissing read) with
  | some file =>
    obtain ⟨fault, hfault, hsettings⟩ := settingsAfter_of_missing h hfirst
    obtain ⟨fault', hfault', hsettings'⟩ := settingsAfter_of_missing h' (hmissing.trans hfirst)
    rw [hsettings, hsettings', Except.error.inj (hfault'.symm.trans hfault)]
  | none =>
    rw [settingsAfter_eq h hfirst, settingsAfter_eq h' (hmissing.trans hfirst), funext hwinner]

/-- A file that may be missing and is does not show. -/
theorem settingsAfter_without {before later : List LayerStep} {path : String}
    (h : ∀ file ∈ filesOf (before ++ .optionalFile path :: later), file.IsPlain read)
    (hnone : SettingsFile.find? read path = none) :
    settingsAfter read (before ++ later) =
      settingsAfter read (before ++ .optionalFile path :: later) := by
  have hfiles : filesOf (before ++ .optionalFile path :: later) =
      filesOf before ++ ⟨path, false⟩ :: filesOf later := filesOf_append _ _
  have hsetting : ∀ key, setting? read key ⟨path, false⟩ = none := fun key => by
    simp only [setting?, hnone]
  have hpresent : isMissing read ⟨path, false⟩ = false := rfl
  have hlast : ∀ key, lastValue? key (before ++ .optionalFile path :: later) =
      lastValue? key (before ++ later) := fun key => by
    simp [lastValue?, LayerStep.value?]
  refine settingsAfter_congr h (fun file hfile => h file ?_) ?_ fun key => ?_
  · rw [filesOf_append, List.mem_append] at hfile
    rw [hfiles, List.mem_append, List.mem_cons]
    exact hfile.imp_right .inr
  · rw [hfiles, filesOf_append, List.find?_append, List.find?_append,
      List.find?_cons_of_neg (by simp [hpresent])]
  · rw [winner, winner, hlast, hfiles, filesOf_append, List.filterMap_append,
      List.filterMap_append, List.filterMap_cons_none (hsetting key)]

/-- **The winning settings settle the result.** Whatever the steps and their order, if the files
that are there are TOML whose entries have scalars for the keys, a file that must be there and
cannot be read is the fault, the first one; else there are settings exactly if all seven winners
convert, each to its field, and nothing else matters. So rows of steps with the same files that
set the same values last have the same result, as have files with the same values for the keys,
whatever else is in them; and a file that may be missing and is does not show. -/
theorem winners_settle_settings (read : FileReader) (steps : List LayerStep)
    (h : ∀ file ∈ filesOf steps, file.IsPlain read) :
    (∀ file, (filesOf steps).find? (isMissing read) = some file →
      ∃ fault, SettingsFile.resolve read file.path = .error fault ∧
        settingsAfter read steps = .error fault) ∧
    ((∀ file ∈ filesOf steps, file.isMissing read = false) →
      (settingsAfter read steps = Settings.ofValues (winner read steps) ∧
        ∀ settings, settingsAfter read steps = .ok settings ↔
          Settings.Fills (winner read steps) settings) ∧
      ∀ read', (∀ file ∈ filesOf steps, file.IsPlain read' ∧ file.isMissing read' = false ∧
          ∀ key, setting? read' key file = setting? read key file) →
        settingsAfter read' steps = settingsAfter read steps) ∧
    (∀ steps', filesOf steps' = filesOf steps →
      (∀ key, lastValue? key steps' = lastValue? key steps) →
        settingsAfter read steps' = settingsAfter read steps) ∧
    (∀ before path later, steps = before ++ .optionalFile path :: later →
      SettingsFile.find? read path = none →
        settingsAfter read (before ++ later) = settingsAfter read steps) := by
  refine ⟨fun file hmissing => settingsAfter_of_missing h hmissing, fun hthere => ?_,
    fun steps' hfiles hvalues => ?_, fun before path later hsteps hnone => ?_⟩
  · have hnone : ∀ read', (∀ file ∈ filesOf steps, file.isMissing read' = false) →
        (filesOf steps).find? (isMissing read') = none :=
      fun read' hthere => List.find?_eq_none.2 fun file hfile => by simp [hthere file hfile]
    have hsettings := settingsAfter_eq h (hnone read hthere)
    refine ⟨⟨hsettings, fun settings => by rw [hsettings, Settings.ofValues_eq_ok_iff]⟩,
      fun read' hsame => ?_⟩
    have hwinner : winner read' steps = winner read steps := by
      funext key
      rw [winner, winner, List.filterMap_congr fun file hfile => (hsame file hfile).2.2 key]
    rw [hsettings, settingsAfter_eq (fun file hfile => (hsame file hfile).1)
      (hnone read' fun file hfile => (hsame file hfile).2.1), hwinner]
  · refine settingsAfter_congr h (hfiles ▸ h) (by rw [hfiles]) fun key => ?_
    rw [winner, winner, hfiles, hvalues]
  · subst hsteps
    exact settingsAfter_without h hnone

/-- A marker from a file, under keys of another case and beside unknown ones, another one from a
key that is a path, and a style that was set before the file gave another one, of which there is
none. -/
theorem markers_of_file_and_style_set :
    let shop := "format = 1\n\"Render.line_break_marker\" = true\n\"render.x.y\" = [3]\n" ++
      "[Render]\nTOC_Marker = 7\nfuture = [2]\n[logging]\nformat = \"loud\"\n"
    let read := (FileSystem.ofTexts ["desk".toList] [("shop.toml", shop)]).read
    let steps := [.override .logStyle (.text "Json"), .file "/desk/shop", .optionalFile "desk.toml"]
    (∀ file ∈ filesOf steps, file.IsPlain read) ∧
      (∀ file ∈ filesOf steps, file.isMissing read = false) ∧
      settingsAfter read steps =
        .ok { page := { tocMarker := "7", lineBreakMarker := "true" },
              log := { style := .json } } := by
  intro shop read steps
  have hplain : ∀ file ∈ filesOf steps, file.IsPlain read := by decide +kernel
  have hthere : ∀ file ∈ filesOf steps, file.isMissing read = false := by decide +kernel
  have hvalues : Settings.ofValues (winner read steps) =
      .ok { page := { tocMarker := "7", lineBreakMarker := "true" },
            log := { style := .json } } := by
    decide +kernel
  obtain ⟨⟨hsettings, -⟩, -⟩ := (winners_settle_settings read steps hplain).2.1 hthere
  exact ⟨hplain, hthere, hsettings.trans hvalues⟩

/-- Entries that no section names, of which one sets a key, two leave no section to read or no text
to read the format from, and one leaves nothing, since it is taken for a date. -/
theorem unnamed_entries_count :
    let settings (text : String) := settingsAfter
      (FileSystem.ofTexts ["desk".toList] [("shop.toml", text)]).read [.file "shop.toml"]
    settings "" = .ok {} ∧
      settings "\"render.toc_marker\" = \"X\"\n" = .ok { page := { tocMarker := "X" } } ∧
      settings "\"render[0]\" = true\n" =
        .error (.tooShort 1 ⟨"RenderConfig", 4⟩) ∧
      settings "\"convert.format.x\" = 1\n" =
        .error (.wrongType .map .string "convert.format" none) ∧
      settings "x = \x7b\"$__toml_private_datetime\" = \"soon\"\x7d\n" = .error .badSyntax := by
  decide +kernel

end ThriftPages.Layers
