/-
# What a run leaves behind

A run ends in one of seven ways (`Ends`): it is stopped by a request for help or
the version, its command line is refused, it lists the formats, its conversion
fails, or the converted text is printed, is written, or cannot be written. Only
one of these changes a file. That a run which fails leaves no trace does not need
them: the program is careful, whatever it is answered (`run_effects`).

Not covered: text that cannot be printed.

Key definitions: `Converts`, `Arguments.Yields`, `Ends`.
Key theorems: `Converts.action_eq`, `run_ends`, `run_effects`.
-/
import Mathlib.Data.List.Basic
import ThriftPages.Proofs.CommandLine.Actions
import ThriftPages.Proofs.Files.Writing

namespace ThriftPages

/-! ### What is asked for -/

/-- The command line asks for the conversion of an input. -/
def Converts (texts : List String) (arguments : Arguments) (input : String) : Prop :=
  Arguments.read texts = .ok arguments ∧ arguments.listFormats = false ∧
    arguments.input = some input

/-- A command line that is understood has an input or asks for the formats. -/
theorem Reading.input_or_list_of_finish (reading : Reading) {arguments : Arguments}
    (h : reading.finish = .ok arguments) :
    arguments.listFormats = true ∨ ∃ input, arguments.input = some input := by
  obtain ⟨settled, -, h⟩ := Steps.bind_eq_ok_iff.1 h
  split at h
  · cases h
  · split at h
    · cases h
    · next hasked =>
      obtain rfl : settled = arguments := by simpa using h
      cases hinput : settled.input with
      | some input => exact .inr ⟨input, rfl⟩
      | none =>
        rw [hinput] at hasked
        exact .inl (by simpa using hasked)

theorem Arguments.converts_or_lists {texts : List String} {arguments : Arguments}
    (h : Arguments.read texts = .ok arguments) :
    arguments.listFormats = true ∨ ∃ input, Converts texts arguments input := by
  obtain ⟨reading, -, hfinish⟩ := Steps.bind_eq_ok_iff.1 h
  cases hlist : arguments.listFormats with
  | true => exact .inl rfl
  | false =>
    rcases reading.input_or_list_of_finish hfinish with htrue | ⟨input, hinput⟩
    · exact absurd (hlist.symm.trans htrue) nofun
    · exact .inr ⟨input, h, hlist, hinput⟩

/-! ### What a conversion takes -/

/-- All steps of a conversion succeed, and the text is its result. -/
structure Arguments.Yields (arguments : Arguments) (registry : Registry) (read : FileReader)
    (input text : String) (settings : Settings) (source : String) (doc : Document) : Prop where
  settings_built : arguments.layers.build read = .ok settings
  format_known : ∃ format, registry.get
    (chosenFormat registry arguments.format arguments.output settings) = .ok format
  input_read : read input = .ok source
  input_loaded : Document.ofText source = .ok doc
  written : registry.write (documentName input arguments.name) doc
    (chosenFormat registry arguments.format arguments.output settings)
    (pageOptions settings arguments.noToc) = .ok text

/-- A text is the result of a conversion if all steps succeed, and only then. -/
theorem Arguments.text_eq_ok_iff {arguments : Arguments} {registry : Registry}
    {read : FileReader} {input text : String} (hinput : arguments.input = some input) :
    arguments.text registry read = .ok text ↔
      ∃ settings source doc, arguments.Yields registry read input text settings source doc := by
  simp only [Arguments.text, hinput, Steps.bind_eq_ok_iff, Steps.mapError_eq_ok_iff]
  constructor
  · rintro ⟨settings, hsettings, format, hformat, source, hsource, doc, hdoc, hwritten⟩
    exact ⟨settings, source, doc, hsettings, ⟨format, hformat⟩, hsource, hdoc, hwritten⟩
  · rintro ⟨settings, source, doc, hsettings, ⟨format, hformat⟩, hsource, hdoc, hwritten⟩
    exact ⟨settings, hsettings, format, hformat, source, hsource, doc, hdoc, hwritten⟩

section Converts

variable {texts : List String} {arguments : Arguments} {input : String}

/-- A conversion gathers its text and places it. -/
theorem Converts.program_eq (h : Converts texts arguments input) :
    program texts = arguments.gather .builtin >>= Arguments.place arguments.output := by
  obtain ⟨hread, hlist, -⟩ := h
  simp only [program, hread, Arguments.program, hlist, Bool.false_eq_true, if_false]

/-- **A conversion is carried out apart from where its text goes.** -/
theorem Converts.action_eq (h : Converts texts arguments input) (read : FileReader) :
    action texts read =
      match arguments.text .builtin read with
      | .ok text => Arguments.place arguments.output text
      | .error fault => Program.fail fault := by
  rw [action, h.program_eq, Program.given_bind, arguments.gather_computes]
  cases arguments.text .builtin read with
  | error fault => rfl
  | ok text => cases arguments.output <;> rfl

/-- A run of a conversion reports the fault, or places the text. -/
theorem Converts.run_eq (h : Converts texts arguments input) (fs : FileSystem) :
    run fs texts =
      match arguments.text .builtin fs.read with
      | .ok text => .ofEnd ((Arguments.place arguments.output text).run { files := fs })
      | .error fault => ⟨1, "", [.fault fault], fs⟩ := by
  rw [run_eq_ofEnd_action, h.action_eq]
  cases arguments.text .builtin fs.read <;> rfl

end Converts

/-! ### How a run ends -/

/-- Lines that are printed stand behind what was printed before. -/
theorem Program.run_printLines (lines : List String) (world : World) :
    (printLines lines).run world =
      (.ok (), { world with output := world.output ++ Help.lines lines }) := by
  induction lines generalizing world with
  | nil =>
    have hnothing : world.output ++ Help.lines [] = world.output := String.append_empty
    rw [hnothing]
    rfl
  | cons line lines ih =>
    have hlines : Help.lines (line :: lines) = line ++ "\n" ++ Help.lines lines := by
      simp [Help.lines]
    refine (ih _).trans ?_
    rw [World.answer, hlines, String.append_assoc]

/-- A text that has no output to go to is printed. -/
theorem Arguments.run_place_none (fs : FileSystem) (text : String) :
    .ofEnd ((place none text).run { files := fs }) = (⟨0, text, [], fs⟩ : Outcome) := by
  have houtput : "" ++ text = text := String.empty_append
  change (⟨0, "" ++ text, [], fs⟩ : Outcome) = _
  rw [houtput]

/-- A text that has one is written there, if it can be. -/
theorem Arguments.run_place_some (fs : FileSystem) (path text : String) :
    .ofEnd ((place (some path) text).run { files := fs }) =
      match fs.write path text with
      | .ok files => (⟨0, "", [], files⟩ : Outcome)
      | .error fault => ⟨1, "", [.fault (.writing path fault)], fs⟩ := by
  rw [place, Program.run_write_bind]
  cases fs.write path text <;> rfl

section Ends

variable (fs : FileSystem) (texts : List String)

/-- How a run ends. -/
inductive Ends : Outcome → Prop
  | stopped {stop : Stop} {text : String} (h : Arguments.read texts = .error stop)
      (hstop : ∀ fault, stop ≠ .fault fault) : Ends ⟨0, text, [], fs⟩
  | refused {fault : UsageFault} (h : Arguments.read texts = .error (.fault fault)) :
      Ends ⟨2, "", [.usage fault], fs⟩
  | listed {arguments : Arguments} (h : Arguments.read texts = .ok arguments)
      (hlist : arguments.listFormats = true) :
      Ends ⟨0, Help.lines (Help.formatLines .builtin), [], fs⟩
  | failed {arguments : Arguments} {input : String} {fault : RunFault}
      (h : Converts texts arguments input)
      (htext : arguments.text .builtin fs.read = .error fault) :
      Ends ⟨1, "", [.fault fault], fs⟩
  | printed {arguments : Arguments} {input text : String} (h : Converts texts arguments input)
      (htext : arguments.text .builtin fs.read = .ok text)
      (houtput : arguments.output = none) : Ends ⟨0, text, [], fs⟩
  | written {arguments : Arguments} {input text path : String} {files : FileSystem}
      (h : Converts texts arguments input)
      (htext : arguments.text .builtin fs.read = .ok text)
      (houtput : arguments.output = some path) (hwrite : fs.write path text = .ok files) :
      Ends ⟨0, "", [], files⟩
  | unwritable {arguments : Arguments} {input text path : String} {fault : FileFault}
      (h : Converts texts arguments input)
      (htext : arguments.text .builtin fs.read = .ok text)
      (houtput : arguments.output = some path) (hwrite : fs.write path text = .error fault) :
      Ends ⟨1, "", [.fault (.writing path fault)], fs⟩

/-- A command line that is not read to its end stops, with a text about the program, or is
refused. -/
theorem Ends.of_stop_program {stop : Stop} (h : Arguments.read texts = .error stop) :
    Ends fs texts (.ofEnd (stop.program.run { files := fs })) := by
  cases stop with
  | shortHelp | longHelp | version => exact .stopped h nofun
  | fault fault => exact .refused h

/-- **Every run ends in one of these ways.** -/
theorem run_ends : Ends fs texts (run fs texts) := by
  cases hread : Arguments.read texts with
  | error stop =>
    simp only [run, program, hread]
    exact .of_stop_program fs texts hread
  | ok arguments =>
    rcases Arguments.converts_or_lists hread with hlist | ⟨input, hconverts⟩
    · have hrun : run fs texts = ⟨0, "" ++ Help.lines (Help.formatLines .builtin), [], fs⟩ := by
        simp only [run, program, hread, Arguments.program, hlist, if_true,
          Program.run_printLines, Outcome.ofEnd]
      rw [hrun, String.empty_append]
      exact .listed hread hlist
    · rw [hconverts.run_eq]
      cases htext : arguments.text .builtin fs.read with
      | error fault => exact .failed hconverts htext
      | ok text =>
        cases houtput : arguments.output with
        | none =>
          simp only [Arguments.run_place_none]
          exact .printed hconverts htext houtput
        | some path =>
          simp only [Arguments.run_place_some]
          cases hwrite : fs.write path text with
          | error fault => exact .unwritable hconverts htext houtput hwrite
          | ok files => exact .written hconverts htext houtput hwrite

/-- **A run that fails leaves no trace**, for the program is careful. -/
theorem run_traceless (hcode : (run fs texts).exitCode ≠ 0) :
    (run fs texts).output = "" ∧ (run fs texts).files = fs := by
  unfold run at hcode ⊢
  cases hrun : (program texts).run { files := fs } with
  | mk ending world =>
    rw [hrun] at hcode
    cases ending with
    | ok => exact absurd rfl hcode
    | error code => exact (careful_program texts).run hrun hcode

variable {fs texts} {outcome : Outcome}

/-- A command line asks for one conversion. -/
theorem Converts.unique {arguments arguments' : Arguments} {input input' : String}
    (h : Converts texts arguments input) (h' : Converts texts arguments' input') :
    arguments = arguments' ∧ input = input' := by
  obtain ⟨hread, -, hinput⟩ := h
  obtain ⟨hread', -, hinput'⟩ := h'
  obtain rfl : arguments = arguments' := by simpa [hread] using hread'
  exact ⟨rfl, by simpa [hinput] using hinput'⟩

/-- A conversion that succeeds prints its text, or writes it where it was told to. -/
theorem Ends.converted {arguments : Arguments} {input : String} (h : Ends fs texts outcome)
    (hconverts : Converts texts arguments input) (hcode : outcome.exitCode = 0) :
    ∃ text, arguments.text .builtin fs.read = .ok text ∧
      match arguments.output with
      | none => outcome.output = text ∧ outcome.files = fs
      | some path => outcome.output = "" ∧ fs.write path text = .ok outcome.files := by
  have hread := hconverts.1
  cases h with
  | stopped h | refused h => exact absurd (hread.symm.trans h) nofun
  | listed h hlist =>
    obtain rfl := Except.ok.inj (hread.symm.trans h)
    exact absurd (hconverts.2.1.symm.trans hlist) nofun
  | failed | unwritable => exact absurd hcode nofun
  | printed h htext houtput =>
    obtain ⟨rfl, rfl⟩ := hconverts.unique h
    exact ⟨_, htext, by rw [houtput]; exact ⟨rfl, rfl⟩⟩
  | written h htext houtput hwrite =>
    obtain ⟨rfl, rfl⟩ := hconverts.unique h
    exact ⟨_, htext, by rw [houtput]; exact ⟨rfl, hwrite⟩⟩

/-- A conversion succeeds if all its steps do and the text can be put where it belongs. -/
theorem Ends.converted_iff {arguments : Arguments} {input : String} (h : Ends fs texts outcome)
    (hconverts : Converts texts arguments input) :
    outcome.exitCode = 0 ↔ ∃ text, arguments.text .builtin fs.read = .ok text ∧
      ∀ path, arguments.output = some path → ∃ files, fs.write path text = .ok files := by
  constructor
  · intro hcode
    obtain ⟨text, htext, hplaced⟩ := h.converted hconverts hcode
    refine ⟨text, htext, fun path houtput => ?_⟩
    rw [houtput] at hplaced
    exact ⟨outcome.files, hplaced.2⟩
  · rintro ⟨text, htext, hwritable⟩
    cases h with
    | stopped | listed | printed | written => rfl
    | refused h => exact absurd (hconverts.1.symm.trans h) nofun
    | failed h hfault =>
      obtain ⟨rfl, rfl⟩ := hconverts.unique h
      exact absurd (htext.symm.trans hfault) nofun
    | unwritable h htext' houtput hfault =>
      obtain ⟨rfl, rfl⟩ := hconverts.unique h
      obtain rfl := Except.ok.inj (htext.symm.trans htext')
      obtain ⟨files, hwrite⟩ := hwritable _ houtput
      exact absurd (hwrite.symm.trans hfault) nofun

/-- A run that lists the formats changes no file. -/
theorem Ends.of_listFormats {arguments : Arguments} (h : Ends fs texts outcome)
    (hread : Arguments.read texts = .ok arguments) (hlist : arguments.listFormats = true) :
    outcome.exitCode = 0 ∧ outcome.files = fs := by
  have hnone : ∀ arguments' input, ¬ Converts texts arguments' input := by
    rintro arguments' input ⟨hread', hlist', -⟩
    obtain rfl := Except.ok.inj (hread.symm.trans hread')
    exact absurd (hlist'.symm.trans hlist) nofun
  cases h with
  | stopped | listed => exact ⟨rfl, rfl⟩
  | refused h => exact absurd (hread.symm.trans h) nofun
  | failed h | printed h | written h | unwritable h => exact absurd h (hnone _ _)

/-- A run whose command line is not read to its end changes no file. -/
theorem Ends.of_stop {stop : Stop} (h : Ends fs texts outcome)
    (hread : Arguments.read texts = .error stop) :
    outcome.files = fs ∧ (outcome.exitCode = 0 ↔ ∀ fault, stop ≠ .fault fault) := by
  cases h with
  | stopped h hstop =>
    obtain rfl := Except.error.inj (hread.symm.trans h)
    exact ⟨rfl, fun _ => hstop, fun _ => rfl⟩
  | @refused fault h =>
    obtain rfl := Except.error.inj (hread.symm.trans h)
    exact ⟨rfl, nofun, fun hfault => absurd rfl (hfault fault)⟩
  | listed h => exact absurd (hread.symm.trans h) nofun
  | failed h | printed h | written h | unwritable h => exact absurd (hread.symm.trans h.1) nofun

end Ends

/-- **A run that fails leaves no trace, and one that succeeds writes one file at most.** Whatever
the program is answered, it does not fail after something was printed or written; so if the exit
code is not zero, nothing was printed and the files are as before. A conversion asks for nothing
to be printed or written until its text is there. It has exit code zero if all its steps succeed
and its output, if it names one, can be written; then it prints the text and leaves the files
alone, or prints nothing and changes only what the output leads to. A list of the formats, help
and the version leave the files alone. -/
theorem run_effects (fs : FileSystem) (texts : List String) :
    ((program texts).Careful ∧
      ((run fs texts).exitCode ≠ 0 → (run fs texts).output = "" ∧ (run fs texts).files = fs)) ∧
    (∀ arguments input, Converts texts arguments input →
      ((arguments.gather .builtin).Silent ∧
        program texts = arguments.gather .builtin >>= Arguments.place arguments.output) ∧
      ((run fs texts).exitCode = 0 ↔ ∃ text settings source doc,
        arguments.Yields .builtin fs.read input text settings source doc ∧
          ∀ path, arguments.output = some path → ∃ files, fs.write path text = .ok files) ∧
      ((run fs texts).exitCode = 0 → ∃ text settings source doc,
        arguments.Yields .builtin fs.read input text settings source doc ∧
          match arguments.output with
          | none => (run fs texts).output = text ∧ (run fs texts).files = fs
          | some path =>
            (run fs texts).output = "" ∧ fs.ChangedAt (run fs texts).files path text)) ∧
    (∀ arguments, Arguments.read texts = .ok arguments →
      (arguments.listFormats = true ∧ (run fs texts).exitCode = 0 ∧ (run fs texts).files = fs) ∨
        ∃ input, Converts texts arguments input) ∧
    (∀ stop, Arguments.read texts = .error stop →
      (run fs texts).files = fs ∧
        ((run fs texts).exitCode = 0 ↔ ∀ fault, stop ≠ .fault fault)) := by
  have hends : Ends fs texts (run fs texts) := run_ends fs texts
  refine ⟨⟨careful_program texts, run_traceless fs texts⟩, fun arguments input hconverts =>
    ⟨⟨arguments.gather_silent .builtin, hconverts.program_eq⟩, ?_, fun hcode => ?_⟩,
    fun arguments hread => ?_, fun stop hread => hends.of_stop hread⟩
  · rw [hends.converted_iff hconverts]
    refine exists_congr fun text => ?_
    simp only [Arguments.text_eq_ok_iff hconverts.2.2, exists_and_right]
  · obtain ⟨text, htext, hplaced⟩ := hends.converted hconverts hcode
    obtain ⟨settings, source, doc, hyields⟩ := (Arguments.text_eq_ok_iff hconverts.2.2).1 htext
    refine ⟨text, settings, source, doc, hyields, ?_⟩
    cases houtput : arguments.output with
    | none =>
      rw [houtput] at hplaced
      exact hplaced
    | some path =>
      rw [houtput] at hplaced
      exact ⟨hplaced.1, FileSystem.changedAt_of_write hplaced.2⟩
  · rcases Arguments.converts_or_lists hread with hlist | hconverts
    · exact .inl ⟨hlist, hends.of_listFormats hread hlist⟩
    · exact .inr hconverts

/-- A conversion of a file from elsewhere to one above the working directory leaves its input as
it is, and the file is found on any path. One to a directory that must not be changed leaves no
trace. -/
theorem shop_converted_and_denied :
    let fs : FileSystem :=
      { nodes := [(["srv".toList, "shop.json".toList], .file "\x7b\x7d".toUTF8 {}),
          (["etc".toList], .directory { write := false })]
        home := ["home".toList, "desk".toList] }
    let shop := run fs ["/srv/shop.json", "-o", "../shop.md"]
    let denied := run fs ["/srv/shop.json", "-o", "/etc/shop.md"]
    (shop.exitCode = 0 ∧ shop.output = "" ∧
      shop.files.content? "../../srv/./shop.json" = some "\x7b\x7d".toUTF8 ∧
      ∃ text : String, shop.files.content? "../shop.md" = some text.toUTF8 ∧
        shop.files.content? "/home/shop.md" = some text.toUTF8) ∧
    (denied.exitCode = 1 ∧ denied.output = "" ∧ denied.files = fs) := by
  intro fs shop denied
  have hconverts : Converts ["/srv/shop.json", "-o", "../shop.md"]
      { input := some "/srv/shop.json", output := some "../shop.md" } "/srv/shop.json" :=
    ⟨by decide +kernel, rfl, rfl⟩
  have hshop : shop.exitCode = 0 := by decide +kernel
  have hdenied : denied.exitCode = 1 := by decide +kernel
  obtain ⟨text, settings, source, doc, hyields, houtput, hchanged⟩ :=
    ((run_effects fs _).2.1 _ _ hconverts).2.2 hshop
  have hinput : shop.files.content? "../../srv/./shop.json" = fs.content? "../../srv/./shop.json" :=
    hchanged.elsewhere _ (by decide +kernel)
  obtain ⟨hnothing, hfiles⟩ := (run_effects fs ["/srv/shop.json", "-o", "/etc/shop.md"]).1.2
    (hdenied.trans_ne Nat.one_ne_zero)
  exact ⟨⟨hshop, houtput, hinput.trans (by decide +kernel), text, hchanged.there _ rfl,
    hchanged.there _ (by decide +kernel)⟩, hdenied, hnothing, hfiles⟩

end ThriftPages
