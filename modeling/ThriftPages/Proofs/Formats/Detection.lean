/-
# The format of a file

Detection goes through the formats of a registry, in whatever order it keeps them, and
answers with the name of the first to which files with the extension belong. So its
answer is sound and there is one if there can be (`Registry.detectsBy`), and it is a
question of the file's extension, which the last component of the path settles. Where
no two formats have an extension in common at most one is found, and then the order
does not show (`Registry.detectIn?_congr`).

A registration under a name that is taken changes which formats there are. So only
histories that leave the same formats behind answer alike
(`Registry.replaced_format_not_detected`).

Key definitions: `Registry.detectIn?`, `Registry.Apart`, `Registry.DetectsBy`.
Key theorems: `Registry.detectsBy`, `Registry.detectIn?_congr`,
`Registry.chosenFormat_eq_or_registered`, `Registry.detected_by_extension`.
-/
import Mathlib.Data.List.Find
import ThriftPages.CommandLine.Run
import ThriftPages.Proofs.Files.PathNames
import ThriftPages.Proofs.Formats.History

namespace ThriftPages.Registry

open FilePath (IsComponent extension? lastComponent?)
open Text (Lacks)

/-- The name of the first of some formats to which files with the extension of `fileName`
belong. -/
def detectIn? (order : List Format) (fileName : String) : Option String :=
  (extension? fileName).bind fun extension =>
    (order.find? fun f => extension ∈ f.extensions).map Format.name

/-- A registry detects in the order of names. -/
theorem detect?_eq (registry : Registry) : registry.detect? = detectIn? registry.formats := rfl

/-! ### The formats of a registry -/

theorem names_nodup (registry : Registry) : registry.names.Nodup := by
  refine List.pairwise_map.2 (registry.sorted.imp fun {a b} hlt heq => ?_)
  exact String.lt_irrefl _ (heq ▸ hlt)

/-- **A name leads to the format of the registry that has it.** -/
theorem get_eq_ok_iff {registry : Registry} {name : String} {format : Format} :
    registry.get name = .ok format ↔ format ∈ registry.formats ∧ format.name = name := by
  unfold get
  constructor
  · intro h
    split at h
    · next found hfound =>
      obtain rfl := Except.ok.inj h
      exact ⟨List.mem_of_find?_eq_some hfound, by simpa using List.find?_some hfound⟩
    · cases h
  · rintro ⟨hmem, rfl⟩
    obtain ⟨found, hfound⟩ := Option.isSome_iff_exists.1
      (mem_names_iff.1 (List.mem_map_of_mem (f := Format.name) hmem))
    have hname : found.name = format.name := by simpa using List.find?_some hfound
    obtain rfl : found = format := List.inj_on_of_nodup_map registry.names_nodup
      (List.mem_of_find?_eq_some hfound) hmem hname
    rw [hfound]

/-- Registries whose names lead to the same formats have the same formats. -/
theorem formats_perm {registry registry' : Registry}
    (h : ∀ name, registry'.get name = registry.get name) :
    registry'.formats.Perm registry.formats := by
  have hnodup : ∀ r : Registry, r.formats.Nodup := fun r => List.Nodup.of_map _ r.names_nodup
  have hmem : ∀ (r : Registry) (f : Format), f ∈ r.formats ↔ r.get f.name = .ok f := fun r f => by
    rw [get_eq_ok_iff, and_iff_left rfl]
  rw [List.perm_ext_iff_of_nodup (hnodup _) (hnodup _)]
  intro f
  rw [hmem, hmem, h]

/-! ### What is detected -/

/-- Two formats with an extension in common have the same name. -/
def Apart (formats : List Format) : Prop :=
  ∀ f ∈ formats, ∀ g ∈ formats, f.name ≠ g.name → ∀ e ∈ f.extensions, e ∉ g.extensions

instance : DecidablePred Apart := fun formats =>
  inferInstanceAs (Decidable (∀ f ∈ formats, ∀ g ∈ formats, f.name ≠ g.name →
    ∀ e ∈ f.extensions, e ∉ g.extensions))

/-- Detection answers by the extension of a file and by the formats of a registry. -/
structure DetectsBy (registry : Registry) (detect : String → Option String) : Prop where
  /-- An answer leads to a format to which files with the extension belong. -/
  sound : ∀ fileName name, detect fileName = some name →
    ∃ format extension, registry.get name = .ok format ∧
      extension? fileName = some extension ∧ extension ∈ format.extensions
  /-- There is no answer exactly if there is no extension or no format that has it. -/
  complete : ∀ fileName, detect fileName = none ↔
    ∀ extension, extension? fileName = some extension →
      ∀ name format, registry.get name = .ok format → extension ∉ format.extensions
  /-- Of a path only the last component matters. -/
  last : ∀ path path', lastComponent? path' = lastComponent? path → detect path' = detect path
  /-- Folders before a name do not, nor do slashes behind it. -/
  folder : ∀ folder name n, IsComponent name →
    detect (folder ++ "/" ++ name ++ String.ofList (List.replicate n '/')) = detect name
  /-- The ending of a name is looked up as it is. -/
  ending : ∀ stem ending, stem ≠ "" → Lacks '/' stem →
    ending ≠ "" → Lacks '.' ending → Lacks '/' ending →
      (∀ name, detect (stem ++ "." ++ ending) = some name →
        ∃ format, registry.get name = .ok format ∧ ending ∈ format.extensions) ∧
      (detect (stem ++ "." ++ ending) = none ↔
        ∀ name format, registry.get name = .ok format → ending ∉ format.extensions)

section Detection

variable {registry : Registry} {order : List Format}

theorem detectIn?_eq_some {fileName name : String}
    (h : detectIn? order fileName = some name) :
    ∃ format ∈ order, ∃ extension, format.name = name ∧ extension? fileName = some extension ∧
      extension ∈ format.extensions := by
  obtain ⟨extension, hextension, h⟩ := Option.bind_eq_some_iff.1 h
  obtain ⟨format, hfound, hname⟩ := Option.map_eq_some_iff.1 h
  exact ⟨format, List.mem_of_find?_eq_some hfound, extension, hname, hextension,
    by simpa using List.find?_some hfound⟩

theorem detectIn?_eq_none_iff {fileName : String} :
    detectIn? order fileName = none ↔
      ∀ extension, extension? fileName = some extension → ∀ f ∈ order,
        extension ∉ f.extensions := by
  simp [detectIn?, Option.bind_eq_none_iff]

/-- **In whatever order, detection answers by the extension.** -/
theorem detectsBy (horder : order.Perm registry.formats) :
    DetectsBy registry (detectIn? order) := by
  have hmem : ∀ P : Format → Prop, (∀ f ∈ order, P f) ↔
      ∀ name format, registry.get name = .ok format → P format := by
    intro P
    simp only [get_eq_ok_iff, horder.mem_iff]
    exact ⟨fun h _ f hf => h f hf.1, fun h f hf => h f.name f ⟨hf, rfl⟩⟩
  have hsound : ∀ fileName name, detectIn? order fileName = some name →
      ∃ format extension, registry.get name = .ok format ∧
        extension? fileName = some extension ∧ extension ∈ format.extensions := by
    intro fileName name h
    obtain ⟨format, hformat, extension, hname, hextension, hin⟩ := detectIn?_eq_some h
    exact ⟨format, extension, get_eq_ok_iff.2 ⟨horder.mem_iff.1 hformat, hname⟩, hextension, hin⟩
  have hcomplete : ∀ fileName, detectIn? order fileName = none ↔
      ∀ extension, extension? fileName = some extension →
        ∀ name format, registry.get name = .ok format → extension ∉ format.extensions :=
    fun fileName => detectIn?_eq_none_iff.trans (forall₂_congr fun extension _ => hmem _)
  have hlast : ∀ path path', lastComponent? path' = lastComponent? path →
      detectIn? order path' = detectIn? order path := fun path path' h => by
    rw [detectIn?, detectIn?, FilePath.extension?_congr h]
  refine ⟨hsound, hcomplete, hlast, fun folder name n hname => hlast _ _ ?_, ?_⟩
  · rw [FilePath.lastComponent?_append_slashes, FilePath.lastComponent?_join folder hname]
  · intro stem ending hstem hslash hending hpoint hslash'
    have hextension := FilePath.extension?_join hstem hslash hending hpoint hslash'
    refine ⟨fun name h => ?_, ?_⟩
    · obtain ⟨format, extension, hget, hfound, hin⟩ := hsound _ _ h
      obtain rfl := Option.some.inj (hextension.symm.trans hfound)
      exact ⟨format, hget, hin⟩
    · rw [hcomplete, hextension]
      simp

/-- **If no two formats have an extension in common, the order does not show.** -/
theorem detectIn?_congr {order' : List Format} (horder : order.Perm registry.formats)
    (horder' : order'.Perm order) (hapart : Apart registry.formats) (fileName : String) :
    detectIn? order' fileName = detectIn? order fileName := by
  unfold detectIn?
  cases extension? fileName with
  | none => rfl
  | some extension =>
    rw [Option.bind_some, Option.bind_some]
    refine congrArg (Option.map Format.name) (List.find?_eq_find?_of_perm horder' ?_)
    rintro f ⟨hf, hfin⟩ g ⟨hg, hgin⟩
    have hf' : f ∈ registry.formats := horder.subset (horder'.subset hf)
    have hg' : g ∈ registry.formats := horder.subset (horder'.subset hg)
    by_contra hne
    have hname : f.name ≠ g.name := fun heq =>
      hne (List.inj_on_of_nodup_map registry.names_nodup hf' hg' heq)
    exact hapart f hf' g hg' hname extension (by simpa using hfin) (by simpa using hgin)

end Detection

/-! ### Histories -/

/-- Histories with the same last registration under every name end in the same formats. -/
theorem Remembers.formats_perm {registry registry' : Registry} {history history' : List Format}
    (h : registry.Remembers history) (h' : registry'.Remembers history')
    (hsame : ∀ name, lastNamed? name history' = lastNamed? name history) :
    registry'.formats.Perm registry.formats := by
  refine Registry.formats_perm fun name => ?_
  rw [h.get_eq, h'.get_eq, hsame]

theorem lastNamed?_append (name : String) (before later : List Format) :
    lastNamed? name (before ++ later) =
      (lastNamed? name later).or (lastNamed? name before) := by
  rw [lastNamed?, List.filter_append, List.getLast?_append]
  rfl

/-- The same registrations on the same registry leave the same formats, if they are the last
ones under their names. -/
theorem registerAll_perm {start : Registry} (hstart : start ∈ [empty, builtin])
    {history history' : List Format}
    (hsame : ∀ name, lastNamed? name history' = lastNamed? name history) :
    (start.registerAll history').formats.Perm (start.registerAll history).formats := by
  rcases List.mem_pair.1 hstart with rfl | rfl
  · exact (remembers_empty.registerAll history).formats_perm
      (remembers_empty.registerAll history') hsame
  · refine (remembers_builtin.registerAll history).formats_perm
      (remembers_builtin.registerAll history') fun name => ?_
    rw [lastNamed?_append, lastNamed?_append, hsame]

/-- A format that is chosen without being asked for is that of the settings or a registered
one. -/
theorem chosenFormat_eq_or_registered (registry : Registry) (output : Option String)
    (settings : Settings) :
    chosenFormat registry none output settings = settings.format ∨
      ∃ format, registry.get (chosenFormat registry none output settings) = .ok format := by
  rw [chosenFormat]
  cases hname : output.bind registry.detect? with
  | none => exact .inl rfl
  | some name =>
    obtain ⟨path, -, hdetect⟩ := Option.bind_eq_some_iff.1 hname
    rw [detect?_eq] at hdetect
    obtain ⟨format, -, hget, -⟩ := (detectsBy (.refl registry.formats)).sound path name hdetect
    exact .inr ⟨format, hget⟩

/-- **Formats are detected by their extensions.** After any registrations, and in whatever
order the formats are gone through, what is detected is a registered format to which files with
the extension belong, and nothing is detected exactly if there is none. Only the last component
of the path matters, and of that the ending after its last point, as it is written. If no two
formats have an extension in common, the order in which they are gone through does not matter,
nor does the order of the registrations, as long as the same format comes last under each name.
A run that is not asked for a format takes a registered one or that of the settings. -/
theorem detected_by_extension (history : List Format) :
    ∀ start ∈ [empty, builtin],
      (start.registerAll history).detect? = detectIn? (start.registerAll history).formats ∧
      (∀ order : List Format, order.Perm (start.registerAll history).formats →
        DetectsBy (start.registerAll history) (detectIn? order) ∧
        (Apart (start.registerAll history).formats →
          ∀ history', (∀ name, lastNamed? name history' = lastNamed? name history) →
          ∀ order' : List Format, order'.Perm (start.registerAll history').formats →
          ∀ fileName, detectIn? order' fileName = detectIn? order fileName)) ∧
      ∀ output settings,
        chosenFormat (start.registerAll history) none output settings = settings.format ∨
        ∃ format, (start.registerAll history).get
          (chosenFormat (start.registerAll history) none output settings) = .ok format := by
  intro start hstart
  refine ⟨detect?_eq _, fun order horder => ⟨detectsBy horder,
    fun hapart history' hsame order' horder' => ?_⟩, chosenFormat_eq_or_registered _⟩
  have hformats := registerAll_perm hstart hsame
  exact detectIn?_congr horder (horder'.trans (hformats.trans horder.symm)) hapart

/-- A format for notes beside the built-in ones, which are gone through backwards. -/
theorem notes_detected_in_any_order :
    let notes : Format := ⟨"notes", "", ["txt", "MD"], fun _ _ _ => .ok ""⟩
    let page : Format := { Format.markdown with description := "Pages" }
    let order := (builtin.registerAll [notes, page]).formats.reverse
    Apart (builtin.registerAll [notes, page]).formats ∧
      (∀ fileName, (builtin.registerAll [page, notes]).detect? fileName =
        detectIn? order fileName) ∧
      detectIn? order "old.md/shop.v1.txt//." = some "notes" ∧
      detectIn? order "shop.md" = some "markdown" ∧ detectIn? order "shop.MD" = some "notes" ∧
      detectIn? order ".md" = none ∧
      DetectsBy (builtin.registerAll [notes, page]) (detectIn? order) := by
  intro notes page order
  have hapart : Apart (builtin.registerAll [notes, page]).formats := by decide
  have hlast : ∀ name, lastNamed? name [page, notes] = lastNamed? name [notes, page] := by
    intro name
    by_cases h : page.name = name
    · have hnotes : notes.name ≠ name := h ▸ (by decide : notes.name ≠ page.name)
      simp [lastNamed?, h, hnotes]
    · simp [lastNamed?, List.filter_cons, h]
  obtain ⟨-, horders, -⟩ := detected_by_extension [notes, page] builtin
    (List.mem_pair.2 (.inr rfl))
  obtain ⟨hdetects, hsame⟩ := horders order (List.reverse_perm _)
  exact ⟨hapart, fun fileName => hsame hapart [page, notes] hlast _ (.refl _) fileName,
    by decide, by decide, by decide, by decide, hdetects⟩

/-- A format that is replaced by one of its name is no longer detected, so two formats with the
same name and different extensions are not registered in either order alike. -/
theorem replaced_format_not_detected :
    let first : Format := ⟨"x", "", ["a"], fun _ _ _ => .ok ""⟩
    let second : Format := ⟨"x", "", ["b"], fun _ _ _ => .ok ""⟩
    [second, first].Perm [first, second] ∧ (∀ e ∈ first.extensions, e ∉ second.extensions) ∧
      (empty.registerAll [second, first]).detect? "shop.a" = some "x" ∧
      (empty.registerAll [first, second]).detect? "shop.a" = none := by
  intro first second
  exact ⟨.swap first second [], by decide, by decide, by decide⟩

end ThriftPages.Registry
