/-
# The names at the end of paths

A path that is put behind another, with a slash between them, has its components
behind those of the other (`FilePath.components_append_slash`). So what a path has
as its last component does not depend on the folders before it nor on slashes
behind it, and no more does what is read off the last component: the file's name,
the title of its document and its extension.

A title is the first part of a file's name between the points in it
(`FilePath.IsComponent.title_eq`), and an extension is what follows the last point, if
there is anything before that (`FilePath.extension?_eq_some_iff`).

Key definitions: `FilePath.lastComponent?`, `FilePath.IsComponent`.
Key theorems: `FilePath.components_append_slash`, `FilePath.lastComponent?_join`,
`FilePath.title_title`, `FilePath.extension?_eq_some_iff`.
-/
import Mathlib.Data.List.TakeWhile
import ThriftPages.FilePath
import ThriftPages.Proofs.Text.Lines

namespace ThriftPages.FilePath

open Text (Lacks partsAt)

/-! ### Components -/

theorem splitAt_eq (separator : Char) (text : List Char) :
    splitAt separator text = text.splitOn separator := by
  induction text with
  | nil => rfl
  | cons c rest ih =>
    rw [splitAt, ih, List.splitOn_cons_eq_if_modifyHead]
    by_cases hc : c = separator
    · simp [hc]
    · rcases hrest : rest.splitOn separator with _ | ⟨part, parts⟩
      · exact absurd hrest (List.splitOn_ne_nil separator rest)
      · simp [hc]

/-- No part between separators has one. -/
theorem notMem_of_mem_splitOn {separator : Char} {part : List Char} : ∀ {text : List Char},
    part ∈ text.splitOn separator → separator ∉ part
  | [], h => by
    obtain rfl : part = [] := by simpa using h
    exact List.not_mem_nil
  | c :: rest, h => by
    rw [List.splitOn_cons_eq_if_modifyHead] at h
    rcases hrest : rest.splitOn separator with _ | ⟨first, others⟩
    · exact absurd hrest (List.splitOn_ne_nil separator rest)
    have ih : ∀ p ∈ first :: others, separator ∉ p := fun p hp =>
      notMem_of_mem_splitOn (hrest ▸ hp)
    rw [hrest] at h
    split at h
    · rcases List.mem_cons.1 h with rfl | h
      · exact List.not_mem_nil
      · exact ih part h
    · next hc =>
      rcases List.mem_cons.1 h with rfl | h
      · have hne : separator ≠ c := fun heq => hc (by simp [heq])
        simpa [hne] using ih first List.mem_cons_self
      · exact ih part (List.mem_cons_of_mem _ h)

/-- A text that is a component of a path by itself. -/
structure IsComponent (name : String) : Prop where
  nonempty : name ≠ ""
  slashless : Lacks '/' name
  not_here : name ≠ "."

instance : DecidablePred IsComponent := fun name =>
  decidable_of_iff (name ≠ "" ∧ Lacks '/' name ∧ name ≠ ".")
    ⟨fun ⟨h₁, h₂, h₃⟩ => ⟨h₁, h₂, h₃⟩, fun ⟨h₁, h₂, h₃⟩ => ⟨h₁, h₂, h₃⟩⟩

theorem mem_components {path : String} {part : List Char} :
    part ∈ components path ↔ part ∈ path.toList.splitOn '/' ∧ part ≠ [] ∧ part ≠ here := by
  simp [components, parts, splitAt_eq]

theorem isComponent_of_mem_components {path : String} {part : List Char}
    (h : part ∈ components path) : IsComponent (String.ofList part) := by
  obtain ⟨hpart, hnonempty, hhere⟩ := mem_components.1 h
  have hslash : '/' ∉ part := notMem_of_mem_splitOn hpart
  refine ⟨fun heq => hnonempty ?_, fun c hc heq => hslash ?_, fun heq => hhere ?_⟩
  · simpa using congrArg String.toList heq
  · rwa [String.toList_ofList, heq] at hc
  · simpa [here] using congrArg String.toList heq

/-- **A path behind another has its components behind those of the other.** -/
theorem components_append_slash (folder path : String) :
    components (folder ++ "/" ++ path) = components folder ++ components path := by
  have hslash : (folder ++ "/" ++ path).toList = folder.toList ++ '/' :: path.toList := by simp
  rw [components, parts, hslash, splitAt_eq, List.splitOn_append_cons_self, List.filter_append,
    ← splitAt_eq, ← splitAt_eq]
  rfl

theorem IsComponent.components_eq {name : String} (h : IsComponent name) :
    components name = [name.toList] := by
  have hwhole : name.toList.splitOn '/' = [name.toList] :=
    List.splitOn_eq_singleton fun hmem => h.slashless '/' hmem rfl
  have hnonempty : name.toList ≠ [] := fun heq => h.nonempty (by simpa using heq)
  have hhere : name.toList ≠ here := fun heq => h.not_here (String.toList_inj.1 heq)
  rw [components, parts, splitAt_eq, hwhole, List.filter_cons_of_pos (by simp [hnonempty, hhere])]
  rfl

/-! ### The last component -/

/-- The last component of a path. -/
def lastComponent? (path : String) : Option (List Char) := (components path).getLast?

theorem lastComponent?_join (folder : String) {name : String} (h : IsComponent name) :
    lastComponent? (folder ++ "/" ++ name) = lastComponent? name := by
  rw [lastComponent?, lastComponent?, components_append_slash, h.components_eq,
    List.getLast?_concat]
  rfl

/-- Slashes at the end of a path do not show. -/
theorem lastComponent?_append_slashes (path : String) (n : Nat) :
    lastComponent? (path ++ String.ofList (List.replicate n '/')) = lastComponent? path := by
  induction n with
  | zero => simp
  | succ n ih =>
    have hlast : path ++ String.ofList (List.replicate (n + 1) '/') =
        path ++ String.ofList (List.replicate n '/') ++ "/" ++ "" := by
      rw [← String.toList_inj]
      simp [List.replicate_succ']
    have hempty : components "" = [] := rfl
    rw [hlast, lastComponent?, components_append_slash, hempty, List.append_nil, ← lastComponent?,
      ih]

section LastComponent

variable {path path' : String} (h : lastComponent? path = lastComponent? path')

include h

theorem fileNameChars?_congr : fileNameChars? path = fileNameChars? path' :=
  congrArg (Option.filter (· ≠ above)) h

theorem title_congr : title path = title path' := by
  rw [title, title, fileNameChars?_congr h]

theorem extension?_congr : extension? path = extension? path' := by
  rw [extension?, extension?, fileNameChars?_congr h]

end LastComponent

/-- A file's name is a component, and not the one of the folder above. -/
theorem fileNameChars?_eq_some {path : String} {chars : List Char}
    (h : fileNameChars? path = some chars) :
    IsComponent (String.ofList chars) ∧ chars ≠ above := by
  obtain ⟨hlast, habove⟩ := Option.filter_eq_some_iff.1 h
  exact ⟨isComponent_of_mem_components (List.mem_of_getLast? hlast), by simpa using habove⟩

theorem IsComponent.fileNameChars?_eq {name : String} (h : IsComponent name)
    (habove : name ≠ "..") :
    fileNameChars? name = some name.toList := by
  have hne : name.toList ≠ above := fun heq => habove (String.toList_inj.1 heq)
  rw [fileNameChars?, h.components_eq]
  simp [hne]

/-- The name of the file that a path leads to leads to that file's name. -/
theorem fileNameChars?_of_fileName? {path name : String} (h : fileName? path = some name) :
    fileNameChars? name = fileNameChars? path := by
  obtain ⟨chars, hchars, rfl⟩ := Option.map_eq_some_iff.1 h
  obtain ⟨hcomponent, habove⟩ := fileNameChars?_eq_some hchars
  have hne : String.ofList chars ≠ ".." := fun heq => habove (by
    simpa [above] using congrArg String.toList heq)
  rw [hcomponent.fileNameChars?_eq hne, hchars, String.toList_ofList]

/-! ### Titles -/

/-- What stands before the first mark is the first part between marks. -/
theorem head?_splitOn (mark : Char) (text : List Char) :
    (text.splitOn mark).head? = some (text.takeWhile (· ≠ mark)) := by
  induction text with
  | nil => rfl
  | cons c rest ih =>
    rw [List.splitOn_cons_eq_if_modifyHead]
    by_cases hc : c = mark
    · simp [hc]
    · simp [hc, List.head?_modifyHead, ih]

/-- **A file's title is the first part of its name between points**, and empty for the folder
above. -/
theorem IsComponent.title_eq {name : String} (h : IsComponent name) :
    (partsAt '.' name).head? = some (title name) := by
  rw [partsAt, List.head?_map, head?_splitOn, Option.map_some, title]
  by_cases habove : name = ".."
  · subst habove
    decide
  · rw [h.fileNameChars?_eq habove, Option.getD_some]

/-- No title has a point or a slash. -/
theorem title_lacks (path : String) : Lacks '.' (title path) ∧ Lacks '/' (title path) := by
  have hchars : '/' ∉ (fileNameChars? path).getD [] := by
    cases hname : fileNameChars? path with
    | none => exact List.not_mem_nil
    | some chars =>
      have hslash := (fileNameChars?_eq_some hname).1.slashless
      exact fun hmem => hslash '/' (by rwa [String.toList_ofList]) rfl
  refine ⟨(Text.each_ofList _).2 fun c hc => ?_, (Text.each_ofList _).2 fun c hc heq => hchars ?_⟩
  · simpa using List.mem_takeWhile_imp hc
  · exact heq ▸ (List.takeWhile_prefix _).subset hc

/-- **A title is its own title.** -/
theorem title_title (path : String) : title (title path) = title path := by
  obtain ⟨hpoint, hslash⟩ := title_lacks path
  generalize title path = name at hpoint hslash
  by_cases hempty : name = ""
  · subst hempty
    decide
  · have hcomponent : IsComponent name := by
      refine ⟨hempty, hslash, fun hhere => ?_⟩
      subst hhere
      exact absurd hpoint (by decide)
    have hwhole : name.toList.splitOn '.' = [name.toList] :=
      List.splitOn_eq_singleton fun hmem => hpoint '.' hmem rfl
    have htitle := hcomponent.title_eq
    rw [partsAt, hwhole] at htitle
    simpa using htitle.symm

/-! ### Extensions -/

/-- The extension of a name is what follows its last point, if there is something before it. -/
theorem extensionOf?_eq_some_iff {name ending : List Char} :
    extensionOf? name = some ending ↔
      ∃ stem, stem ≠ [] ∧ '.' ∉ ending ∧ name = stem ++ '.' :: ending := by
  constructor
  · intro h
    obtain ⟨hstem, h⟩ := Option.ite_none_left_eq_some.1 h
    obtain rfl := Option.some.inj h
    rcases hdrop : name.reverse.dropWhile (· ≠ '.') with _ | ⟨point, stem⟩
    · exact absurd (by rw [hdrop]; rfl) hstem
    · have hpoint : point = '.' := by
        have hhead := List.head?_dropWhile_not (· ≠ '.') name.reverse
        rw [hdrop] at hhead
        simpa using hhead
      have hname : name.reverse = name.reverse.takeWhile (· ≠ '.') ++ '.' :: stem := by
        rw [← hpoint, ← hdrop, hpoint, List.takeWhile_append_dropWhile]
      refine ⟨stem.reverse, ?_, fun hmem => ?_, ?_⟩
      · rw [hdrop] at hstem
        simpa using hstem
      · simpa using List.mem_takeWhile_imp (List.mem_reverse.1 hmem)
      · simpa using congrArg List.reverse hname
  · rintro ⟨stem, hstem, hending, rfl⟩
    have hreverse : (stem ++ '.' :: ending).reverse = ending.reverse ++ '.' :: stem.reverse := by
      simp
    have hall : ∀ c ∈ ending.reverse, decide (c ≠ '.') = true := fun c hc =>
      decide_eq_true fun heq => hending (heq ▸ List.mem_reverse.1 hc)
    rw [extensionOf?, hreverse, List.dropWhile_append_of_pos hall,
      List.takeWhile_append_of_pos hall]
    simp [hstem]

/-- **The extension of a path** is what follows the last point of its file's name, if there is
something before it. -/
theorem extension?_eq_some_iff {path ending : String} :
    extension? path = some ending ↔
      ∃ stem, stem ≠ "" ∧ Lacks '.' ending ∧ fileName? path = some (stem ++ "." ++ ending) := by
  have hlacks : Lacks '.' ending ↔ '.' ∉ ending.toList :=
    ⟨fun h hmem => h '.' hmem rfl, fun h c hc heq => h (heq ▸ hc)⟩
  rw [extension?, fileName?, hlacks, Option.bind_eq_some_iff]
  constructor
  · rintro ⟨name, hname, h⟩
    obtain ⟨chars, hchars, rfl⟩ := Option.map_eq_some_iff.1 h
    obtain ⟨stem, hstem, hpoint, rfl⟩ := extensionOf?_eq_some_iff.1 hchars
    refine ⟨String.ofList stem, fun heq => hstem ?_, by rwa [String.toList_ofList], ?_⟩
    · simpa using congrArg String.toList heq
    · rw [hname, Option.map_some, Option.some_inj, ← String.toList_inj]
      simp
  · rintro ⟨stem, hstem, hpoint, h⟩
    obtain ⟨name, hname, hjoined⟩ := Option.map_eq_some_iff.1 h
    have hchars : name = stem.toList ++ '.' :: ending.toList := by
      simpa using congrArg String.toList hjoined
    have hnonempty : stem.toList ≠ [] := fun heq => hstem (by simpa using heq)
    refine ⟨name, hname, ?_⟩
    rw [extensionOf?_eq_some_iff.2 ⟨stem.toList, hnonempty, hpoint, hchars⟩, Option.map_some,
      String.ofList_toList]

/-- A name with a point in it has what follows the last point as its extension. -/
theorem extension?_join {stem ending : String} (hstem : stem ≠ "") (hslash : Lacks '/' stem)
    (hending : ending ≠ "") (hpoint : Lacks '.' ending) (hslash' : Lacks '/' ending) :
    extension? (stem ++ "." ++ ending) = some ending := by
  have hlong : 3 ≤ (stem ++ "." ++ ending).toList.length := by
    have h₁ : 0 < stem.toList.length := List.length_pos_iff.2 fun h => hstem (by simpa using h)
    have h₂ : 0 < ending.toList.length := List.length_pos_iff.2 fun h => hending (by simpa using h)
    simp only [String.toList_append, List.length_append]
    change 3 ≤ stem.toList.length + 1 + ending.toList.length
    omega
  have hshort : ∀ short : String, short.toList.length < 3 → stem ++ "." ++ ending ≠ short :=
    fun short h heq => Nat.not_le.2 h (heq ▸ hlong)
  have hcomponent : IsComponent (stem ++ "." ++ ending) := by
    refine ⟨hshort "" (by decide), ?_, hshort "." (by decide)⟩
    rw [Lacks, Text.each_append, Text.each_append]
    exact ⟨⟨hslash, by decide⟩, hslash'⟩
  refine extension?_eq_some_iff.2 ⟨stem, hstem, hpoint, ?_⟩
  rw [fileName?, hcomponent.fileNameChars?_eq (hshort ".." (by decide)), Option.map_some,
    String.ofList_toList]

end ThriftPages.FilePath
