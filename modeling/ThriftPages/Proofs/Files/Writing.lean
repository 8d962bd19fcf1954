/-
# What writing a file changes

A path that leads somewhere leads through directories that are there
(`FileSystem.Rooted`). So a file that is written lies in such a directory and
opens none: whatever else stands somewhere stays as it is (`FileSystem.node?_put`),
and every path leads where it did (`FileSystem.place?_put`). What has changed is the
content of one place, the one that the written path leads to, for whichever path
leads there (`FileSystem.changedAt_of_write`).

Key definitions: `FileSystem.content?`, `FileSystem.Rooted`, `FileSystem.ChangedAt`.
Key theorems: `FileSystem.node?_put`, `FileSystem.walk_put`,
`FileSystem.changedAt_of_write`.
-/
import ThriftPages.FileSystem
import ThriftPages.Proofs.Steps

namespace ThriftPages.FileSystem

/-! ### Contents -/

/-- The content of the file in a place, if there is one. -/
def contentAt? (fs : FileSystem) (way : Way) : Option ByteArray :=
  match fs.node? way with
  | some (.file content _) => some content
  | some (.directory _) | none => none

/-- The content of the file that a path leads to, if it leads to one. -/
def content? (fs : FileSystem) (path : String) : Option ByteArray :=
  (fs.place? path).toOption.bind fs.contentAt?

/-! ### Through directories -/

/-- Whatever is above a place is there. -/
def Rooted (fs : FileSystem) (way : Way) : Prop :=
  ∀ above, above <+: way → above ≠ way → fs.node? above ≠ none

theorem rooted_start (fs : FileSystem) (path : String) : fs.Rooted (fs.start path) := by
  intro above habove hne
  unfold start at habove hne
  split at habove
  · next habsolute =>
    rw [if_pos habsolute] at hne
    exact absurd (List.prefix_nil.1 habove) hne
  · unfold node?
    rw [List.isPrefixOf_iff_prefix.2 habove, Bool.true_or, if_pos rfl]
    cases fs.nodes.lookup above <;> nofun

/-- A part of a path leads from what is there to a place below or above it. -/
theorem Rooted.step {fs : FileSystem} {way : Way} (h : fs.Rooted way)
    (hthere : fs.node? way ≠ none) (part : List Char) :
    fs.Rooted (FileSystem.step part way) := by
  unfold FileSystem.step
  split
  · exact h
  · split
    · intro above habove hne
      have hway : above <+: way := habove.trans (List.dropLast_prefix way)
      refine h above hway fun heq => hne (habove.eq_of_length_le ?_)
      rw [heq, List.length_dropLast]
      exact Nat.sub_le _ _
    · intro above habove hne
      rcases List.prefix_concat_iff.1 habove with rfl | hprefix
      · exact absurd rfl hne
      · by_cases heq : above = way
        · rwa [heq]
        · exact h above hprefix heq

/-- A walk through directories ends in a place below them. -/
theorem Rooted.walk {fs : FileSystem} {parts : List (List Char)} {way way' : Way}
    (h : fs.Rooted way) (hwalk : fs.walk parts way = .ok way') : fs.Rooted way' := by
  induction parts generalizing way with
  | nil =>
    obtain rfl : way = way' := by simpa [FileSystem.walk] using hwalk
    exact h
  | cons part parts ih =>
    unfold FileSystem.walk at hwalk
    split at hwalk
    · next hdirectory =>
      split at hwalk
      · exact ih h hwalk
      · split at hwalk
        · exact ih (h.step (hdirectory ▸ nofun) part) hwalk
        · cases hwalk
    · cases hwalk
    · cases hwalk

theorem rooted_of_place? {fs : FileSystem} {path : String} {way : Way}
    (h : fs.place? path = .ok way) : fs.Rooted way := by
  unfold place? at h
  split at h
  · cases h
  · exact (fs.rooted_start path).walk h

/-! ### What is put in a place -/

section Put

variable {fs : FileSystem} {way : Way} (content : ByteArray)

theorem any_replace (test : Way → Bool) (way : Way) (node : Node) :
    ∀ nodes : List (Way × Node),
      ((replace way node nodes).any fun node => test node.1) =
        ((nodes.any fun node => test node.1) || test way)
  | [] => by simp [replace]
  | (w, n) :: rest => by
    unfold replace
    split
    · next h =>
      subst h
      simp only [List.any_cons]
      cases test way <;> simp
    · simp only [List.any_cons, any_replace test way node rest, Bool.or_assoc]

/-- Below what is there nothing but the place itself changes. -/
theorem node?_put (h : fs.Rooted way) {other : Way} (hne : other ≠ way) :
    (fs.put way content).node? other = fs.node? other := by
  unfold node? put
  simp only [lookup_replace_of_ne _ hne]
  cases hlisted : fs.nodes.lookup other with
  | some node => rfl
  | none =>
    simp only [any_replace (other.isPrefixOf ·)]
    cases hprefix : other.isPrefixOf way with
    | false => rw [Bool.or_false]
    | true =>
      have hthere : fs.node? other ≠ none := h other (List.isPrefixOf_iff_prefix.1 hprefix) hne
      have himplied : (other.isPrefixOf fs.home ||
          fs.nodes.any fun node => other.isPrefixOf node.1) = true := by
        by_contra hnot
        exact hthere (by simp only [node?, hlisted, if_neg hnot])
      rw [Bool.or_true, Bool.or_true, himplied]

/-- Where a file is put, it is found. -/
theorem node?_put_self (fs : FileSystem) (way : Way) (content : ByteArray) :
    (fs.put way content).node? way = some (.file content (fs.rightsAt way)) := by
  unfold node? put
  simp only [lookup_replace_self]

/-- A walk leads where it did, for it passes through directories only. -/
theorem walk_put (h : fs.Rooted way) (hplace : ∀ rights, fs.node? way ≠ some (.directory rights))
    (parts : List (List Char)) (way' : Way) :
    ((fs.put way content).walk parts way').toOption = (fs.walk parts way').toOption := by
  induction parts generalizing way' with
  | nil => rfl
  | cons part parts ih =>
    unfold walk
    by_cases heq : way' = way
    · -- The walk stops in the place itself before and after, if for another reason.
      subst heq
      rw [node?_put_self]
      cases hbefore : fs.node? way' with
      | none => rfl
      | some node =>
        cases node with
        | file => rfl
        | directory rights => exact absurd hbefore (hplace rights)
    · rw [node?_put content h heq]
      cases fs.node? way' with
      | none => rfl
      | some node =>
        cases node with
        | file => rfl
        | directory rights =>
          dsimp only
          split
          · exact ih _
          · split
            · exact ih _
            · rfl

/-- Every path leads where it did. -/
theorem place?_put (h : fs.Rooted way) (hplace : ∀ rights, fs.node? way ≠ some (.directory rights))
    (path : String) :
    ((fs.put way content).place? path).toOption = (fs.place? path).toOption := by
  unfold place?
  split
  · rfl
  · exact walk_put content h hplace _ _

/-- What other paths lead to stays as it is. -/
theorem content?_put_of_ne (h : fs.Rooted way)
    (hplace : ∀ rights, fs.node? way ≠ some (.directory rights)) {path : String}
    (hpath : fs.place? path ≠ .ok way) : (fs.put way content).content? path = fs.content? path := by
  rw [content?, content?, place?_put content h hplace]
  cases hother : fs.place? path with
  | error fault => rfl
  | ok other =>
    have hne : other ≠ way := fun heq => hpath (heq ▸ hother)
    simp only [Except.toOption, Option.bind_some, contentAt?, node?_put content h hne]

/-- What the paths to the place lead to is the new content. -/
theorem content?_put_self (h : fs.Rooted way)
    (hplace : ∀ rights, fs.node? way ≠ some (.directory rights)) {path : String}
    (hpath : fs.place? path = .ok way) : (fs.put way content).content? path = some content := by
  rw [content?, place?_put content h hplace, hpath]
  simp only [Except.toOption, Option.bind_some, contentAt?, node?_put_self]

end Put

/-! ### What writing changes -/

/-- A path that does not end in a slash has all its parts in its name. -/
theorem named_eq_parts {parts : List (List Char)}
    (h : parts.length ≤ (parts.reverse.dropWhile List.isEmpty).reverse.length) :
    (parts.reverse.dropWhile List.isEmpty).reverse = parts := by
  have hsuffix : parts.reverse.dropWhile List.isEmpty <:+ parts.reverse := List.dropWhile_suffix _
  have hlength : parts.reverse.length ≤ (parts.reverse.dropWhile List.isEmpty).length := by
    rwa [List.length_reverse] at h ⊢
  rw [hsuffix.eq_of_length_le hlength, List.reverse_reverse]

/-- To write is to put content in the place that the path leads to, which is no directory. -/
theorem write_eq_ok {fs fs' : FileSystem} {path text : String}
    (h : fs.write path text = .ok fs') :
    ∃ way, fs.place? path = .ok way ∧ (∀ rights, fs.node? way ≠ some (.directory rights)) ∧
      fs' = fs.put way text.toUTF8 := by
  simp only [write] at h
  split at h
  · cases h
  · next hpath =>
    obtain ⟨way, hwalk, h⟩ := Steps.bind_eq_ok_iff.1 h
    split at h
    · cases h
    · next hnamed =>
      rw [named_eq_parts (Nat.not_lt.1 hnamed)] at hwalk
      obtain ⟨_, hwritable, h⟩ := Steps.bind_eq_ok_iff.1 h
      refine ⟨way, by rw [place?, if_neg hpath, hwalk], fun rights hdirectory => ?_,
        (Except.ok.inj h).symm⟩
      simp only [writable, hdirectory] at hwritable
      cases hwritable

/-- Between two states of the files only the file that a path leads to has changed. -/
structure ChangedAt (fs fs' : FileSystem) (path text : String) : Prop where
  /-- The path leads to a place, in which the text is now the content of a file. -/
  leads : ∃ way, fs.place? path = .ok way ∧
    fs'.node? way = some (.file text.toUTF8 (fs.rightsAt way))
  /-- Whatever leads to the same place leads to the new content. -/
  there : ∀ other, fs.place? other = fs.place? path → fs'.content? other = some text.toUTF8
  /-- Whatever leads elsewhere leads to the content that was there. -/
  elsewhere : ∀ other, fs.place? other ≠ fs.place? path → fs'.content? other = fs.content? other
  /-- In the other places there is what was there, file, directory or nothing. -/
  nodes : ∀ way, fs.place? path ≠ .ok way → fs'.node? way = fs.node? way
  /-- Every path leads where it did. -/
  places : ∀ other, (fs'.place? other).toOption = (fs.place? other).toOption

/-- **Writing changes one place.** -/
theorem changedAt_of_write {fs fs' : FileSystem} {path text : String}
    (h : fs.write path text = .ok fs') : ChangedAt fs fs' path text := by
  obtain ⟨way, hplace, hnot, rfl⟩ := write_eq_ok h
  have hrooted : fs.Rooted way := rooted_of_place? hplace
  refine ⟨⟨way, hplace, node?_put_self _ _ _⟩, fun other hother => ?_, fun other hother => ?_,
    fun other hother => ?_, fun other => place?_put _ hrooted hnot other⟩
  · exact content?_put_self _ hrooted hnot (hother.trans hplace)
  · rw [hplace] at hother
    exact content?_put_of_ne _ hrooted hnot hother
  · exact node?_put _ hrooted fun heq => hother (heq ▸ hplace)

end ThriftPages.FileSystem
