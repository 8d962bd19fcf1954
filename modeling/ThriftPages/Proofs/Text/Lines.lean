/-
# The lines of a text

A text is split at a mark, a line feed as a rule. Texts that are each ended by a
mark are split one by one, and behind the last mark an empty part is left
(`Text.splitOn_closed`). So if the mark is in none of the texts, they are read
back as they were (`Text.closedParts_closed`), and if it is, there are more parts
than texts: texts that are put below each other are as many lines as there are
texts exactly if each is one line (`Text.linesThenBlank_iff`).

Key definitions: `Text.partsAt`, `Text.closed`, `Text.closedParts`, `Text.LinesThenBlank`.
Key theorems: `Text.splitOn_closed`, `Text.partsAt_closed`, `Text.intercalate_eq_closed`,
`Text.linesThenBlank_iff`.
-/
import ThriftPages.Proofs.Text.Characters

namespace ThriftPages.Text

/-- The parts of a text between the places where it has a mark. -/
def partsAt (mark : Char) (text : String) : List String :=
  (text.toList.splitOn mark).map String.ofList

/-- The parts of a text that are ended by a mark. -/
def closedParts (mark : Char) (text : String) : List String := (partsAt mark text).dropLast

/-- Texts one after the other, each ended by a mark. -/
def closed (mark : Char) (texts : List String) : String :=
  String.join (texts.map fun text => text ++ String.singleton mark)

section Closed

variable {mark : Char}

theorem toList_closed (texts : List String) :
    (closed mark texts).toList = texts.flatMap fun text => text.toList ++ [mark] := by
  simp [closed, List.flatMap_map]

/-- **Texts that are ended by a mark are split one by one.** -/
theorem splitOn_closed : ∀ texts : List String,
    (closed mark texts).toList.splitOn mark =
      (texts.flatMap fun text => text.toList.splitOn mark) ++ [[]]
  | [] => by simp [closed]
  | text :: rest => by
    have ih := splitOn_closed rest
    rw [toList_closed] at ih ⊢
    rw [List.flatMap_cons, List.append_assoc, List.singleton_append,
      List.splitOn_append_cons_self, ih, List.flatMap_cons, List.append_assoc]

/-- A text without the mark is not split. -/
theorem flatMap_splitOn_lacks : ∀ {texts : List String}, (∀ text ∈ texts, Lacks mark text) →
    (texts.flatMap fun text => text.toList.splitOn mark) = texts.map String.toList
  | [], _ => rfl
  | text :: rest, h => by
    obtain ⟨htext, hrest⟩ := List.forall_mem_cons.1 h
    have hwhole : text.toList.splitOn mark = [text.toList] :=
      List.splitOn_eq_singleton fun hmark => htext mark hmark rfl
    rw [List.flatMap_cons, hwhole, flatMap_splitOn_lacks hrest]
    rfl

theorem partsAt_closed {texts : List String} (h : ∀ text ∈ texts, Lacks mark text) :
    partsAt mark (closed mark texts) = texts ++ [""] := by
  rw [partsAt, splitOn_closed, flatMap_splitOn_lacks h]
  simp

theorem closedParts_closed {texts : List String} (h : ∀ text ∈ texts, Lacks mark text) :
    closedParts mark (closed mark texts) = texts := by
  rw [closedParts, partsAt_closed h, List.dropLast_concat]

/-- Every text has a first part. -/
theorem length_le_flatMap_splitOn : ∀ texts : List String,
    texts.length ≤ (texts.flatMap fun text => text.toList.splitOn mark).length
  | [] => Nat.le_refl 0
  | text :: rest => by
    have hpos := List.length_pos_iff.2 (List.splitOn_ne_nil mark text.toList)
    have ih := length_le_flatMap_splitOn rest
    rw [List.flatMap_cons, List.length_append, List.length_cons]
    omega

/-- Texts that split into as many parts as there are texts are not split at all. -/
theorem flatMap_splitOn_eq : ∀ {texts : List String},
    (texts.flatMap fun text => text.toList.splitOn mark).length = texts.length →
    (texts.flatMap fun text => text.toList.splitOn mark) = texts.map String.toList
  | [], _ => rfl
  | text :: rest, h => by
    have hpos := List.length_pos_iff.2 (List.splitOn_ne_nil mark text.toList)
    have hrest : rest.length ≤ (rest.flatMap fun text => text.toList.splitOn mark).length :=
      length_le_flatMap_splitOn rest
    rw [List.flatMap_cons, List.length_append, List.length_cons] at h
    obtain ⟨part, hpart⟩ := List.length_eq_one_iff.1
      (show (text.toList.splitOn mark).length = 1 by omega)
    have hsame : part = text.toList := by
      have hjoined : [mark].intercalate (text.toList.splitOn mark) = text.toList :=
        List.intercalate_splitOn mark
      rwa [hpart, List.intercalate_singleton] at hjoined
    rw [List.flatMap_cons, hpart, hsame, flatMap_splitOn_eq (by omega)]
    rfl

end Closed

/-! ### Lines -/

/-- Texts with line feeds between them and an empty line below them are all ended by one. -/
theorem intercalate_eq_closed : ∀ {texts : List String}, texts ≠ [] →
    String.intercalate "\n" texts ++ "\n\n" = closed '\n' (texts ++ [""])
  | [], h => absurd rfl h
  | [text], _ => by
    rw [← String.toList_inj, toList_closed]
    simp
  | text :: next :: rest, _ => by
    have ih := intercalate_eq_closed (List.cons_ne_nil next rest)
    rw [← String.toList_inj, toList_closed] at ih ⊢
    rw [String.intercalate_cons_cons, String.append_assoc, String.toList_append, ih]
    simp

/-- A text that consists of so many lines, none of them empty, and an empty line after
them. -/
def LinesThenBlank (n : Nat) (text : String) : Prop :=
  ∃ lines : List String, lines.length = n ∧ (∀ line ∈ lines, line ≠ "" ∧ OneLine line) ∧
    text.toList.splitOn '\n' = lines.map String.toList ++ [[], []]

/-- **Texts below each other are as many lines as there are texts exactly if each is one line.** -/
theorem linesThenBlank_iff {texts : List String} (hne : texts ≠ [])
    (hempty : ∀ text ∈ texts, text ≠ "") :
    LinesThenBlank texts.length (String.intercalate "\n" texts ++ "\n\n") ↔
      ∀ text ∈ texts, OneLine text := by
  have hparts : (String.intercalate "\n" texts ++ "\n\n").toList.splitOn '\n' =
      (texts.flatMap fun text => text.toList.splitOn '\n') ++ [[], []] := by
    rw [intercalate_eq_closed hne, splitOn_closed, List.flatMap_append]
    simp
  rw [LinesThenBlank, hparts]
  constructor
  · rintro ⟨lines, hlength, hlines, hsplit⟩
    have hsplit := List.append_cancel_right hsplit
    have hsame : texts.map String.toList = lines.map String.toList := by
      rw [← flatMap_splitOn_eq (by rw [hsplit, List.length_map, hlength]), hsplit]
    rw [(List.map_inj_right fun _ _ h => String.toList_inj.1 h).1 hsame]
    exact fun line hline => (hlines line hline).2
  · intro h
    have hlacks : ∀ text ∈ texts, Lacks '\n' text :=
      fun text htext c hc hfeed => h text htext c hc (.inl hfeed)
    exact ⟨texts, rfl, fun text htext => ⟨hempty text htext, h text htext⟩,
      by rw [flatMap_splitOn_lacks hlacks]⟩

end ThriftPages.Text
