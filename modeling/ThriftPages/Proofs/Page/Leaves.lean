/-
# The leaves of an outline

A place in an outline says which child to go to at each sequence on the way down.
At some places there is a leaf, and the leaves from left to right are those at
such places in lexicographic order, each place counted once (`Outline.Leaves`).
This says nothing of how an outline is walked, so it is a measure for the walk:
the pieces of an outline are its leaves from left to right, and nothing else is
(`Outline.leaves_iff`).

How leaves are nested does not show, then. Outlines with the same leaves have the
same pieces and the same text, however deep their sequences are and however many
of them are empty (`Outline.nesting_not_shown`).

Key definitions: `Outline.leafAt`, `Outline.Leaves`, `Outline.ofPieces`.
Key theorems: `Outline.Leaves.cons`, `Outline.leaves_iff`, `Outline.nesting_not_shown`.
-/
import Mathlib.Data.List.Sort
import ThriftPages.Reference.Page

namespace ThriftPages

namespace Outline

/-! ### Leaves by their places -/

/-- The leaf at a place: the numbers of the children to go to, from the root downwards. -/
def leafAt : Outline → List Nat → Option Piece
  | block b, [] => some (.block b)
  | raw text, [] => some (.raw text)
  | seq children, index :: place => children[index]?.bind fun child => child.leafAt place
  | _, _ => none
termination_by structural _ place => place

/-- The leaves of an outline from left to right: what is at the places where there is a leaf,
in increasing order of the places and once for each of them. -/
def Leaves (t : Outline) (leaves : List Piece) : Prop :=
  ∃ places : List (List Nat), places.Pairwise (· < ·) ∧
    (∀ place, place ∈ places ↔ (t.leafAt place).isSome) ∧
    places.map t.leafAt = leaves.map some

/-- An outline has no other leaves than its leaves. -/
theorem Leaves.unique {t : Outline} {leaves leaves' : List Piece} (h : t.Leaves leaves)
    (h' : t.Leaves leaves') : leaves = leaves' := by
  obtain ⟨places, hsorted, hmem, hleaves⟩ := h
  obtain ⟨places', hsorted', hmem', hleaves'⟩ := h'
  have hplaces : places = places' :=
    hsorted.eq_of_mem_iff hsorted' fun place => (hmem place).trans (hmem' place).symm
  rw [← hplaces, hleaves] at hleaves'
  exact List.map_injective_iff.2 (Option.some_injective _) hleaves'

/-- A leaf is at the place that goes nowhere. -/
theorem leaves_of_leafAt_nil {t : Outline} {leaf : Piece} (h : t.leafAt [] = some leaf)
    (hbelow : ∀ index place, t.leafAt (index :: place) = none) : t.Leaves [leaf] := by
  refine ⟨[[]], List.pairwise_singleton _ _, ?_, by simp [h]⟩
  rintro (_ | ⟨index, place⟩)
  · simp [h]
  · simp [hbelow]

theorem leaves_seq_nil : (seq []).Leaves [] := by
  refine ⟨[], .nil, ?_, rfl⟩
  rintro (_ | ⟨index, place⟩) <;> simp [leafAt]

/-- The place of a leaf after another child was put in front. -/
def oneFurther : List Nat → List Nat
  | [] => []
  | index :: place => (index + 1) :: place

theorem oneFurther_lt {place place' : List Nat} (h : place < place') :
    oneFurther place < oneFurther place' := by
  rcases place with _ | ⟨index, place⟩ <;> rcases place' with _ | ⟨index', place'⟩
  · exact h
  · exact List.nil_lt_cons _ _
  · exact absurd h (List.not_lt_nil _)
  · rw [List.cons_lt_cons_iff] at h
    rw [oneFurther, oneFurther, List.cons_lt_cons_iff]
    simpa using h

theorem leafAt_zero (child : Outline) (rest : List Outline) (place : List Nat) :
    (seq (child :: rest)).leafAt (0 :: place) = child.leafAt place := by
  simp [leafAt]

theorem leafAt_oneFurther (child : Outline) (rest : List Outline) :
    ∀ place, (seq (child :: rest)).leafAt (oneFurther place) = (seq rest).leafAt place
  | [] => by simp [oneFurther, leafAt]
  | index :: place => by simp [oneFurther, leafAt]

/-- The first place is that of the child in front, the others go further. -/
theorem eq_oneFurther_or_zero (place : List Nat) :
    (∃ below, place = 0 :: below) ∨ ∃ before, place = oneFurther before := by
  rcases place with _ | ⟨_ | index, place⟩
  · exact .inr ⟨[], rfl⟩
  · exact .inl ⟨place, rfl⟩
  · exact .inr ⟨index :: place, rfl⟩

theorem oneFurther_injective : Function.Injective oneFurther := by
  rintro (_ | ⟨index, place⟩) (_ | ⟨index', place'⟩) h <;> simp_all [oneFurther]

theorem zero_ne_oneFurther (below : List Nat) : ∀ before, oneFurther before ≠ 0 :: below
  | [] => by simp [oneFurther]
  | index :: place => by simp [oneFurther]

/-- **The leaves of a sequence** are those of its first child, then those of the others. -/
theorem Leaves.cons {child : Outline} {rest : List Outline} {first others : List Piece}
    (hfirst : child.Leaves first) (hothers : (seq rest).Leaves others) :
    (seq (child :: rest)).Leaves (first ++ others) := by
  obtain ⟨places, hsorted, hmem, hleaves⟩ := hfirst
  obtain ⟨places', hsorted', hmem', hleaves'⟩ := hothers
  refine ⟨places.map (0 :: ·) ++ places'.map oneFurther, ?_, fun place => ?_, ?_⟩
  · refine List.pairwise_append.2 ⟨hsorted.map _ fun a b h => ?_,
      hsorted'.map _ fun a b h => oneFurther_lt h, ?_⟩
    · exact List.cons_lt_cons_iff.2 (.inr ⟨rfl, h⟩)
    · -- There is no leaf at a sequence itself, so the places of the others start above zero.
      have hroot : [] ∉ places' := by simp [hmem', leafAt]
      simp only [List.forall_mem_map]
      rintro place - (_ | ⟨index, place'⟩) hplace'
      · exact absurd hplace' hroot
      · exact List.cons_lt_cons_iff.2 (.inl (Nat.succ_pos index))
  · rw [List.mem_append]
    rcases eq_oneFurther_or_zero place with ⟨below, rfl⟩ | ⟨before, rfl⟩
    · simp [leafAt_zero, hmem, zero_ne_oneFurther]
    · have hzero : oneFurther before ∉ places.map (0 :: ·) := by
        simp [(zero_ne_oneFurther _ before).symm]
      rw [leafAt_oneFurther, ← hmem', or_iff_right hzero,
        List.mem_map_of_injective oneFurther_injective]
  · have hzero : (seq (child :: rest)).leafAt ∘ (0 :: ·) = child.leafAt :=
      funext (leafAt_zero child rest)
    have hfurther : (seq (child :: rest)).leafAt ∘ oneFurther = (seq rest).leafAt :=
      funext (leafAt_oneFurther child rest)
    rw [List.map_append, List.map_map, List.map_map, hzero, hfurther, hleaves, hleaves',
      List.map_append]

/-! ### Leaves and pieces -/

/-- Every outline has its pieces for leaves. -/
theorem leaves_pieces (t : Outline) : t.Leaves t.pieces := by
  induction t using nested with
  | block b =>
    rw [pieces_block]
    exact leaves_of_leafAt_nil rfl fun _ _ => rfl
  | raw text =>
    rw [pieces_raw]
    exact leaves_of_leafAt_nil rfl fun _ _ => rfl
  | seq children ih =>
    rw [pieces_seq]
    induction children with
    | nil => exact leaves_seq_nil
    | cons child rest ihrest =>
      obtain ⟨hchild, hrest⟩ := List.forall_mem_cons.1 ih
      rw [List.flatMap_cons]
      exact hchild.cons (ihrest hrest)

/-- **The pieces of an outline are its leaves from left to right**: none is left out, none is
there twice, and none is put together with another. -/
theorem leaves_iff {t : Outline} {leaves : List Piece} : t.Leaves leaves ↔ t.pieces = leaves :=
  ⟨fun h => t.leaves_pieces.unique h, fun h => h ▸ t.leaves_pieces⟩

/-- A leaf as an outline. -/
def ofPiece : Piece → Outline
  | .block b => block b
  | .raw text => raw text

/-- Leaves in one flat sequence. -/
def ofPieces (leaves : List Piece) : Outline := seq (leaves.map ofPiece)

theorem pieces_ofPiece : ∀ leaf : Piece, (ofPiece leaf).pieces = [leaf]
  | .block b => pieces_block b
  | .raw text => pieces_raw text

theorem pieces_ofPieces (leaves : List Piece) : (ofPieces leaves).pieces = leaves := by
  rw [ofPieces, pieces_seq, List.flatMap_map]
  simp only [pieces_ofPiece, List.flatMap_singleton']

/-- The text of an outline depends on its pieces only. -/
theorem text_congr {a b : Outline} (h : a.pieces = b.pieces) : a.text = b.text := by
  rw [text, text, h]

/-- **Nesting does not show.** The pieces of an outline are its leaves from left to right.
Outlines that have the same leaves from left to right have the same pieces and the same text.
The text of a sequence is the texts of its children one after the other, and the text of an
outline is that of a flat sequence of its pieces. So the text of a page is that of its six
sections. -/
theorem nesting_not_shown :
    (∀ (t : Outline) (leaves : List Piece), t.Leaves leaves ↔ t.pieces = leaves) ∧
    (∀ (a b : Outline) (leaves : List Piece), a.Leaves leaves → b.Leaves leaves →
      a.pieces = b.pieces ∧ a.text = b.text) ∧
    (∀ children : List Outline, (seq children).text = String.join (children.map text)) ∧
    (∀ t : Outline, (ofPieces t.pieces).pieces = t.pieces ∧ (ofPieces t.pieces).text = t.text) ∧
    ∀ (fileName : String) (options : PageOptions) (doc : Document),
      let part (s : Section) := (s.outline fileName options doc).text
      doc.markdown fileName options =
        part .header ++ part .types ++ part .constants ++ part .enumerations ++
          part .structures ++ part .services := by
  refine ⟨fun t leaves => leaves_iff, fun a b leaves ha hb => ?_, text_seq, fun t => ?_,
    fun fileName options doc => ?_⟩
  · have hpieces : a.pieces = b.pieces := (leaves_iff.1 ha).trans (leaves_iff.1 hb).symm
    exact ⟨hpieces, text_congr hpieces⟩
  · have hpieces : (ofPieces t.pieces).pieces = t.pieces := pieces_ofPieces t.pieces
    exact ⟨hpieces, text_congr hpieces⟩
  · rw [Document.markdown, Document.outline, text_seq, ← String.toList_inj]
    simp [Section.all]

/-- Two leaves inside one another, with empty sequences around them, and side by side. -/
theorem nested_and_flat_alike :
    let title := Block.heading .h2 "Types"
    let deep : Outline := .seq [.seq [], .seq [.seq [.block title, .seq []], .raw "[[_TOC_]]"]]
    let flat : Outline := .seq [.block title, .raw "[[_TOC_]]"]
    deep.Leaves [.block title, .raw "[[_TOC_]]"] ∧ flat.Leaves [.block title, .raw "[[_TOC_]]"] ∧
      deep.pieces = flat.pieces ∧ deep.text = flat.text := by
  intro title deep flat
  have hdeep : deep.Leaves [.block title, .raw "[[_TOC_]]"] := leaves_pieces deep
  have hflat : flat.Leaves [.block title, .raw "[[_TOC_]]"] := leaves_pieces flat
  exact ⟨hdeep, hflat, nesting_not_shown.2.1 deep flat _ hdeep hflat⟩

end Outline

end ThriftPages
