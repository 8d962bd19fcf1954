/-
# The blank lines of a reference page

No block of a reference page runs into the one before it. A page opens with its
title, and all that follows is spaced (`Spaced`): the parts that end with neither
an empty line nor a table are the mark for a table of contents, which has an empty
line of its own after it, and the comments of a declaration, which always have a
table below them. So it does not matter what names, comments and marks contain.

Key theorems: `Section.spaced_outline`, `Document.blocks_apart`.
-/
import ThriftPages.Proofs.Page.Spacing
import ThriftPages.Reference.Page

namespace ThriftPages

open Text

/-! ### The parts of a page -/

/-- Blocks that leave an empty line behind them are spaced. -/
theorem spaced_ofBlocks {blocks : List Block} (h : ∀ b ∈ blocks, b.LeavesBlank) :
    Spaced (Outline.ofBlocks blocks).pieces := by
  rw [Outline.ofBlocks, Outline.pieces_seq, List.flatMap_map]
  apply spaced_flatMap
  intro b hb
  rw [Outline.pieces_block]
  exact spaced_block (h b hb)

theorem Typedef.spaced_outline (t : Typedef) : Spaced t.outline.pieces :=
  spaced_ofBlocks (by simp [Block.LeavesBlank, BlockText.toList])

/-- A heading, comments and a table below them are spaced. -/
theorem spaced_commented (name : String) (options : PageOptions) (comments : List Comment)
    (headers : List String) (rows : List (List String)) :
    Spaced (Outline.ofBlocks [.heading .h3 name, commentBlock options comments,
      .table headers rows]).pieces := by
  have hheading : Spaced [.block (.heading .h3 name)] := spaced_block trivial
  have hcommented := spaced_code_table options.commentLanguage
    (.single (documentation comments)) headers rows
  simpa [Outline.ofBlocks, commentBlock] using hheading.append hcommented

theorem Enumeration.spaced_outline (options : PageOptions) (e : Enumeration) :
    Spaced (e.outline options).pieces :=
  spaced_commented e.name options e.comments _ _

theorem Struct.spaced_outline (options : PageOptions) (s : Struct) :
    Spaced (s.outline options).pieces :=
  spaced_commented s.name options s.comments _ _

theorem Function.spaced_outline (f : Function) : Spaced f.outline.pieces :=
  spaced_ofBlocks (by simp [Block.LeavesBlank, BlockText.toList])

/-- A heading and spaced parts below it are spaced. -/
theorem spaced_below {α : Type} (level : HeadingLevel) (text : String) {part : α → Outline}
    (h : ∀ a, Spaced (part a).pieces) (items : List α) :
    Spaced (Outline.seq [.block (.heading level text), .seq (items.map part)]).pieces := by
  have hheading : Spaced [.block (.heading level text)] := spaced_block trivial
  have hparts : Spaced (items.flatMap fun a => (part a).pieces) := spaced_flatMap fun a _ => h a
  simpa [List.flatMap_map] using hheading.append hparts

theorem Service.spaced_outline (s : Service) : Spaced s.outline.pieces :=
  spaced_below .h3 s.name Function.spaced_outline s.functions

/-- The mark for a table of contents is spaced, whatever it is. -/
theorem spaced_tocOutline (options : PageOptions) :
    Spaced ((tocOutline options).flatMap Outline.pieces) := by
  unfold tocOutline
  split
  · simpa using spaced_raw options.tocMarker
  · exact spaced_nil

/-! ### The page -/

section Page

variable (fileName : String) (options : PageOptions) (doc : Document)

/-- The sections below the header are spaced. -/
theorem Section.spaced_outline {s : Section} (h : s ≠ header) :
    Spaced (s.outline fileName options doc).pieces := by
  cases s with
  | header => exact absurd rfl h
  | types => exact spaced_below .h2 "Types" Typedef.spaced_outline doc.typedefs
  | constants => exact spaced_ofBlocks (by simp [Block.LeavesBlank])
  | enumerations =>
    exact spaced_below .h2 "Enumerations" (Enumeration.spaced_outline options) doc.enumerations
  | structures =>
    exact spaced_below .h2 "Data Structures" (Struct.spaced_outline options) doc.structs
  | services => exact spaced_below .h2 "Services" Service.spaced_outline doc.services

/-- A page is its title and spaced pieces. -/
theorem Document.pieces_outline : ∃ rest, Spaced rest ∧
    (doc.outline fileName options).pieces =
      .block (.heading .h1 (FilePath.title fileName)) :: rest := by
  have hnamespaces : Spaced
      (Outline.ofBlocks (doc.namespaces.map fun n => .quote (.single n.name))).pieces :=
    spaced_ofBlocks (by simp [Block.LeavesBlank, BlockText.toList])
  have hsections : Spaced (([.types, .constants, .enumerations, .structures, .services] :
      List Section).flatMap fun s => (s.outline fileName options doc).pieces) := by
    apply spaced_flatMap
    intro s hs
    apply Section.spaced_outline
    rintro rfl
    exact absurd hs (by decide)
  refine ⟨_, (hnamespaces.append (spaced_tocOutline options)).append hsections, ?_⟩
  simp [outline, Section.all, Section.outline, headerOutline]

/-- **Blocks never run into each other.** Wherever a page is split in front of a piece, the
piece fits: in front of a heading, a quote or a code block the text so far is empty or ends
with an empty line; in front of a table it ends with an empty line or with the closing fence of
a code block. And the whole page ends with an empty line. -/
theorem Document.blocks_apart :
    (∀ before p after, (doc.outline fileName options).pieces = before ++ p :: after →
      p.FitsAfter before) ∧
    EndsWith "\n\n" (doc.markdown fileName options) := by
  obtain ⟨rest, hrest, hpieces⟩ := pieces_outline fileName options doc
  have hblank : (Block.heading .h1 (FilePath.title fileName)).LeavesBlank := trivial
  -- Nothing is before the title, so it needs no empty line.
  have hfirst : (Piece.block (.heading .h1 (FilePath.title fileName))).FitsAfter [] :=
    Or.inl (by decide)
  obtain ⟨hfit, hend⟩ := hrest.openedBy hblank hfirst
  rw [markdown, Outline.text, hpieces, ← Piece.textOf]
  rw [fitFrom_iff] at hfit
  exact ⟨hfit, hend⟩

end Page

end ThriftPages
