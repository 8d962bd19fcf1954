/-
# The space between blocks

What stands before a piece of a page is the text of the pieces before it. A block
stands apart from it if that text ends with an empty line. Most blocks leave an
empty line behind them (`Block.LeavesBlank`), but a code block leaves its closing
fence only and a raw text whatever it ends with, so it takes more than one piece
to say that nothing runs into what follows: pieces are spaced if after an empty
line each of them fits and they leave an empty line again (`Spaced`). Spaced
pieces can be put one after the other (`Spaced.append`, `spaced_flatMap`).

Key definitions: `Text.EndsWith`, `Piece.textOf`, `Piece.FitsAfter`, `FitFrom`,
`Block.LeavesBlank`, `Spaced`.
Key theorems: `fitFrom_iff`, `Block.LeavesBlank.endsWith`, `Spaced.append`,
`spaced_flatMap`.
-/
import ThriftPages.Page.Outline

namespace ThriftPages

/-! ### How a text ends -/

namespace Text

/-- The text ends with `tail`. -/
def EndsWith (tail text : String) : Prop := tail.toList <:+ text.toList

instance (tail text : String) : Decidable (EndsWith tail text) :=
  inferInstanceAs (Decidable (_ <:+ _))

/-- What a text ends with does not depend on what is before it. -/
theorem EndsWith.append {tail text : String} (h : EndsWith tail text) (before : String) :
    EndsWith tail (before ++ text) := by
  rw [EndsWith, String.toList_append]
  exact List.suffix_append_of_suffix h

theorem endsWith_append (before tail : String) : EndsWith tail (before ++ tail) :=
  EndsWith.append List.suffix_rfl before

/-- What follows both a text and its tail does not count. -/
theorem EndsWith.append_right {tail text : String} (h : EndsWith tail text) (after : String) :
    EndsWith (tail ++ after) (text ++ after) := by
  rw [EndsWith, String.toList_append, String.toList_append]
  exact List.suffix_append_self_iff.2 h

/-- Texts that all end with `tail` do so when they are joined, if there is one. -/
theorem endsWith_join {tail : String} : ∀ {texts : List String}, texts ≠ [] →
    (∀ text ∈ texts, EndsWith tail text) → EndsWith tail (String.join texts)
  | [], h, _ => absurd rfl h
  | [text], _, h => by
    have htext := h text (List.mem_singleton_self text)
    rwa [EndsWith, String.toList_join, List.flatMap_singleton]
  | text :: next :: rest, _, h => by
    have hrest := endsWith_join (List.cons_ne_nil next rest) (List.forall_mem_cons.1 h).2
    rw [EndsWith, String.toList_join] at hrest ⊢
    rw [List.flatMap_cons]
    exact List.suffix_append_of_suffix hrest

end Text

open Text

/-! ### What a block leaves behind it -/

namespace Block

/-- A block leaves an empty line behind it unless it is a code block or without any text. -/
def LeavesBlank : Block → Prop
  | heading .. | image .. | table .. => True
  | paragraph text | quote text => text.toList ≠ []
  | list _ items => items ≠ []
  | code .. => False

theorem endsWith_marked (mark : String) {pieces : List String} (h : pieces ≠ []) :
    EndsWith blockEnd (marked mark pieces) := by
  apply endsWith_join (by simpa using h)
  rw [List.forall_mem_map]
  exact fun piece _ => endsWith_append (mark ++ piece) blockEnd

/-- A block that is said to leave an empty line does. -/
theorem LeavesBlank.endsWith {b : Block} (h : b.LeavesBlank) : EndsWith blockEnd b.markdown := by
  cases b with
  | heading level text => exact endsWith_append _ blockEnd
  | paragraph text => exact endsWith_marked "" h
  | quote text => exact endsWith_marked "> " h
  | image source title altText => exact endsWith_append _ blockEnd
  | list kind items => exact endsWith_marked (itemMark kind) h
  | code language text => exact absurd h id
  | table headers rows => exact endsWith_append _ blockEnd

/-- A code block ends with its closing fence, on a line of its own. -/
theorem code_endsWith (language : String) (text : BlockText) :
    EndsWith "\n```\n" (code language text).markdown := by
  -- The fence is preceded by the line with the language and the lines of the text.
  have hlines : EndsWith "\n"
      (String.join ((language :: text.toList).map fun line => line ++ "\n")) := by
    apply endsWith_join (by simp)
    rw [List.forall_mem_map]
    exact fun line _ => endsWith_append line "\n"
  have hmarkdown : (code language text).markdown = fence ++
      String.join ((language :: text.toList).map fun line => line ++ "\n") ++ "```\n" := by
    rw [← String.toList_inj]
    simp [markdown, fence]
  rw [hmarkdown]
  exact (hlines.append fence).append_right "```\n"

-- An empty line at the end of its text stays inside the fences.
example : ¬ EndsWith blockEnd (code "" (.single "Who.\n\n")).markdown := by decide

end Block

/-! ### Where a piece fits -/

namespace Piece

/-- The text that pieces have together. -/
def textOf (pieces : List Piece) : String := String.join (pieces.map text)

theorem textOf_append (before after : List Piece) :
    textOf (before ++ after) = textOf before ++ textOf after := by
  rw [← String.toList_inj]
  simp [textOf]

theorem textOf_singleton (p : Piece) : textOf [p] = p.text := by
  rw [← String.toList_inj]
  simp [textOf]

/-- Where a piece fits. A raw text fits anywhere. A table fits after an empty line, and
directly below the closing fence of a code block. Any other block fits at the start of the
page and after an empty line. -/
def FitsAfter (before : List Piece) : Piece → Prop
  | raw _ => True
  | block (.table ..) =>
    EndsWith "\n\n" (textOf before) ∨
      ∃ start language text, before = start ++ [block (.code language text)] ∧
        EndsWith "\n```\n" (textOf before)
  | block _ => textOf before = "" ∨ EndsWith "\n\n" (textOf before)

/-- Everything fits after an empty line. -/
theorem fitsAfter_blank {before : List Piece} (h : EndsWith "\n\n" (textOf before)) (p : Piece) :
    p.FitsAfter before := by
  cases p with
  | raw text => trivial
  | block b => cases b <;> first | exact Or.inl h | exact Or.inr h

end Piece

open Piece

/-- Each piece fits after those before it, starting behind `before`. -/
def FitFrom (before : List Piece) : List Piece → Prop
  | [] => True
  | p :: rest => p.FitsAfter before ∧ FitFrom (before ++ [p]) rest

theorem fitFrom_append {before ps qs : List Piece} :
    FitFrom before (ps ++ qs) ↔ FitFrom before ps ∧ FitFrom (before ++ ps) qs := by
  induction ps generalizing before with
  | nil => simp [FitFrom]
  | cons p rest ih =>
    rw [List.cons_append, FitFrom, FitFrom, ih, and_assoc, List.append_assoc,
      List.singleton_append]

/-- Each piece fits exactly if it does wherever the pieces are split in front of it. -/
theorem fitFrom_iff {start ps : List Piece} :
    FitFrom start ps ↔
      ∀ before p after, ps = before ++ p :: after → p.FitsAfter (start ++ before) := by
  constructor
  · rintro h before p after rfl
    exact (fitFrom_append.1 h).2.1
  · induction ps generalizing start with
    | nil => exact fun _ => trivial
    | cons p rest ih =>
      intro h
      have hfirst := h [] p rest rfl
      rw [List.append_nil] at hfirst
      refine ⟨hfirst, ih fun before q after hsplit => ?_⟩
      rw [List.append_assoc, List.singleton_append]
      exact h (p :: before) q after (by rw [hsplit, List.cons_append])

/-! ### Spaced pieces -/

/-- After an empty line each of the pieces fits, and they leave an empty line. -/
def Spaced (ps : List Piece) : Prop :=
  ∀ before, EndsWith "\n\n" (textOf before) →
    FitFrom before ps ∧ EndsWith "\n\n" (textOf (before ++ ps))

theorem spaced_nil : Spaced [] := by
  intro before hblank
  rw [List.append_nil]
  exact ⟨trivial, hblank⟩

/-- Spaced pieces can follow each other. -/
theorem Spaced.append {ps qs : List Piece} (hps : Spaced ps) (hqs : Spaced qs) :
    Spaced (ps ++ qs) := by
  intro before hblank
  obtain ⟨hfit, hbetween⟩ := hps before hblank
  obtain ⟨hfit', hend⟩ := hqs (before ++ ps) hbetween
  rw [← List.append_assoc]
  exact ⟨fitFrom_append.2 ⟨hfit, hfit'⟩, hend⟩

theorem spaced_flatMap {α : Type} {pieces : α → List Piece} :
    ∀ {items : List α}, (∀ item ∈ items, Spaced (pieces item)) → Spaced (items.flatMap pieces)
  | [], _ => spaced_nil
  | item :: rest, h => by
    obtain ⟨hitem, hrest⟩ := List.forall_mem_cons.1 h
    rw [List.flatMap_cons]
    exact hitem.append (spaced_flatMap hrest)

/-- A block that leaves an empty line is spaced. -/
theorem spaced_block {b : Block} (h : b.LeavesBlank) : Spaced [.block b] := by
  intro before hblank
  refine ⟨⟨fitsAfter_blank hblank _, trivial⟩, ?_⟩
  rw [textOf_append, textOf_singleton]
  exact h.endsWith.append _

/-- Two texts of which the second is an empty line are spaced, whatever the first is. -/
theorem spaced_raw (text : String) : Spaced [.raw text, .raw "\n\n"] := by
  intro before _
  refine ⟨⟨trivial, trivial, trivial⟩, ?_⟩
  rw [List.append_cons, textOf_append, textOf_singleton]
  exact endsWith_append _ "\n\n"

/-- A code block and a table below it are spaced. -/
theorem spaced_code_table (language : String) (text : BlockText) (headers : List String)
    (rows : List (List String)) :
    Spaced [.block (.code language text), .block (.table headers rows)] := by
  intro before hblank
  have hfence : EndsWith "\n```\n" (textOf (before ++ [.block (.code language text)])) := by
    rw [textOf_append, textOf_singleton]
    exact (Block.code_endsWith language text).append _
  refine ⟨⟨fitsAfter_blank hblank _, ?_, trivial⟩, ?_⟩
  · exact Or.inr ⟨before, language, text, rfl, hfence⟩
  · have htable : (Block.table headers rows).LeavesBlank := trivial
    rw [List.append_cons, textOf_append, textOf_singleton]
    exact htable.endsWith.append _

/-- A page that opens with a block and goes on with spaced pieces: each piece fits, and the
page ends with an empty line. -/
theorem Spaced.openedBy {b : Block} {rest : List Piece} (h : Spaced rest) (hblank : b.LeavesBlank)
    (hfirst : (block b).FitsAfter []) :
    FitFrom [] (.block b :: rest) ∧ EndsWith "\n\n" (textOf (.block b :: rest)) := by
  have hopened : EndsWith "\n\n" (textOf [.block b]) := by
    rw [textOf_singleton]
    exact hblank.endsWith
  obtain ⟨hfit, hend⟩ := h [.block b] hopened
  exact ⟨⟨hfirst, hfit⟩, hend⟩

end ThriftPages
