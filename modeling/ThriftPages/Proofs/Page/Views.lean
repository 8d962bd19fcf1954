/-
# Views of an outline

What a page has of one kind, in the order of the page: its headings, its tables.
A view chooses among the leaves, so the view of a sequence is the views of its
children one after the other (`Outline.chosen_seq`).

A table is as many lines as it has rows, two more for its header, and an empty
line, if and only if no cell has a line break (`Table.linesThenBlank_iff`).

Key definitions: `Outline.chosen`, `Heading`, `Outline.headings`, `Table`,
`Outline.tables`.
Key theorems: `Outline.chosen_seq`, `Table.linesThenBlank_iff`.
-/
import ThriftPages.Page.Outline
import ThriftPages.Proofs.Text.Lines

namespace ThriftPages

namespace Outline

/-- What is chosen of the leaves, from left to right. -/
def chosen {α : Type} (choice : Piece → Option α) (outline : Outline) : List α :=
  outline.pieces.filterMap choice

variable {α : Type} (choice : Piece → Option α)

@[simp] theorem chosen_block (b : Block) :
    (block b).chosen choice = (choice (.block b)).toList := by
  rw [chosen, pieces_block]
  cases h : choice (.block b) <;> simp [h]

@[simp] theorem chosen_raw (text : String) :
    (raw text).chosen choice = (choice (.raw text)).toList := by
  rw [chosen, pieces_raw]
  cases h : choice (.raw text) <;> simp [h]

/-- A sequence is viewed child by child. -/
@[simp] theorem chosen_seq (children : List Outline) :
    (seq children).chosen choice = children.flatMap (chosen choice) := by
  rw [chosen, pieces_seq, List.filterMap_flatMap]
  rfl

@[simp] theorem chosen_ofBlocks (blocks : List Block) :
    (ofBlocks blocks).chosen choice = blocks.filterMap fun b => choice (.block b) := by
  rw [ofBlocks, chosen_seq, List.flatMap_map]
  simp only [chosen_block]
  induction blocks with
  | nil => rfl
  | cons b rest ih => cases h : choice (.block b) <;> simp [h, ih]

end Outline

/-! ### Headings -/

/-- A heading of a page. -/
structure Heading where
  level : HeadingLevel
  text : String
deriving DecidableEq

/-- The heading that a leaf is, if it is one. -/
def Piece.heading? : Piece → Option Heading
  | block (.heading level text) => some ⟨level, text⟩
  | _ => none

/-- The headings of the page in order. -/
def Outline.headings (outline : Outline) : List Heading := outline.chosen Piece.heading?

/-! ### Tables -/

/-- A table of a page. -/
structure Table where
  headers : List String
  rows : List (List String)
deriving DecidableEq

/-- The table that a leaf is, if it is one. -/
def Piece.table? : Piece → Option Table
  | block (.table headers rows) => some ⟨headers, rows⟩
  | _ => none

/-- The tables of the page in order. -/
def Outline.tables (outline : Outline) : List Table := outline.chosen Piece.table?

namespace Table

/-- The cells below the header, row by row. -/
def cells (table : Table) : List String := table.rows.flatten

/-- The Markdown text of a table. -/
def markdown (table : Table) : String := (Block.table table.headers table.rows).markdown

/-- Every character of a row is one of a cell or of the marks around the cells. -/
theorem each_tableRow {good : Char → Prop} (hspace : Text.Each good " ")
    (hbar : Text.Each good " |") (cells : List String) :
    Text.Each good (Block.tableRow cells) ↔ ∀ cell ∈ cells, Text.Each good cell := by
  rw [Block.tableRow, Text.each_join, List.forall_mem_map]
  simp [hspace, hbar]

/-- Every character of the lines of a table is one of a cell or of the marks around the cells. -/
theorem each_tableLines {good : Char → Prop} (hspace : Text.Each good " ")
    (hbar : Text.Each good " |") (hrule : Text.Each good "---") (headers : List String)
    (rows : List (List String)) :
    (∀ line ∈ Block.tableLines headers rows, Text.Each good line) ↔
      ∀ cells ∈ headers :: rows, ∀ cell ∈ cells, Text.Each good cell := by
  have hseparator : ∀ cell ∈ headers.map fun _ => "---", Text.Each good cell :=
    List.forall_mem_map.2 fun _ _ => hrule
  simp only [Block.tableLines, List.forall_mem_cons, List.forall_mem_map (l := rows),
    each_tableRow hspace hbar]
  rw [and_iff_right hseparator]

/-- A row with a cell is not empty. -/
theorem tableRow_ne_empty {cells : List String} (h : cells ≠ []) : Block.tableRow cells ≠ "" := by
  cases cells with
  | nil => exact absurd rfl h
  | cons cell rest =>
    intro hempty
    have hchars := congrArg String.toList hempty
    simp [Block.tableRow] at hchars

/-- **A table has a line for its header, one for the separator, one for every row, and an
empty line after them, exactly if no cell has a line break.** -/
theorem linesThenBlank_iff {table : Table} (hheaders : table.headers ≠ [])
    (hrows : ∀ row ∈ table.rows, row ≠ [])
    (hheader : ∀ header ∈ table.headers, Text.OneLine header) :
    Text.LinesThenBlank (table.rows.length + 2) table.markdown ↔
      ∀ cell ∈ table.cells, Text.OneLine cell := by
  have hnonempty : ∀ line ∈ Block.tableLines table.headers table.rows, line ≠ "" := by
    simp only [Block.tableLines, List.forall_mem_cons, List.forall_mem_map]
    exact ⟨tableRow_ne_empty hheaders, tableRow_ne_empty (by simpa using hheaders),
      fun row hrow => tableRow_ne_empty (hrows row hrow)⟩
  calc Text.LinesThenBlank (table.rows.length + 2) table.markdown
      ↔ ∀ line ∈ Block.tableLines table.headers table.rows, Text.OneLine line := by
        rw [markdown, Block.markdown, Block.blockEnd,
          ← Text.linesThenBlank_iff (by simp [Block.tableLines]) hnonempty]
        simp [Block.tableLines]
    _ ↔ ∀ cells ∈ table.headers :: table.rows, ∀ cell ∈ cells, Text.OneLine cell :=
        each_tableLines (by decide) (by decide) (by decide) _ _
    _ ↔ ∀ cell ∈ table.cells, Text.OneLine cell := by
        rw [List.forall_mem_cons, and_iff_right hheader, cells, List.forall_mem_flatten]

end Table

end ThriftPages
