/-
# Reading blocks back

A block is written line by line, and every line is ended by a line feed
(`Block.markdown_eq_closed`). So a text without line feeds inside its lines is
split into exactly these lines, and what a block was made from can be read off
them: the level of a heading from its `#` marks, the pieces of a paragraph, quote
or list from every other line, the lines of a code block from between its fences.
A row of a table is split in the same way at its bars, cell by cell, so empty
rows, empty cells and rows of any length stay apart.

Key definitions: `Block.lines`, `Block.readHeading`, `Block.readMarked`, `Block.readList`,
`Block.readCode`, `Block.readTable`.
Key theorems: `Block.markdown_eq_closed`, `Block.read_back`.
-/
import ThriftPages.Proofs.Page.Views

namespace ThriftPages

/-- A text without its first characters. -/
def Text.dropFirst (n : Nat) (text : String) : String := String.ofList (text.toList.drop n)

@[simp] theorem Text.dropFirst_append (first text : String) :
    dropFirst first.length (first ++ text) = text := by
  rw [← String.toList_inj]
  simp [dropFirst, ← String.length_toList]

open Text

namespace Block

/-! ### The lines of a block -/

/-- The lines of pieces that start with a mark. An empty line is below each. -/
def markedLines (mark : String) (pieces : List String) : List String :=
  pieces.flatMap fun piece => [mark ++ piece, ""]

/-- The lines that a block is written with. -/
def lines : Block → List String
  | heading level text => [String.ofList (List.replicate level.depth '#') ++ " " ++ text, ""]
  | paragraph text => markedLines "" text.toList
  | quote text => markedLines "> " text.toList
  | image source title altText =>
      ["![" ++ altText.getD "" ++ "](" ++ source ++ " \"" ++ title.getD "" ++ "\")", ""]
  | list kind items => markedLines (itemMark kind) items
  | code language text => (fence ++ language) :: (text.toList ++ [fence])
  | table headers rows => tableLines headers rows ++ [""]

theorem marked_eq_closed (mark : String) (pieces : List String) :
    marked mark pieces = closed '\n' (markedLines mark pieces) := by
  rw [← String.toList_inj, toList_closed]
  simp [marked, markedLines, blockEnd, List.flatMap_map, List.flatMap_assoc]

/-- **A block is written line by line**, and each line is ended. -/
theorem markdown_eq_closed (b : Block) : b.markdown = closed '\n' b.lines := by
  cases b with
  | heading level text | image source title altText =>
    rw [← String.toList_inj, toList_closed]
    simp [markdown, lines, blockEnd]
  | paragraph text | quote text | list kind items => exact marked_eq_closed _ _
  | code language text =>
    rw [← String.toList_inj, toList_closed]
    simp [markdown, lines, List.flatMap_map]
  | table headers rows => exact intercalate_eq_closed (by simp [tableLines])

/-- The lines that a text is split into. -/
theorem partsAt_markdown {b : Block} (h : ∀ line ∈ b.lines, Lacks '\n' line) :
    partsAt '\n' b.markdown = b.lines ++ [""] := by
  rw [markdown_eq_closed, partsAt_closed h]

theorem closedParts_markdown {b : Block} (h : ∀ line ∈ b.lines, Lacks '\n' line) :
    closedParts '\n' b.markdown = b.lines := by
  rw [markdown_eq_closed, closedParts_closed h]

/-! ### The readers -/

/-- The level and the text of a heading. -/
def readHeading (text : String) : Option (HeadingLevel × String) := do
  let line ← (closedParts '\n' text).head?
  let depth := (line.toList.takeWhile (· = '#')).length
  return (← HeadingLevel.ofDepth? depth, dropFirst (depth + 1) line)

/-- The pieces that have an empty line below them, each without its mark. -/
def unmarked (mark : String) : List String → List String
  | line :: _ :: rest => dropFirst mark.length line :: unmarked mark rest
  | _ => []

/-- The pieces of a text where each starts with a mark. -/
def readMarked (mark : String) (text : String) : List String :=
  unmarked mark (closedParts '\n' text)

/-- The kind of a list, going by its first mark, and its items. -/
def readList (text : String) : Option (ListKind × List String) := do
  let kind ← [ListKind.ordered, .unordered].find? fun kind =>
    (itemMark kind).toList.isPrefixOf text.toList
  return (kind, readMarked (itemMark kind) text)

/-- The language of a code block and the lines between its fences. -/
def readCode (text : String) : Option (String × List String) :=
  match closedParts '\n' text with
  | [] => none
  | opening :: rest => some (dropFirst fence.length opening, rest.dropLast)

/-- The cell that a part of a row holds between two blanks. -/
def readCell (part : String) : String := String.ofList (part.toList.drop 1).dropLast

/-- The cells of a row, each of them closed by a bar. -/
def readRow (row : String) : List String := (closedParts '|' row).map readCell

/-- The header and the rows of a table, the separator being passed over. -/
def readTable (text : String) : Option (List String × List (List String)) :=
  match closedParts '\n' text with
  | header :: _ :: rest => some (readRow header, rest.dropLast.map readRow)
  | _ => none

/-! ### What is read back -/

theorem unmarked_markedLines (mark : String) : ∀ pieces : List String,
    unmarked mark (markedLines mark pieces) = pieces
  | [] => rfl
  | piece :: rest => by
    have ih := unmarked_markedLines mark rest
    rw [markedLines] at ih ⊢
    rw [List.flatMap_cons]
    simp [unmarked, ih]

theorem tableRow_eq_closed (cells : List String) :
    tableRow cells = closed '|' (cells.map fun cell => " " ++ cell ++ " ") := by
  rw [← String.toList_inj, toList_closed]
  simp [tableRow, List.flatMap_map]

theorem readCell_padded (cell : String) : readCell (" " ++ cell ++ " ") = cell := by
  rw [← String.toList_inj]
  simp [readCell]

/-- A row is read back, whatever its length is and though cells may be empty. -/
theorem readRow_tableRow {cells : List String} (h : ∀ cell ∈ cells, Lacks '|' cell) :
    readRow (tableRow cells) = cells := by
  have hparts : ∀ part ∈ cells.map fun cell => " " ++ cell ++ " ", Lacks '|' part := by
    rw [List.forall_mem_map]
    intro cell hcell
    simp only [each_append]
    exact ⟨⟨by decide, h cell hcell⟩, by decide⟩
  rw [readRow, tableRow_eq_closed, closedParts_closed hparts, List.map_map]
  simp [Function.comp_def, readCell_padded]

theorem lacks_markedLines {mark : String} {pieces : List String} (hmark : Lacks '\n' mark)
    (h : ∀ piece ∈ pieces, Lacks '\n' piece) :
    ∀ line ∈ markedLines mark pieces, Lacks '\n' line := by
  rw [markedLines, List.forall_mem_flatMap]
  intro piece hpiece
  have hline : Lacks '\n' (mark ++ piece) := (each_append _ _).2 ⟨hmark, h piece hpiece⟩
  simpa using hline

theorem lacks_lines_heading (level : HeadingLevel) {text : String} (h : Lacks '\n' text) :
    ∀ line ∈ (heading level text).lines, Lacks '\n' line := by
  have hmarks : Lacks '\n' (String.ofList (List.replicate level.depth '#')) := by
    simp
  have hblank : Lacks '\n' " " := by decide
  simp [lines, hmarks, hblank, h]

theorem lacks_lines_code {language : String} {text : BlockText} (hlanguage : Lacks '\n' language)
    (h : ∀ line ∈ text.toList, Lacks '\n' line) :
    ∀ line ∈ (code language text).lines, Lacks '\n' line := by
  have hfence : Lacks '\n' fence := by decide
  simp only [lines, List.forall_mem_cons, List.forall_mem_append, each_append]
  exact ⟨⟨hfence, hlanguage⟩, h, hfence, by simp⟩

theorem lacks_lines_table {headers : List String} {rows : List (List String)}
    (h : ∀ cells ∈ headers :: rows, ∀ cell ∈ cells, Lacks '\n' cell) :
    ∀ line ∈ (table headers rows).lines, Lacks '\n' line := by
  have hlines := (Table.each_tableLines (by decide) (by decide) (by decide) headers rows).2 h
  rw [lines, List.forall_mem_append]
  exact ⟨hlines, by simp⟩

theorem readHeading_markdown (level : HeadingLevel) {text : String} (h : Lacks '\n' text) :
    readHeading (heading level text).markdown = some (level, text) := by
  have htext : dropFirst (level.depth + 1)
      (String.ofList (List.replicate level.depth '#') ++ " " ++ text) = text := by
    rw [← String.toList_inj]
    simp [dropFirst, List.drop_append]
  rw [readHeading, closedParts_markdown (lacks_lines_heading level h)]
  simp [lines, htext, HeadingLevel.ofDepth?_depth]

theorem readMarked_marked {mark : String} {pieces : List String} (hmark : Lacks '\n' mark)
    (h : ∀ piece ∈ pieces, Lacks '\n' piece) : readMarked mark (marked mark pieces) = pieces := by
  rw [readMarked, marked_eq_closed, closedParts_closed (lacks_markedLines hmark h),
    unmarked_markedLines]

/-- The first mark of a list tells its kind. -/
theorem readList_markdown (kind : ListKind) {items : List String} (hne : items ≠ [])
    (h : ∀ item ∈ items, Lacks '\n' item) :
    readList (list kind items).markdown = some (kind, items) := by
  have hkind : ([ListKind.ordered, .unordered].find? fun k =>
      (itemMark k).toList.isPrefixOf (marked (itemMark kind) items).toList) = some kind := by
    obtain ⟨item, rest, rfl⟩ := List.exists_cons_of_ne_nil hne
    cases kind <;> simp [marked, itemMark]
  have hmark : Lacks '\n' (itemMark kind) := by cases kind <;> decide
  rw [markdown, readList, hkind]
  simp [readMarked_marked hmark h]

theorem readCode_markdown {language : String} {text : BlockText} (hlanguage : Lacks '\n' language)
    (h : ∀ line ∈ text.toList, Lacks '\n' line) :
    readCode (code language text).markdown = some (language, text.toList) := by
  rw [readCode, closedParts_markdown (lacks_lines_code hlanguage h)]
  simp [lines]

theorem readTable_markdown {headers : List String} {rows : List (List String)}
    (hlines : ∀ cells ∈ headers :: rows, ∀ cell ∈ cells, Lacks '\n' cell)
    (hbars : ∀ cells ∈ headers :: rows, ∀ cell ∈ cells, Lacks '|' cell) :
    readTable (table headers rows).markdown = some (headers, rows) := by
  obtain ⟨hheaders, hrows⟩ := List.forall_mem_cons.1 hbars
  have hread : (rows.map tableRow).map readRow = rows := by
    rw [List.map_map]
    exact (List.map_congr_left fun row hrow => readRow_tableRow (hrows row hrow)).trans
      (List.map_id rows)
  rw [readTable, closedParts_markdown (lacks_lines_table hlines)]
  simp [lines, tableLines, hread, readRow_tableRow hheaders]

/-- **Blocks are read back from their text.** Whatever texts without line feeds a heading, a
paragraph, a quote, a list with an item, a code block or a table is made from, a reader of that
kind gives them back; of a table they must also be without bars. Empty texts, blocks without
lines and rows of any length are no exception. And the text of a code block has three lines
more than the block, that of a table four more than the table has rows, the empty one behind
the last line feed included. -/
theorem read_back :
    (∀ level text, Lacks '\n' text →
      readHeading (heading level text).markdown = some (level, text)) ∧
    (∀ text : BlockText, (∀ piece ∈ text.toList, Lacks '\n' piece) →
      readMarked "" (paragraph text).markdown = text.toList ∧
      readMarked "> " (quote text).markdown = text.toList) ∧
    (∀ kind items, items ≠ [] → (∀ item ∈ items, Lacks '\n' item) →
      readList (list kind items).markdown = some (kind, items)) ∧
    (∀ language (text : BlockText), Lacks '\n' language →
      (∀ line ∈ text.toList, Lacks '\n' line) →
      readCode (code language text).markdown = some (language, text.toList) ∧
      (partsAt '\n' (code language text).markdown).length = text.toList.length + 3) ∧
    (∀ headers rows, (∀ cells ∈ headers :: rows, ∀ cell ∈ cells, Lacks '\n' cell) →
      ((∀ cells ∈ headers :: rows, ∀ cell ∈ cells, Lacks '|' cell) →
        readTable (table headers rows).markdown = some (headers, rows)) ∧
      (partsAt '\n' (table headers rows).markdown).length = rows.length + 4) := by
  refine ⟨fun level text h => readHeading_markdown level h, fun text h => ⟨?_, ?_⟩,
    fun kind items hne h => readList_markdown kind hne h,
    fun language text hlanguage h => ⟨readCode_markdown hlanguage h, ?_⟩,
    fun headers rows h => ⟨readTable_markdown h, ?_⟩⟩
  · exact readMarked_marked (by simp) h
  · exact readMarked_marked (by decide) h
  · rw [partsAt_markdown (lacks_lines_code hlanguage h)]
    simp [lines]
  · rw [partsAt_markdown (lacks_lines_table h)]
    simp [lines, tableLines]

/-- Marks inside a text, a code block of no line and one of an empty line, and rows shorter and
longer than their header. -/
theorem read_back_ragged :
    let headers := ["Key", ""]
    let rows := [[], ["", "1", "`"], [""]]
    readHeading (heading .h3 "# and ##").markdown = some (.h3, "# and ##") ∧
      readMarked "> " (quote (.lines ["", "> deeper"])).markdown = ["", "> deeper"] ∧
      readList (list .unordered ["1. one", ""]).markdown = some (.unordered, ["1. one", ""]) ∧
      readCode (code "" (.lines [])).markdown = some ("", []) ∧
      readCode (code "" (.lines [""])).markdown = some ("", [""]) ∧
      (partsAt '\n' (code "" (.lines ["```"])).markdown).length = 4 ∧
      readTable (table headers rows).markdown = some (headers, rows) ∧
      (partsAt '\n' (table headers rows).markdown).length = 7 := by
  obtain ⟨hheading, hpieces, hlist, hcode, htable⟩ := read_back
  intro headers rows
  obtain ⟨hcells, hlines⟩ := htable headers rows (by decide)
  exact ⟨hheading .h3 "# and ##" (by decide), (hpieces (.lines ["", "> deeper"]) (by decide)).2,
    hlist .unordered ["1. one", ""] (by decide) (by decide),
    (hcode "" (.lines []) (by decide) (by decide)).1,
    (hcode "" (.lines [""]) (by decide) (by decide)).1,
    (hcode "" (.lines ["```"]) (by decide) (by decide)).2, hcells (by decide), hlines⟩

end Block

end ThriftPages
