/-
# The columns of the tables

Nothing pads a row or cuts it off, so a table is only as regular as its rows are
made. Those of a page fit: each has a cell for every column, and the row of an
item stands where the item does. A written row has one bar for each of its cells
and the bars that are in the cells (`Block.bars_tableRow`). So the lines of a
table have as many bars as it has columns exactly if the cells have none, and the
cells have none exactly if what they show of the document has none
(`Document.rows_fit_columns`).

Key definitions: `Text.bars`, `Document.tableTexts`.
Key theorems: `Block.bars_tableRow`, `Table.bars_lines_iff`, `Document.lacks_cells_iff`,
`Document.rows_fit_columns`.
-/
import ThriftPages.Proofs.Reference.ValueCells

namespace ThriftPages

open Text

/-! ### Bars -/

namespace Text

/-- The number of bars in a text. -/
def bars (text : String) : Nat := text.toList.count '|'

theorem bars_append (a b : String) : bars (a ++ b) = bars a + bars b := by
  rw [bars, String.toList_append, List.count_append]
  rfl

theorem bars_eq_zero_iff (text : String) : bars text = 0 ↔ Lacks '|' text := by
  rw [bars, List.count_eq_zero]
  exact ⟨fun h c hc hbar => h (hbar ▸ hc), fun h hbar => h '|' hbar rfl⟩

end Text

/-- **A written row has a bar for each cell** besides those in its cells. -/
theorem Block.bars_tableRow : ∀ cells : List String,
    bars (tableRow cells) = cells.length + bars (String.join cells)
  | [] => rfl
  | cell :: rest => by
    have ih := bars_tableRow rest
    have hrow : tableRow (cell :: rest) = " " ++ cell ++ " |" ++ tableRow rest := by
      rw [← String.toList_inj]
      simp [tableRow]
    have hjoin : String.join (cell :: rest) = cell ++ String.join rest := by
      rw [← String.toList_inj]
      simp
    have hspace : bars " " = 0 := by decide
    have hbar : bars " |" = 1 := by decide
    rw [hrow, hjoin, bars_append, bars_append, bars_append, bars_append, hspace, hbar, ih,
      List.length_cons]
    omega

/-- A row has as many bars as cells exactly if no cell has one. -/
theorem Block.bars_tableRow_iff (cells : List String) :
    bars (tableRow cells) = cells.length ↔ ∀ cell ∈ cells, Lacks '|' cell := by
  rw [bars_tableRow, Nat.add_eq_left, bars_eq_zero_iff]
  exact each_join cells

/-- The lines of a table that fits its header have a bar for each column exactly if no cell has
one. -/
theorem Table.bars_lines_iff {table : Table}
    (hheaders : ∀ header ∈ table.headers, Lacks '|' header)
    (hrows : ∀ row ∈ table.rows, row.length = table.headers.length) :
    (∀ line ∈ Block.tableLines table.headers table.rows, bars line = table.headers.length) ↔
      ∀ cell ∈ table.cells, Lacks '|' cell := by
  have hheader := (Block.bars_tableRow_iff table.headers).2 hheaders
  have hseparator : bars (Block.tableRow (table.headers.map fun _ => "---")) =
      table.headers.length := by
    have hcells : ∀ cell ∈ table.headers.map fun _ => "---", Lacks '|' cell :=
      List.forall_mem_map.2 fun _ _ => by decide
    rw [(Block.bars_tableRow_iff _).2 hcells, List.length_map]
  have hrow : ∀ row ∈ table.rows, bars (Block.tableRow row) = table.headers.length ↔
      ∀ cell ∈ row, Lacks '|' cell := fun row h => by
    rw [← hrows row h, Block.bars_tableRow_iff]
  rw [Block.tableLines, List.forall_mem_cons, List.forall_mem_cons, List.forall_mem_map,
    and_iff_right hheader, and_iff_right hseparator, forall₂_congr hrow, cells,
    List.forall_mem_flatten]

/-! ### The tables of a page -/

/-- No keyword, mark or number has a bar. -/
theorem noBar_tableMarks : TableMarks (· ≠ '|') where
  inline := by decide
  digit c hdigit := by
    rintro rfl
    exact absurd hdigit (by decide)
  minus := by decide
  keyword r := by cases r <;> decide

namespace Document

/-- The texts of a document that its tables show: names, identifiers and numerals, string
literals, and the segments of block comments. -/
def tableTexts (doc : Document) : List String :=
  doc.tableWords ++ doc.tableStrings ++ doc.tableComments.flatMap blockSegments

variable (fileName : String) (options : PageOptions) (doc : Document)

/-- Each row of a page has a cell for every column. -/
theorem rows_length : ∀ table ∈ (doc.outline fileName options).tables,
    ∀ row ∈ table.rows, row.length = table.headers.length := by
  rw [tables_outline, List.forall_mem_cons, List.forall_mem_append, List.forall_mem_map,
    List.forall_mem_map]
  refine ⟨?_, fun e _ => ?_, fun s _ => ?_⟩
  · exact List.forall_mem_map.2 fun _ _ => rfl
  · exact List.forall_mem_map.2 fun _ _ => rfl
  · exact List.forall_mem_map.2 fun _ _ => rfl

theorem lacks_headers : ∀ table ∈ (doc.outline fileName options).tables,
    ∀ header ∈ table.headers, Lacks '|' header := by
  have hconstants : ∀ header ∈ ConstantDef.headers, Lacks '|' header := by decide
  have henumeration : ∀ header ∈ Enumeration.headers, Lacks '|' header := by decide
  have hstruct : ∀ header ∈ Struct.headers, Lacks '|' header := by decide
  rw [tables_outline, List.forall_mem_cons, List.forall_mem_append, List.forall_mem_map,
    List.forall_mem_map]
  exact ⟨hconstants, fun _ _ => henumeration, fun _ _ => hstruct⟩

/-- **Bars in cells come from the document**: there is one exactly if a text that the tables
show has one. -/
theorem lacks_cells_iff (hmarker : Lacks '|' options.lineBreakMarker) :
    (∀ table ∈ (doc.outline fileName options).tables, ∀ cell ∈ table.cells, Lacks '|' cell) ↔
      ∀ text ∈ doc.tableTexts, Lacks '|' text := by
  have hspace : ∀ c, isWhiteSpace c → c ≠ '|' := by
    rintro c hc rfl
    exact absurd hc (by decide)
  simp only [each_cells_iff fileName options doc noBar_tableMarks, tableTexts,
    List.forall_mem_append, List.forall_mem_flatMap, each_documentationIn_iff hmarker hspace,
    and_assoc]

/-- **Every table fits its header.** The tables of a page are that of the constants, one for
each enumeration and one for each structure. They have four, two and six columns, the rows name
the constants, the members and the fields in order, and every row has a cell for each column.
If what stands for a line break has no bar, then every line of every table has as many bars as
there are columns if and only if no text of the document that the tables show has one. -/
theorem rows_fit_columns :
    let tables := (doc.outline fileName options).tables
    tables = doc.constantsTable options ::
        (doc.enumerations.map (Enumeration.table options) ++
          doc.structs.map (Struct.table options)) ∧
      tables.map (fun table => table.headers.length) =
        4 :: ((doc.enumerations.map fun _ => 2) ++ doc.structs.map fun _ => 6) ∧
      (doc.constantsTable options).column "Constant" = doc.constants.map (fun c => some c.name) ∧
      (∀ e : Enumeration,
        (e.table options).column "Named Constant" = e.members.map fun m => some m.name) ∧
      (∀ s : Struct, (s.table options).column "Field" = s.fields.map fun f => some f.name) ∧
      (∀ table ∈ tables, ∀ row ∈ table.rows, row.length = table.headers.length) ∧
      (Lacks '|' options.lineBreakMarker →
        ((∀ table ∈ tables, ∀ line ∈ Block.tableLines table.headers table.rows,
          bars line = table.headers.length) ↔ ∀ text ∈ doc.tableTexts, Lacks '|' text)) := by
  intro tables
  have htables := tables_outline fileName options doc
  have hrows := rows_length fileName options doc
  have hheaders := lacks_headers fileName options doc
  refine ⟨htables, ?_, Table.column_rows (fun _ => rfl) _,
    fun e => Table.column_rows (fun _ => rfl) _, fun s => Table.column_rows (fun _ => rfl) _,
    hrows, fun hmarker => ?_⟩
  · rw [show tables = _ from htables, List.map_cons, List.map_append, List.map_map, List.map_map]
    rfl
  · rw [← lacks_cells_iff fileName options doc hmarker]
    exact forall₂_congr fun table htable =>
      Table.bars_lines_iff (hheaders table htable) (hrows table htable)

/-- A comment of two lines and a list fit their columns; a bar in a string does not. -/
theorem string_with_bar_does_not_fit :
    let color : Enumeration := ⟨"Color", [⟨"RED", none, [.block ["deep\n", " red"]]⟩], []⟩
    let colors : ConstantDef := ⟨"COLORS", .list (.named "Color"), .list [.identifier "RED"], []⟩
    let fitting : Document := ⟨[.enumeration color, .constant colors]⟩
    let barred : Document := ⟨[.constant { colors with value := .list [.string "a|b"] }]⟩
    let Fit (doc : Document) := ∀ table ∈ (doc.outline "shop.json" {}).tables,
      ∀ line ∈ Block.tableLines table.headers table.rows, bars line = table.headers.length
    Lacks '|' "<br/>" ∧ (∀ text ∈ fitting.tableTexts, Lacks '|' text) ∧ Fit fitting ∧
      ¬ (∀ text ∈ barred.tableTexts, Lacks '|' text) ∧ ¬ Fit barred := by
  intro color colors fitting barred Fit
  have hmarker : Lacks '|' "<br/>" := by decide
  have hfitting : ∀ text ∈ fitting.tableTexts, Lacks '|' text := by decide
  have hbarred : ¬ ∀ text ∈ barred.tableTexts, Lacks '|' text := by decide
  obtain ⟨-, -, -, -, -, -, hfit⟩ := rows_fit_columns "shop.json" {} fitting
  obtain ⟨-, -, -, -, -, -, hfit'⟩ := rows_fit_columns "shop.json" {} barred
  exact ⟨hmarker, hfitting, (hfit hmarker).2 hfitting, hbarred,
    fun h => hbarred ((hfit' hmarker).1 h)⟩

end Document

end ThriftPages
