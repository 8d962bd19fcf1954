/-
# The tables of a page

A page has one table for its constants, one for each enumeration and one for each
structure. Names, types, values and documentation go into the cells as they are
written, and of these only the documentation has its line breaks replaced. So
cells keep to one line if the words that they show do, and a string literal with
a line break breaks the row that shows it (`Document.rows_broken_by_strings`).

Key definitions: `Document.constantsTable`, `Enumeration.table`, `Struct.table`,
`Document.tableWords`, `Document.tableStrings`, `Document.tableComments`, `TableMarks`.
Key theorems: `Document.tables_outline`, `Document.each_cells_iff`,
`Document.rows_broken_by_strings`.
-/
import Mathlib.Tactic.Tauto
import ThriftPages.Proofs.Reference.Documentation
import ThriftPages.Proofs.Reference.Views

namespace ThriftPages

open Text

/-! ### Which tables there are -/

/-- The table of the members of an enumeration. -/
def Enumeration.table (options : PageOptions) (e : Enumeration) : Table :=
  ⟨Enumeration.headers, e.members.map (Member.row options)⟩

/-- The table of the fields of a structure. -/
def Struct.table (options : PageOptions) (s : Struct) : Table :=
  ⟨Struct.headers, s.fields.map (Field.row options)⟩

/-- The table of the constants of a document. -/
def Document.constantsTable (options : PageOptions) (doc : Document) : Table :=
  ⟨ConstantDef.headers, doc.constants.map (ConstantDef.row options)⟩

theorem Service.tables_outline (s : Service) : s.outline.tables = [] := by
  have hfunction : ∀ f : Function, f.outline.chosen Piece.table? = [] := fun f => by
    simp [Function.outline, Piece.table?]
  simp [Service.outline, Outline.tables, List.flatMap_map, hfunction, Piece.table?]

theorem Struct.tables_outline (options : PageOptions) (s : Struct) :
    (s.outline options).tables = [s.table options] := by
  simp [Struct.outline, Struct.table, commentBlock, Outline.tables, Piece.table?]

/-- **The tables of a page** are that of the constants, one for each enumeration and one for
each structure. -/
theorem Document.tables_outline (fileName : String) (options : PageOptions) (doc : Document) :
    (doc.outline fileName options).tables =
      doc.constantsTable options ::
        (doc.enumerations.map (Enumeration.table options) ++
          doc.structs.map (Struct.table options)) := by
  have htypedefs : (doc.typedefs.flatMap fun t => t.outline.chosen Piece.table?) = [] :=
    List.flatMap_eq_nil_iff.2 fun t _ => by simp [Typedef.outline, Piece.table?]
  have henumeration : ∀ e : Enumeration,
      (e.outline options).chosen Piece.table? = [e.table options] := fun e => by
    simp [Enumeration.outline, Enumeration.table, commentBlock, Piece.table?]
  have hstruct : ∀ s : Struct, (s.outline options).chosen Piece.table? = [s.table options] :=
    Struct.tables_outline options
  have hservices : (doc.services.flatMap fun s => s.outline.chosen Piece.table?) = [] :=
    List.flatMap_eq_nil_iff.2 fun s _ => s.tables_outline
  rw [Outline.tables, Document.chosen_outline (fun _ => rfl) (fun _ => rfl)]
  simp only [htypedefs, henumeration, hstruct, hservices, ← List.map_eq_flatMap]
  simp [Piece.table?, constantsTable]

/-! ### What the cells show -/

/-- The names, numerals and identifiers that the row of a constant shows. -/
def ConstantDef.words (c : ConstantDef) : List String := c.name :: (c.type.names ++ c.value.words)

/-- The names, numerals and identifiers that the row of a field shows. -/
def Field.words (f : Field) : List String :=
  f.name :: (f.type.names ++ f.default.elim [] Constant.words)

/-- The string literals that the row of a field shows, those in its default value. -/
def Field.strings (f : Field) : List String := f.default.elim [] Constant.strings

/-- The names, numerals and identifiers that the tables of a page show. -/
def Document.tableWords (doc : Document) : List String :=
  doc.constants.flatMap ConstantDef.words ++
    (doc.enumerations.flatMap fun e => e.members.map Member.name) ++
    doc.structs.flatMap fun s => s.fields.flatMap Field.words

/-- The string literals that the tables of a page show, in the values of constants and the
default values of fields. -/
def Document.tableStrings (doc : Document) : List String :=
  (doc.constants.flatMap fun c => c.value.strings) ++
    doc.structs.flatMap fun s => s.fields.flatMap Field.strings

/-- The comments that the tables of a page show, row by row. -/
def Document.tableComments (doc : Document) : List (List Comment) :=
  doc.constants.map ConstantDef.comments ++
    (doc.enumerations.flatMap fun e => e.members.map Member.comments) ++
    doc.structs.flatMap fun s => s.fields.map Field.comments

/-- A class of characters that all keywords, marks and numbers of a table are of. -/
structure TableMarks (good : Char → Prop) : Prop where
  inline : ∀ mark ∈ inlineMarks, Each good mark
  digit : ∀ c : Char, c.isDigit → good c
  minus : Each good "-"
  keyword : ∀ r : Requiredness, Each good r.keyword

section Rows

variable {good : Char → Prop} {options : PageOptions} (h : TableMarks good)

/-- The row of a member shows its name and its documentation. -/
theorem Member.each_row (m : Member) :
    (∀ cell ∈ m.row options, Each good cell) ↔ Each good m.name ∧
      Each good (documentationIn options.lineBreakMarker m.comments) := by
  simp [row]

include h

/-- The row of a constant shows its words, its strings and its documentation. -/
theorem ConstantDef.each_row (c : ConstantDef) :
    (∀ cell ∈ c.row options, Each good cell) ↔ (∀ w ∈ c.words, Each good w) ∧
      (∀ s ∈ c.value.strings, Each good s) ∧
      Each good (documentationIn options.lineBreakMarker c.comments) := by
  have htext := c.type.each_text h.inline
  -- A map shows names of its type, so the type comes before the value.
  have hshown := fun hnames => Constant.each_textAs h.inline c.type hnames c.value
  simp only [Constant.forall_source] at hshown
  simp only [row, words, Constant.valueText_eq, List.forall_mem_cons, List.forall_mem_append,
    List.not_mem_nil, false_implies, implies_true, htext, and_true]
  constructor
  · rintro ⟨hname, hnames, hdocumentation, hvalue⟩
    obtain ⟨hstrings, hwords⟩ := (hshown hnames).1 hvalue
    exact ⟨⟨hname, hnames, hwords⟩, hstrings, hdocumentation⟩
  · rintro ⟨⟨hname, hnames, hwords⟩, hstrings, hdocumentation⟩
    exact ⟨hname, hnames, hdocumentation, (hshown hnames).2 ⟨hstrings, hwords⟩⟩

/-- The row of a field shows its words, its strings and its documentation. -/
theorem Field.each_row (f : Field) :
    (∀ cell ∈ f.row options, Each good cell) ↔ (∀ w ∈ f.words, Each good w) ∧
      (∀ s ∈ f.strings, Each good s) ∧
      Each good (documentationIn options.lineBreakMarker f.comments) := by
  have hid : Each good ((f.id.map fun id => toString id.toInt).getD "") := by
    cases f.id with
    | none => exact each_empty
    | some id => exact each_toString_int h.digit h.minus _
  have hrequired : Each good ((f.requiredness.map Requiredness.keyword).getD "") := by
    cases f.requiredness with
    | none => exact each_empty
    | some r => exact h.keyword r
  have htext := f.type.each_text h.inline
  have hdefault : (∀ name ∈ f.type.names, Each good name) →
      (Each good ((f.default.map (Constant.defaultText f.type)).getD "") ↔
        (∀ s ∈ f.strings, Each good s) ∧
          ∀ w ∈ f.default.elim [] Constant.words, Each good w) := by
    intro hnames
    unfold strings
    cases f.default with
    | none => simp
    | some value =>
      have hshown := Constant.each_defaultText h.inline f.type hnames value
      rwa [Constant.forall_source] at hshown
  simp only [row, words, List.forall_mem_cons, List.forall_mem_append, List.not_mem_nil,
    false_implies, implies_true, htext, hid, hrequired, true_and, and_true]
  constructor
  · rintro ⟨hname, hnames, hdocumentation, hvalue⟩
    obtain ⟨hstrings, hwords⟩ := (hdefault hnames).1 hvalue
    exact ⟨⟨hname, hnames, hwords⟩, hstrings, hdocumentation⟩
  · rintro ⟨⟨hname, hnames, hwords⟩, hstrings, hdocumentation⟩
    exact ⟨hname, hnames, hdocumentation, (hdefault hnames).2 ⟨hstrings, hwords⟩⟩

end Rows

/-! ### Which tables keep to their lines -/

/-- The cells of a table with a row for each of some items. -/
theorem Table.forall_cells {P : String → Prop} {α : Type} (headers : List String)
    (row : α → List String) (items : List α) :
    (∀ cell ∈ (Table.mk headers (items.map row)).cells, P cell) ↔
      ∀ item ∈ items, ∀ cell ∈ row item, P cell := by
  rw [cells, List.forall_mem_flatten, List.forall_mem_map]

namespace Document

variable (fileName : String) (options : PageOptions) (doc : Document)

/-- The tables of a page have headers of one line, and a cell in every row. -/
theorem table_shape : ∀ table ∈ (doc.outline fileName options).tables,
    table.headers ≠ [] ∧ (∀ row ∈ table.rows, row ≠ []) ∧
      ∀ header ∈ table.headers, OneLine header := by
  have hconstants : ConstantDef.headers ≠ [] ∧ ∀ h ∈ ConstantDef.headers, OneLine h := by decide
  have henumeration : Enumeration.headers ≠ [] ∧ ∀ h ∈ Enumeration.headers, OneLine h := by decide
  have hstruct : Struct.headers ≠ [] ∧ ∀ h ∈ Struct.headers, OneLine h := by decide
  rw [tables_outline, List.forall_mem_cons, List.forall_mem_append, List.forall_mem_map,
    List.forall_mem_map]
  refine ⟨⟨hconstants.1, ?_, hconstants.2⟩, fun e _ => ⟨henumeration.1, ?_, henumeration.2⟩,
    fun s _ => ⟨hstruct.1, ?_, hstruct.2⟩⟩
  · simp [constantsTable, ConstantDef.row]
  · simp [Enumeration.table, Member.row]
  · simp [Struct.table, Field.row]

/-- **The cells of a page** show the words, the strings and the documentation of its tables. -/
theorem each_cells_iff {good : Char → Prop} (h : TableMarks good) :
    (∀ table ∈ (doc.outline fileName options).tables, ∀ cell ∈ table.cells, Each good cell) ↔
      (∀ w ∈ doc.tableWords, Each good w) ∧ (∀ s ∈ doc.tableStrings, Each good s) ∧
        ∀ comments ∈ doc.tableComments,
          Each good (documentationIn options.lineBreakMarker comments) := by
  have hconstants : (∀ cell ∈ (doc.constantsTable options).cells, Each good cell) ↔
      ∀ c ∈ doc.constants, ∀ cell ∈ c.row options, Each good cell := by
    rw [constantsTable, Table.forall_cells]
  have henumeration : ∀ e : Enumeration, (∀ cell ∈ (e.table options).cells, Each good cell) ↔
      ∀ m ∈ e.members, ∀ cell ∈ m.row options, Each good cell := fun e => by
    rw [Enumeration.table, Table.forall_cells]
  have hstruct : ∀ s : Struct, (∀ cell ∈ (s.table options).cells, Each good cell) ↔
      ∀ f ∈ s.fields, ∀ cell ∈ f.row options, Each good cell := fun s => by
    rw [Struct.table, Table.forall_cells]
  rw [tables_outline, List.forall_mem_cons, List.forall_mem_append, List.forall_mem_map,
    List.forall_mem_map, hconstants]
  simp only [henumeration, hstruct, ConstantDef.each_row h, Member.each_row, Field.each_row h,
    tableWords, tableStrings, tableComments, List.forall_mem_append, List.forall_mem_flatMap,
    List.forall_mem_map, forall_and]
  tauto

/-- No keyword, mark or number has a line break. -/
theorem oneLine_tableMarks : TableMarks fun c => ¬ IsLineBreak c where
  inline := by decide
  digit c hdigit := by
    rintro (rfl | rfl) <;> exact absurd hdigit (by decide)
  minus := by decide
  keyword r := by cases r <;> decide

/-- **String literals alone break the cells of a page**, if no other word does. -/
theorem oneLine_cells_iff (hmarker : OneLine options.lineBreakMarker)
    (hwords : ∀ w ∈ doc.tableWords, OneLine w) :
    (∀ table ∈ (doc.outline fileName options).tables, ∀ cell ∈ table.cells, OneLine cell) ↔
      ∀ s ∈ doc.tableStrings, OneLine s := by
  have hdocumentation : ∀ comments ∈ doc.tableComments,
      OneLine (documentationIn options.lineBreakMarker comments) :=
    fun comments _ => oneLine_documentationIn hmarker comments
  rw [each_cells_iff fileName options doc oneLine_tableMarks, and_iff_right hwords,
    and_iff_left hdocumentation]

/-- **Cells hold no line break but those of string literals.** Whatever the comments are, if
the names, numerals and identifiers that tables show and what stands for a line break are one
line each, then all cells are if and only if the string literals that tables show are. And a
table of so many rows is written as two lines more and an empty line after them if and only if
its cells are one line each. -/
theorem rows_broken_by_strings (hmarker : OneLine options.lineBreakMarker)
    (hwords : ∀ w ∈ doc.tableWords, OneLine w) :
    ((∀ table ∈ (doc.outline fileName options).tables, ∀ cell ∈ table.cells, OneLine cell) ↔
      ∀ s ∈ doc.tableStrings, OneLine s) ∧
    ∀ table ∈ (doc.outline fileName options).tables,
      LinesThenBlank (table.rows.length + 2) table.markdown ↔
        ∀ cell ∈ table.cells, OneLine cell := by
  refine ⟨oneLine_cells_iff fileName options doc hmarker hwords, fun table htable => ?_⟩
  obtain ⟨hheaders, hrows, hheader⟩ := table_shape fileName options doc table htable
  exact Table.linesThenBlank_iff hheaders hrows hheader

/-- A string of two lines in a list breaks the row of its constant; a comment of two lines
breaks nothing. -/
theorem row_broken_by_string :
    let color : Enumeration := ⟨"Color", [⟨"RED", none, [.block ["deep\n", " red"]]⟩], []⟩
    let doc : Document := ⟨[.enumeration color,
      .constant ⟨"GREETINGS", .list .string, .list [.string "a\nb", .hex "0xFF"], []⟩]⟩
    OneLine "<br/>" ∧ (∀ w ∈ doc.tableWords, OneLine w) ∧
      ¬ (∀ table ∈ (doc.outline "shop.json" {}).tables, ∀ cell ∈ table.cells, OneLine cell) ∧
      ¬ LinesThenBlank 3 (doc.constantsTable {}).markdown ∧
      LinesThenBlank 3 (color.table {}).markdown := by
  intro color doc
  have hmarker : OneLine "<br/>" := by decide
  have hwords : ∀ w ∈ doc.tableWords, OneLine w := by decide
  obtain ⟨hcells, hlines⟩ := rows_broken_by_strings "shop.json" {} doc hmarker hwords
  rw [tables_outline] at hlines
  have hconstants := hlines (doc.constantsTable {}) (List.mem_cons_self ..)
  have hcolor := hlines (color.table {}) (List.mem_cons_of_mem _ (List.mem_cons_self ..))
  refine ⟨hmarker, hwords, fun h => absurd (hcells.1 h) (by decide), fun h => ?_, ?_⟩
  · exact absurd (hconstants.1 h) (by decide)
  · exact hcolor.2 (by decide)

end Document

end ThriftPages
