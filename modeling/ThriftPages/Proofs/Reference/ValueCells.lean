/-
# Where values are shown

A value is shown in four places: by itself, as a value that is declared with a type or without
one, as an element of a list, and in the tables of a page. The places tell values apart in
different ways. By itself a value is shown by its form; a declared one is a list, a map or
anything else; the table of the constants sends lists and maps one way and all else another;
and elements of lists and default values single out strings.

They agree all the same (`Constant.texts_agree`). A value by itself has the text of one that is
declared without a type, a declared type makes a difference to a map constant and to nothing
else, and the tables show the declared text: that of a constant as it is, that of a default
value as it is too, but for a string without its quotes.

Key definitions: `Table.column`.
Key theorems: `Constant.textDeclared_congr_iff`, `Constant.textDeclared_eq_defaultText`,
`Constant.texts_agree`.
-/
import ThriftPages.Proofs.Reference.Tables

namespace ThriftPages

namespace Constant

/-! ### Declared or not -/

/-- A value by itself is shown as one that is declared without a type. -/
theorem textDeclared_none (value : Constant) : value.textDeclared none = value.text := by
  cases value <;> rfl

/-- The declared type makes a difference to map constants, and to nothing else. -/
theorem textDeclared_congr_iff (value : Constant) :
    (∀ a b : Option TypeRef, value.textDeclared a = value.textDeclared b) ↔
      ∀ entries, value ≠ .map entries := by
  constructor
  · rintro h entries rfl
    have hsame : mapText none = mapText (some .i32) := h none (some .i32)
    exact absurd hsame (by decide)
  · intro h a b
    rw [textDeclared_of_not_map h, textDeclared_of_not_map h]

/-- A default value is shown as it is declared, but for a string, which has no quotes. -/
theorem textDeclared_eq_defaultText (declared : TypeRef) (value : Constant) :
    value.textDeclared (some declared) =
      if value.isString then "\"" ++ value.defaultText declared ++ "\""
      else value.defaultText declared := by
  cases value <;> rfl

end Constant

/-! ### Cells -/

/-- The cells of a table under a header, row by row. -/
def Table.column (header : String) (table : Table) : List (Option String) :=
  table.rows.map fun row => (table.headers.zip row).lookup header

/-- The table of a row for each of some items has the cells of those rows under a header. -/
theorem Table.column_rows {α : Type} {header : String} {headers : List String}
    {row : α → List String} {cell : α → String}
    (h : ∀ item, (headers.zip (row item)).lookup header = some (cell item)) (items : List α) :
    (Table.mk headers (items.map row)).column header = items.map fun item => some (cell item) := by
  simp [column, h]

/-- The constants of a document are shown as they are declared. -/
theorem Document.column_value (options : PageOptions) (doc : Document) :
    (doc.constantsTable options).column "Value" =
      doc.constants.map fun c => some (c.value.textDeclared (some c.type)) :=
  Table.column_rows (fun c => by rw [ConstantDef.row, Constant.valueText_eq]; rfl) _

/-- The fields of a structure are shown with their default values, if they have one. -/
theorem Struct.column_default (options : PageOptions) (s : Struct) :
    (s.table options).column "Default value" =
      s.fields.map fun f => some ((f.default.map (Constant.defaultText f.type)).getD "") :=
  Table.column_rows (fun _ => rfl) _

section

variable (fileName : String) (options : PageOptions) (doc : Document)

theorem Section.tables_constants :
    (Section.constants.outline fileName options doc).tables = [doc.constantsTable options] := by
  simp [Section.outline, Outline.tables, Piece.table?, Document.constantsTable]

theorem Section.tables_structures :
    (Section.structures.outline fileName options doc).tables =
      doc.structs.map (Struct.table options) := by
  have hstruct : ∀ s : Struct, (s.outline options).chosen Piece.table? = [s.table options] :=
    Struct.tables_outline options
  simp only [Section.outline, Outline.tables, chosen_headedOutline, hstruct,
    ← List.map_eq_flatMap]
  rfl

end

/-- **The ways to show a value agree.** A value by itself is shown as one that is declared
without a type. The declared type makes a difference to map constants only. The table of the
constants has the declared text of each value, and the tables of the structures have the text of
each default value, which is the declared text, but for the quotes of a string. -/
theorem Constant.texts_agree :
    (∀ value : Constant, value.text = value.textDeclared none) ∧
    (∀ value : Constant, (∀ a b : Option TypeRef, value.textDeclared a = value.textDeclared b) ↔
      ∀ entries, value ≠ .map entries) ∧
    (∀ (declared : TypeRef) (value : Constant), value.textDeclared (some declared) =
      if value.isString then "\"" ++ value.defaultText declared ++ "\""
      else value.defaultText declared) ∧
    ∀ (fileName : String) (options : PageOptions) (doc : Document),
      (Section.constants.outline fileName options doc).tables.map (Table.column "Value") =
        [doc.constants.map fun c => some (c.value.textDeclared (some c.type))] ∧
      (Section.structures.outline fileName options doc).tables.map
          (Table.column "Default value") =
        doc.structs.map fun s => s.fields.map fun f =>
          some ((f.default.map (Constant.defaultText f.type)).getD "") := by
  refine ⟨fun value => value.textDeclared_none.symm, textDeclared_congr_iff,
    textDeclared_eq_defaultText, fun fileName options doc => ⟨?_, ?_⟩⟩
  · rw [Section.tables_constants, List.map_singleton, Document.column_value]
  · rw [Section.tables_structures, List.map_map]
    exact List.map_congr_left fun s _ => s.column_default options

end ThriftPages
