/-
# Types, constants and comments in running text

A base type is written as its keyword and a declared one as a link to its own
heading. Of a map only the value type is shown, `map<i32>`, and of a map
constant the value type that it is declared with.

Text of a block comment is documentation, that of a line comment is not. Every
segment of a block comment loses the white space it starts with, and where the
text goes into a table each line break is replaced by a marker.

Key definitions: `link`, `TypeRef.text`, `Constant.text`, `Constant.textDeclared`,
`Constant.valueText`, `Constant.defaultText`, `documentation`, `documentationIn`,
`Field.parameterList`, `Function.signature`.
Key theorems: `documentation_append`, `Constant.textDeclared_of_not_map`.
-/
import ThriftPages.Idl.Document
import ThriftPages.Text.WhiteSpace

namespace ThriftPages

/-- A link to the heading of a declaration on the same page. -/
def link (name : String) : String := "[" ++ name ++ "](#" ++ name ++ ")"

/-- The text of a type. -/
def TypeRef.text : TypeRef → String
  | void => "void"
  | list element => "list<" ++ element.text ++ ">"
  | set element => "set<" ++ element.text ++ ">"
  | map _ value => "map<" ++ value.text ++ ">"
  | string => "string"
  | binary => "binary"
  | bool => "bool"
  | byte => "byte"
  | double => "double"
  | enum => "enum"
  | i8 => "i8"
  | i16 => "i16"
  | i32 => "i32"
  | i64 => "i64"
  | named name => link name

namespace Constant

/-- The text of a map constant that is declared with the given type: the value
type of a map type, else the declared type itself. -/
def mapText : Option TypeRef → String
  | some (.map _ value) => "map<" ++ value.text ++ ">"
  | some declared => "map<" ++ declared.text ++ ">"
  | none => "map<>"

/-- What a list shows of an element: a string stands bare, everything else has
its own text. -/
def bareOr (own : String) : Constant → String
  | string text => text
  | _ => own

mutual

/-- The text of a value whose type is not known. Strings are quoted, hexadecimal
numbers follow a `#`, identifiers are links, and a wrapped number shows as the
number. -/
def text : Constant → String
  | string s => "\"" ++ s ++ "\""
  | boolean value => if value then "true" else "false"
  | integer s => s
  | hex s => "#" ++ s
  | float s => s
  | exponential s => s
  | whole number => text number
  | real number => text number
  | list elements => "list<" ++ String.intercalate "," (elementTexts elements) ++ ">"
  | map _ => mapText none
  | identifier name => link name

/-- What a list shows of its elements. -/
def elementTexts : List Constant → List String
  | [] => []
  | element :: rest => bareOr (text element) element :: elementTexts rest

end

/-- The text of a value, its declared type being known or not. A list shows its elements
whatever it is declared as, a map shows what it is declared with, and all else has the text
of a value whose type is not known. -/
def textDeclared (declared : Option TypeRef) : Constant → String
  | list elements => "list<" ++ String.intercalate "," (elementTexts elements) ++ ">"
  | map _ => mapText declared
  | scalar => text scalar

/-- The text of a value whose type is known. -/
def textAs (declared : TypeRef) (value : Constant) : String := value.textDeclared (some declared)

/-- The text of the value of a constant: lists and maps by the declared type, all else as a
value whose type is not known. -/
def valueText (declared : TypeRef) : Constant → String
  | list elements => textAs declared (list elements)
  | map entries => textAs declared (map entries)
  | scalar => text scalar

/-- The text of a default value: a string stands bare. -/
def defaultText (declared : TypeRef) (value : Constant) : String :=
  bareOr (value.textAs declared) value

theorem elementTexts_eq : ∀ elements : List Constant,
    elementTexts elements = elements.map fun element => bareOr element.text element
  | [] => by simp [elementTexts]
  | element :: rest => by simp [elementTexts, elementTexts_eq rest]

/-- A change to the elements of a list does not show if each of them is shown as before. -/
theorem elementTexts_map {change : Constant → Constant} {elements : List Constant}
    (h : ∀ element ∈ elements,
      bareOr (change element).text (change element) = bareOr element.text element) :
    elementTexts (elements.map change) = elementTexts elements := by
  rw [elementTexts_eq, elementTexts_eq, List.map_map]
  exact List.map_congr_left h

/-- Either way to write the value of a constant gives the text by its type. -/
@[simp] theorem valueText_eq (declared : TypeRef) (value : Constant) :
    value.valueText declared = value.textAs declared := by
  cases value <;> rfl

/-- The declared type matters to a map constant only. -/
theorem textDeclared_of_not_map {value : Constant} (h : ∀ entries, value ≠ .map entries)
    (declared : Option TypeRef) : value.textDeclared declared = value.text := by
  cases value <;> first | rfl | exact absurd rfl (h _)

theorem textAs_of_not_map {value : Constant} (h : ∀ entries, value ≠ .map entries)
    (declared : TypeRef) : value.textAs declared = value.text :=
  textDeclared_of_not_map h (some declared)

end Constant

/-- The segments that a comment has as documentation. -/
def Comment.segments : Comment → List String
  | block segments => segments
  | line _ => []

/-- The documentation that comments hold, line breaks included. -/
def documentationChars (comments : List Comment) : List Char :=
  comments.flatMap fun comment =>
    comment.segments.flatMap fun segment => Text.trimStart segment.toList

/-- The documentation that comments hold. -/
def documentation (comments : List Comment) : String :=
  String.ofList (documentationChars comments)

/-- The documentation with `marker` in the place of every line feed and carriage
return, for places that hold a single line. -/
def documentationIn (marker : String) (comments : List Comment) : String :=
  String.ofList ((documentationChars comments).flatMap fun c =>
    if c = '\n' ∨ c = '\r' then marker.toList else [c])

/-- The documentation of two rows of comments is that of the first, then that of
the second. -/
theorem documentation_append (a b : List Comment) :
    documentation (a ++ b) = documentation a ++ documentation b := by
  simp [documentation, documentationChars]

/-- Fields as parameters: type and name of each, with commas between them. -/
def Field.parameterList (fields : List Field) : String :=
  String.intercalate ", " (fields.map fun field => field.type.text ++ " " ++ field.name)

/-- The signature of a function: result, name, parameters, and what it throws if
it throws anything. -/
def Function.signature (f : Function) : String :=
  let call := f.result.text ++ " " ++ f.name ++ "(" ++ Field.parameterList f.parameters ++ ")"
  if f.throws.isEmpty then call else call ++ " throws " ++ Field.parameterList f.throws

end ThriftPages
