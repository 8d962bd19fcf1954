/-
# The Markdown of a block

Every block but a code block ends with an empty line, so that blocks can be put
one after the other. The pieces of a paragraph or quote are blocks of their own.

* heading: its `#` marks, a blank, the text;
* quote: `> ` before each piece;
* image: `![alt](source "title")`, what is absent being empty;
* list: `1. ` before each numbered item, `* ` before each bulleted one;
* code block: a fence with the language, the pieces as lines, a fence;
* table: the header, a row of `---`, the rows; a cell is written ` cell |`.

Key definitions: `Block.markdown`, `tableRow`.
-/
import ThriftPages.Page.Block

namespace ThriftPages

namespace Block

/-- What ends a block. -/
def blockEnd : String := "\n\n"

/-- What opens and closes a code block. -/
def fence : String := "```"

/-- Each piece as a block that starts with `mark`. -/
def marked (mark : String) (pieces : List String) : String :=
  String.join (pieces.map fun piece => mark ++ piece ++ blockEnd)

/-- A row of a table: every cell follows a blank and is closed by a bar. -/
def tableRow (cells : List String) : String :=
  String.join (cells.map fun cell => " " ++ cell ++ " |")

/-- The lines of a table: the header, the separator, the rows. -/
def tableLines (headers : List String) (rows : List (List String)) : List String :=
  tableRow headers :: tableRow (headers.map fun _ => "---") :: rows.map tableRow

/-- The mark before an item of a list. -/
def itemMark : ListKind → String
  | .ordered => "1. "
  | .unordered => "* "

/-- The Markdown text of a block. -/
def markdown : Block → String
  | heading level text => String.ofList (List.replicate level.depth '#') ++ " " ++ text ++ blockEnd
  | paragraph text => marked "" text.toList
  | quote text => marked "> " text.toList
  | image source title altText =>
      "![" ++ altText.getD "" ++ "](" ++ source ++ " \"" ++ title.getD "" ++ "\")" ++ blockEnd
  | list kind items => marked (itemMark kind) items
  | code language text =>
      fence ++ language ++ "\n" ++ String.join (text.toList.map fun line => line ++ "\n")
        ++ fence ++ "\n"
  | table headers rows => String.intercalate "\n" (tableLines headers rows) ++ blockEnd

end Block

end ThriftPages
