/-
# The dump of an outline

An outline is written as JSON before it becomes text: a sequence is an array, a
raw text a string, and a block an object whose `type` names its kind. A text
that is a single piece is a string and one of several pieces an array.

Key definitions: `Block.toJson`, `Outline.toJson`, `Outline.dump`.
-/
import ThriftPages.Json.Written
import ThriftPages.Page.Outline

namespace ThriftPages

/-- Texts as an array of strings. -/
def jsonStrings (texts : List String) : Json := .array (texts.map .string)

/-- The pieces of a block's text. -/
def BlockText.toJson : BlockText → Json
  | single text => .string text
  | lines texts => jsonStrings texts

/-- A text that may be absent. -/
def jsonOptional : Option String → Json
  | some text => .string text
  | none => .null

/-- The name of a kind of list. -/
def ListKind.name : ListKind → String
  | ordered => "ordered"
  | unordered => "unordered"

/-- The parts of a block by name. -/
def Block.parts : Block → List (String × Json)
  | heading level text => [("level", .string level.name), ("text", .string text)]
  | paragraph text => [("text", text.toJson)]
  | quote text => [("text", text.toJson)]
  | image source title altText =>
    [("source", .string source), ("title", jsonOptional title),
      ("alt_text", jsonOptional altText)]
  | list kind items => [("kind", .string kind.name), ("items", jsonStrings items)]
  | code language text => [("language", .string language), ("lines", text.toJson)]
  | table headers rows =>
    [("headers", jsonStrings headers), ("rows", .array (rows.map jsonStrings))]

/-- A block as JSON. -/
def Block.toJson (block : Block) : Json :=
  .object (("type", .string block.kind) :: block.parts)

mutual

/-- An outline as JSON. -/
def Outline.toJson : Outline → Json
  | .block b => b.toJson
  | .raw text => .string text
  | .seq children => .array (Outline.toJsonAll children)

/-- Outlines as JSON. -/
def Outline.toJsonAll : List Outline → List Json
  | [] => []
  | child :: rest => child.toJson :: Outline.toJsonAll rest

end

/-- The text of the dump. -/
def Outline.dump (outline : Outline) : String := outline.toJson.indented

end ThriftPages
