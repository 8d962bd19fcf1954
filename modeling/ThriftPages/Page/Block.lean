/-
# Blocks of a page

A page is a row of blocks: headings, paragraphs, quotes, images, lists, code
blocks and tables. The set is closed. A heading has one of six levels, each of
which is found by its depth (`HeadingLevel.ofDepth?_depth`).

Key definitions: `HeadingLevel`, `BlockText`, `Block`, `Block.kind`.
Key theorems: `HeadingLevel.ofDepth?_depth`.
-/

namespace ThriftPages

/-- The level of a heading, from the title of a page down to its smallest part. -/
inductive HeadingLevel
  | h1 | h2 | h3 | h4 | h5 | h6
deriving DecidableEq

namespace HeadingLevel

/-- Every level, the largest heading first. -/
def all : List HeadingLevel := [h1, h2, h3, h4, h5, h6]

/-- The number of `#` marks that a heading of this level is written with. -/
def depth : HeadingLevel → Nat
  | h1 => 1
  | h2 => 2
  | h3 => 3
  | h4 => 4
  | h5 => 5
  | h6 => 6

/-- The level of a given depth, if there is one. -/
def ofDepth? (depth : Nat) : Option HeadingLevel :=
  all.find? fun level => level.depth == depth

/-- The level's name: `H1` to `H6`. -/
def name : HeadingLevel → String
  | h1 => "H1"
  | h2 => "H2"
  | h3 => "H3"
  | h4 => "H4"
  | h5 => "H5"
  | h6 => "H6"

/-- Levels are ordered by depth. -/
instance : LT HeadingLevel := ⟨fun a b => a.depth < b.depth⟩

instance (a b : HeadingLevel) : Decidable (a < b) :=
  inferInstanceAs (Decidable (a.depth < b.depth))

/-- A level is the one that has its depth. -/
theorem ofDepth?_depth (level : HeadingLevel) : ofDepth? level.depth = some level := by
  cases level <;> rfl

end HeadingLevel

/-- The text of a block: one piece, or several that are shown one by one. -/
inductive BlockText
  | single (text : String)
  | lines (texts : List String)
deriving DecidableEq

/-- The pieces of a block's text in order. -/
def BlockText.toList : BlockText → List String
  | single text => [text]
  | lines texts => texts

/-- Whether the items of a list are numbered or bulleted. -/
inductive ListKind
  | ordered | unordered
deriving DecidableEq

/-- One block of a page. The rows of a table may be shorter or longer than its
header. -/
inductive Block
  | heading (level : HeadingLevel) (text : String)
  | paragraph (text : BlockText)
  | quote (text : BlockText)
  | image (source : String) (title altText : Option String)
  | list (kind : ListKind) (items : List String)
  | code (language : String) (text : BlockText)
  | table (headers : List String) (rows : List (List String))
deriving DecidableEq

/-- The name of a block's kind. -/
def Block.kind : Block → String
  | heading .. => "heading"
  | paragraph .. => "paragraph"
  | quote .. => "block_quote"
  | image .. => "image"
  | list .. => "list"
  | code .. => "code_block"
  | table .. => "table"

end ThriftPages
