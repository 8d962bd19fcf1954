/-
# The outline of a page

An outline nests blocks and raw texts in sequences. A page is flat: its pieces
are the leaves of the outline from left to right, and its text is theirs, one
after the other. How the leaves are nested never shows (`Outline.pieces_seq`,
`Outline.text_seq`).

Key definitions: `Outline`, `Outline.pieces`, `Outline.text`.
Key theorems: `Outline.nested`, `Outline.pieces_seq`, `Outline.text_seq`.
-/
import ThriftPages.Page.Markdown

namespace ThriftPages

/-- Blocks and raw texts, nested in sequences. -/
inductive Outline
  | block (block : Block)
  | raw (text : String)
  | seq (children : List Outline)

/-- A leaf of an outline: a block, or a text that goes into the page as it is. -/
inductive Piece
  | block (block : Block)
  | raw (text : String)
deriving DecidableEq

/-- The text of a piece. A raw text gets no empty line after it. -/
def Piece.text : Piece → String
  | block b => b.markdown
  | raw text => text

/-- The name of a piece's kind. -/
def Piece.kind : Piece → String
  | block b => b.kind
  | raw _ => "raw"

namespace Outline

/-- A sequence of blocks. -/
def ofBlocks (blocks : List Block) : Outline := seq (blocks.map block)

/-- The number of direct children; a leaf counts as one. -/
def size : Outline → Nat
  | seq children => children.length
  | _ => 1

/-- Only a sequence without children is empty. -/
def isEmpty : Outline → Bool
  | seq [] => true
  | _ => false

mutual

/-- The leaves from left to right. -/
def pieces : Outline → List Piece
  | block b => [.block b]
  | raw text => [.raw text]
  | seq children => piecesOfAll children

/-- The leaves of the outlines in order. -/
def piecesOfAll : List Outline → List Piece
  | [] => []
  | child :: rest => pieces child ++ piecesOfAll rest

end

/-- The text of the page: the texts of the pieces in order. -/
def text (outline : Outline) : String :=
  String.join (outline.pieces.map Piece.text)

/-- Induction over an outline and the children of its sequences. -/
@[elab_as_elim] theorem nested {P : Outline → Prop} (block : ∀ b, P (.block b))
    (raw : ∀ text, P (.raw text)) (seq : ∀ children, (∀ c ∈ children, P c) → P (.seq children)) :
    ∀ t, P t
  | .block b => block b
  | .raw text => raw text
  | .seq children => seq children fun c _ => nested block raw seq c

theorem piecesOfAll_eq : ∀ children : List Outline, piecesOfAll children = children.flatMap pieces
  | [] => by simp [piecesOfAll]
  | child :: rest => by simp [piecesOfAll, piecesOfAll_eq rest]

@[simp] theorem pieces_block (b : Block) : (block b).pieces = [.block b] := by rw [pieces]

@[simp] theorem pieces_raw (text : String) : (raw text).pieces = [.raw text] := by rw [pieces]

/-- The pieces of a sequence are those of its children. -/
@[simp] theorem pieces_seq (children : List Outline) :
    (seq children).pieces = children.flatMap pieces := by
  rw [pieces, piecesOfAll_eq]

/-- The text of a sequence is that of its children. -/
theorem text_seq (children : List Outline) :
    (seq children).text = String.join (children.map text) := by
  rw [← String.toList_inj]
  simp [text, List.map_flatMap, List.flatMap_assoc, List.flatMap_map]

end Outline

end ThriftPages
