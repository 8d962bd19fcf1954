/-
# Loading a document

A document is read from its JSON text in one pass, so the first fault in reading
order is reported, be it in the text or in what the text describes. A statement
is read to its end before it is decoded; only its tag is checked at once.

The document is an object, or an array whose only element is the body. At most
127 brackets may be open at once, the document's own among them.

Key definitions: `LoadError`, `LoadError.message`, `Document.ofText`.
-/
import ThriftPages.Json.Skip
import ThriftPages.SyntaxTree.Decode

namespace ThriftPages

/-- Why a text could not be loaded: it is no JSON, or it describes no document. -/
abbrev LoadError : Type := Json.ReadError SyntaxTree.Fault

/-- The cause in words. The line and the column that a full message ends in, ` at line L column C`,
are left out. -/
def LoadError.message : LoadError → String
  | .malformed fault => fault.message
  | .refused fault => fault.message

namespace SyntaxTree

open Json (Reader lead skipBlanks malformed refused)

/-- The tag of a statement, which must be a string. -/
def statementTag : Reader Fault (Variant Declaration) := fun text => do
  let first ← lead text
  match first.value with
  | .scalar (.string tag) =>
    match Variant.named declarations tag with
    | .ok variant => return first.map fun _ => variant
    | .error fault => refused fault
  | other => refused (.invalidType other.found .variantIdentifier)

/-- A statement that is being read: its tag, and its other members with the last
one first. -/
structure Draft where
  tag : Option (Variant Declaration)
  members : List (String × Json)

/-- Reads a member of a statement whose members' values are read by `value`. -/
def onStatementKey (value : Reader Fault Json) : Json.OnKey Fault Draft :=
  fun state key =>
    if key = tagKey then
      if state.tag.isSome then .error (.duplicateField tagKey)
      else .ok (statementTag.map fun tag => ⟨some tag, state.members⟩)
    else .ok (value.map fun v => ⟨state.tag, (key, v) :: state.members⟩)

/-- A statement as an array, its opening bracket having been read: the tag, then
the fields in their order. -/
def statementElements (value : Reader Fault Json) : Reader Fault Declaration := fun text =>
  match skipBlanks text with
  | [] => malformed .endInList
  | ']' :: _ => refused (.missingField tagKey)
  | _ => do
    let tag ← statementTag text
    let others ← Json.moreElements value tag.rest
    match tag.value.decode (.elements others.value) with
    | .ok declaration => return (tag.and others).map fun _ => declaration
    | .error fault => refused fault

/-- A statement as an object, its opening brace having been read. -/
def statementMembers (value : Reader Fault Json) : Reader Fault Declaration := fun text => do
  let state ← Json.members (onStatementKey value) ⟨none, []⟩ text
  match state.value.tag with
  | none => refused (.missingField tagKey)
  | some tag =>
    match tag.decode (.members state.value.members.reverse) with
    | .ok declaration => return state.map fun _ => declaration
    | .error fault => refused fault

/-- A statement in which no more than `levels` brackets are open at once. -/
def statement (levels : Nat) : Reader Fault Declaration := fun text => do
  let first ← lead text
  match first.value, levels with
  | .scalar value, _ => refused (.invalidType value.found (.taggedEnum "ThriftStatement"))
  | .array, levels + 1 =>
    let taken ← statementElements (Json.value levels) first.rest
    return (first.and taken).map Prod.snd
  | .object, levels + 1 =>
    let taken ← statementMembers (Json.value levels) first.rest
    return (first.and taken).map Prod.snd
  | .array, 0 | .object, 0 => malformed .tooDeep

/-- The statements of a document. -/
def body (levels : Nat) : Reader Fault (List Declaration) := fun text => do
  let first ← lead text
  match first.value, levels with
  | .array, levels + 1 =>
    let taken ← Json.elements (statement levels) first.rest
    return (first.and taken).map Prod.snd
  | .array, 0 => malformed .tooDeep
  | other, _ => refused (.invalidType other.found .sequence)

/-- The key of the body. -/
def bodyKey : String := "body"

/-- Reads a member of a document: its body, once, and nothing else. -/
def onDocumentKey (levels : Nat) : Json.OnKey Fault (Option (List Declaration)) :=
  fun state key =>
    if key = bodyKey then
      if state.isSome then .error (.duplicateField bodyKey)
      else .ok ((body levels).map some)
    else .ok (Json.skip.map fun _ => state)

/-- The end of a document given as an array. -/
def documentEnd (text : List Char) : Except LoadError (List Char) :=
  match skipBlanks text with
  | ']' :: rest => .ok rest
  | ',' :: rest =>
    if (skipBlanks rest).head? = some ']' then malformed .trailingComma
    else malformed .trailingCharacters
  | [] => malformed .endInList
  | _ => malformed .trailingCharacters

/-- A document as an array, its opening bracket having been read. -/
def documentElements (levels : Nat) (text : List Char) :
    Except LoadError (List Declaration × List Char) :=
  match skipBlanks text with
  | [] => malformed .endInList
  | ']' :: rest => .ok ([], rest)
  | _ => do
    let statements ← body levels text
    let rest ← documentEnd statements.rest
    return (statements.value, rest)

/-- A document in which no more than `levels` brackets are open at once, and
what follows it. -/
def document (levels : Nat) (text : List Char) :
    Except LoadError (List Declaration × List Char) := do
  let first ← lead text
  match first.value, levels with
  | .scalar value, _ =>
    refused (.invalidType value.found (.record (.struct "ThriftDocument")))
  | .array, levels + 1 => documentElements levels first.rest
  | .object, levels + 1 =>
    let statements ← Json.members (onDocumentKey levels) none first.rest
    return (statements.value.getD [], statements.rest)
  | .array, 0 | .object, 0 => malformed .tooDeep

/-- The number of brackets that may be open at once. -/
def nestingLimit : Nat := 127

end SyntaxTree

/-- The document that a text describes. -/
def Document.ofText (text : String) : Except LoadError Document := do
  let (declarations, rest) ← SyntaxTree.document SyntaxTree.nestingLimit text.toList
  if (Json.skipBlanks rest).isEmpty then return ⟨declarations⟩
  else Json.malformed .trailingCharacters

end ThriftPages
