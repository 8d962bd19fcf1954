/-
# The table that a TOML document describes

The statements are put together in order. A header opens a table, and the
entries after it belong there; a key with points opens the tables on its way. A
table can be opened by a header once, after that by nothing but longer headers;
a table that keys with points opened is extended by such keys alone, within one
header; inline tables and arrays are closed. No key is given twice.

A table whose first key is `$__toml_private_datetime` stands for a date or time,
whose text must stand under it; the other keys of the table say nothing.

Key definitions: `Toml.Item`, `Toml.insertAt`, `Toml.ofText?`.
-/
import ThriftPages.Toml.Statement

namespace ThriftPages.Toml

/-- What stands under a key while the document is put together. -/
inductive Item
  /-- A value, which nothing can be added to. -/
  | value (value : Value)
  /-- A table; `implicit` if no header opened it, `dotted` if a key with points
  did. -/
  | table (implicit dotted : Bool) (entries : List (String × Item))
  /-- An array of tables, each opened by a header of its own. -/
  | tables (elements : List (List (String × Item)))
deriving Inhabited

/-- The entries of a table. -/
abbrev Items : Type := List (String × Item)

/-- The entries with another item under a key that is there. -/
def replaceItem (key : String) (item : Item) (items : Items) : Items :=
  items.map fun (k, old) => if k = key then (k, item) else (k, old)

/-- Changes the entries of the table at the end of a path, opening tables on the
way. `change` also gets whether a key with points opened that table. With
`dotted` the path is part of such a key, and then enters no table that a header
opened. -/
def changeAt (dotted : Bool) (change : Bool → Items → Option Items) :
    (path : List String) → (isDotted : Bool) → Items → Option Items
  | [], isDotted, items => change isDotted items
  | name :: path, _, items =>
    match items.lookup name with
    | none =>
      (changeAt dotted change path dotted []).map fun inner =>
        items ++ [(name, .table true dotted inner)]
    | some (.value _) => none
    | some (.table implicit isDotted inner) =>
      if dotted && !implicit then none
      else
        (changeAt dotted change path isDotted inner).map fun inner =>
          replaceItem name (.table implicit isDotted inner) items
    | some (.tables elements) =>
      match elements.getLast? with
      | none => none
      | some last =>
        (changeAt dotted change path false last).map fun last =>
          replaceItem name (.tables (elements.dropLast ++ [last])) items

/-- Adds a value under a key. -/
def insertAt (key : Key) (value : Value) (items : Items) : Option Items :=
  changeAt true (fun isDotted inner =>
    if isDotted = key.path.isEmpty then none
    else if (inner.lookup key.name).isSome then none
    else some (inner ++ [(key.name, .value value)])) key.path false items

mutual

/-- The value that an item stands for. -/
def Item.toValue : Item → Value
  | .value v => v
  | .table _ _ entries => .table (toEntries entries)
  | .tables elements => .array (toTables elements)

/-- The values of a table's entries. -/
def toEntries : Items → List (String × Value)
  | [] => []
  | (key, item) :: rest => (key, item.toValue) :: toEntries rest

/-- The values of the tables of an array. -/
def toTables : List Items → List Value
  | [] => []
  | entries :: rest => .table (toEntries entries) :: toTables rest

end

mutual

/-- The value of a literal. -/
def Literal.value? : Literal → Option Value
  | .plain v => some v
  | .array elements => (values? elements).map .array
  | .inlineTable entries => (items? entries []).map fun items => .table (toEntries items)

/-- The values of literals. -/
def values? : List Literal → Option (List Value)
  | [] => some []
  | literal :: rest => do
    let v ← literal.value?
    let vs ← values? rest
    return v :: vs

/-- The entries of an inline table, added to those before them. -/
def items? : List (Key × Literal) → Items → Option Items
  | [], items => some items
  | (key, literal) :: rest, items => do
    let v ← literal.value?
    let items ← insertAt key v items
    items? rest items

end

/-- A header with the entries that follow it. -/
structure TableBlock where
  key : Key
  isArray : Bool
  entries : List (Key × Literal)

/-- The entries before the first header, and the headers with theirs. -/
def blocks : List Statement → List (Key × Literal) × List TableBlock
  | [] => ([], [])
  | statement :: rest =>
    let (entries, others) := blocks rest
    match statement with
    | .entry key value => ((key, value) :: entries, others)
    | .table key => ([], ⟨key, false, entries⟩ :: others)
    | .tableArray key => ([], ⟨key, true, entries⟩ :: others)

/-- Adds a table that a header opens, or one more table of an array. A table that
was opened on the way to others is taken over. -/
def TableBlock.add (block : TableBlock) (items : Items) : Option Items :=
  changeAt false (fun _ inner =>
    match inner.lookup block.key.name, block.isArray with
    | none, true => do
      let entries ← items? block.entries []
      return inner ++ [(block.key.name, .tables [entries])]
    | some (.tables elements), true => do
      let entries ← items? block.entries []
      return replaceItem block.key.name (.tables (elements ++ [entries])) inner
    | none, false => do
      let entries ← items? block.entries []
      return inner ++ [(block.key.name, .table false false entries)]
    | some (.table true false before), false => do
      let entries ← items? block.entries before
      return inner.filter (fun (k, _) => k ≠ block.key.name)
        ++ [(block.key.name, .table false false entries)]
    | _, _ => none) block.key.path false items

/-- The table that statements describe. -/
def itemsOf? (statements : List Statement) : Option Items := do
  let (entries, others) := blocks statements
  let root ← items? entries []
  others.foldlM (fun items block => block.add items) root

/-- The key that marks a table as a date or time. -/
def datetimeKey : String := "$__toml_private_datetime"

mutual

/-- The value with marked tables read as dates and times. -/
def Value.settled : Value → Option Value
  | .table ((key, first) :: rest) =>
    if key = datetimeKey then
      match first with
      | .string text => (Datetime.ofText? text).map .datetime
      | _ => none
    else do
      let v ← first.settled
      let vs ← settledEntries rest
      return .table ((key, v) :: vs)
  | .array elements => (settledAll elements).map .array
  | v => some v

/-- The values with marked tables read as dates and times. -/
def settledAll : List Value → Option (List Value)
  | [] => some []
  | v :: rest => do
    let v ← v.settled
    let vs ← settledAll rest
    return v :: vs

/-- The entries with marked tables read as dates and times. -/
def settledEntries : List (String × Value) → Option (List (String × Value))
  | [] => some []
  | (key, v) :: rest => do
    let v ← v.settled
    let vs ← settledEntries rest
    return (key, v) :: vs

end

/-- The value that a TOML text describes: a table, or a date or time if it is
marked as one. A byte order mark before the text is passed over. -/
def ofText? (text : String) : Option Value := do
  let chars := match text.toList with
    | '\ufeff' :: rest => rest
    | chars => chars
  let statements ← scanStatements chars
  let items ← itemsOf? statements
  (Value.table (toEntries items)).settled

end ThriftPages.Toml
