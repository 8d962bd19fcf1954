/-
# The sections of a reference page

A page opens with its title, the namespaces and the mark for a table of
contents. Five sections follow, one per kind of declaration that is shown:
types, constants, enumerations, structures, services. Each has a heading and,
for every declaration of its kind, a heading of its own with what there is to
say; the constants share one table.

Key definitions: `Section`, `Section.outline`.
-/
import ThriftPages.FilePath
import ThriftPages.Page.Outline
import ThriftPages.Reference.Inline
import ThriftPages.Reference.Options

namespace ThriftPages

/-- The sections in the order of the page. -/
inductive Section
  | header | types | constants | enumerations | structures | services
deriving DecidableEq

/-- Every section. -/
def Section.all : List Section :=
  [.header, .types, .constants, .enumerations, .structures, .services]

/-- A type's heading and what it stands for. -/
def Typedef.outline (t : Typedef) : Outline :=
  .ofBlocks [.heading .h3 t.name, .quote (.single (t.type.text ++ " " ++ t.name))]

/-- The columns of the table of constants. -/
def ConstantDef.headers : List String := ["Constant", "Type", "Description", "Value"]

/-- A constant's row in the table. -/
def ConstantDef.row (options : PageOptions) (c : ConstantDef) : List String :=
  [c.name, c.type.text, documentationIn options.lineBreakMarker c.comments,
    c.value.valueText c.type]

/-- The comments of a declaration as a code block. -/
def commentBlock (options : PageOptions) (comments : List Comment) : Block :=
  .code options.commentLanguage (.single (documentation comments))

/-- The columns of an enumeration's table. -/
def Enumeration.headers : List String := ["Named Constant", "Description"]

/-- A member's row in the table of its enumeration. -/
def Member.row (options : PageOptions) (m : Member) : List String :=
  [m.name, documentationIn options.lineBreakMarker m.comments]

/-- An enumeration's heading, its comments and the table of its members. -/
def Enumeration.outline (options : PageOptions) (e : Enumeration) : Outline :=
  .ofBlocks [.heading .h3 e.name, commentBlock options e.comments,
    .table Enumeration.headers (e.members.map (Member.row options))]

/-- The columns of a structure's table. -/
def Struct.headers : List String :=
  ["Key", "Field", "Type", "Description", "Required", "Default value"]

/-- A field's row in the table of its structure. What is absent is empty. -/
def Field.row (options : PageOptions) (f : Field) : List String :=
  [(f.id.map fun id => toString id.toInt).getD "", f.name, f.type.text,
    documentationIn options.lineBreakMarker f.comments,
    (f.requiredness.map Requiredness.keyword).getD "",
    (f.default.map (Constant.defaultText f.type)).getD ""]

/-- A structure's heading, its comments and the table of its fields. -/
def Struct.outline (options : PageOptions) (s : Struct) : Outline :=
  .ofBlocks [.heading .h3 s.name, commentBlock options s.comments,
    .table Struct.headers (s.fields.map (Field.row options))]

/-- A function's heading and signature. -/
def Function.outline (f : Function) : Outline :=
  .ofBlocks [.heading .h4 ("Function: " ++ f.name), .quote (.single f.signature)]

/-- A service's heading and its functions. -/
def Service.outline (s : Service) : Outline :=
  .seq [.block (.heading .h3 s.name), .seq (s.functions.map Function.outline)]

/-- The mark for a table of contents and the empty line after it, if wanted. -/
def tocOutline (options : PageOptions) : List Outline :=
  if options.tableOfContents then [.seq [.raw options.tocMarker, .raw "\n\n"]] else []

/-- The title of the page, the namespaces, the mark for a table of contents. -/
def headerOutline (fileName : String) (options : PageOptions) (doc : Document) : Outline :=
  .seq ([.block (.heading .h1 (FilePath.title fileName)),
    .ofBlocks (doc.namespaces.map fun n => .quote (.single n.name))] ++ tocOutline options)

/-- A section's heading and its declarations. -/
def headedOutline (title : String) (declarations : List Outline) : Outline :=
  .seq [.block (.heading .h2 title), .seq declarations]

/-- The outline of a section. Only the header depends on the name of the file. -/
def Section.outline (fileName : String) (options : PageOptions) (doc : Document) :
    Section → Outline
  | header => headerOutline fileName options doc
  | types => headedOutline "Types" (doc.typedefs.map Typedef.outline)
  | constants =>
    .ofBlocks [.heading .h2 "Constants",
      .table ConstantDef.headers (doc.constants.map (ConstantDef.row options))]
  | enumerations =>
    headedOutline "Enumerations" (doc.enumerations.map (Enumeration.outline options))
  | structures => headedOutline "Data Structures" (doc.structs.map (Struct.outline options))
  | services => headedOutline "Services" (doc.services.map Service.outline)

end ThriftPages
