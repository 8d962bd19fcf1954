/-
# Interface definition documents

A document is the list of the declarations of one file in their order. Unions
and exceptions have the parts of a structure. The accessors give the
declarations of one kind, in their order.

Key definitions: `Comment`, `Field`, `Function`, `Declaration`, `Document`,
`Document.count`.
-/
import ThriftPages.Idl.Constant
import ThriftPages.Idl.TypeRef

namespace ThriftPages

/-- A comment at a declaration. -/
inductive Comment
  /-- A block comment, in the segments that it was split into. -/
  | block (segments : List String)
  /-- A comment that ends with its line. -/
  | line (text : String)
deriving DecidableEq

/-- Whether a field must be given. -/
inductive Requiredness
  | required | optional
deriving DecidableEq

/-- The keyword. -/
def Requiredness.keyword : Requiredness → String
  | required => "required"
  | optional => "optional"

/-- A field of a structure, a parameter, or a thrown exception. -/
structure Field where
  id : Option Int64
  name : String
  type : TypeRef
  requiredness : Option Requiredness
  default : Option Constant
  comments : List Comment
deriving DecidableEq

/-- A function of a service. -/
structure Function where
  name : String
  result : TypeRef
  parameters : List Field
  throws : List Field
  oneway : Bool
  comments : List Comment
deriving DecidableEq

/-- The declaration of a type name. -/
structure Typedef where
  name : String
  type : TypeRef
  comments : List Comment
deriving DecidableEq

/-- The declaration of a constant. -/
structure ConstantDef where
  name : String
  type : TypeRef
  value : Constant
  comments : List Comment
deriving DecidableEq

/-- A member of an enumeration. -/
structure Member where
  name : String
  value : Option Constant
  comments : List Comment
deriving DecidableEq

/-- The declaration of an enumeration. -/
structure Enumeration where
  name : String
  members : List Member
  comments : List Comment
deriving DecidableEq

/-- The declaration of a structure, union or exception. -/
structure Struct where
  name : String
  fields : List Field
  comments : List Comment
deriving DecidableEq

/-- The declaration of a service. -/
structure Service where
  name : String
  parent : Option String
  functions : List Function
  comments : List Comment
deriving DecidableEq

/-- The name that the file's declarations have in a target language. -/
structure Namespace where
  scope : String
  name : String
deriving DecidableEq

/-- A declaration of a file. -/
inductive Declaration
  | scope (definition : Namespace)
  | inclusion (path : String)
  | cppInclusion (path : String)
  | typedef (definition : Typedef)
  | constant (definition : ConstantDef)
  | enumeration (definition : Enumeration)
  | struct (definition : Struct)
  | union (definition : Struct)
  | exception (definition : Struct)
  | service (definition : Service)
deriving DecidableEq

/-- The kinds of declarations. -/
inductive DeclarationKind
  | scope | inclusion | cppInclusion | typedef | constant | enumeration
  | struct | union | exception | service
deriving DecidableEq

/-- Every kind. -/
def DeclarationKind.all : List DeclarationKind :=
  [scope, inclusion, cppInclusion, typedef, constant, enumeration, struct, union,
    exception, service]

/-- The kind of a declaration. -/
def Declaration.kind : Declaration → DeclarationKind
  | scope _ => .scope
  | inclusion _ => .inclusion
  | cppInclusion _ => .cppInclusion
  | typedef _ => .typedef
  | constant _ => .constant
  | enumeration _ => .enumeration
  | struct _ => .struct
  | union _ => .union
  | exception _ => .exception
  | service _ => .service

/-- The declarations of one file. -/
structure Document where
  declarations : List Declaration
deriving DecidableEq

namespace Document

/-- The document of an empty file. -/
def empty : Document := ⟨[]⟩

/-- The number of declarations of a kind. -/
def count (doc : Document) (kind : DeclarationKind) : Nat :=
  doc.declarations.countP fun d => d.kind = kind

/-- The namespaces of the file. -/
def namespaces (doc : Document) : List Namespace :=
  doc.declarations.filterMap fun
    | .scope n => some n
    | _ => none

/-- The declared type names. -/
def typedefs (doc : Document) : List Typedef :=
  doc.declarations.filterMap fun
    | .typedef t => some t
    | _ => none

/-- The declared constants. -/
def constants (doc : Document) : List ConstantDef :=
  doc.declarations.filterMap fun
    | .constant c => some c
    | _ => none

/-- The declared enumerations. -/
def enumerations (doc : Document) : List Enumeration :=
  doc.declarations.filterMap fun
    | .enumeration e => some e
    | _ => none

/-- The declared structures; unions and exceptions are not among them. -/
def structs (doc : Document) : List Struct :=
  doc.declarations.filterMap fun
    | .struct s => some s
    | _ => none

/-- The declared services. -/
def services (doc : Document) : List Service :=
  doc.declarations.filterMap fun
    | .service s => some s
    | _ => none

end Document

end ThriftPages
