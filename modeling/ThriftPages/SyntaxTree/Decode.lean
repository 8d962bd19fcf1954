/-
# What a syntax tree describes

The parts of a document, each from the value that describes it. A name or a
field's number may stand in an object under `value`, with whatever else is known
of it. Types and constants are nested; they are read down to the depth of the
value, which no part of it exceeds.

Key definitions: `name`, `fieldId`, `typeRef`, `constant`, `comments`, `field`,
`function`, `declarations`.
-/
import ThriftPages.Idl.Document
import ThriftPages.SyntaxTree.Tagged

namespace ThriftPages.SyntaxTree

/-- A text. -/
def text : Json → Except Fault String
  | .string s => .ok s
  | value => .error (.invalidType value.found .string)

/-- A truth value. -/
def boolean : Json → Except Fault Bool
  | .boolean b => .ok b
  | value => .error (.invalidType value.found .boolean)

/-- A list, whose elements are read in order. -/
def listOf {α : Type} (read : Json → Except Fault α) : Json → Except Fault (List α)
  | .array elements => elements.mapM read
  | value => .error (.invalidType value.found .sequence)

/-- A value that may be null. -/
def nullable {α : Type} (read : Json → Except Fault α) : Json → Except Fault (Option α)
  | .null => .ok none
  | value => (read value).map some

/-- A value that stands by itself or, only once, under `value` in an object. -/
def node {α : Type} (bare? : Json → Option α) (value : Json) : Except Fault α :=
  let found :=
    match value with
    | .object members =>
      match (members.filter fun (key, _) => key = "value").map Prod.snd with
      | [inner] => bare? inner
      | _ => none
    | value => bare? value
  match found with
  | some a => .ok a
  | none => .error (.noVariant "ValueNode")

/-- A name. -/
def name : Json → Except Fault String :=
  node fun
    | .string s => some s
    | _ => none

/-- The number of a field, an integer of 64 bits. -/
def fieldId : Json → Except Fault Int64 :=
  node fun
    | .number (.integer i) =>
      if Int64.minValue.toInt ≤ i ∧ i ≤ Int64.maxValue.toInt then some (Int64.ofInt i) else none
    | _ => none

/-- The requiredness of a given name. -/
def requirednessNamed (name : String) : Except Fault Requiredness :=
  if name = "required" then .ok .required
  else if name = "optional" then .ok .optional
  else .error (.unknownVariant name ["required", "optional"])

/-- A requiredness: its name, or an object with the name as its only key and
nothing under it. -/
def requiredness : Json → Except Fault Requiredness
  | .string s => requirednessNamed s
  | .object [(key, value)] => do
    let r ← requirednessNamed key
    match value with
    | .null | .object [] => .ok r
    | value => .error (.invalidType value.found .unit)
  | .object _ => .error (.invalidValue .map .singleKeyMap)
  | value => .error (.invalidType value.found .stringOrMap)

/-- The variants of a type, whose parts are read by `part`. -/
def typeVariants (part : Json → Except Fault TypeRef) : List (Variant TypeRef) :=
  let unit := Variant.unit "FieldType"
  let record := Variant.record "FieldType"
  [unit "VoidKeyword" .void,
    record "ListType" (TypeRef.list <$> Fields.required "valueType" part),
    record "SetType" (TypeRef.set <$> Fields.required "valueType" part),
    record "MapType"
      (TypeRef.map <$> Fields.required "keyType" part <*> Fields.required "valueType" part),
    unit "StringKeyword" .string,
    unit "BinaryKeyword" .binary,
    unit "BoolKeyword" .bool,
    unit "ByteKeyword" .byte,
    unit "DoubleKeyword" .double,
    unit "EnumKeyword" .enum,
    unit "I8Keyword" .i8,
    unit "I16Keyword" .i16,
    unit "I32Keyword" .i32,
    unit "I64Keyword" .i64,
    record "Identifier" (TypeRef.named <$> Fields.required "value" text)]

/-- A type whose parts are read by `part`. -/
def typeOf (part : Json → Except Fault TypeRef) : Json → Except Fault TypeRef :=
  tagged "FieldType" (typeVariants part)

/-- A type that is nested at most so deeply. -/
def typeWithin : (depth : Nat) → Json → Except Fault TypeRef
  | 0 => typeOf fun value => .error (.invalidType value.found (.taggedEnum "FieldType"))
  | depth + 1 => typeOf (typeWithin depth)

/-- A type. -/
def typeRef (value : Json) : Except Fault TypeRef := typeWithin value.depth value

/-- The variants of a constant value, whose parts are read by `part`. -/
def constantVariants (part : Json → Except Fault Constant) : List (Variant Constant) :=
  let record := Variant.record "ConstValue"
  let entry := (Prod.mk <$> Fields.required "name" part
    <*> Fields.required "initializer" part : Fields (Constant × Constant))
  [record "StringLiteral" (Constant.string <$> Fields.required "value" text),
    record "BooleanLiteral" (Constant.boolean <$> Fields.required "value" boolean),
    record "IntegerLiteral" (Constant.integer <$> Fields.required "value" text),
    record "HexLiteral" (Constant.hex <$> Fields.required "value" text),
    record "FloatLiteral" (Constant.float <$> Fields.required "value" text),
    record "ExponentialLiteral" (Constant.exponential <$> Fields.required "value" text),
    record "IntConstant" (Constant.whole <$> Fields.required "value" part),
    record "DoubleConstant" (Constant.real <$> Fields.required "value" part),
    record "ConstList" (Constant.list <$> Fields.required "elements" (listOf part)),
    record "ConstMap" (Constant.map <$>
      Fields.required "properties" (listOf (entry.ofJson "PropertyAssignment"))),
    record "Identifier" (Constant.identifier <$> Fields.required "value" text)]

/-- A constant value whose parts are read by `part`. -/
def constantOf (part : Json → Except Fault Constant) : Json → Except Fault Constant :=
  tagged "ConstValue" (constantVariants part)

/-- A constant value that is nested at most so deeply. -/
def constantWithin : (depth : Nat) → Json → Except Fault Constant
  | 0 => constantOf fun value => .error (.invalidType value.found (.taggedEnum "ConstValue"))
  | depth + 1 => constantOf (constantWithin depth)

/-- A constant value. -/
def constant (value : Json) : Except Fault Constant := constantWithin value.depth value

/-- A comment. -/
def comment : Json → Except Fault Comment :=
  tagged "Comment"
    [Variant.record "Comment" "CommentBlock"
        (Comment.block <$> Fields.required "value" (listOf text)),
      Variant.record "Comment" "CommentLine"
        (Comment.line <$> Fields.required "value" text)]

/-- The comments at a declaration, none if they are left out. -/
def comments : Fields (List Comment) := Fields.optional "comments" [] (listOf comment)

/-- A field, parameter or exception. -/
def field : Json → Except Fault Field :=
  (Field.mk <$> Fields.optional "fieldID" none (nullable fieldId)
    <*> Fields.required "name" name
    <*> Fields.required "fieldType" typeRef
    <*> Fields.optional "requiredness" none (nullable requiredness)
    <*> Fields.optional "defaultValue" none (nullable constant)
    <*> comments : Fields Field).ofJson "FieldDefinition"

/-- Fields under a key, none if they are left out. -/
def fields (key : String) : Fields (List Field) := Fields.optional key [] (listOf field)

/-- A function. -/
def function : Json → Except Fault Function :=
  (Function.mk <$> Fields.required "name" name
    <*> Fields.required "returnType" typeRef
    <*> fields "fields"
    <*> fields "throws"
    <*> Fields.optional "oneway" false boolean
    <*> comments : Fields Function).ofJson "FunctionDefinition"

/-- A member of an enumeration. -/
def member : Json → Except Fault Member :=
  (Member.mk <$> Fields.required "name" name
    <*> Fields.optional "initializer" none (nullable constant)
    <*> comments : Fields Member).ofJson "EnumMember"

/-- The parts of a namespace. -/
def nameScope : Fields Namespace :=
  Namespace.mk <$> Fields.required "scope" name <*> Fields.required "name" name

/-- The path of a file that is included. -/
def inclusion : Fields String := Fields.required "path" name

/-- The parts of a type name's declaration. -/
def typedef : Fields Typedef :=
  Typedef.mk <$> Fields.required "name" name
    <*> Fields.required "definitionType" typeRef
    <*> comments

/-- The parts of a constant's declaration. -/
def constantDef : Fields ConstantDef :=
  ConstantDef.mk <$> Fields.required "name" name
    <*> Fields.required "fieldType" typeRef
    <*> Fields.required "initializer" constant
    <*> comments

/-- The parts of an enumeration. -/
def enumeration : Fields Enumeration :=
  Enumeration.mk <$> Fields.required "name" name
    <*> Fields.optional "members" [] (listOf member)
    <*> comments

/-- The parts of a structure, union or exception. -/
def struct : Fields Struct :=
  Struct.mk <$> Fields.required "name" name <*> fields "fields" <*> comments

/-- The parts of a service. -/
def service : Fields Service :=
  Service.mk <$> Fields.required "name" name
    <*> Fields.optional "extends" none (nullable name)
    <*> Fields.optional "functions" [] (listOf function)
    <*> comments

/-- A kind of declaration: its tag, the name of its record, and its parts. -/
def declarationVariant (tag record : String) (parts : Fields Declaration) :
    Variant Declaration :=
  ⟨tag, parts.decode (.struct record)⟩

/-- The kinds of declarations. -/
def declarations : List (Variant Declaration) :=
  [declarationVariant "NamespaceDefinition" "NamespaceDefinition"
      (Declaration.scope <$> nameScope),
    declarationVariant "IncludeDefinition" "IncludeDefinition"
      (Declaration.inclusion <$> inclusion),
    declarationVariant "CppIncludeDefinition" "IncludeDefinition"
      (Declaration.cppInclusion <$> inclusion),
    declarationVariant "TypedefDefinition" "TypedefDefinition"
      (Declaration.typedef <$> typedef),
    declarationVariant "ConstDefinition" "ConstDefinition"
      (Declaration.constant <$> constantDef),
    declarationVariant "EnumDefinition" "EnumDefinition"
      (Declaration.enumeration <$> enumeration),
    declarationVariant "StructDefinition" "StructDefinition"
      (Declaration.struct <$> struct),
    declarationVariant "UnionDefinition" "StructDefinition"
      (Declaration.union <$> struct),
    declarationVariant "ExceptionDefinition" "StructDefinition"
      (Declaration.exception <$> struct),
    declarationVariant "ServiceDefinition" "ServiceDefinition"
      (Declaration.service <$> service)]

end ThriftPages.SyntaxTree
