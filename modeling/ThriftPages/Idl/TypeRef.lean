/-
# Type references

A type is a base type, a container of other types, or the name of a type that is
declared somewhere.

Key definitions: `TypeRef`.
-/

namespace ThriftPages

/-- A type as it is written in a declaration. -/
inductive TypeRef
  | void
  | list (element : TypeRef)
  | set (element : TypeRef)
  | map (key value : TypeRef)
  | string
  | binary
  | bool
  | byte
  | double
  | enum
  | i8
  | i16
  | i32
  | i64
  | named (name : String)
deriving DecidableEq

end ThriftPages
