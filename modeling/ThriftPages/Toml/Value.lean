/-
# TOML values

The values of a TOML document. A table keeps its entries in the order in which
their keys first appear.

Key definitions: `Toml.Value`.
-/
import ThriftPages.Decimal.Binary64
import ThriftPages.Toml.Datetime

namespace ThriftPages.Toml

/-- A value of a TOML document. -/
inductive Value
  | string (text : String)
  | integer (value : Int)
  | float (value : Binary64)
  | boolean (value : Bool)
  | datetime (value : Datetime)
  | array (elements : List Value)
  | table (entries : List (String × Value))
deriving Inhabited

end ThriftPages.Toml
