import SqlStatement.Decimal

/-!
# TOML values

The tree that a TOML document stands for.  Numbers keep the value that was
written, not yet fitted into machine words; the keys of a table are distinct and
stand in the order in which they were mentioned.
-/

namespace SqlStatement

namespace Toml

inductive Float where
  | decimal (negative : Bool) (magnitude : Decimal)
  | infinity (negative : Bool)
  | nan
  deriving DecidableEq

inductive Value where
  | string (text : String)
  | integer (number : Int)
  /-- What has the form of a whole number and no value: its digits are missing or not all digits. -/
  | illegible
  | float (number : Float)
  | boolean (truth : Bool)
  /-- A date, a time or both, as written. -/
  | moment (text : String)
  | array (items : List Value)
  | table (entries : List (String × Value))

namespace Value

def typeName : Value → String
  | string _ => "string"
  | integer _ | illegible => "integer"
  | float _ => "float"
  | boolean _ => "boolean"
  | moment _ => "datetime"
  | array _ => "array"
  | table _ => "table"

end Value

end Toml

end SqlStatement
