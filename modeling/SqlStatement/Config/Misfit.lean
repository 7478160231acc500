import SqlStatement.Binary64
import SqlStatement.Text.Quoted
import SqlStatement.Toml.Value

/-!
# Values in the wrong place

A document may be well-formed and still not have the shape of a configuration.
A `Misfit` says what was found and what was expected there.
-/

namespace SqlStatement

inductive Found where
  | text (content : String)
  | integer (number : Int)
  /-- A whole number of more than 64 bits, and of at most 128. -/
  | wideInteger (number : Int)
  | float (number : Toml.Float)
  | boolean (truth : Bool)
  | sequence
  | map
  deriving DecidableEq

inductive Expected where
  | text
  | integer
  | sequence
  | record (title : String)
  deriving DecidableEq

inductive Misfit where
  | unknownField (name : String) (known : List String)
  | missingField (name : String)
  | invalidType (found : Found) (expected : Expected)
  /-- A whole number of 64 bits without a sign that does not fit into 64 bits with one. -/
  | invalidInteger (number : Int)
  /-- An array is too short for a record: the first place that is missing. -/
  | invalidLength (place : Nat) (title : String) (fields : Nat)
  | unknownVariant (name : String) (known : List String)
  /-- A choice is made by a text or a table. -/
  | notChoice
  | noChoice
  | severalChoices
  /-- The choice is a key, and behind it stands a value of that type, neither table nor array. -/
  | choiceNotTable (typeName : String)
  | tableNotEmpty
  | arrayNotEmpty
  /-- A whole number of more than 128 bits, or one that cannot be read. -/
  | integerOverflow
  | floatOverflow
  deriving DecidableEq

def ticked (name : String) : String :=
  "`" ++ name ++ "`"

def oneOf : List String → String
  | [] => "nothing"
  | [only] => ticked only
  | [first, second] => ticked first ++ " or " ++ ticked second
  | several => "one of " ++ ", ".intercalate (several.map ticked)

namespace Toml.Float

/-- The text of a number: the fewest digits of the nearest binary number, without an exponent. -/
def text : Toml.Float → String
  | .decimal negative magnitude =>
      let sign := if negative then "-" else ""
      match Binary64.ofDecimal? magnitude with
      | some number => sign ++ number.shortest.positional
      | none => sign ++ "inf"
  | .infinity negative => if negative then "-inf" else "inf"
  | .nan => "NaN"

end Toml.Float

namespace Found

def message : Found → String
  | text content => "string " ++ Text.quoted content
  | integer number => "integer " ++ ticked (toString number)
  | wideInteger number =>
      let width := if number < Int.pow 2 127 then " as i128" else " as u128"
      "integer " ++ ticked (toString number) ++ width
  | float number => "floating point " ++ ticked number.text
  | boolean truth => "boolean " ++ ticked (if truth then "true" else "false")
  | sequence => "sequence"
  | map => "map"

end Found

namespace Expected

def message : Expected → String
  | text => "a string"
  | integer => "i64"
  | sequence => "a sequence"
  | record title => "struct " ++ title

end Expected

namespace Misfit

def message : Misfit → String
  | unknownField name known => "unknown field " ++ ticked name ++ ", expected " ++ oneOf known
  | missingField name => "missing field " ++ ticked name
  | invalidType found expected =>
      "invalid type: " ++ found.message ++ ", expected " ++ expected.message
  | invalidInteger number =>
      "invalid value: integer " ++ ticked (toString number) ++ ", expected i64"
  | invalidLength place title fields =>
      "invalid length " ++ toString place ++ ", expected struct " ++ title ++ " with "
        ++ toString fields ++ " elements"
  | unknownVariant name known => "unknown variant " ++ ticked name ++ ", expected " ++ oneOf known
  | notChoice => "wanted string or table"
  | noChoice => "wanted exactly 1 element, found 0 elements"
  | severalChoices => "wanted exactly 1 element, more than 1 element"
  | choiceNotTable typeName => "expected table, found " ++ typeName
  | tableNotEmpty => "expected empty table"
  | arrayNotEmpty => "expected empty array"
  | integerOverflow => "integer number overflowed"
  | floatOverflow => "floating-point number overflowed"

end Misfit

end SqlStatement
