import SqlStatement.Toml.Moment
import SqlStatement.Toml.Number

/-!
# What words and strings stand for

A word is a truth value, a number, a date or a time; a text with quotes is a
string.  No other text is a value.
-/

namespace SqlStatement

namespace Toml

def wordValue? (word : List Char) : Option Value :=
  if word = "true".toList then some (.boolean true)
  else if word = "false".toList then some (.boolean false)
  else
    match integer? word, float? word with
    | some number, _ => some number
    | none, some number => some (.float number)
    | none, none => if isMoment word then some (.moment (String.ofList word)) else none

def scalar? (text : List Char) : Option Value :=
  match text with
  | [] => none
  | c :: _ =>
      if c = '\x22' ∨ c = '\x27' then (string? text).map .string else wordValue? text

end Toml

end SqlStatement
