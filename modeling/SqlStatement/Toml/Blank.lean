/-!
# Blanks and line ends in TOML

A line ends with a line feed, which a carriage return may precede; a carriage
return alone is no line end and stands nowhere.
-/

namespace SqlStatement

namespace Toml

def isBlank (c : Char) : Bool :=
  c = ' ' ∨ c = '\t'

/-- A character that comments and strings may hold: a tab, or anything that is no ASCII control. -/
def isPlain (c : Char) : Bool :=
  c = '\t' ∨ (0x20 ≤ c.toNat ∧ c.toNat ≠ 0x7f)

def skipBlanks (s : List Char) : List Char :=
  s.dropWhile isBlank

def lineFeed? : List Char → Option (List Char)
  | '\n' :: rest => some rest
  | '\r' :: '\n' :: rest => some rest
  | _ => none

end Toml

end SqlStatement
