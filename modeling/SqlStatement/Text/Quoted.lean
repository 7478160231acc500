import SqlStatement.Text.Graphic

/-!
# Quoted text

A text between double quotes, made readable: the quote and the backslash are
marked by a backslash, four control characters have names, and whatever has no
mark of its own is spelled as its code point.  Error messages quote names and
versions this way.
-/

namespace SqlStatement

namespace Text

/-- The character that stands for another one behind a backslash.  An apostrophe needs none. -/
def quotedLetter? (c : Char) : Option Char :=
  if c = '\x22' then some '\x22'
  else if c = '\x5c' then some '\x5c'
  else if c = '\x00' then some '0'
  else if c = '\t' then some 't'
  else if c = '\r' then some 'r'
  else if c = '\n' then some 'n'
  else none

def spelledCode (c : Char) : List Char :=
  "\\u\x7b".toList ++ Nat.toDigits 16 c.toNat ++ "\x7d".toList

def quotedChar (c : Char) : List Char :=
  match quotedLetter? c with
  | some letter => ['\x5c', letter]
  | none => if isGraphic c then [c] else spelledCode c

def quoted (s : String) : String :=
  String.ofList ('\x22' :: s.toList.flatMap quotedChar ++ ['\x22'])

example : quoted "it's \"é\"" = "\"it's \\\"é\\\"\"" := by
  decide +kernel

end Text

end SqlStatement
