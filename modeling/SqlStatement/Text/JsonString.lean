/-!
# JSON strings

The text of a JSON string: the quote, the backslash and the control characters
below the space are escaped, five of them by a letter, and every other
character stands for itself.
-/

namespace SqlStatement

namespace Text

def jsonLetter? (c : Char) : Option Char :=
  if c = '\x22' then some '\x22'
  else if c = '\x5c' then some '\x5c'
  else if c = '\x08' then some 'b'
  else if c = '\x0c' then some 'f'
  else if c = '\n' then some 'n'
  else if c = '\r' then some 'r'
  else if c = '\t' then some 't'
  else none

def hexDigit (n : Nat) : Char :=
  if n < 10 then Char.ofNat (48 + n) else Char.ofNat (87 + n)

def jsonChar (c : Char) : List Char :=
  match jsonLetter? c with
  | some letter => ['\x5c', letter]
  | none =>
      if c.toNat < 0x20 then
        ['\x5c', 'u', '0', '0', hexDigit (c.toNat / 16), hexDigit (c.toNat % 16)]
      else [c]

def jsonChars (s : List Char) : List Char :=
  '\x22' :: s.flatMap jsonChar ++ ['\x22']

def jsonString (s : String) : String :=
  String.ofList (jsonChars s.toList)

example : jsonString "a\"\n\x01é/" = "\"a\\\"\\n\\u0001é/\"" := by
  decide +kernel

end Text

end SqlStatement
