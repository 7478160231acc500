import SqlStatement.Toml.Blank

/-!
# The tokens of a TOML document

Every text is cut into tokens, whether it is a document or not.  What stands
between quotes is one token, up to its closing quotes or as far as a string of
its kind can go without them; a word goes on up to a blank, a line end or a
punctuation mark.  What the tokens mean is not asked here.
-/

namespace SqlStatement

namespace Toml

inductive Token where
  | dot
  | equals
  | comma
  | openBracket
  | closeBracket
  | openBrace
  | closeBrace
  | lineEnd
  /-- A carriage return without a line feed. -/
  | strayReturn
  | blank (text : List Char)
  /-- A comment, without its mark. -/
  | comment (text : List Char)
  /-- A string of any kind with its quotes. -/
  | quoted (text : List Char)
  /-- Anything else; quotes may stand inside it. -/
  | word (text : List Char)
  deriving DecidableEq

/-- The end of a basic string on one line, `n` characters behind its start when here. -/
def basicEnd (n : Nat) : List Char → Nat
  | '\x5c' :: '\x5c' :: rest => basicEnd (n + 2) rest
  | '\x5c' :: '\x22' :: rest => basicEnd (n + 2) rest
  | '\x22' :: _ => n + 1
  | '\n' :: _ => n
  | _ :: rest => basicEnd (n + 1) rest
  | [] => n

def literalEnd (n : Nat) : List Char → Nat
  | '\x27' :: _ => n + 1
  | '\n' :: _ => n
  | _ :: rest => literalEnd (n + 1) rest
  | [] => n

/-- Up to two more quotes in front of the closing ones belong to the string. -/
def spareQuotes (quote : Char) (s : List Char) : Nat :=
  ((s.take 2).takeWhile fun c => c = quote).length

def longBasicEnd (n : Nat) : List Char → Nat
  | '\x5c' :: '\x5c' :: rest => longBasicEnd (n + 2) rest
  | '\x5c' :: '\x22' :: rest => longBasicEnd (n + 2) rest
  | '\x22' :: '\x22' :: '\x22' :: rest => n + 3 + spareQuotes '\x22' rest
  | _ :: rest => longBasicEnd (n + 1) rest
  | [] => n

def longLiteralEnd (n : Nat) : List Char → Nat
  | '\x27' :: '\x27' :: '\x27' :: rest => n + 3 + spareQuotes '\x27' rest
  | _ :: rest => longLiteralEnd (n + 1) rest
  | [] => n

/-- The length of the string at the front of a text, and zero if no quote stands there. -/
def quotedLength : List Char → Nat
  | '\x22' :: '\x22' :: '\x22' :: rest => longBasicEnd 3 rest
  | '\x22' :: rest => basicEnd 1 rest
  | '\x27' :: '\x27' :: '\x27' :: rest => longLiteralEnd 3 rest
  | '\x27' :: rest => literalEnd 1 rest
  | _ => 0

def mark? (c : Char) : Option Token :=
  if c = '.' then some .dot
  else if c = '=' then some .equals
  else if c = ',' then some .comma
  else if c = '[' then some .openBracket
  else if c = ']' then some .closeBracket
  else if c = '\x7b' then some .openBrace
  else if c = '\x7d' then some .closeBrace
  else none

def isInLine (c : Char) : Bool :=
  c ≠ '\r' ∧ c ≠ '\n'

def isWordChar (c : Char) : Bool :=
  (mark? c).isNone && !isBlank c && isInLine c && c ≠ '#'

def Token.read (c : Char) (rest : List Char) : Token × List Char :=
  match mark? c with
  | some mark => (mark, rest)
  | none =>
      match lineFeed? (c :: rest) with
      | some rest => (.lineEnd, rest)
      | none =>
          if c = '\r' then (.strayReturn, rest)
          else if c = '#' then (.comment (rest.takeWhile isInLine), rest.dropWhile isInLine)
          else if isBlank c then (.blank (c :: rest.takeWhile isBlank), rest.dropWhile isBlank)
          else if c = '\x22' ∨ c = '\x27' then
            let length := quotedLength (c :: rest)
            (.quoted ((c :: rest).take length), (c :: rest).drop length)
          else (.word (c :: rest.takeWhile isWordChar), rest.dropWhile isWordChar)

/-- Fuelled tokens on top of those read so far, of which the last stands first. -/
def tokensFrom : Nat → List Token → List Char → List Token
  | 0, read, _ => read.reverse
  | _ + 1, read, [] => read.reverse
  | fuel + 1, read, c :: rest =>
      let (token, rest) := Token.read c rest
      tokensFrom fuel (token :: read) rest

/-- The tokens of a text.  Every token takes a character, so its length is fuel enough. -/
def tokens (s : List Char) : List Token :=
  tokensFrom s.length [] s

example : tokens "a.b = \"x\" # c".toList =
    [.word ['a'], .dot, .word ['b'], .blank [' '], .equals, .blank [' '],
      .quoted "\"x\"".toList, .blank [' '], .comment " c".toList] := by
  decide +kernel

end Toml

end SqlStatement
