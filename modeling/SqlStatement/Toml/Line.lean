import SqlStatement.Toml.Token

/-!
# The lines of a TOML document

A document is a list of headers and of keys with values.  Values nest: the
readers of terms, of the items of an array and of the pairs of an inline table
call each other, and `nestingLimit` bounds how deep they go.  Keys and values
are kept as they are written; what a word or a string stands for is not asked
here.  A key or a value that is missing is an empty text, which stands for
nothing: most places let it pass, and it fails when it is read.
-/

namespace SqlStatement

namespace Toml

/-- How many arrays and inline tables may enclose a value. -/
def nestingLimit : Nat :=
  80

inductive Term where
  | scalar (text : List Char)
  | array (items : List Term)
  /-- An inline table: paths of keys, each with a value. -/
  | table (pairs : List (List (List Char) × Term))

inductive Line where
  | entry (path : List (List Char)) (value : Term)
  | table (path : List (List Char))
  /-- The header of the next table of a list. -/
  | next (path : List (List Char))

namespace Token

def isVoid : Token → Bool
  | blank _ | comment _ | lineEnd => true
  | _ => false

/-- A comment holds plain characters, and a carriage return does not stand alone. -/
def isSound : Token → Bool
  | comment text => text.all isPlain
  | strayReturn => false
  | _ => true

end Token

def skipBlank : List Token → List Token
  | .blank _ :: rest => rest
  | tokens => tokens

def skipVoid (tokens : List Token) : List Token :=
  tokens.dropWhile Token.isVoid

def key : List Token → List Char × List Token
  | .word text :: rest => (text, rest)
  | .quoted text :: rest => (text, rest)
  | tokens => ([], tokens)

/-- Keys joined by points, and what stands behind them without its blanks. -/
def path : Nat → List Token → List (List Char) × List Token
  | 0, tokens => ([], tokens)
  | fuel + 1, tokens =>
      let (first, rest) := key (skipBlank tokens)
      match skipBlank rest with
      | .dot :: rest =>
          let (keys, rest) := path fuel rest
          (first :: keys, rest)
      | rest => ([first], rest)

/--
Words and points in a row.  A blank in front of a word belongs to it, because a
date may go on with a time; a blank in front of a point ends it.
-/
def phrase : List Token → List Char × List Token
  | .word text :: rest =>
      let (more, rest) := phrase rest
      (text ++ more, rest)
  | .dot :: rest =>
      let (more, rest) := phrase rest
      ('.' :: more, rest)
  | .blank gap :: .word text :: rest =>
      let (more, rest) := phrase rest
      (gap ++ text ++ more, rest)
  | tokens => ([], tokens)

mutual

def term? : Nat → Nat → List Token → Option (Term × List Token)
  | 0, _, _ => none
  | _ + 1, 0, .openBracket :: _ => none
  | fuel + 1, depth + 1, .openBracket :: rest => do
      let (items, rest) ← items? fuel depth (skipVoid rest)
      return (.array items, rest)
  | _ + 1, 0, .openBrace :: _ => none
  | fuel + 1, depth + 1, .openBrace :: rest => do
      let (pairs, rest) ← pairs? fuel depth (skipVoid rest)
      return (.table pairs, rest)
  | _ + 1, _, .quoted text :: rest => some (.scalar text, rest)
  | _ + 1, _, .word text :: rest =>
      let (text, rest) := phrase (.word text :: rest)
      some (.scalar text, rest)
  | _ + 1, _, .dot :: rest =>
      let (text, rest) := phrase (.dot :: rest)
      some (.scalar text, rest)
  | _ + 1, _, [] => some (.scalar [], [])
  | _ + 1, _, .lineEnd :: rest => some (.scalar [], .lineEnd :: rest)
  | _ + 1, _, .comment text :: rest => some (.scalar [], .comment text :: rest)
  | _ + 1, _, _ => none

def items? : Nat → Nat → List Token → Option (List Term × List Token)
  | 0, _, _ => none
  | _ + 1, _, .closeBracket :: rest => some ([], rest)
  | fuel + 1, depth, tokens => do
      let (item, rest) ← term? fuel depth tokens
      match skipVoid rest with
      | .comma :: rest => do
          let (items, rest) ← items? fuel depth (skipVoid rest)
          return (item :: items, rest)
      | .closeBracket :: rest => return ([item], rest)
      | _ => none

/--
The pairs of an inline table, up to its closing brace; a comma may stand behind
the last one.  The brace may also stand where a value is missing.
-/
def pairs? : Nat → Nat → List Token → Option (List (List (List Char) × Term) × List Token)
  | 0, _, _ => none
  | _ + 1, _, .closeBrace :: rest => some ([], rest)
  | fuel + 1, depth, tokens =>
      let (keys, rest) := path fuel tokens
      match skipVoid rest with
      | .closeBrace :: rest => some ([(keys, .scalar [])], rest)
      | .equals :: rest =>
          match skipVoid rest with
          | .closeBrace :: rest => some ([(keys, .scalar [])], rest)
          | rest => do
              let (value, rest) ← term? fuel depth rest
              match skipVoid rest with
              | .comma :: rest => do
                  let (pairs, rest) ← pairs? fuel depth (skipVoid rest)
                  return ((keys, value) :: pairs, rest)
              | .closeBrace :: rest => return ([(keys, value)], rest)
              | _ => none
      | _ => none

end

def breaksOff (keys : List (List Char)) : Bool :=
  keys.getLast? = some []

def skipLine (tokens : List Token) : List Token :=
  tokens.dropWhile fun token => token ≠ .lineEnd

/--
The expression at the front of the tokens.  A header whose path breaks off need
not be closed; the rest of its line does not count.
-/
def line? (fuel : Nat) : List Token → Option (Line × List Token)
  | .openBracket :: .openBracket :: rest =>
      match path fuel rest with
      | (keys, .closeBracket :: .closeBracket :: rest) => some (.next keys, rest)
      | (_, .closeBracket :: _) => none
      | (keys, rest) => if breaksOff keys then some (.next keys, skipLine rest) else none
  | .openBracket :: rest =>
      match path fuel rest with
      | (keys, .closeBracket :: rest) => some (.table keys, rest)
      | (keys, rest) => if breaksOff keys then some (.table keys, skipLine rest) else none
  | tokens =>
      match path fuel tokens with
      | (keys, .equals :: rest) => do
          let (value, rest) ← term? fuel nestingLimit (skipBlank rest)
          return (.entry keys value, rest)
      | _ => none

def endLine? (tokens : List Token) : Option (List Token) :=
  match skipBlank tokens with
  | [] => some []
  | .lineEnd :: rest => some rest
  | [.comment _] => some []
  | .comment _ :: .lineEnd :: rest => some rest
  | _ => none

def linesFrom? : Nat → List Line → List Token → Option (List Line)
  | 0, _, _ => none
  | fuel + 1, read, tokens =>
      match skipVoid tokens with
      | [] => some read.reverse
      | tokens => do
          let (line, rest) ← line? fuel tokens
          linesFrom? fuel (line :: read) (← endLine? rest)

/--
The expressions of a document.  No reader takes more than two steps without
taking a token, so twice their number is fuel enough.
-/
def lines? (tokens : List Token) : Option (List Line) :=
  if tokens.all Token.isSound then linesFrom? (2 * tokens.length + 4) [] tokens else none

end Toml

end SqlStatement
