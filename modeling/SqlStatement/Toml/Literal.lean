import SqlStatement.Toml.Blank

/-!
# TOML strings and keys

The four kinds of string: basic ones with escapes and literal ones without, each
on one line or on several.  A reader of a body takes the text behind the opening
quotes and gives the characters read together with what stands behind the
closing ones.  Keys are bare words or strings on one line.

A reader that loops over escapes takes fuel; the length of the text is enough.
-/

namespace SqlStatement

namespace Toml

def hexValue? (c : Char) : Option Nat :=
  if c.isDigit then some (c.toNat - 48)
  else if 'a' ≤ c ∧ c ≤ 'f' then some (c.toNat - 87)
  else if 'A' ≤ c ∧ c ≤ 'F' then some (c.toNat - 55)
  else none

def hexCode? : Nat → Nat → List Char → Option (Nat × List Char)
  | 0, value, s => some (value, s)
  | _ + 1, _, [] => none
  | count + 1, value, c :: rest => do
      let digit ← hexValue? c
      hexCode? count (16 * value + digit) rest

def codedChar? (count : Nat) (s : List Char) : Option (Char × List Char) := do
  let (code, rest) ← hexCode? count 0 s
  if code.isValidChar then some (Char.ofNat code, rest) else none

def escapedChar? : List Char → Option (Char × List Char)
  | [] => none
  | c :: rest =>
      if c = 'b' then some ('\x08', rest)
      else if c = 't' then some ('\t', rest)
      else if c = 'n' then some ('\n', rest)
      else if c = 'f' then some ('\x0c', rest)
      else if c = 'r' then some ('\r', rest)
      else if c = 'e' then some ('\x1b', rest)
      else if c = '\x22' ∨ c = '\x5c' then some (c, rest)
      else if c = 'x' then codedChar? 2 rest
      else if c = 'u' then codedChar? 4 rest
      else if c = 'U' then codedChar? 8 rest
      else none

def consRead (c : Char) (result : Option (List Char × List Char)) :
    Option (List Char × List Char) :=
  result.map fun (read, rest) => (c :: read, rest)

def basicBody? : Nat → List Char → Option (List Char × List Char)
  | 0, _ => none
  | _ + 1, [] => none
  | fuel + 1, c :: rest =>
      if c = '\x22' then some ([], rest)
      else if c = '\x5c' then do
        let (escaped, rest) ← escapedChar? rest
        consRead escaped (basicBody? fuel rest)
      else if isPlain c then consRead c (basicBody? fuel rest)
      else none

def literalBody? : List Char → Option (List Char × List Char)
  | [] => none
  | c :: rest =>
      if c = '\x27' then some ([], rest)
      else if isPlain c then consRead c (literalBody? rest)
      else none

/--
The end of a string on several lines, if its quotes stand here: three of them,
or up to five, of which the first two then belong to the string.
-/
def closing? (quote : Char) (s : List Char) : Option (List Char × List Char) :=
  let run := ((s.take 5).takeWhile fun c => c = quote).length
  if 3 ≤ run then some (List.replicate (run - 3) quote, s.drop run) else none

def skipLines : List Char → List Char
  | [] => []
  | '\r' :: '\n' :: rest => skipLines rest
  | c :: rest => if isBlank c ∨ c = '\n' then skipLines rest else c :: rest

/-- A line end behind a backslash joins the lines, and the blanks and line ends after it go too. -/
def joinedLine? (s : List Char) : Option (List Char) := do
  let after ← lineFeed? (skipBlanks s)
  return skipLines after

def longBasicBody? : Nat → List Char → Option (List Char × List Char)
  | 0, _ => none
  | _ + 1, [] => none
  | fuel + 1, c :: rest =>
      match closing? '\x22' (c :: rest) with
      | some closed => some closed
      | none =>
          if c = '\x5c' then
            match joinedLine? rest with
            | some rest => longBasicBody? fuel rest
            | none => do
                let (escaped, rest) ← escapedChar? rest
                consRead escaped (longBasicBody? fuel rest)
          else if isPlain c ∨ (lineFeed? (c :: rest)).isSome then
            consRead c (longBasicBody? fuel rest)
          else none

def longLiteralBody? : List Char → Option (List Char × List Char)
  | [] => none
  | c :: rest =>
      match closing? '\x27' (c :: rest) with
      | some closed => some closed
      | none =>
          if isPlain c ∨ (lineFeed? (c :: rest)).isSome then consRead c (longLiteralBody? rest)
          else none

/-- A line end right behind the opening quotes does not belong to the string. -/
def dropFirstLine (s : List Char) : List Char :=
  (lineFeed? s).getD s

def whole? : Option (List Char × List Char) → Option String
  | some (read, []) => some (String.ofList read)
  | _ => none

def string? (text : List Char) : Option String :=
  match text with
  | '\x22' :: '\x22' :: '\x22' :: rest =>
      whole? (longBasicBody? rest.length (dropFirstLine rest))
  | '\x22' :: rest => whole? (basicBody? rest.length rest)
  | '\x27' :: '\x27' :: '\x27' :: rest => whole? (longLiteralBody? (dropFirstLine rest))
  | '\x27' :: rest => whole? (literalBody? rest)
  | _ => none

def isBareKeyChar (c : Char) : Bool :=
  c.isAlphanum ∨ c = '_' ∨ c = '-'

/-- The key that a text stands for: a string on one line, or a bare word. -/
def key? (text : List Char) : Option String :=
  match text with
  | [] => none
  | '\x22' :: '\x22' :: '\x22' :: _ => none
  | '\x27' :: '\x27' :: '\x27' :: _ => none
  | c :: rest =>
      if c = '\x22' ∨ c = '\x27' then string? (c :: rest)
      else if (c :: rest).all isBareKeyChar then some (String.ofList (c :: rest))
      else none

end Toml

end SqlStatement
