import SqlStatement.Toml.Literal
import SqlStatement.Toml.Value

/-!
# TOML numbers

Whole numbers in four bases and floating-point numbers, each read from a
complete word.  Underscores stand between digits only, and a decimal number has
no zero in front.  Some words have the form of a whole number and still stand
for none; they are values of that type, and illegible.
-/

namespace SqlStatement

namespace Toml

/-- Digits with single underscores between them: the digits alone. -/
def groupedDigits? (isDigit : Char → Bool) : List Char → Option (List Char)
  | [] => none
  | [c] => if isDigit c then some [c] else none
  | c :: '_' :: rest =>
      if isDigit c then (groupedDigits? isDigit rest).map (c :: ·) else none
  | c :: rest =>
      if isDigit c then (groupedDigits? isDigit rest).map (c :: ·) else none

def valueInBase (base : Nat) (digits : List Char) : Nat :=
  digits.foldl (fun value c => base * value + (hexValue? c).getD 0) 0

def decimalDigits? (word : List Char) : Option (List Char) := do
  let digits ← groupedDigits? Char.isDigit word
  match digits with
  | '0' :: _ :: _ => none
  | _ => some digits

def signed : List Char → Bool × List Char
  | '-' :: rest => (true, rest)
  | '+' :: rest => (false, rest)
  | s => (false, s)

/-- Digits of a base; there may be none. -/
def basedDigits? (base : Nat) (isDigit : Char → Bool) (figures : List Char) : Option Value :=
  if figures.isEmpty then some .illegible
  else (groupedDigits? isDigit figures).map fun digits => .integer (valueInBase base digits)

def basedInteger? : List Char → Option Value
  | '0' :: 'x' :: figures => basedDigits? 16 (fun c => (hexValue? c).isSome) figures
  | '0' :: 'o' :: figures => basedDigits? 8 (fun c => '0' ≤ c ∧ c ≤ '7') figures
  | '0' :: 'b' :: figures => basedDigits? 2 (fun c => c = '0' ∨ c = '1') figures
  | _ => none

def endsWholePart (c : Char) : Bool :=
  c = '.' ∨ c = 'e' ∨ c = 'E'

def isGrouped : List Char → Bool
  | [] => true
  | ['_'] => false
  | c :: '_' :: d :: rest =>
      (hexValue? c).isSome && (hexValue? d).isSome && isGrouped (d :: rest)
  | c :: rest => c ≠ '_' && isGrouped rest

/--
A decimal whole number without its sign.  One whose digits are grouped from the
front is of this type whatever follows, unless a point, an exponent or a space
does; it is legible if all of it is digits.
-/
def decimalInteger? (negative : Bool) (figures : List Char) : Option Value :=
  match decimalDigits? figures with
  | some digits =>
      let magnitude : Int := valueInBase 10 digits
      some (.integer (if negative then -magnitude else magnitude))
  | none =>
      let lead := figures.takeWhile Char.isDigit
      let behind := figures.dropWhile Char.isDigit
      if lead.isEmpty ∨ lead.head? = some '0' ∨ behind.head? ≠ some '_'
        ∨ behind.any (fun c => endsWholePart c ∨ c = ' ') then none
      else if isGrouped figures then some .illegible
      else none

def integer? (word : List Char) : Option Value :=
  match basedInteger? word with
  | some value => some value
  | none =>
      let (negative, figures) := signed word
      decimalInteger? negative figures

/-- The fraction behind a point, none if no point stands here, and the text after it. -/
def fraction? : List Char → Option (List Char × List Char)
  | '.' :: rest => do
      let digits ← groupedDigits? Char.isDigit (rest.takeWhile fun c => !endsWholePart c)
      return (digits, rest.dropWhile fun c => !endsWholePart c)
  | s => some ([], s)

def exponent? : List Char → Option Int
  | [] => some 0
  | c :: rest =>
      if c = 'e' ∨ c = 'E' then do
        let (negative, figures) := signed rest
        let digits ← groupedDigits? Char.isDigit figures
        let magnitude : Int := valueInBase 10 digits
        return if negative then -magnitude else magnitude
      else none

def float? (word : List Char) : Option Float :=
  let (negative, figures) := signed word
  if figures = "inf".toList then some (.infinity negative)
  else if figures = "nan".toList then some .nan
  else do
    let whole ← decimalDigits? (figures.takeWhile fun c => !endsWholePart c)
    let behind := figures.dropWhile fun c => !endsWholePart c
    if behind.isEmpty then none
    else do
      let (fraction, rest) ← fraction? behind
      let exponent ← exponent? rest
      return .decimal negative ⟨valueInBase 10 (whole ++ fraction), exponent - fraction.length⟩

end Toml

end SqlStatement
