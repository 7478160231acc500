/-!
# TOML dates and times

A date, a time of day, or a date with a time and perhaps an offset.  Days exist
in the calendar; a minute may have a second more, and seconds may be left out.
-/

namespace SqlStatement

namespace Toml

def twoDigits? : List Char → Option (Nat × List Char)
  | a :: b :: rest =>
      if a.isDigit ∧ b.isDigit then some (10 * (a.toNat - 48) + (b.toNat - 48), rest) else none
  | _ => none

def after? (c : Char) : List Char → Option (List Char)
  | d :: rest => if d = c then some rest else none
  | [] => none

def isLeapYear (year : Nat) : Bool :=
  (year % 4 = 0 ∧ year % 100 ≠ 0) ∨ year % 400 = 0

/-- The number of days in a month; months that do not exist have none. -/
def daysIn (year month : Nat) : Nat :=
  if month = 2 then if isLeapYear year then 29 else 28
  else if month = 4 ∨ month = 6 ∨ month = 9 ∨ month = 11 then 30
  else if 1 ≤ month ∧ month ≤ 12 then 31
  else 0

/-- The text behind a date of the calendar. -/
def date? (s : List Char) : Option (List Char) := do
  let (century, s) ← twoDigits? s
  let (year, s) ← twoDigits? s
  let (month, s) ← twoDigits? (← after? '-' s)
  let (day, s) ← twoDigits? (← after? '-' s)
  if 1 ≤ day ∧ day ≤ daysIn (100 * century + year) month then some s else none

/-- The text behind the parts of a second, if a point stands here. -/
def secondParts? : List Char → Option (List Char)
  | '.' :: rest =>
      if (rest.takeWhile Char.isDigit).isEmpty then none else some (rest.dropWhile Char.isDigit)
  | s => some s

def seconds? : List Char → Option (List Char)
  | ':' :: rest => do
      let (second, rest) ← twoDigits? rest
      if second ≤ 60 then secondParts? rest else none
  | s => some s

def time? (s : List Char) : Option (List Char) := do
  let (hour, s) ← twoDigits? s
  let (minute, s) ← twoDigits? (← after? ':' s)
  if hour ≤ 23 ∧ minute ≤ 59 then seconds? s else none

def offset? : List Char → Option (List Char)
  | [] => some []
  | c :: rest =>
      if c = 'Z' ∨ c = 'z' then some rest
      else if c = '+' ∨ c = '-' then do
        let (hour, rest) ← twoDigits? rest
        let (minute, rest) ← twoDigits? (← after? ':' rest)
        if hour ≤ 23 ∧ minute ≤ 59 then some rest else none
      else none

def isMoment (word : List Char) : Bool :=
  match date? word with
  | none => time? word = some []
  | some [] => true
  | some (c :: rest) =>
      (c = 'T' ∨ c = 't' ∨ c = ' ') ∧ (time? rest).bind offset? = some []

end Toml

end SqlStatement
