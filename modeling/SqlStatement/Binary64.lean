import SqlStatement.Decimal

/-!
# Binary numbers of 64 bits

Non-negative finite numbers with 53 binary places: the one nearest to a decimal,
and the shortest decimal that reads back as a given one.  Everything is exact
arithmetic on natural numbers.
-/

namespace SqlStatement

/-- The number `mantissa * 2 ^ exponent`. -/
structure Binary64 where
  mantissa : Nat
  exponent : Int
  deriving DecidableEq

namespace Binary64

def leastExponent : Int :=
  -1074

def greatestExponent : Int :=
  971

/-- A quotient to the nearest whole number; of two, the even one. -/
def roundedQuotient (numerator denominator : Nat) : Nat :=
  let quotient := numerator / denominator
  let doubled := 2 * (numerator % denominator)
  if denominator < doubled ∨ (doubled = denominator ∧ quotient % 2 = 1) then quotient + 1
  else quotient

def roundedAt (numerator denominator : Nat) (exponent : Int) : Binary64 :=
  let mantissa :=
    roundedQuotient (numerator * Nat.pow 2 (-exponent).toNat)
      (denominator * Nat.pow 2 exponent.toNat)
  if mantissa = Nat.pow 2 53 then ⟨Nat.pow 2 52, exponent + 1⟩ else ⟨mantissa, exponent⟩

/-- The exponent that leaves `numerator / denominator` 53 binary places, or all there are. -/
def fittingExponent (numerator denominator : Nat) : Int :=
  let estimate := (Nat.log2 numerator : Int) - Nat.log2 denominator - 53
  let wide :=
    numerator * Nat.pow 2 (-estimate).toNat / (denominator * Nat.pow 2 estimate.toNat)
  max leastExponent (if wide < Nat.pow 2 53 then estimate else estimate + 1)

/--
The number nearest to a decimal, and nothing if that is beyond the largest one.
Decimals far outside the range are told by their places alone.
-/
def ofDecimal? (d : Decimal) : Option Binary64 :=
  if d.digits = 0 ∨ d.places < -330 then some ⟨0, leastExponent⟩
  else if 310 < d.places then none
  else
    let numerator := d.digits * Nat.pow 10 d.exponent.toNat
    let denominator := Nat.pow 10 (-d.exponent).toNat
    let number := roundedAt numerator denominator (fittingExponent numerator denominator)
    if greatestExponent < number.exponent then none else some number

def compareScaled (a : Nat) (i : Int) (b : Nat) (j : Int) : Ordering :=
  compare (a * Nat.pow 10 i.toNat * Nat.pow 2 (-j).toNat)
    (b * Nat.pow 2 j.toNat * Nat.pow 10 (-i).toNat)

def narrowBelow (number : Binary64) : Bool :=
  -- The gap below a power of two is half the gap above it.
  number.mantissa = Nat.pow 2 52 && leastExponent < number.exponent

/--
Whether a decimal reads back as the number: it lies no farther away than halfway
to the neighbours, and the halfway points themselves go to the even mantissa.
-/
def readsBack (number : Binary64) (d : Decimal) : Bool :=
  let lower := if number.narrowBelow then 4 * number.mantissa - 1 else 4 * number.mantissa - 2
  let upper := 4 * number.mantissa + 2
  let atEnd := number.mantissa % 2 = 0
  let fromBelow := compareScaled d.digits d.exponent lower (number.exponent - 2)
  let fromAbove := compareScaled d.digits d.exponent upper (number.exponent - 2)
  (fromBelow = .gt ∨ (atEnd ∧ fromBelow = .eq)) ∧ (fromAbove = .lt ∨ (atEnd ∧ fromAbove = .eq))

def floorAt (number : Binary64) (exponent : Int) : Nat :=
  number.mantissa * Nat.pow 2 number.exponent.toNat * Nat.pow 10 (-exponent).toNat
    / (Nat.pow 2 (-number.exponent).toNat * Nat.pow 10 exponent.toNat)

/-- The nearer of the two multiples of `10 ^ exponent` around the number, the upper one of two. -/
def nearestAt (number : Binary64) (exponent : Int) : Decimal :=
  let below := number.floorAt exponent
  match compareScaled (2 * below + 1) exponent (2 * number.mantissa) number.exponent with
  | .gt => ⟨below, exponent⟩
  | _ => ⟨below + 1, exponent⟩

/-- The multiple of `10 ^ exponent` that reads back, the nearer one if both neighbours do. -/
def candidateAt? (number : Binary64) (exponent : Int) : Option Decimal :=
  let below : Decimal := ⟨number.floorAt exponent, exponent⟩
  let above : Decimal := ⟨number.floorAt exponent + 1, exponent⟩
  match number.readsBack below, number.readsBack above with
  | true, true => some (number.nearestAt exponent)
  | true, false => some below
  | false, true => some above
  | false, false => none

def searchFrom (number : Binary64) : Nat → Int → Decimal
  | 0, exponent => number.nearestAt exponent
  | fuel + 1, exponent =>
      match number.candidateAt? exponent with
      | some d => d
      | none => searchFrom number fuel (exponent - 1)

def coarseExponent (number : Binary64) : Int :=
  -- The decimal logarithm of two is a little less than 0.30103.
  ((Nat.log2 number.mantissa : Int) + number.exponent + 1) * 30103 / 100000 + 1

/--
The decimal with the fewest digits that reads back.  Seventeen digits always do,
and the search begins above the number, so twenty grids are enough.
-/
def shortest (number : Binary64) : Decimal :=
  if number.mantissa = 0 then ⟨0, 0⟩ else number.searchFrom 20 number.coarseExponent

example : (ofDecimal? ⟨25, -1⟩).map shortest = some ⟨25, -1⟩ ∧
    (ofDecimal? ⟨1, 3⟩).map shortest = some ⟨1, 3⟩ ∧
    (ofDecimal? ⟨1, 400⟩).map shortest = none := by
  decide +kernel

end Binary64

end SqlStatement
