/-!
# Decimals

Non-negative decimal numbers as written: digits and a power of ten.
-/

namespace SqlStatement

/-- The number `digits * 10 ^ exponent`. -/
structure Decimal where
  digits : Nat
  exponent : Int
  deriving DecidableEq

namespace Decimal

def figures (n : Nat) : List Char :=
  Nat.toDigits 10 n

/-- The number of places left of the point, negative for a number with zeros behind it. -/
def places (d : Decimal) : Int :=
  (figures d.digits).length + d.exponent

def positional (d : Decimal) : String :=
  let figures := figures d.digits
  if 0 ≤ d.exponent then
    String.ofList (figures ++ List.replicate d.exponent.toNat '0' ++ ['.', '0'])
  else if 0 < d.places then
    String.ofList (figures.take d.places.toNat ++ '.' :: figures.drop d.places.toNat)
  else
    String.ofList ('0' :: '.' :: List.replicate (-d.places).toNat '0' ++ figures)

example : (Decimal.mk 15 (-1)).positional = "1.5" ∧ (Decimal.mk 1 3).positional = "1000.0" ∧
    (Decimal.mk 25 (-4)).positional = "0.0025" := by
  decide +kernel

end Decimal

end SqlStatement
