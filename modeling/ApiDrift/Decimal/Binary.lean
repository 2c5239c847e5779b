import ApiDrift.Decimal.Numeral

/-!
# Binary floating point

A finite number of the 64-bit binary format is a significand of at most 53 bits times a power of two that is not below the 1074th negative one. A decimal is rounded to the nearest such number, and of two equally near ones to the one with the even significand. What rounds beyond the largest one is no number.
-/

namespace ApiDrift.Decimal

structure Binary where
  negative : Bool := false
  significand : Nat
  power : Int
  deriving DecidableEq

/-- The nearest whole number to a quotient; a tie goes to the even one. -/
def nearestEven (numerator denominator : Nat) : Nat :=
  let quotient := numerator / denominator
  let twice := 2 * (numerator % denominator)
  if twice < denominator then quotient
  else if denominator < twice then quotient + 1
  else quotient + quotient % 2

/-- A quotient multiplied by a power of two, as a quotient again. -/
def timesTwoPower (numerator denominator : Nat) (power : Int) : Nat × Nat :=
  (numerator * Nat.pow 2 power.toNat, denominator * Nat.pow 2 (-power).toNat)

namespace Binary

def zero : Binary := ⟨false, 0, -1074⟩

/-- The power of two at which the significand of a quotient has 53 bits, or fewer at the least power. -/
def powerFor (numerator denominator : Nat) : Int :=
  let guess : Int := (numerator.log2 : Int) - denominator.log2 - 52
  let scaled := timesTwoPower numerator denominator (-guess)
  max (if scaled.1 / scaled.2 < Nat.pow 2 52 then guess - 1 else guess) (-1074)

/-- The number nearest to a quotient. -/
def nearest? (negative : Bool) (numerator denominator : Nat) : Option Binary :=
  if numerator = 0 then some { zero with negative := negative }
  else
    let power := powerFor numerator denominator
    let scaled := timesTwoPower numerator denominator (-power)
    let significand := nearestEven scaled.1 scaled.2
    let rounded : Binary :=
      if significand < Nat.pow 2 53 then ⟨negative, significand, power⟩
      else ⟨negative, significand / 2, power + 1⟩
    if rounded.power ≤ 971 then some rounded else none

/-- The number nearest to a numeral. Numerals far outside the format are settled by their number of digits. -/
def ofNumeral? (numeral : Numeral) : Option Binary :=
  let significand := numeral.significand
  if significand = 0 then some { zero with negative := numeral.negative }
  else
    let digits : Int := (Nat.toDigits 10 significand).length
    if 310 < digits + numeral.scale then none
    else if digits + numeral.scale < -330 then some { zero with negative := numeral.negative }
    else
      nearest? numeral.negative (significand * Nat.pow 10 numeral.scale.toNat)
        (Nat.pow 10 (-numeral.scale).toNat)

/-- The magnitude as a quotient. -/
def quotient (number : Binary) : Nat × Nat := timesTwoPower number.significand 1 number.power

def times? (a b : Binary) : Option Binary :=
  nearest? a.negative (a.quotient.1 * b.quotient.1) (a.quotient.2 * b.quotient.2)

/-- Divides by a number that is not below one, so that nothing becomes too large. -/
def dividedBy (a b : Binary) : Binary :=
  (nearest? a.negative (a.quotient.1 * b.quotient.2) (a.quotient.2 * b.quotient.1)).getD a

/-- The largest power of ten that the format has a number near to. -/
def lastTen : Nat := 308

def ten (power : Nat) : Binary := (nearest? false (Nat.pow 10 power) 1).getD zero

/-- Divides by a power of ten, in steps that the format can hold. Two full steps leave nothing of a number of 64 bits. -/
def downBy (number : Binary) (power : Nat) : Binary :=
  if power ≤ lastTen then number.dividedBy (ten power)
  else if power ≤ 2 * lastTen then (number.dividedBy (ten lastTen)).dividedBy (ten (power - lastTen))
  else { zero with negative := number.negative }

end Binary

/-- A numeral beyond the largest binary number stands for nothing. -/
def Numeral.overflows (numeral : Numeral) : Bool := (Binary.ofNumeral? numeral).isNone

end ApiDrift.Decimal
