import ApiDrift.Decimal.Binary

/-!
# The shortest decimal that reads back

Each binary number is the nearest one to a whole interval of decimals around it. It is written with the fewest digits that fall into that interval, and of several such decimals as the nearest one. On a grid of decimals with one number of digits only the two neighbours of the binary number have to be tried.
-/

namespace ApiDrift.Decimal

/-- The power of ten with which the leading digit of a positive quotient counts. -/
def leadingPower (numerator denominator : Nat) : Int :=
  let guess : Int :=
    ((Nat.toDigits 10 numerator).length : Int) - (Nat.toDigits 10 denominator).length
  if numerator * Nat.pow 10 (-guess).toNat < denominator * Nat.pow 10 guess.toNat then guess - 1
  else guess

namespace Binary

/-- The ends of the interval that rounds to a number, with the number between them, in quarters of its last place. -/
structure Interval where
  low : Nat
  middle : Nat
  high : Nat
  closed : Bool
  deriving DecidableEq

/-- The gap below a power of two is half as wide as the gap above it. -/
def interval (number : Binary) : Interval :=
  let belowHalf := number.significand = Nat.pow 2 52 && -1074 < number.power
  ⟨4 * number.significand - (if belowHalf then 1 else 2), 4 * number.significand,
    4 * number.significand + 2, number.significand % 2 = 0⟩

/-- The interval in units in which a step of the grid of the given power of ten is a whole number, and that step. -/
def onGrid (number : Binary) (grid : Int) : Interval × Nat :=
  let unit := timesTwoPower 1 1 (number.power - 2)
  let scale := unit.1 * Nat.pow 10 (-grid).toNat
  let interval := number.interval
  (⟨interval.low * scale, interval.middle * scale, interval.high * scale, interval.closed⟩,
    unit.2 * Nat.pow 10 grid.toNat)

def Interval.contains (interval : Interval) (point : Nat) : Bool :=
  if interval.closed then interval.low ≤ point && point ≤ interval.high
  else interval.low < point && point < interval.high

/-- The nearest decimal of a grid that reads back; of two equally near ones the even one. -/
def onGrid? (number : Binary) (grid : Int) : Option Scaled :=
  let (interval, step) := number.onGrid grid
  let below := interval.middle / step
  let belowFits := interval.contains (below * step)
  let aboveFits := interval.contains ((below + 1) * step)
  if belowFits && aboveFits then some ⟨nearestEven interval.middle step, grid⟩
  else if belowFits then some ⟨below, grid⟩
  else if aboveFits then some ⟨below + 1, grid⟩
  else none

/-- The power of ten of the leading digit of a positive number. -/
def leading (number : Binary) : Int :=
  let value := timesTwoPower number.significand 1 number.power
  leadingPower value.1 value.2

/-- Seventeen digits are always enough. The first grid is the one above the leading digit, which may round up to a single digit there. -/
def shortest (number : Binary) : Scaled :=
  ((List.range 18).findSome? fun (more : Nat) => number.onGrid? (number.leading + 1 - more)).getD
    ⟨number.significand, 0⟩

end Binary

/-- Digits with a point in their midst, before or after them. -/
def positional (negative : Bool) (digits : List Char) (point : Int) : Numeral :=
  if point ≤ 0 then ⟨negative, ['0'], some (List.replicate (-point).toNat '0' ++ digits), none⟩
  else
    let whole := digits.take point.toNat
    let fraction := digits.drop point.toNat
    ⟨negative, whole ++ List.replicate (point.toNat - digits.length) '0',
      some (if fraction.isEmpty then ['0'] else fraction), none⟩

/-- Digits with the point after the first one and a power of ten. -/
def scientific (negative : Bool) (digits : List Char) (point : Int) : Numeral :=
  ⟨negative, digits.take 1, if digits.length = 1 then none else some (digits.drop 1),
    some (point - 1 < 0, Nat.toDigits 10 (point - 1).natAbs)⟩

/-- A number is written with a point among its digits, unless that takes more than sixteen places before the point or more than four zeros after it. -/
def Binary.numeral (number : Binary) : Numeral :=
  if number.significand = 0 then ⟨number.negative, ['0'], some ['0'], none⟩
  else
    let shortest := number.shortest
    let digits := Nat.toDigits 10 shortest.digits
    let point : Int := shortest.power + digits.length
    if -5 < point && point ≤ 16 then positional number.negative digits point
    else scientific number.negative digits point

/-- A number rounded to one place after the point; a tie goes to the even digit. -/
def Binary.oneDecimal (number : Binary) : Numeral :=
  let value := timesTwoPower (number.significand * 10) 1 number.power
  let tenths := nearestEven value.1 value.2
  ⟨number.negative, Nat.toDigits 10 (tenths / 10), some (Nat.toDigits 10 (tenths % 10)), none⟩

end ApiDrift.Decimal
