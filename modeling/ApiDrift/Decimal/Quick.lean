import ApiDrift.Decimal.Binary

/-!
# Quick reading of numerals

A quick reading keeps the leading digits that fit 64 bits, rounds them to a binary number, and multiplies or divides that by a power of ten, which rounds again. It can miss the nearest number in the last place, and it finds a few numerals too large that would just round down to the largest number.
-/

namespace ApiDrift.Decimal

/-- Takes digits for as long as the whole number that they write has 64 bits, and gives the digits left over. -/
def takeFitting (value : Nat) : List Char → Nat × List Char
  | [] => (value, [])
  | digit :: rest =>
    let next := 10 * value + (digit.toNat - '0'.toNat)
    if next < UInt64.size then takeFitting next rest else (value, digit :: rest)

namespace Numeral

/-- The digits that a quick reading keeps. A digit of the fraction may still fit where one of the whole part did not. -/
def leading (numeral : Numeral) : Scaled :=
  let fraction := numeral.fraction.getD []
  let (whole, left) := takeFitting 0 numeral.whole
  let (digits, unread) := takeFitting whole fraction
  ⟨digits, numeral.exponent + left.length - (fraction.length - unread.length : Nat)⟩

/-- The number that a quick reading gives; a numeral that is too large gives none. -/
def quick? (numeral : Numeral) : Option Binary := do
  let start ← Binary.nearest? numeral.negative numeral.leading.digits 1
  let power := numeral.leading.power
  if start.significand = 0 then some start
  else if power < 0 then some (start.downBy (-power).toNat)
  else if power ≤ Binary.lastTen then start.times? (Binary.ten power.toNat)
  else none

end Numeral

end ApiDrift.Decimal
