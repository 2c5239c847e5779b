/-!
# Numerals

A numeral is a number as it is written: perhaps a sign, decimal digits, perhaps digits after a point, perhaps a power of ten. Only bare digits write a whole number; the same value in any other spelling does not.
-/

namespace ApiDrift.Decimal

structure Numeral where
  negative : Bool := false
  whole : List Char
  fraction : Option (List Char) := none
  /-- Whether the power is negative, and its digits. -/
  power : Option (Bool × List Char) := none
  deriving DecidableEq

def value (digits : List Char) : Nat := Nat.ofDigitChars 10 digits 0

/-- A decimal as a whole number of tenths, hundredths or whatever the power says. -/
structure Scaled where
  digits : Nat
  power : Int
  deriving DecidableEq

namespace Numeral

def ofNat (number : Nat) : Numeral := { whole := Nat.toDigits 10 number }

def text (numeral : Numeral) : String :=
  String.ofList <|
    (if numeral.negative then ['-'] else []) ++ numeral.whole ++
      (match numeral.fraction with
        | some digits => '.' :: digits
        | none => []) ++
      match numeral.power with
        | some (negative, digits) => 'e' :: (if negative then '-' else '+') :: digits
        | none => []

/-- The whole number that bare digits write. -/
def natural? (numeral : Numeral) : Option Nat :=
  match numeral with
  | ⟨false, digits, none, none⟩ => some (value digits)
  | _ => none

/-- All digits, read as one whole number. -/
def significand (numeral : Numeral) : Nat := value (numeral.whole ++ numeral.fraction.getD [])

/-- The power of ten that is written out. -/
def exponent (numeral : Numeral) : Int :=
  match numeral.power with
  | some (true, digits) => -(value digits)
  | some (false, digits) => value digits
  | none => 0

/-- The power of ten by which the significand is multiplied. -/
def scale (numeral : Numeral) : Int := numeral.exponent - (numeral.fraction.getD []).length

end Numeral

end ApiDrift.Decimal
