import ApiDrift.Json.Token
import ApiDrift.Proofs.Text.Classes
import Mathlib.Data.List.Basic
import Mathlib.Data.List.TakeWhile

/-!
# Numbers read back

A numeral is proper if JSON can spell it: it has digits before the point, and just one if they begin with a zero, and it has digits behind the point and in the power of ten if there are such. Its text is read back as the same numeral, unless what follows goes on with a digit, a point or a power.
-/

namespace ApiDrift

namespace Decimal

/-- Digits, and at least one. -/
def AreDigits (digits : List Char) : Prop := digits ≠ [] ∧ ∀ c ∈ digits, c.isDigit

structure Numeral.Proper (numeral : Numeral) : Prop where
  whole : AreDigits numeral.whole
  leading : numeral.whole.head? = some '0' → numeral.whole = ['0']
  fraction : ∀ digits ∈ numeral.fraction, AreDigits digits
  power : ∀ power ∈ numeral.power, AreDigits power.2

theorem areDigits_toDigits (number : Nat) : AreDigits (Nat.toDigits 10 number) :=
  ⟨Nat.toDigits_ne_nil, fun _ => Nat.isDigit_of_mem_toDigits (by decide) (by decide)⟩

/-- Only zero begins with a zero. -/
theorem eq_zero_of_head?_toDigits {number : Nat}
    (hzero : (Nat.toDigits 10 number).head? = some '0') : number = 0 := by
  induction number using Nat.strongRecOn with
  | ind number ih =>
    by_cases hlt : number < 10
    · have hdigit : ∀ n < 10, Nat.digitChar n = '0' → n = 0 := by decide
      rw [Nat.toDigits_of_lt_base hlt] at hzero
      exact hdigit number hlt (Option.some.inj hzero)
    · have hle : 10 ≤ number := Nat.le_of_not_lt hlt
      rw [Nat.toDigits_of_base_le (by decide) hle,
        List.head?_append_of_ne_nil _ Nat.toDigits_ne_nil] at hzero
      have := ih (number / 10) (by omega) hzero
      omega

theorem Numeral.proper_ofNat (number : Nat) : (ofNat number).Proper where
  whole := areDigits_toDigits number
  leading hzero := by
    rw [ofNat, eq_zero_of_head?_toDigits hzero]
    rfl
  fraction _ hmem := nomatch hmem
  power _ hmem := nomatch hmem

end Decimal

namespace Json

open Decimal

/-! ### Digits -/

section Digits

variable {rest : List Char} (hrest : ∀ c ∈ rest.head?, c.isDigit = false)

include hrest

theorem readDigits_append {digits : List Char} (hdigits : AreDigits digits) :
    readDigits (digits ++ rest) = .ok (digits, rest) := by
  rw [readDigits, Text.takeWhile_append_of_stop hdigits.2 hrest,
    Text.dropWhile_append_of_stop hdigits.2 hrest]
  split
  case h_1 => exact absurd rfl hdigits.1
  case h_2 => rfl

theorem readWhole_append {whole : List Char} (hwhole : AreDigits whole)
    (hleading : whole.head? = some '0' → whole = ['0']) :
    readWhole (whole ++ rest) = .ok (whole, rest) := by
  unfold readWhole
  split
  case h_1 c later htext =>
    have hhead : whole.head? = some '0' := by
      rw [← List.head?_append_of_ne_nil whole hwhole.1, htext]
      rfl
    rw [hleading hhead] at htext ⊢
    obtain ⟨-, rfl⟩ := List.cons.inj htext
    rw [hrest c rfl]
    rfl
  case h_2 => exact readDigits_append hrest hwhole

end Digits

/-! ### The parts of a number -/

/-- No number goes on here. -/
def Stops (rest : List Char) : Prop :=
  ∀ c ∈ rest.head?, c.isDigit = false ∧ c ≠ '.' ∧ c ≠ 'e' ∧ c ≠ 'E'

def fractionChars (fraction : Option (List Char)) : List Char :=
  match fraction with
  | some digits => '.' :: digits
  | none => []

def powerChars (power : Option (Bool × List Char)) : List Char :=
  match power with
  | some (negative, digits) => 'e' :: (if negative then '-' else '+') :: digits
  | none => []

theorem toList_text (numeral : Numeral) :
    numeral.text.toList = (if numeral.negative then ['-'] else []) ++
      (numeral.whole ++ (fractionChars numeral.fraction ++ powerChars numeral.power)) := by
  rw [Numeral.text, String.toList_ofList, List.append_assoc, List.append_assoc]
  rfl

variable {rest : List Char}

theorem readPower_append (hrest : Stops rest) {power : Option (Bool × List Char)}
    (hpower : ∀ written ∈ power, AreDigits written.2) :
    readPower (powerChars power ++ rest) = .ok (power, rest) := by
  cases power with
  | none =>
    cases rest with
    | nil => rfl
    | cons c rest =>
      obtain ⟨-, -, hlower, hupper⟩ := hrest c rfl
      simp [powerChars, readPower, hlower, hupper]
  | some written =>
    obtain ⟨negative, digits⟩ := written
    have hdigits := readDigits_append (fun c hc => (hrest c hc).1) (hpower _ rfl)
    have hsign : readPowerSign ((if negative then '-' else '+') :: (digits ++ rest)) =
        (negative, digits ++ rest) := by
      cases negative <;> rfl
    rw [powerChars, List.cons_append, List.cons_append, readPower]
    simp only [hsign, hdigits]
    rfl

/-- What follows the digits before the point, or those behind it, is no digit. -/
theorem stops_powerChars (hrest : Stops rest) (power : Option (Bool × List Char)) :
    ∀ c ∈ (powerChars power ++ rest).head?, c.isDigit = false ∧ c ≠ '.' := by
  cases power with
  | none => exact fun c hc => ⟨(hrest c hc).1, (hrest c hc).2.1⟩
  | some written =>
    intro c hc
    obtain rfl := Option.some.inj hc
    exact ⟨rfl, by decide⟩

theorem readFraction_append (hrest : ∀ c ∈ rest.head?, c.isDigit = false ∧ c ≠ '.')
    {fraction : Option (List Char)} (hfraction : ∀ digits ∈ fraction, AreDigits digits) :
    readFraction (fractionChars fraction ++ rest) = .ok (fraction, rest) := by
  cases fraction with
  | none =>
    unfold readFraction
    split
    case h_1 later htext =>
      obtain rfl : rest = '.' :: later := htext
      exact absurd rfl (hrest '.' rfl).2
    case h_2 => rfl
  | some digits =>
    rw [fractionChars, List.cons_append, readFraction,
      readDigits_append (fun c hc => (hrest c hc).1) (hfraction digits rfl)]
    rfl

/-- What stands behind the sign of a numeral is read back. -/
theorem readNumber_append {numeral : Numeral} (hproper : numeral.Proper) (hrest : Stops rest) :
    readNumber numeral.negative (numeral.whole ++
        (fractionChars numeral.fraction ++ powerChars numeral.power) ++ rest) =
      .ok (numeral, rest) := by
  have hpower := readPower_append hrest hproper.power
  have hfraction := readFraction_append (stops_powerChars hrest numeral.power) hproper.fraction
  have hdigits : ∀ c ∈ (fractionChars numeral.fraction ++ (powerChars numeral.power ++ rest)).head?,
      c.isDigit = false := by
    cases numeral.fraction with
    | none => exact fun c hc => (stops_powerChars hrest numeral.power c hc).1
    | some digits =>
      intro c hc
      obtain rfl := Option.some.inj hc
      rfl
  have hwhole := readWhole_append hdigits hproper.whole hproper.leading
  rw [List.append_assoc, List.append_assoc]
  simp only [readNumber, bind, Except.bind, hwhole, hfraction, hpower]
  rfl

end Json

end ApiDrift
