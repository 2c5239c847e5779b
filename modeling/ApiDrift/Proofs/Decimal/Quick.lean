import ApiDrift.Decimal.Quick
import Mathlib.Tactic.NormNum

/-!
# Whole numbers are never too large

A quick reading keeps all digits of a whole number of 64 bits, and the power of ten that it then multiplies by is one. Rounded twice, such a number is still far below the largest binary number.
-/

namespace ApiDrift.Decimal

/-! ### Rounding -/

theorem nearestEven_le (numerator denominator : Nat) :
    nearestEven numerator denominator ≤ numerator + 1 := by
  have hquotient : numerator / denominator ≤ numerator := Nat.div_le_self _ _
  rw [nearestEven]
  split
  · omega
  · split <;> omega

namespace Binary

theorem powerFor_le (numerator denominator : Nat) :
    powerFor numerator denominator ≤ max ((numerator.log2 : Int) - 52) (-1074) := by
  rw [powerFor]
  refine max_le_max ?_ le_rfl
  split <;> omega

theorem le_powerFor (numerator denominator : Nat) :
    (numerator.log2 : Int) - denominator.log2 - 53 ≤ powerFor numerator denominator := by
  rw [powerFor]
  refine le_max_of_le_left ?_
  split <;> omega

/-- Rounding keeps the significand, or halves it and moves the power on by one. -/
theorem exists_rounded {numerator : Nat} (hpositive : numerator ≠ 0) (negative : Bool)
    (denominator : Nat) : ∃ rounded : Binary,
      nearest? negative numerator denominator =
          (if rounded.power ≤ 971 then some rounded else none) ∧
        rounded.power ≤ powerFor numerator denominator + 1 ∧
          rounded.significand ≤
            (timesTwoPower numerator denominator (-powerFor numerator denominator)).1 + 1 := by
  rw [nearest?, if_neg hpositive]
  refine ⟨_, rfl, ?_, ?_⟩
  · split
    · exact Int.le_of_lt (Int.lt_succ _)
    · exact le_rfl
  · split
    · exact nearestEven_le _ _
    · exact (Nat.div_le_self _ _).trans (nearestEven_le _ _)

/-- A quotient whose numerator has at most a thousand bits is near to some number. -/
theorem isSome_nearest? {numerator bits : Nat} (hbound : numerator < Nat.pow 2 bits)
    (hbits : bits ≤ 1000) (negative : Bool) (denominator : Nat) :
    (nearest? negative numerator denominator).isSome := by
  by_cases hpositive : numerator = 0
  · rw [nearest?, if_pos hpositive]
    rfl
  · obtain ⟨rounded, hnearest, hpower, -⟩ := exists_rounded hpositive negative denominator
    have hlog : numerator.log2 < bits := (Nat.log2_lt hpositive).mpr hbound
    have hpowerFor := powerFor_le numerator denominator
    rw [hnearest, if_pos (by omega)]
    rfl

/-- Rounding leaves a quotient about as large as it was. -/
theorem bounds_of_nearest? {numerator denominator bits depth : Nat}
    (hnumerator : numerator < Nat.pow 2 bits) (hdenominator : denominator.log2 ≤ depth)
    {negative : Bool} {found : Binary}
    (hfound : nearest? negative numerator denominator = some found) :
    found.significand ≤ Nat.pow 2 (bits + (depth + 53)) ∧ found.power ≤ (bits : Int) - 52 := by
  by_cases hpositive : numerator = 0
  · rw [nearest?, if_pos hpositive] at hfound
    obtain rfl := Option.some.inj hfound
    exact ⟨Nat.zero_le _, show (-1074 : Int) ≤ bits - 52 by omega⟩
  · obtain ⟨rounded, hnearest, hpower, hsignificand⟩ :=
      exists_rounded hpositive negative denominator
    have hlog : numerator.log2 < bits := (Nat.log2_lt hpositive).mpr hnumerator
    have hhigh := powerFor_le numerator denominator
    have hlow := le_powerFor numerator denominator
    -- The significand is scaled to 53 bits, so it is not multiplied by more than that and what the
    -- denominator takes away.
    have hscale : Nat.pow 2 (-powerFor numerator denominator).toNat ≤ Nat.pow 2 (depth + 53) :=
      Nat.pow_le_pow_right (by decide) (by omega)
    have hscaled : (timesTwoPower numerator denominator (-powerFor numerator denominator)).1 <
        Nat.pow 2 (bits + (depth + 53)) := by
      have hsum : Nat.pow 2 (bits + (depth + 53)) = Nat.pow 2 bits * Nat.pow 2 (depth + 53) :=
        Nat.pow_add 2 bits (depth + 53)
      rw [hsum]
      exact Nat.mul_lt_mul_of_lt_of_le hnumerator hscale (Nat.pow_pos (by decide))
    rw [hnearest] at hfound
    split at hfound
    · obtain rfl := Option.some.inj hfound
      exact ⟨hsignificand.trans hscaled, by omega⟩
    · cases hfound

/-- A product is near to some number if its factors have few enough bits. -/
theorem isSome_times? {first second : Binary} {bits more : Nat}
    (hfirst : first.quotient.1 ≤ Nat.pow 2 bits) (hsecond : second.quotient.1 < Nat.pow 2 more)
    (hbits : bits + more ≤ 1000) : (first.times? second).isSome := by
  refine isSome_nearest? (lt_of_lt_of_eq ?_ (Nat.pow_add 2 bits more).symm) hbits _ _
  exact Nat.mul_lt_mul_of_le_of_lt hfirst hsecond (Nat.pow_pos (by decide))

theorem quotient_ten_lt : ∀ power ≤ 130, (ten power).quotient.1 < Nat.pow 2 440 := by
  decide +kernel

end Binary

/-! ### Leading digits -/

theorem le_ofDigitChars (digits : List Char) (start : Nat) :
    start ≤ Nat.ofDigitChars 10 digits start := by
  induction digits generalizing start with
  | nil => exact Nat.le_refl _
  | cons digit rest ih =>
    rw [Nat.ofDigitChars_cons]
    exact le_trans (by omega) (ih _)

/-- Digits of a number that fits are all taken. -/
theorem takeFitting_eq {digits : List Char} {start : Nat}
    (hfits : Nat.ofDigitChars 10 digits start < UInt64.size) :
    takeFitting start digits = (Nat.ofDigitChars 10 digits start, []) := by
  induction digits generalizing start with
  | nil => rfl
  | cons digit rest ih =>
    rw [Nat.ofDigitChars_cons] at hfits ⊢
    rw [takeFitting, if_pos ((le_ofDigitChars rest _).trans_lt hfits)]
    exact ih hfits

theorem takeFitting_lt {start : Nat} (hstart : start < UInt64.size) (digits : List Char) :
    (takeFitting start digits).1 < UInt64.size := by
  induction digits generalizing start with
  | nil => exact hstart
  | cons digit rest ih =>
    rw [takeFitting]
    split
    · next hfits => exact ih hfits
    · exact hstart

namespace Numeral

theorem natural?_ofNat (number : Nat) : (ofNat number).natural? = some number :=
  congrArg some (Nat.ofDigitChars_toDigits (by decide) (by decide))

theorem leading_ofNat {number : Nat} (hfits : number < UInt64.size) :
    (ofNat number).leading = ⟨number, 0⟩ := by
  have hvalue : Nat.ofDigitChars 10 (Nat.toDigits 10 number) 0 = number :=
    Nat.ofDigitChars_toDigits (by decide) (by decide)
  have htaken := takeFitting_eq (hvalue ▸ hfits)
  rw [hvalue] at htaken
  rw [leading, ofNat, htaken]
  rfl

/-- A quick reading keeps no more digits than fit. -/
theorem digits_leading_lt (numeral : Numeral) : numeral.leading.digits < UInt64.size :=
  takeFitting_lt (takeFitting_lt (by decide) _) _

/-- A numeral that is not moved far to the left is not too large. -/
theorem isSome_quick? {numeral : Numeral} (hpower : numeral.leading.power ≤ 130) :
    numeral.quick?.isSome := by
  have hsize : numeral.leading.digits < Nat.pow 2 64 := numeral.digits_leading_lt
  have hstart := Binary.isSome_nearest? hsize (by decide) numeral.negative 1
  obtain ⟨start, hstart⟩ := Option.isSome_iff_exists.mp hstart
  obtain ⟨hsignificand, hsmall⟩ := Binary.bounds_of_nearest? hsize (Nat.zero_le 0) hstart
  have hquick : numeral.quick? =
      if start.significand = 0 then some start
      else if numeral.leading.power < 0 then some (start.downBy (-numeral.leading.power).toNat)
      else start.times? (Binary.ten numeral.leading.power.toNat) := by
    have hlast : numeral.leading.power ≤ (Binary.lastTen : Int) := hpower.trans (by decide)
    rw [quick?, hstart]
    dsimp only [bind, Option.bind]
    rw [if_pos hlast]
  rw [hquick]
  split
  · rfl
  · split
    · rfl
    · have htwo : Nat.pow 2 start.power.toNat ≤ Nat.pow 2 12 :=
        Nat.pow_le_pow_right (by decide) (by omega)
      have hfirst : start.quotient.1 ≤ Nat.pow 2 129 :=
        (Nat.mul_le_mul hsignificand htwo).trans (by norm_num)
      exact Binary.isSome_times? hfirst (Binary.quotient_ten_lt _ (by omega)) (by decide)

theorem isSome_quick?_ofNat {number : Nat} (hfits : number < UInt64.size) :
    (ofNat number).quick?.isSome :=
  isSome_quick? (by simp [leading_ofNat hfits])

end Numeral

end ApiDrift.Decimal
