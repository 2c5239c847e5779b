import ApiDrift.Decimal.Shortest
import ApiDrift.Proofs.Decimal.Quick
import ApiDrift.Proofs.Json.Number
import Mathlib.Data.Nat.Digits.Defs

/-!
# Binary numbers in decimal

The shortest decimal of a number other than zero has a digit other than zero, so however it is spelt it does not begin with a zero that nothing follows. And the decimal is not much larger than the number: its point stands where a bound on the number says, up to the length of that bound.
-/

namespace ApiDrift.Decimal

theorem div_le_nearestEven (numerator denominator : Nat) :
    numerator / denominator ≤ nearestEven numerator denominator := by
  rw [nearestEven]
  split
  · exact le_rfl
  · split <;> omega

theorem nearestEven_le_div (numerator denominator : Nat) :
    nearestEven numerator denominator ≤ numerator / denominator + 1 := by
  rw [nearestEven]
  split
  · omega
  · split <;> omega

namespace Binary

variable {number : Binary}

/-! ### The digits -/

/-- Nothing that rounds to zero rounds to another number. -/
theorem contains_zero (hnumber : number.significand ≠ 0) (grid : Int) :
    (number.onGrid grid).1.contains 0 = false := by
  -- The interval of a number other than zero ends above zero, by at least two of its quarters.
  have hlow : 0 < (number.onGrid grid).1.low := by
    refine Nat.mul_pos ?_ ?_
    · simp only [interval]
      split <;> omega
    · have htwo : 0 < Nat.pow 2 (number.power - 2).toNat := Nat.pow_pos (by decide)
      exact Nat.mul_pos (Nat.mul_pos Nat.one_pos htwo) (Nat.pow_pos (by decide))
  have hnot : ¬ (number.onGrid grid).1.low ≤ 0 := Nat.not_le.mpr hlow
  unfold Interval.contains
  split <;> simp [hnot]

/-- A decimal on a grid is one of the two neighbours of the number, and not zero. -/
theorem of_onGrid? (hnumber : number.significand ≠ 0) {grid : Int} {found : Scaled}
    (hfound : number.onGrid? grid = some found) :
    found.digits ≠ 0 ∧ found.power = grid ∧
      found.digits ≤ (number.onGrid grid).1.middle / (number.onGrid grid).2 + 1 := by
  have hzero := contains_zero hnumber grid
  have hbelow : (number.onGrid grid).1.contains
      ((number.onGrid grid).1.middle / (number.onGrid grid).2 * (number.onGrid grid).2) = true →
      (number.onGrid grid).1.middle / (number.onGrid grid).2 ≠ 0 := by
    intro hfits hnone
    rw [hnone, Nat.zero_mul, hzero] at hfits
    cases hfits
  have hnear := div_le_nearestEven (number.onGrid grid).1.middle (number.onGrid grid).2
  have hnext := nearestEven_le_div (number.onGrid grid).1.middle (number.onGrid grid).2
  simp only [onGrid?, Bool.and_eq_true] at hfound
  split at hfound
  · next hboth =>
    obtain rfl := Option.some.inj hfound
    have hpositive := Nat.pos_of_ne_zero (hbelow hboth.1)
    exact ⟨Nat.ne_of_gt (hpositive.trans_le hnear), rfl, hnext⟩
  · split at hfound
    · next hfits =>
      obtain rfl := Option.some.inj hfound
      exact ⟨hbelow hfits, rfl, Nat.le_succ _⟩
    · split at hfound
      · obtain rfl := Option.some.inj hfound
        exact ⟨Nat.succ_ne_zero _, rfl, le_rfl⟩
      · cases hfound

theorem shortest_cases (number : Binary) :
    (∃ more : Nat, number.onGrid? (number.leading + 1 - more) = some number.shortest) ∨
      number.shortest = ⟨number.significand, 0⟩ := by
  unfold shortest
  cases hfound : (List.range 18).findSome? fun (more : Nat) =>
      number.onGrid? (number.leading + 1 - more) with
  | none => exact .inr rfl
  | some found =>
    obtain ⟨more, -, hmore⟩ := List.exists_of_findSome?_eq_some hfound
    exact .inl ⟨more, hmore⟩

theorem digits_shortest_ne_zero (hnumber : number.significand ≠ 0) :
    number.shortest.digits ≠ 0 := by
  rcases number.shortest_cases with hgrid | hdefault
  · obtain ⟨more, hmore⟩ := hgrid
    exact (of_onGrid? hnumber hmore).1
  · rw [hdefault]
    exact hnumber

end Binary

/-! ### The place of the point -/

namespace Binary

variable {number : Binary}

/-- On a grid, a number is not longer than its whole part with as many digits more as the grid has behind the point. -/
theorem middle_div_step_le (number : Binary) (grid : Int) :
    (number.onGrid grid).1.middle / (number.onGrid grid).2 ≤
      number.quotient.1 * Nat.pow 10 (-grid).toNat := by
  refine Nat.div_le_of_le_mul ?_
  have htwo : Nat.pow 2 2 * Nat.pow 2 (number.power - 2).toNat ≤
      Nat.pow 2 (-(number.power - 2)).toNat * Nat.pow 2 number.power.toNat := by
    have hfirst : Nat.pow 2 (2 + (number.power - 2).toNat) =
        Nat.pow 2 2 * Nat.pow 2 (number.power - 2).toNat := Nat.pow_add 2 _ _
    have hsecond : Nat.pow 2 ((-(number.power - 2)).toNat + number.power.toNat) =
        Nat.pow 2 (-(number.power - 2)).toNat * Nat.pow 2 number.power.toNat := Nat.pow_add 2 _ _
    rw [← hfirst, ← hsecond]
    exact Nat.pow_le_pow_right (by decide) (by omega)
  have hten : 1 ≤ Nat.pow 10 grid.toNat := Nat.pow_pos (by decide)
  simp only [onGrid, interval, quotient, timesTwoPower, Nat.one_mul]
  calc 4 * number.significand * (Nat.pow 2 (number.power - 2).toNat * Nat.pow 10 (-grid).toNat)
      = number.significand * Nat.pow 10 (-grid).toNat *
          (Nat.pow 2 2 * Nat.pow 2 (number.power - 2).toNat) := by
        have hfour : Nat.pow 2 2 = 4 := rfl
        rw [hfour]
        ring
    _ ≤ number.significand * Nat.pow 10 (-grid).toNat *
          (Nat.pow 2 (-(number.power - 2)).toNat * Nat.pow 2 number.power.toNat) *
          Nat.pow 10 grid.toNat := by
        refine le_trans (Nat.mul_le_mul_left _ htwo) ?_
        exact Nat.le_mul_of_pos_right _ hten
    _ = Nat.pow 2 (-(number.power - 2)).toNat * Nat.pow 10 grid.toNat *
          (number.significand * Nat.pow 2 number.power.toNat * Nat.pow 10 (-grid).toNat) := by
        ring

variable {length : Nat}

theorem leading_lt (hlength : 0 < length) (hsmall : number.quotient.1 < Nat.pow 10 length) :
    number.leading < length := by
  have hnumerator : (Nat.toDigits 10 number.quotient.1).length ≤ length :=
    Nat.toDigits_length 10 _ _ hlength hsmall
  have hdenominator : 0 < (Nat.toDigits 10 number.quotient.2).length :=
    List.length_pos_of_ne_nil Nat.toDigits_ne_nil
  have hguess : number.leading ≤ ((Nat.toDigits 10 number.quotient.1).length : Int) -
      (Nat.toDigits 10 number.quotient.2).length := by
    unfold leading leadingPower
    dsimp only
    split
    · exact Int.sub_le_self _ (by decide)
    · exact le_rfl
  omega

/-- The point of the shortest decimal stands not much further right than the point of the number. -/
theorem point_shortest_le (hnumber : number.significand ≠ 0) (hlength : 0 < length)
    (hsmall : number.quotient.1 < Nat.pow 10 length) :
    number.shortest.power + (Nat.toDigits 10 number.shortest.digits).length ≤
      2 * (length : Int) + 1 := by
  rcases number.shortest_cases with hgrid | hdefault
  · obtain ⟨more, hmore⟩ := hgrid
    obtain ⟨-, hpower, hdigits⟩ := of_onGrid? hnumber hmore
    have hleading := leading_lt hlength hsmall
    have hnear : number.leading + 1 - more ≤ length := by omega
    generalize number.leading + 1 - more = grid at hpower hdigits hnear
    have hpositive : 0 < Nat.pow 10 (-grid).toNat := Nat.pow_pos (by decide)
    -- The neighbour above the number is still no longer than the bound itself, so one digit more
    -- than the bound has is enough.
    have hlong : number.shortest.digits < Nat.pow 10 (length + (-grid).toNat + 1) :=
      calc number.shortest.digits
          ≤ number.quotient.1 * Nat.pow 10 (-grid).toNat + 1 :=
            hdigits.trans (Nat.succ_le_succ (middle_div_step_le number grid))
        _ ≤ (number.quotient.1 + 1) * Nat.pow 10 (-grid).toNat := by
            rw [Nat.succ_mul]
            exact Nat.add_le_add_left hpositive _
        _ ≤ Nat.pow 10 length * Nat.pow 10 (-grid).toNat := Nat.mul_le_mul_right _ hsmall
        _ = Nat.pow 10 (length + (-grid).toNat) := (Nat.pow_add 10 _ _).symm
        _ < Nat.pow 10 (length + (-grid).toNat + 1) :=
            Nat.pow_lt_pow_right (by decide) (Nat.lt_succ_self _)
    have hcount := Nat.toDigits_length 10 _ _ (Nat.succ_pos _) hlong
    omega
  · have hsignificand : number.significand ≤ number.quotient.1 :=
      Nat.le_mul_of_pos_right _ (Nat.pow_pos (by decide))
    have hcount := Nat.toDigits_length 10 _ _ hlength (hsignificand.trans_lt hsmall)
    rw [hdefault]
    dsimp only
    omega

end Binary

/-! ### Spelling -/

theorem areDigits_append {first second : List Char} (hfirst : AreDigits first)
    (hsecond : ∀ c ∈ second, c.isDigit) : AreDigits (first ++ second) := by
  refine ⟨by simp [hfirst.1], fun c hmem => ?_⟩
  rcases List.mem_append.mp hmem with h | h
  · exact hfirst.2 c h
  · exact hsecond c h

theorem isDigit_of_mem_zeros {count : Nat} {c : Char} (hmem : c ∈ List.replicate count '0') :
    c.isDigit := by
  obtain rfl := List.eq_of_mem_replicate hmem
  decide

theorem areDigits_take {digits : List Char} (hdigits : AreDigits digits) {count : Nat}
    (hcount : 0 < count) : AreDigits (digits.take count) := by
  refine ⟨?_, fun c hmem => hdigits.2 c (List.mem_of_mem_take hmem)⟩
  rw [Ne, List.take_eq_nil_iff]
  exact fun h => h.elim (by omega) hdigits.1

theorem head?_take {digits : List Char} (hleading : digits.head? ≠ some '0') {count : Nat}
    (hcount : 0 < count) : (digits.take count).head? ≠ some '0' := by
  rwa [List.head?_take, if_neg (by omega)]

section Spelling

variable {digits : List Char} (hdigits : AreDigits digits) (hleading : digits.head? ≠ some '0')
  (negative : Bool) (point : Int)

include hdigits hleading

theorem proper_positional : (positional negative digits point).Proper := by
  unfold positional
  split
  · refine ⟨⟨List.cons_ne_nil _ _, by simp⟩, fun _ => rfl, fun fraction hfraction => ?_,
      fun _ h => nomatch h⟩
    obtain rfl := Option.some.inj hfraction
    refine ⟨by simp [hdigits.1], fun c hmem => ?_⟩
    rcases List.mem_append.mp hmem with h | h
    · exact isDigit_of_mem_zeros h
    · exact hdigits.2 c h
  · next hpoint =>
    have hcount : 0 < point.toNat := by omega
    have hwhole := areDigits_take hdigits hcount
    refine ⟨areDigits_append hwhole fun _ => isDigit_of_mem_zeros, fun hzero => ?_,
      fun fraction hfraction => ?_, fun _ h => nomatch h⟩
    · rw [List.head?_append_of_ne_nil _ hwhole.1] at hzero
      exact absurd hzero (head?_take hleading hcount)
    · obtain rfl := Option.some.inj hfraction
      split
      · exact ⟨List.cons_ne_nil _ _, by simp⟩
      · next hsome =>
        exact ⟨by simpa using hsome, fun c hmem => hdigits.2 c (List.mem_of_mem_drop hmem)⟩

theorem proper_scientific : (scientific negative digits point).Proper := by
  refine ⟨areDigits_take hdigits Nat.one_pos, fun hzero => ?_, fun fraction hfraction => ?_,
    fun power hpower => ?_⟩
  · exact absurd hzero (head?_take hleading Nat.one_pos)
  · simp only [scientific] at hfraction
    split at hfraction
    · cases hfraction
    · next hlong =>
      obtain rfl := Option.some.inj hfraction
      have hlength := List.length_pos_of_ne_nil hdigits.1
      refine ⟨?_, fun c hmem => hdigits.2 c (List.mem_of_mem_drop hmem)⟩
      rw [Ne, List.drop_eq_nil_iff]
      omega
  · obtain rfl := Option.some.inj hpower
    exact areDigits_toDigits _

end Spelling

/-- Every binary number can be spelt. -/
theorem Binary.proper_numeral (number : Binary) : number.numeral.Proper := by
  unfold numeral
  split
  · refine ⟨⟨List.cons_ne_nil _ _, by simp⟩, fun _ => rfl, fun fraction hfraction => ?_,
      fun _ h => nomatch h⟩
    obtain rfl := Option.some.inj hfraction
    exact ⟨List.cons_ne_nil _ _, by simp⟩
  · next hnumber =>
    have hdigits := areDigits_toDigits number.shortest.digits
    have hleading : (Nat.toDigits 10 number.shortest.digits).head? ≠ some '0' :=
      fun hzero => digits_shortest_ne_zero hnumber (eq_zero_of_head?_toDigits hzero)
    dsimp only
    split
    · exact proper_positional hdigits hleading _ _
    · exact proper_scientific hdigits hleading _ _

theorem Binary.proper_oneDecimal (number : Binary) : number.oneDecimal.Proper where
  whole := areDigits_toDigits _
  leading hzero := by
    rw [oneDecimal, eq_zero_of_head?_toDigits hzero]
    rfl
  fraction digits hdigits := by
    obtain rfl := Option.some.inj hdigits
    exact areDigits_toDigits _
  power _ hmem := nomatch hmem

/-! ### Reading back -/

theorem length_takeFitting_le (start : Nat) (digits : List Char) :
    (takeFitting start digits).2.length ≤ digits.length := by
  induction digits generalizing start with
  | nil => exact le_rfl
  | cons digit rest ih =>
    rw [takeFitting]
    split
    · exact (ih _).trans (Nat.le_succ _)
    · exact le_rfl

/-- No digit before the point counts for more than the digits behind it in the whole part. -/
theorem Numeral.power_leading_le (numeral : Numeral) :
    numeral.leading.power ≤ numeral.exponent + numeral.whole.length := by
  have hleft := length_takeFitting_le 0 numeral.whole
  simp only [leading]
  omega

theorem exponent_scientific (negative : Bool) (digits : List Char) (point : Int) :
    (scientific negative digits point).exponent = point - 1 := by
  have hvalue : value (Nat.toDigits 10 (point - 1).natAbs) = (point - 1).natAbs :=
    Nat.ofDigitChars_toDigits (by decide) (by decide)
  by_cases hnegative : point - 1 < 0
  · simp only [scientific, Numeral.exponent, hnegative, decide_true, hvalue]
    omega
  · simp only [scientific, Numeral.exponent, hnegative, decide_false, hvalue]
    omega

theorem length_whole_positional (negative : Bool) (digits : List Char) (point : Int) :
    (positional negative digits point).whole.length ≤ max 1 point.toNat := by
  unfold positional
  split
  · exact le_max_left _ _
  · simp only [List.length_append, List.length_take, List.length_replicate]
    omega

/-- A number with few enough digits before its point is not too large to be read back. -/
theorem Binary.power_leading_numeral_le {number : Binary} {length : Nat} (hlength : 8 ≤ length)
    (hsmall : number.quotient.1 < Nat.pow 10 length) :
    number.numeral.leading.power ≤ 2 * (length : Int) + 1 := by
  refine number.numeral.power_leading_le.trans ?_
  unfold numeral
  split
  · show (0 : Int) + 1 ≤ _
    omega
  · next hnumber =>
    have hpoint := point_shortest_le hnumber (by omega) hsmall
    dsimp only
    split
    · next hnear =>
      have hwhole := length_whole_positional number.negative
        (Nat.toDigits 10 number.shortest.digits)
        (number.shortest.power + (Nat.toDigits 10 number.shortest.digits).length)
      have hexponent (digits : List Char) (point : Int) :
          (positional number.negative digits point).exponent = 0 := by
        unfold positional
        split <;> rfl
      rw [hexponent]
      simp only [Bool.and_eq_true, decide_eq_true_eq] at hnear
      omega
    · rw [exponent_scientific]
      have hwhole : (scientific number.negative (Nat.toDigits 10 number.shortest.digits)
          (number.shortest.power + (Nat.toDigits 10 number.shortest.digits).length)).whole.length ≤
          1 := List.length_take_le _ _
      omega

end ApiDrift.Decimal
