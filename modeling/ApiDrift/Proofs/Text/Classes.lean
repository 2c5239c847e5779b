import ApiDrift.Text.Blank
import ApiDrift.Text.Digit
import Mathlib.Data.List.TakeWhile

/-!
# Digits and blanks

No character is both a digit and a blank, and the digits of ASCII are digits. A text is divided by a class of characters in one way only: the longest beginning in the class, and what is left.
-/

namespace ApiDrift.Text

theorem inRanges_iff {table : List (Nat × Nat)} {c : Char} :
    inRanges table c = true ↔ ∃ range ∈ table, range.1 ≤ c.toNat ∧ c.toNat ≤ range.2 := by
  simp [inRanges]

/-- Two tables without a common code point have no common character. -/
theorem inRanges_eq_false_of_apart {table other : List (Nat × Nat)}
    (hapart : ∀ range ∈ table, ∀ others ∈ other, range.2 < others.1 ∨ others.2 < range.1)
    {c : Char} (hc : inRanges table c = true) : inRanges other c = false := by
  obtain ⟨range, hrange, hfirst, hlast⟩ := inRanges_iff.mp hc
  rw [Bool.eq_false_iff]
  intro hother
  obtain ⟨others, hothers, hbegin, hend⟩ := inRanges_iff.mp hother
  have := hapart range hrange others hothers
  omega

theorem isDigit_of_isBlank {c : Char} (hc : isBlank c = true) : isDigit c = false :=
  inRanges_eq_false_of_apart (by decide) hc

theorem isDigit_of_ascii {c : Char} (hc : c.isDigit = true) : isDigit c = true :=
  inRanges_iff.mpr ⟨(0x30, 0x39), List.mem_cons_self, Char.isDigit_iff_toNat.mp hc⟩

/-! ### The longest beginning in a class -/

section Longest

variable {isKind : Char → Bool} {kind rest : List Char} (hkind : ∀ c ∈ kind, isKind c = true)
  (hrest : ∀ c ∈ rest.head?, isKind c = false)

include hkind hrest

theorem takeWhile_append_of_stop : (kind ++ rest).takeWhile isKind = kind := by
  rw [List.takeWhile_append_of_pos hkind]
  cases rest with
  | nil => simp
  | cons c rest => simp [hrest c rfl]

theorem dropWhile_append_of_stop : (kind ++ rest).dropWhile isKind = rest := by
  rw [List.dropWhile_append_of_pos hkind]
  cases rest with
  | nil => rfl
  | cons c rest => simp [hrest c rfl]

end Longest

theorem head?_dropWhile (isKind : Char → Bool) (text : List Char) :
    ∀ c ∈ (text.dropWhile isKind).head?, isKind c = false := by
  intro c hc
  have hstop := List.head?_dropWhile_not isKind text
  rw [Option.mem_def] at hc
  rwa [hc] at hstop

end ApiDrift.Text
