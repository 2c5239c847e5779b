import ApiDrift.Version
import Mathlib.Algebra.Group.Nat.Defs

/-!
# The version after a release

A release moves one number of a version on and sets those behind it to zero. It fails exactly if that number is the greatest of its word. A breaking release before the first stable version moves the second number.
-/

namespace ApiDrift.Version

theorem successor?_eq_none_iff {number : UInt64} :
    successor? number = none ↔ number.toNat = 2 ^ 64 - 1 := by
  have hbound : number.toNat < 2 ^ 64 := number.toNat_lt
  unfold successor?
  simp only [UInt64.size]
  split <;> simp <;> omega

theorem toNat_of_successor? {number next : UInt64} (hnext : successor? number = some next) :
    next.toNat = number.toNat + 1 := by
  unfold successor? at hnext
  split at hnext
  · next hfits =>
    obtain rfl := Option.some.inj hnext
    rw [UInt64.toNat_add]
    exact Nat.mod_eq_of_lt hfits
  · cases hnext

/-- The numbers of a version, without its label. -/
def numbers (version : Version) : Nat × Nat × Nat :=
  (version.major.toNat, version.minor.toNat, version.patch.toNat)

/-- The number that a release of some severity moves on. -/
def moved (version : Version) : Bump → UInt64
  | .major => version.major
  | .minor => version.minor
  | _ => version.patch

/-- The numbers that follow a version in a release of some severity. -/
def numbersAfter (version : Version) : Bump → Nat × Nat × Nat
  | .major => (version.major.toNat + 1, 0, 0)
  | .minor => (version.major.toNat, version.minor.toNat + 1, 0)
  | _ => (version.major.toNat, version.minor.toNat, version.patch.toNat + 1)

variable {version next : Version} {bump : Bump}

theorem next?_eq_none_iff (hchange : bump ≠ .none) :
    version.next? bump = none ↔ (version.moved bump).toNat = 2 ^ 64 - 1 := by
  cases bump with
  | none => exact absurd rfl hchange
  | patch | minor | major =>
    simp only [next?, moved, Option.map_eq_none_iff, successor?_eq_none_iff]

theorem label_of_next? (hnext : version.next? bump = some next) : next.label = none := by
  cases bump with
  | none =>
    obtain rfl := Option.some.inj hnext
    rfl
  | patch | minor | major =>
    obtain ⟨number, -, rfl⟩ := Option.map_eq_some_iff.mp hnext
    rfl

theorem numbers_of_next? (hchange : bump ≠ .none) (hnext : version.next? bump = some next) :
    next.numbers = version.numbersAfter bump := by
  cases bump with
  | none => exact absurd rfl hchange
  | patch | minor | major =>
    obtain ⟨number, hnumber, rfl⟩ := Option.map_eq_some_iff.mp hnext
    simp [numbers, numbersAfter, toNat_of_successor? hnumber]

theorem lowers_iff : version.lowers bump = true ↔ bump = .major ∧ version.major = 0 := by
  simp [lowers, Bump.isBreaking, isInitialDevelopment]

end ApiDrift.Version
