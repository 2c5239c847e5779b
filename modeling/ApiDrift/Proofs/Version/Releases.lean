import ApiDrift.Proofs.Bump.Order
import ApiDrift.Proofs.Version.Next
import Mathlib.Data.Prod.Lex

/-!
# Releases in a row

Releases are made one after another, each from the version that the one before it has left. A release that is refused leaves the version as it was. So the numbers of a version never go back, and a version without a stable API never gets one by a release.
-/

namespace ApiDrift.Version

/-- The version after the release of a change, or why there is none. -/
def release (version : Version) (bump : Bump) : Except Failure Version :=
  version.bump (version.releaseBump bump)

/-- The version that stands after a release was tried. -/
def afterRelease (version : Version) (bump : Bump) : Version :=
  match version.release bump with
  | .ok next => next
  | .error _ => version

def afterReleases (version : Version) (bumps : List Bump) : Version :=
  bumps.foldl afterRelease version

/-- Three numbers, of which the first counts most and the last counts least. -/
def ranked (numbers : ℕ × ℕ × ℕ) : ℕ ×ₗ ℕ ×ₗ ℕ := toLex (numbers.1, toLex numbers.2)

theorem ranked_lt_iff {numbers others : ℕ × ℕ × ℕ} : ranked numbers < ranked others ↔
    numbers.1 < others.1 ∨ numbers.1 = others.1 ∧
      (numbers.2.1 < others.2.1 ∨ numbers.2.1 = others.2.1 ∧ numbers.2.2 < others.2.2) := by
  rw [ranked, ranked, Prod.Lex.toLex_lt_toLex, Prod.Lex.toLex_lt_toLex]

variable {version next : Version} {bump : Bump}

/-! ### Where a bump leads -/

theorem bump_eq_ok_iff : version.bump bump = .ok next ↔ version.next? bump = some next := by
  unfold Version.bump
  cases version.next? bump <;> simp

theorem bump_eq_error_iff {failure : Failure} : version.bump bump = .error failure ↔
    version.next? bump = none ∧ failure = .invalidVersion
      (version.text ++ " has no next " ++ bump.word ++ " version") := by
  unfold Version.bump
  cases version.next? bump <;> simp [eq_comm]

theorem lt_numbersAfter (version : Version) (bump : Bump) :
    ranked version.numbers < ranked (version.numbersAfter bump) := by
  rw [ranked_lt_iff]
  cases bump <;> simp [numbers, numbersAfter]

theorem numbersAfter_lt_numbersAfter (version : Version) {low high : Bump} (hlow : low ≠ .none)
    (hlt : low < high) :
    ranked (version.numbersAfter low) < ranked (version.numbersAfter high) := by
  rw [ranked_lt_iff]
  cases low with
  | none => exact absurd rfl hlow
  | major => exact absurd hlt (not_lt.mpr (Bump.le_major high))
  | patch | minor =>
    cases high with
    | none | patch => exact absurd hlt (by decide)
    | minor | major => simp_all [numbersAfter]

/-- Of two bumps of one version the more severe one leads further. -/
theorem ranked_lt_of_bump_lt {other : Version} {low high : Bump} (hlt : low < high)
    (hlow : version.bump low = .ok next) (hhigh : version.bump high = .ok other) :
    ranked next.numbers < ranked other.numbers := by
  have hchange : high ≠ .none := by
    rintro rfl
    exact absurd hlt (by cases low <;> decide)
  rw [numbers_of_next? hchange (bump_eq_ok_iff.mp hhigh)]
  by_cases hnone : low = .none
  · subst hnone
    obtain rfl := Except.ok.inj hlow
    exact lt_numbersAfter version high
  · rw [numbers_of_next? hnone (bump_eq_ok_iff.mp hlow)]
    exact numbersAfter_lt_numbersAfter version hnone hlt

/-! ### One release -/

theorem releaseBump_eq_none_iff : version.releaseBump bump = .none ↔ bump = .none := by
  unfold releaseBump
  cases hlowers : version.lowers bump with
  | false => simp
  | true =>
    obtain ⟨rfl, -⟩ := lowers_iff.mp hlowers
    simp

/-- While there is no stable API, no release moves the first number. -/
theorem releaseBump_ne_major (hmajor : version.major = 0) : version.releaseBump bump ≠ .major := by
  unfold releaseBump
  cases hlowers : version.lowers bump with
  | true => simp
  | false =>
    rintro rfl
    rw [lowers_iff.mpr ⟨rfl, hmajor⟩] at hlowers
    cases hlowers

/-- A release is refused exactly if the number that has to move on is full. -/
theorem exists_release_error_iff : (∃ failure, version.release bump = .error failure) ↔
    bump ≠ .none ∧ (version.moved (version.releaseBump bump)).toNat = 2 ^ 64 - 1 := by
  by_cases hnone : bump = .none
  · subst hnone
    exact ⟨fun ⟨_, hfailure⟩ => (nomatch hfailure), fun hchange => absurd rfl hchange.1⟩
  · have hchange : version.releaseBump bump ≠ .none := mt releaseBump_eq_none_iff.mp hnone
    simp only [release, bump_eq_error_iff, exists_and_left, exists_eq, and_true,
      next?_eq_none_iff hchange]
    exact (and_iff_right hnone).symm

/-- What becomes of a version when a release is tried: it moves on, or it is only stripped of its label, or the release is refused because a number is full. -/
inductive Tried (version : Version) (bump : Bump) : Except Failure Version → Version → Prop
  | moved {next : Version} (hchange : bump ≠ .none)
      (hnumbers : next.numbers = version.numbersAfter (version.releaseBump bump))
      (hlabel : next.label = none) : Tried version bump (.ok next) next
  | kept (hnone : bump = .none) : Tried version bump (.ok version.dropLabel) version.dropLabel
  | refused (hchange : bump ≠ .none)
      (hfull : (version.moved (version.releaseBump bump)).toNat = 2 ^ 64 - 1) :
      Tried version bump
        (.error (.invalidVersion
          (version.text ++ " has no next " ++ (version.releaseBump bump).word ++ " version")))
        version

theorem tried_release (version : Version) (bump : Bump) :
    Tried version bump (version.release bump) (version.afterRelease bump) := by
  by_cases hnone : bump = .none
  · subst hnone
    exact .kept rfl
  have hchange : version.releaseBump bump ≠ .none := mt releaseBump_eq_none_iff.mp hnone
  cases hresult : version.release bump with
  | ok next =>
    have hnext := bump_eq_ok_iff.mp hresult
    rw [afterRelease, hresult]
    exact .moved hnone (numbers_of_next? hchange hnext) (label_of_next? hnext)
  | error failure =>
    obtain ⟨hrefused, rfl⟩ := bump_eq_error_iff.mp hresult
    rw [afterRelease, hresult]
    exact .refused hnone ((next?_eq_none_iff hchange).mp hrefused)

section Tried

variable {result : Except Failure Version} {after : Version}

theorem Tried.ranked_le (htried : Tried version bump result after) :
    ranked version.numbers ≤ ranked after.numbers := by
  cases htried with
  | moved _ hnumbers _ =>
    rw [hnumbers]
    exact (lt_numbersAfter version _).le
  | kept _ => exact le_rfl
  | refused _ _ => exact le_rfl

theorem Tried.major_eq_zero (htried : Tried version bump result after)
    (hmajor : version.major = 0) : after.major = 0 := by
  cases htried with
  | moved _ hnumbers _ =>
    have hlowered : version.releaseBump bump ≠ .major := releaseBump_ne_major hmajor
    rw [← UInt64.toNat_inj, ← hmajor]
    cases hbump : version.releaseBump bump with
    | major => exact absurd hbump hlowered
    | none | patch | minor =>
      rw [hbump] at hnumbers
      exact congrArg Prod.fst hnumbers
  | kept _ => exact hmajor
  | refused _ _ => exact hmajor

end Tried

/-! ### Releases in a row -/

@[simp] theorem afterReleases_nil (version : Version) : version.afterReleases [] = version := rfl

@[simp] theorem afterReleases_cons (version : Version) (bump : Bump) (bumps : List Bump) :
    version.afterReleases (bump :: bumps) = (version.afterRelease bump).afterReleases bumps := rfl

theorem afterReleases_append (version : Version) (bumps more : List Bump) :
    version.afterReleases (bumps ++ more) = (version.afterReleases bumps).afterReleases more :=
  List.foldl_append

theorem ranked_le_afterReleases (version : Version) (bumps : List Bump) :
    ranked version.numbers ≤ ranked (version.afterReleases bumps).numbers := by
  induction bumps generalizing version with
  | nil => exact le_rfl
  | cons bump bumps ih => exact (tried_release version bump).ranked_le.trans (ih _)

theorem major_afterReleases_eq_zero (hmajor : version.major = 0) (bumps : List Bump) :
    (version.afterReleases bumps).major = 0 := by
  induction bumps generalizing version with
  | nil => exact hmajor
  | cons bump bumps ih => exact ih ((tried_release version bump).major_eq_zero hmajor)

/-- Whatever releases were tried before, one more release moves a version forward or leaves its numbers as they are, and is refused only for want of a next number. Of two bumps of one version the more severe one leads further. -/
theorem releases_move_forward (start : Version) (before : List Bump) (bump : Bump) :
    let current := start.afterReleases before
    let applied := current.releaseBump bump
    let after := start.afterReleases (before ++ [bump])
    (∀ next, current.release bump = .ok next → after = next ∧
      (bump ≠ .none → ranked current.numbers < ranked next.numbers ∧
        next.numbers = current.numbersAfter applied ∧ next.label = none) ∧
      (bump = .none → next.numbers = current.numbers)) ∧
    (∀ failure, current.release bump = .error failure → after = current ∧
      failure = .invalidVersion
        (current.text ++ " has no next " ++ applied.word ++ " version")) ∧
    ((∃ failure, current.release bump = .error failure) ↔
      bump ≠ .none ∧ (current.moved applied).toNat = 2 ^ 64 - 1) ∧
    ranked start.numbers ≤ ranked current.numbers ∧
    (start.major = 0 → current.major = 0) ∧
    ∀ low high, low < high → ∀ next other, start.bump low = .ok next → start.bump high = .ok other →
      ranked next.numbers < ranked other.numbers := by
  intro current applied after
  have hafter : after = current.afterRelease bump := afterReleases_append start before [bump]
  have htried : Tried current bump (current.release bump) after :=
    hafter ▸ tried_release current bump
  clear_value after
  refine ⟨fun next hnext => ?_, fun failure hfailure => ?_, exists_release_error_iff,
    ranked_le_afterReleases start before, fun hmajor => major_afterReleases_eq_zero hmajor before,
    fun low high hlt next other hlow hhigh => ranked_lt_of_bump_lt hlt hlow hhigh⟩
  · rw [hnext] at htried
    cases htried with
    | moved hchange hnumbers hlabel =>
      have hforward : ranked current.numbers < ranked after.numbers := by
        rw [hnumbers]
        exact lt_numbersAfter current applied
      exact ⟨rfl, fun _ => ⟨hforward, hnumbers, hlabel⟩, fun hnone => absurd hnone hchange⟩
    | kept hnone => exact ⟨rfl, fun hchange => absurd hnone hchange, fun _ => rfl⟩
  · rw [hfailure] at htried
    cases htried
    exact ⟨rfl, rfl⟩

/-- A full number holds up one release and no other. -/
example : (afterReleases ⟨0, 2, 18446744073709551615, some "rc"⟩ [.patch, .major, .patch]).text =
    "0.3.1" := by
  decide +kernel

end ApiDrift.Version
