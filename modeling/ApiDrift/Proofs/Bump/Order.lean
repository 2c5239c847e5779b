import ApiDrift.Bump
import Mathlib.Order.Bounds.Basic
import Mathlib.Order.MinMax

/-!
# Severities as a chain

The four severities are ordered by their levels, so the severity of several changes together is a maximum in the sense of the order library. A patch is the floor of every comparison; the sets below are therefore never empty.
-/

namespace ApiDrift.Bump

theorem level_injective : Function.Injective level := by
  intro a b h
  cases a <;> cases b <;> first | rfl | exact absurd h (by decide)

instance : LinearOrder Bump where
  le_refl a := Nat.le_refl a.level
  le_trans _ _ _ := Nat.le_trans
  le_antisymm _ _ hab hba := level_injective (Nat.le_antisymm hab hba)
  le_total a b := Nat.le_total a.level b.level
  max_def _ _ := rfl
  toDecidableLE := inferInstance
  toDecidableEq := inferInstance

theorem le_major (bump : Bump) : bump ≤ .major := by
  cases bump <;> decide

/-! ### The worst of several severities -/

@[simp] theorem worst_nil (floor : Bump) : worst floor [] = floor := rfl

@[simp] theorem worst_cons (floor bump : Bump) (bumps : List Bump) :
    worst floor (bump :: bumps) = max bump (worst floor bumps) := by
  change bumps.foldl max (max floor bump) = _
  rw [max_comm floor bump]
  exact List.foldl_assoc

theorem floor_le_worst (floor : Bump) (bumps : List Bump) : floor ≤ worst floor bumps := by
  induction bumps with
  | nil => exact le_rfl
  | cons bump rest ih =>
    rw [worst_cons]
    exact ih.trans (le_max_right _ _)

theorem worst_append (floor : Bump) (first second : List Bump) :
    worst floor (first ++ second) = max (worst floor first) (worst floor second) := by
  induction first with
  | nil => exact (max_eq_right (floor_le_worst floor second)).symm
  | cons bump rest ih => rw [List.cons_append, worst_cons, ih, worst_cons, max_assoc]

theorem worst_le_iff {floor bound : Bump} {bumps : List Bump} :
    worst floor bumps ≤ bound ↔ floor ≤ bound ∧ ∀ bump ∈ bumps, bump ≤ bound := by
  induction bumps with
  | nil => simp
  | cons bump rest ih =>
    rw [worst_cons, max_le_iff, ih, List.forall_mem_cons]
    exact and_left_comm

theorem le_worst_of_mem (floor : Bump) {bump : Bump} {bumps : List Bump} (hmem : bump ∈ bumps) :
    bump ≤ worst floor bumps :=
  (worst_le_iff.mp le_rfl).2 bump hmem

theorem worst_le_worst_of_subset (floor : Bump) {first second : List Bump}
    (hsubset : first ⊆ second) : worst floor first ≤ worst floor second := by
  rw [worst_le_iff]
  exact ⟨floor_le_worst floor second, fun bump hmem => le_worst_of_mem floor (hsubset hmem)⟩

theorem worst_perm (floor : Bump) {first second : List Bump} (hperm : first.Perm second) :
    worst floor first = worst floor second :=
  (worst_le_worst_of_subset floor hperm.subset).antisymm
    (worst_le_worst_of_subset floor hperm.symm.subset)

/-- The worst severity is one of those given, or the floor, and none of them lies above it. -/
theorem isGreatest_worst (floor : Bump) (bumps : List Bump) :
    IsGreatest (insert floor {bump | bump ∈ bumps}) (worst floor bumps) := by
  constructor
  · induction bumps with
    | nil => exact Set.mem_insert floor _
    | cons bump rest ih =>
      rw [worst_cons]
      rcases max_choice bump (worst floor rest) with h | h <;> rw [h]
      · exact Or.inr (List.mem_cons_self)
      · exact ih.imp_right (List.mem_cons_of_mem bump)
  · rintro bump (rfl | hmem)
    · exact floor_le_worst bump bumps
    · exact le_worst_of_mem floor hmem

/-- The worst of several severities, if each of them is at least a patch. -/
theorem worst_patch_eq (bumps : List Bump) :
    worst .patch bumps =
      if .major ∈ bumps then .major else if .minor ∈ bumps then .minor else .patch := by
  induction bumps with
  | nil => rfl
  | cons bump rest ih =>
    rw [worst_cons, ih]
    cases bump <;> by_cases hmajor : Bump.major ∈ rest <;> by_cases hminor : Bump.minor ∈ rest <;>
      simp [hmajor, hminor] <;> decide

/-! ### The highest of a set of severities -/

section Highest

variable {severities : Set Bump}

theorem isGreatest_major_iff : IsGreatest severities .major ↔ .major ∈ severities :=
  and_iff_left fun bump _ => le_major bump

theorem isGreatest_minor_iff :
    IsGreatest severities .minor ↔ .minor ∈ severities ∧ .major ∉ severities := by
  refine and_congr_right fun _ => ⟨fun hbound hmajor => absurd (hbound hmajor) (by decide), ?_⟩
  intro hmajor bump hmem
  cases bump with
  | major => exact absurd hmem hmajor
  | none | patch | minor => decide

theorem isGreatest_patch_iff :
    IsGreatest severities .patch ↔
      .patch ∈ severities ∧ .minor ∉ severities ∧ .major ∉ severities := by
  refine and_congr_right fun _ => ⟨fun hbound => ⟨fun hminor => ?_, fun hmajor => ?_⟩, ?_⟩
  · exact absurd (hbound hminor) (by decide)
  · exact absurd (hbound hmajor) (by decide)
  · rintro ⟨hminor, hmajor⟩ bump hmem
    cases bump with
    | major => exact absurd hmem hmajor
    | minor => exact absurd hmem hminor
    | none | patch => decide

end Highest

end ApiDrift.Bump
