import ApiDrift.Comparison
import ApiDrift.Proofs.Bump.Order

/-!
# Comparisons in sequence

A comparison is made of smaller ones, one after the other. This module says what a sequence leaves behind: if every part succeeds, the steps of all of them in order and their joint severity; if some part fails, the steps up to the end of the first that does, and its failure.
-/

namespace ApiDrift

namespace Comparison

variable {α β : Type}

/-! ### Laws of the monad -/

@[simp] theorem steps_pure (value : α) : (pure value : Comparison α).steps = [] := rfl

@[simp] theorem outcome_pure (value : α) : (pure value : Comparison α).outcome = .ok value := rfl

theorem bind_of_ok {first : Comparison α} {value : α} (hok : first.outcome = .ok value)
    (next : α → Comparison β) :
    first >>= next = ⟨first.steps ++ (next value).steps, (next value).outcome⟩ := by
  obtain ⟨steps, outcome⟩ := first
  obtain rfl : outcome = .ok value := hok
  rfl

theorem bind_of_error {first : Comparison α} {failure : Failure}
    (herror : first.outcome = .error failure) (next : α → Comparison β) :
    first >>= next = ⟨first.steps, .error failure⟩ := by
  obtain ⟨steps, outcome⟩ := first
  obtain rfl : outcome = .error failure := herror
  rfl

instance : LawfulMonad Comparison := by
  refine LawfulMonad.mk' _ ?_ (fun _ _ => rfl) ?_
  · rintro α ⟨steps, failure | value⟩
    · rfl
    · change (⟨steps ++ [], .ok value⟩ : Comparison α) = _
      rw [List.append_nil]
  · rintro α β γ ⟨steps, failure | value⟩ next last
    · rfl
    · have hfirst : (⟨steps, .ok value⟩ : Comparison α).outcome = .ok value := rfl
      rw [bind_of_ok hfirst, bind_of_ok hfirst]
      obtain ⟨others, failure | middle⟩ := next value
      · rfl
      · exact congrArg (Comparison.mk · _) (List.append_assoc ..)

/-! ### Joint severity -/

/-- One comparison after another. -/
def both (first second : Comparison Bump) : Comparison Bump := do
  let ofFirst ← first
  let ofSecond ← second
  return max ofFirst ofSecond

/-- Comparisons one after another, never less severe than a patch. -/
def inTurn : List (Comparison Bump) → Comparison Bump
  | [] => pure .patch
  | first :: rest => both first (inTurn rest)

theorem both_assoc (first second third : Comparison Bump) :
    both (both first second) third = both first (both second third) := by
  simp only [both, bind_assoc, pure_bind, max_assoc]

/-- Every outcome is at least a patch. -/
def Floored (comparison : Comparison Bump) : Prop :=
  ∀ bump, comparison.outcome = .ok bump → .patch ≤ bump

theorem floored_of_ok {steps : List Step} {bump : Bump} (hle : .patch ≤ bump) :
    Floored ⟨steps, .ok bump⟩ := by
  intro other hother
  cases hother
  exact hle

theorem pure_patch_both {comparison : Comparison Bump} (hfloored : Floored comparison) :
    both (pure .patch) comparison = comparison := by
  obtain ⟨steps, failure | bump⟩ := comparison
  · rfl
  · have hmax : max .patch bump = bump := max_eq_right (hfloored bump rfl)
    change (⟨steps ++ [], .ok (max .patch bump)⟩ : Comparison Bump) = _
    rw [List.append_nil, hmax]

theorem both_pure_patch {comparison : Comparison Bump} (hfloored : Floored comparison) :
    both comparison (pure .patch) = comparison := by
  obtain ⟨steps, failure | bump⟩ := comparison
  · rfl
  · have hmax : max bump .patch = bump := max_eq_left (hfloored bump rfl)
    change (⟨steps ++ [], .ok (max bump .patch)⟩ : Comparison Bump) = _
    rw [List.append_nil, hmax]

theorem floored_both {first second : Comparison Bump} (hsecond : Floored second) :
    Floored (both first second) := by
  intro bump hbump
  cases hfirst : first.outcome with
  | error failure =>
    rw [both, bind_of_error hfirst] at hbump
    cases hbump
  | ok ofFirst =>
    rw [both, bind_of_ok hfirst] at hbump
    cases hother : second.outcome with
    | error failure =>
      rw [bind_of_error hother] at hbump
      cases hbump
    | ok ofSecond =>
      rw [bind_of_ok hother] at hbump
      cases hbump
      exact (hsecond ofSecond hother).trans (le_max_right _ _)

theorem floored_inTurn (comparisons : List (Comparison Bump)) :
    Floored (inTurn comparisons) := by
  induction comparisons with
  | nil => exact floored_of_ok le_rfl
  | cons first rest ih => exact floored_both ih

theorem inTurn_append (first second : List (Comparison Bump)) :
    inTurn (first ++ second) = both (inTurn first) (inTurn second) := by
  induction first with
  | nil => exact (pure_patch_both (floored_inTurn second)).symm
  | cons comparison rest ih => rw [List.cons_append, inTurn, ih, inTurn, both_assoc]

theorem inTurn_singleton {comparison : Comparison Bump} (hfloored : Floored comparison) :
    inTurn [comparison] = comparison := both_pure_patch hfloored

theorem inTurn_flatMap {ι : Type} (parts : List ι) (comparisons : ι → List (Comparison Bump)) :
    inTurn (parts.flatMap comparisons) =
      inTurn (parts.map fun part => inTurn (comparisons part)) := by
  induction parts with
  | nil => rfl
  | cons part rest ih => rw [List.flatMap_cons, inTurn_append, ih, List.map_cons, inTurn]

/-! ### Success and failure of a sequence -/

def Succeeds (comparison : Comparison α) : Prop := ∃ value, comparison.outcome = .ok value

theorem both_of_error {first : Comparison Bump} {failure : Failure}
    (herror : first.outcome = .error failure) (second : Comparison Bump) :
    both first second = ⟨first.steps, .error failure⟩ := bind_of_error herror _

theorem both_of_ok {first second : Comparison Bump} {ofFirst ofSecond : Bump}
    (hfirst : first.outcome = .ok ofFirst) (hsecond : second.outcome = .ok ofSecond) :
    both first second = ⟨first.steps ++ second.steps, .ok (max ofFirst ofSecond)⟩ := by
  rw [both, bind_of_ok hfirst, bind_of_ok hsecond, steps_pure, outcome_pure, List.append_nil]

theorem both_of_ok_of_error {first second : Comparison Bump} {ofFirst : Bump} {failure : Failure}
    (hfirst : first.outcome = .ok ofFirst) (hsecond : second.outcome = .error failure) :
    both first second = ⟨first.steps ++ second.steps, .error failure⟩ := by
  rw [both, bind_of_ok hfirst, bind_of_error hsecond]

theorem both_of_ok_left {first : Comparison Bump} {ofFirst : Bump}
    (hfirst : first.outcome = .ok ofFirst) (second : Comparison Bump) :
    both first second = ⟨first.steps ++ second.steps, second.outcome.map (max ofFirst)⟩ := by
  cases hsecond : second.outcome with
  | error failure => exact both_of_ok_of_error hfirst hsecond
  | ok ofSecond => exact both_of_ok hfirst hsecond

/-- A sequence that succeeds has succeeded in every part, and no part is more severe than the whole. -/
theorem part_of_inTurn_ok {comparisons : List (Comparison Bump)} {bump : Bump}
    (hok : (inTurn comparisons).outcome = .ok bump) :
    ∀ comparison ∈ comparisons, ∃ part, comparison.outcome = .ok part ∧ part ≤ bump := by
  induction comparisons generalizing bump with
  | nil => simp
  | cons first rest ih =>
    rw [inTurn] at hok
    cases hfirst : first.outcome with
    | error failure =>
      rw [both_of_error hfirst] at hok
      cases hok
    | ok ofFirst =>
      cases hrest : (inTurn rest).outcome with
      | error failure =>
        rw [both_of_ok_of_error hfirst hrest] at hok
        cases hok
      | ok ofRest =>
        rw [both_of_ok hfirst hrest] at hok
        cases hok
        intro comparison hmem
        rcases List.mem_cons.mp hmem with rfl | hmem
        · exact ⟨ofFirst, hfirst, le_max_left _ _⟩
        · obtain ⟨part, hpart, hle⟩ := ih hrest comparison hmem
          exact ⟨part, hpart, hle.trans (le_max_right _ _)⟩

theorem inTurn_of_succeeds {comparisons : List (Comparison Bump)}
    (hall : ∀ comparison ∈ comparisons, Succeeds comparison) :
    Succeeds (inTurn comparisons) ∧
      (inTurn comparisons).steps = comparisons.flatMap Comparison.steps := by
  induction comparisons with
  | nil => exact ⟨⟨.patch, rfl⟩, rfl⟩
  | cons first rest ih =>
    obtain ⟨ofFirst, hfirst⟩ := hall first List.mem_cons_self
    have hlater : ∀ comparison ∈ rest, Succeeds comparison :=
      fun other hother => hall other (List.mem_cons_of_mem _ hother)
    obtain ⟨⟨ofRest, hrest⟩, hsteps⟩ := ih hlater
    rw [inTurn, both_of_ok hfirst hrest, List.flatMap_cons, hsteps]
    exact ⟨⟨_, rfl⟩, rfl⟩

theorem succeeds_inTurn_iff {comparisons : List (Comparison Bump)} :
    Succeeds (inTurn comparisons) ↔ ∀ comparison ∈ comparisons, Succeeds comparison := by
  constructor
  · rintro ⟨bump, hok⟩ comparison hmem
    obtain ⟨part, hpart, -⟩ := part_of_inTurn_ok hok comparison hmem
    exact ⟨part, hpart⟩
  · intro hall
    exact (inTurn_of_succeeds hall).1

/-- What follows the first failing part leaves no trace. -/
theorem inTurn_of_fails {before after : List (Comparison Bump)} {failing : Comparison Bump}
    {failure : Failure} (hbefore : ∀ comparison ∈ before, Succeeds comparison)
    (hfailing : failing.outcome = .error failure) :
    inTurn (before ++ failing :: after) =
      ⟨before.flatMap Comparison.steps ++ failing.steps, .error failure⟩ := by
  obtain ⟨⟨bump, hok⟩, hsteps⟩ := inTurn_of_succeeds hbefore
  have hrest : inTurn (failing :: after) = ⟨failing.steps, .error failure⟩ :=
    both_of_error hfailing _
  rw [inTurn_append, both_of_ok_of_error hok (congrArg Comparison.outcome hrest), hsteps, hrest]

theorem exists_first_failure {comparisons : List (Comparison Bump)} {failure : Failure}
    (herror : (inTurn comparisons).outcome = .error failure) :
    ∃ before failing after, comparisons = before ++ failing :: after ∧
      (∀ comparison ∈ before, Succeeds comparison) ∧ failing.outcome = .error failure := by
  induction comparisons with
  | nil => cases herror
  | cons first rest ih =>
    cases hfirst : first.outcome with
    | error other =>
      rw [inTurn, both_of_error hfirst] at herror
      cases herror
      exact ⟨[], first, rest, rfl, by simp, hfirst⟩
    | ok ofFirst =>
      have hrest : (inTurn rest).outcome = .error failure := by
        cases hrest : (inTurn rest).outcome with
        | error other =>
          rw [inTurn, both_of_ok_of_error hfirst hrest] at herror
          exact herror
        | ok ofRest =>
          rw [inTurn, both_of_ok hfirst hrest] at herror
          cases herror
      obtain ⟨before, failing, after, rfl, hbefore, hfailing⟩ := ih hrest
      refine ⟨first :: before, failing, after, rfl, fun comparison hmem => ?_, hfailing⟩
      rcases List.mem_cons.mp hmem with rfl | hmem
      · exact ⟨ofFirst, hfirst⟩
      · exact hbefore comparison hmem

/-! ### Records and changelogs -/

theorem records_append (first second : List Step) (outcome : Except Failure α) :
    records ⟨first ++ second, outcome⟩ = records ⟨first, outcome⟩ ++ records ⟨second, outcome⟩ :=
  List.filterMap_append

theorem records_both_of_ok {first second : Comparison Bump} {ofFirst ofSecond : Bump}
    (hfirst : first.outcome = .ok ofFirst) (hsecond : second.outcome = .ok ofSecond) :
    (both first second).records = first.records ++ second.records := by
  rw [both_of_ok hfirst hsecond]
  exact records_append first.steps second.steps _

theorem records_flatMap {ι : Type} (parts : List ι) (steps : ι → List Step)
    (outcome : Except Failure α) :
    records ⟨parts.flatMap steps, outcome⟩ =
      parts.flatMap fun part => records ⟨steps part, outcome⟩ := by
  induction parts with
  | nil => rfl
  | cons part rest ih => rw [List.flatMap_cons, records_append, ih, List.flatMap_cons]

theorem records_inTurn {comparisons : List (Comparison Bump)}
    (hsucceeds : Succeeds (inTurn comparisons)) :
    (inTurn comparisons).records = comparisons.flatMap Comparison.records := by
  have hsteps := (inTurn_of_succeeds (succeeds_inTurn_iff.mp hsucceeds)).2
  rw [records, hsteps]
  exact records_flatMap comparisons Comparison.steps (inTurn comparisons).outcome

end Comparison

/-- A changelog takes a change in when it is found. -/
def Step.enter (changelog : List ChangeRecord) : Step → List ChangeRecord
  | .found path change => changelog ++ [.of path change]
  | _ => changelog

namespace Comparison

variable {α : Type}

/-- What a changelog holds when a comparison has written into it. -/
def changelog (kept : List ChangeRecord) (comparison : Comparison α) : List ChangeRecord :=
  comparison.steps.foldl Step.enter kept

/-- A changelog keeps what it holds and takes in every record, in order. -/
theorem changelog_eq_append (kept : List ChangeRecord) (comparison : Comparison α) :
    comparison.changelog kept = kept ++ comparison.records := by
  obtain ⟨steps, outcome⟩ := comparison
  induction steps generalizing kept with
  | nil => exact (List.append_nil kept).symm
  | cons step rest ih =>
    change Comparison.changelog (step.enter kept) ⟨rest, outcome⟩ = _
    rw [ih]
    cases step <;> first | rfl | exact List.append_assoc kept [_] _

end Comparison

end ApiDrift
