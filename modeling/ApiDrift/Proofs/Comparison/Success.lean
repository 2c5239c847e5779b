import ApiDrift.Proofs.Walk

/-!
# Comparisons that succeed

A comparison of two codebases succeeds exactly if every live position does. It has then asked about the named pairs among those positions and left their records, position by position and in order. Which positions are live is settled by their sites alone, so two comparisons with the same live positions visit them in the same order, and one with fewer leaves some of them out.
-/

namespace ApiDrift

open Comparison

/-! ### Paths that are asked about -/

namespace Comparison

variable {α : Type}

theorem asked_append (first second : List Step) (outcome : Except Failure α) :
    asked ⟨first ++ second, outcome⟩ = asked ⟨first, outcome⟩ ++ asked ⟨second, outcome⟩ :=
  List.filterMap_append

theorem asked_flatMap {ι : Type} (parts : List ι) (steps : ι → List Step)
    (outcome : Except Failure α) :
    asked ⟨parts.flatMap steps, outcome⟩ =
      parts.flatMap fun part => asked ⟨steps part, outcome⟩ := by
  induction parts with
  | nil => rfl
  | cons part rest ih => rw [List.flatMap_cons, asked_append, ih, List.flatMap_cons]

theorem asked_map_eq_nil {ι : Type} {step : ι → Step} (hstep : ∀ part path, step part ≠ .asked path)
    (parts : List ι) (outcome : Except Failure α) : asked ⟨parts.map step, outcome⟩ = [] := by
  rw [asked, List.filterMap_map, List.filterMap_eq_nil_iff]
  intro part _
  cases hpart : step part with
  | asked path => exact absurd hpart (hstep part path)
  | ignored | visited | reconciled | found => simp [hpart]

theorem asked_ofPair (path : String) (old new : Entity) : (ofPair path old new).asked = [] := by
  have hsteps : ofPair path old new =
      ⟨(ofPair path old new).steps, (ofPair path old new).outcome⟩ := rfl
  rw [hsteps, steps_ofPair, asked_append, asked_append, asked_map_eq_nil (by simp),
    asked_map_eq_nil (by simp), asked_map_eq_nil (by simp)]
  rfl

end Comparison

namespace Site

/-- Only a pair is asked about, and only if its new entity has a name. -/
def asked (site : Site) : List String :=
  match site.old?, site.new? with
  | some _, some new => if new.name = "" then [] else [site.path]
  | _, _ => []

variable {policy : Policy} {site : Site} {old new : Entity}

theorem asked_of_pair (hold : site.old? = some old) (hnew : site.new? = some new) :
    site.asked = if new.name = "" then [] else [site.path] := by
  rw [asked, hold, hnew]

theorem asked_compared (site : Site) (old new : Entity) : (site.compared old new).asked = [] := by
  rw [compared]
  split
  · exact asked_ofPair site.path old new
  · rfl

/-- What a visit asks does not depend on the answer. -/
theorem asked_visit (policy : Policy) (site : Site) : (site.visit policy).asked = site.asked := by
  cases hold : site.old? with
  | none => cases hnew : site.new? <;> rw [visit, asked, hold, hnew] <;> rfl
  | some old =>
    cases hnew : site.new? with
    | none => rw [visit, asked, hold, hnew]; rfl
    | some new =>
      rw [visit_of_pair hold hnew, asked_of_pair hold hnew]
      rcases pair_cases policy site new with hignored | hkept | ⟨hname, failure, hfailure⟩
      · rw [unlessIgnored_of_ignored hignored, if_neg hignored.1]
        rfl
      · rw [unlessIgnored_of_kept hkept, asked_append]
        refine (congrArg (_ ++ ·) (asked_compared site old new)).trans ?_
        split <;> rfl
      · obtain ⟨other, hother⟩ := Policy.exists_ask_of_error hfailure
        rw [unlessIgnored_of_policy_error hname hother, if_neg hname]
        rfl

end Site

/-! ### Success, position by position -/

namespace Codebase

variable {policy : Policy} {old new : Codebase} {bump : Bump}

theorem succeeds_iff : Succeeds (compare policy old new) ↔
    ∀ position ∈ livePositions policy old new, Succeeds ((site old new position).visit policy) := by
  rw [compare_eq_inTurn, succeeds_inTurn_iff, List.forall_mem_map]

theorem steps_of_succeeds (hsucceeds : Succeeds (compare policy old new)) :
    (compare policy old new).steps = (livePositions policy old new).flatMap fun position =>
      ((site old new position).visit policy).steps := by
  have hall := List.forall_mem_map.mpr (succeeds_iff.mp hsucceeds)
  rw [compare_eq_inTurn, (inTurn_of_succeeds hall).2, List.flatMap_map]

theorem records_of_succeeds (hsucceeds : Succeeds (compare policy old new)) :
    (compare policy old new).records = (livePositions policy old new).flatMap fun position =>
      (site old new position).records policy := by
  rw [← records_visits (succeeds_iff.mp hsucceeds) (compare policy old new).outcome,
    ← steps_of_succeeds hsucceeds]

theorem asked_of_succeeds (hsucceeds : Succeeds (compare policy old new)) :
    (compare policy old new).asked = (livePositions policy old new).flatMap fun position =>
      (site old new position).asked := by
  have hsteps := steps_of_succeeds hsucceeds
  generalize compare policy old new = comparison at hsteps ⊢
  obtain ⟨steps, outcome⟩ := comparison
  obtain rfl : steps = _ := hsteps
  rw [asked_flatMap]
  exact List.flatMap_congr fun position _ => Site.asked_visit policy _

/-! ### The same live positions, and fewer -/

theorem livePositions_eq_of_iff {policy other : Policy} {old old' new new' : Codebase}
    (hiff : ∀ position : Position,
      position.Live policy old new ∧ (site old new position).Present ↔
        position.Live other old' new' ∧ (site old' new' position).Present) :
    livePositions policy old new = livePositions other old' new' := by
  apply (pairwise_livePositions policy old new).eq_of_mem_iff
    (pairwise_livePositions other old' new')
  intro position
  rw [mem_livePositions_iff, mem_livePositions_iff]
  exact hiff position

/-- If one policy leaves everything live that another does, the other only leaves positions out. -/
theorem livePositions_eq_filter {policy other : Policy} {old new : Codebase}
    (hlive : ∀ position : Position, position.Live other old new → position.Live policy old new) :
    livePositions other old new =
      (livePositions policy old new).filter (· ∈ livePositions other old new) := by
  apply (pairwise_livePositions other old new).eq_of_mem_iff
    ((pairwise_livePositions policy old new).sublist List.filter_sublist)
  intro position
  rw [List.mem_filter, decide_eq_true_eq, mem_livePositions_iff, mem_livePositions_iff]
  constructor
  · rintro ⟨hother, hpresent⟩
    exact ⟨⟨hlive position hother, hpresent⟩, hother, hpresent⟩
  · rintro ⟨-, hother⟩
    exact hother

end Codebase

end ApiDrift
