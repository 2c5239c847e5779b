import ApiDrift.Proofs.Walk

/-!
# The first failure

A comparison of two codebases fails exactly if some live position does. Of several positions that fail, the first one in order gives its failure, and the changelog ends with what the positions before it have to tell.
-/

namespace ApiDrift

open Comparison

namespace Codebase

variable {policy : Policy} {old new : Codebase}

/-- A live position whose visit fails. -/
def FailsAt (policy : Policy) (old new : Codebase) (position : Position) : Prop :=
  position.Live policy old new ∧ ∃ failure, (site old new position).Fails policy failure

theorem present_of_fails {position : Position} {failure : Failure}
    (hfails : (site old new position).Fails policy failure) : (site old new position).Present := by
  cases hfails with
  | refused hold | wrapped hold | mismatched hold => exact Or.inl (Option.isSome_of_eq_some hold)

theorem mem_livePositions_of_failsAt {position : Position}
    (hfails : FailsAt policy old new position) : position ∈ livePositions policy old new := by
  obtain ⟨hlive, failure, hfails⟩ := hfails
  exact mem_livePositions_iff.mpr ⟨hlive, present_of_fails hfails⟩

theorem not_failsAt_of_succeeds {position : Position}
    (hsucceeds : Succeeds ((site old new position).visit policy)) :
    ¬ FailsAt policy old new position := by
  rintro ⟨-, failure, hfails⟩
  obtain ⟨bump, hok⟩ := hsucceeds
  rw [Site.outcome_visit_eq_error_iff.mpr hfails] at hok
  cases hok

/-- A comparison that fails stops at a live position. Everything before it has succeeded, and nothing behind it leaves a step. -/
theorem exists_last_visit {failure : Failure}
    (herror : (compare policy old new).outcome = .error failure) :
    ∃ before position after, livePositions policy old new = before ++ position :: after ∧
      (∀ earlier ∈ before, Succeeds ((site old new earlier).visit policy)) ∧
      (site old new position).Fails policy failure ∧
      (compare policy old new).steps =
        (before.flatMap fun earlier => ((site old new earlier).visit policy).steps) ++
          ((site old new position).visit policy).steps := by
  rw [compare_eq_inTurn] at herror ⊢
  obtain ⟨_, _, _, hsplit, hbefore, hfailing⟩ := exists_first_failure herror
  obtain ⟨before, rest, hlive, rfl, hrest⟩ := List.map_eq_append_iff.mp hsplit
  obtain ⟨position, after, rfl, rfl, rfl⟩ := List.map_eq_cons_iff.mp hrest
  have hfails := Site.outcome_visit_eq_error_iff.mp hfailing
  refine ⟨before, position, after, hlive, List.forall_mem_map.mp hbefore, hfails, ?_⟩
  rw [hsplit, inTurn_of_fails hbefore hfailing, List.flatMap_map]

theorem exists_stop {failure : Failure}
    (herror : (compare policy old new).outcome = .error failure) :
    ∃ before position after, livePositions policy old new = before ++ position :: after ∧
      (∀ earlier ∈ before, Succeeds ((site old new earlier).visit policy)) ∧
      (site old new position).Fails policy failure ∧
      (compare policy old new).records =
        before.flatMap fun earlier => (site old new earlier).records policy := by
  obtain ⟨before, position, after, hlive, hsucceed, hfails, hsteps⟩ := exists_last_visit herror
  refine ⟨before, position, after, hlive, hsucceed, hfails, ?_⟩
  have hnothing : ((site old new position).visit policy).records = [] := (Site.visit_of_fails hfails).2
  rw [Comparison.records, hsteps, List.filterMap_append, ← records_visits hsucceed (.ok .patch)]
  exact (congrArg (_ ++ ·) hnothing).trans (List.append_nil _)

theorem exists_error_iff :
    (∃ failure, (compare policy old new).outcome = .error failure) ↔
      ∃ position, FailsAt policy old new position := by
  constructor
  · rintro ⟨failure, herror⟩
    obtain ⟨before, position, after, hlive, -, hfails, -⟩ := exists_stop herror
    have hmem : position ∈ livePositions policy old new := by simp [hlive]
    exact ⟨position, (mem_livePositions_iff.mp hmem).1, failure, hfails⟩
  · rintro ⟨position, hfails⟩
    cases houtcome : (compare policy old new).outcome with
    | error failure => exact ⟨failure, rfl⟩
    | ok bump =>
      obtain ⟨part, hpart, -⟩ := visit_of_compare_ok houtcome (mem_livePositions_of_failsAt hfails)
      exact absurd hfails (not_failsAt_of_succeeds ⟨part, hpart⟩)

end Codebase

open Codebase

/-- A comparison fails exactly if a live position does. Its failure is that of the first one that does, and the changelog has taken in what the positions before that one tell, in order. -/
theorem compare_fails_at_first (policy : Policy) (old new : Codebase) :
    ((∃ failure, (Codebase.compare policy old new).outcome = .error failure) ↔
        ∃ position : Position, position.Live policy old new ∧
          ∃ failure, (Codebase.site old new position).Fails policy failure) ∧
      ∀ failure, (Codebase.compare policy old new).outcome = .error failure →
        ∃ position : Position, position.Live policy old new ∧
          (Codebase.site old new position).Fails policy failure ∧
          (∀ other : Position, other.Live policy old new →
            (∃ failure, (Codebase.site old new other).Fails policy failure) →
              other = position ∨ position.Before other) ∧
          ∃ earlier : List Position, earlier.Pairwise Position.Before ∧
            (∀ other, other ∈ earlier ↔ other.Before position ∧ other.Live policy old new ∧
              (Codebase.site old new other).Present) ∧
            ∀ kept, (Codebase.compare policy old new).changelog kept =
              kept ++ earlier.flatMap fun other => (Codebase.site old new other).records policy := by
  refine ⟨exists_error_iff, fun failure herror => ?_⟩
  obtain ⟨before, position, after, hlive, hsucceed, hfails, hrecords⟩ := exists_stop herror
  have hsorted := pairwise_livePositions policy old new
  rw [hlive, List.pairwise_append, List.pairwise_cons] at hsorted
  obtain ⟨hbefore, ⟨hafter, -⟩, hacross⟩ := hsorted
  have hmem : ∀ other, other ∈ before ∨ other = position ∨ other ∈ after ↔
      other.Live policy old new ∧ (Codebase.site old new other).Present := by
    intro other
    rw [← mem_livePositions_iff, hlive, List.mem_append, List.mem_cons]
  refine ⟨position, ((hmem position).mp (Or.inr (Or.inl rfl))).1, hfails,
    fun other hotherLive hotherFails => ?_, before, hbefore, fun other => ?_, fun kept => ?_⟩
  · obtain ⟨otherFailure, hother⟩ := hotherFails
    rcases (hmem other).mpr ⟨hotherLive, present_of_fails hother⟩ with hin | hsame | hin
    · exact absurd ⟨hotherLive, otherFailure, hother⟩ (not_failsAt_of_succeeds (hsucceed other hin))
    · exact Or.inl hsame
    · exact Or.inr (hafter other hin)
  · constructor
    · intro hin
      exact ⟨hacross other hin position List.mem_cons_self, (hmem other).mp (Or.inl hin)⟩
    · rintro ⟨hother, hotherLive⟩
      rcases (hmem other).mpr hotherLive with hin | rfl | hin
      · exact hin
      · exact absurd hother (Std.Asymm.asymm _ _ hother)
      · exact absurd hother (Std.Asymm.asymm _ _ (hafter other hin))
  · rw [changelog_eq_append, hrecords]

/-- The policy gives up on one field, and the next is a function now; the field before them is gone. -/
theorem compare_fails_at_first_of_three :
    ∃ (policy : Policy) (old new : Codebase),
      (Codebase.compare policy old new).outcome =
          .error (.policyFailed "u.b" (Failure.invalidVersion "x").text) ∧
        ∃ position : Position, position.Live policy old new ∧
          (Codebase.site old new position).Fails policy
            (.policyFailed "u.b" (Failure.invalidVersion "x").text) ∧
          (∀ other : Position, other.Live policy old new →
            (∃ failure, (Codebase.site old new other).Fails policy failure) →
              other = position ∨ position.Before other) ∧
          ∃ earlier : List Position, earlier.Pairwise Position.Before ∧
            (∀ other, other ∈ earlier ↔ other.Before position ∧ other.Live policy old new ∧
              (Codebase.site old new other).Present) ∧
            ∀ kept, (Codebase.compare policy old new).changelog kept =
              kept ++ earlier.flatMap fun other => (Codebase.site old new other).records policy := by
  have herror : (Codebase.compare
      (fun path => if path = "u.b" then .error (.invalidVersion "x") else .ok false)
      (.cons "u" trivial (.unit "u" (.cons "a" trivial (.field "a" ⟨"int", 0, []⟩)
        (.cons "b" (by decide) (.field "b" ⟨"int", 0, []⟩)
          (.cons "c" (by decide) (.field "c" ⟨"int", 0, []⟩) .nil))) .nil .nil) .nil)
      (.cons "u" trivial (.unit "u" (.cons "b" trivial (.field "b" ⟨"int", 0, []⟩)
        (.cons "c" (by decide) (.function "c" ⟨"int", 0, []⟩ []) .nil)) .nil .nil) .nil)).outcome =
      .error (.policyFailed "u.b" (Failure.invalidVersion "x").text) := by decide
  exact ⟨_, _, _, herror, (compare_fails_at_first _ _ _).2 _ herror⟩

end ApiDrift
