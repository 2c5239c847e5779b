import ApiDrift.Log
import ApiDrift.Proofs.Comparison.FirstFailure
import ApiDrift.Proofs.Comparison.Success

/-!
# The course of a comparison

A comparison asks its policy, raises log events and finds changes, all in one sequence of steps. The sequence is told here position by position: at each position that is visited come its own steps, the question first, and then those of the positions below it. A position is visited if it is live and nothing before it has failed, so a failure is the last thing that is told.
-/

namespace ApiDrift

open Comparison

/-! ### Positions that are visited -/

namespace Position

/-- The position is live, something stands there, and no position before it stops the comparison. -/
def Visited (policy : Policy) (old new : Codebase) (position : Position) : Prop :=
  position.Live policy old new ∧ (Codebase.site old new position).Present ∧
    ∀ earlier : Position, Codebase.FailsAt policy old new earlier → ¬ earlier.Before position

theorem Above.before {above position : Position} (habove : above.Above position) :
    above.Before position := by
  obtain ⟨key, turns⟩ := above
  obtain ⟨_, others⟩ := position
  obtain ⟨rfl, hbegins, hne⟩ := habove
  obtain ⟨rest, rfl⟩ := hbegins
  refine Or.inr ⟨rfl, ?_⟩
  induction turns with
  | nil =>
    cases rest with
    | nil => exact absurd rfl hne
    | cons turn rest => exact List.Lex.nil
  | cons turn turns ih =>
    apply List.Lex.cons
    apply ih
    simpa using hne

end Position

namespace Codebase

variable {policy : Policy} {old new : Codebase}

theorem visited_iff_of_succeeds (hsucceeds : Succeeds (compare policy old new))
    (position : Position) :
    position ∈ livePositions policy old new ↔ position.Visited policy old new := by
  have hnone : ∀ earlier : Position, ¬ FailsAt policy old new earlier := by
    intro earlier hfails
    have hmem := mem_livePositions_of_failsAt hfails
    exact not_failsAt_of_succeeds (succeeds_iff.mp hsucceeds earlier hmem) hfails
  rw [mem_livePositions_iff, Position.Visited]
  constructor
  · rintro ⟨hlive, hpresent⟩
    exact ⟨hlive, hpresent, fun earlier hfails => absurd hfails (hnone earlier)⟩
  · rintro ⟨hlive, hpresent, -⟩
    exact ⟨hlive, hpresent⟩

/-- Where a comparison fails at a position, that position is the last one visited. -/
theorem visited_iff_of_fails {before after : List Position} {last : Position} {failure : Failure}
    (hlive : livePositions policy old new = before ++ last :: after)
    (hsucceed : ∀ earlier ∈ before, Succeeds ((site old new earlier).visit policy))
    (hfails : (site old new last).Fails policy failure) (position : Position) :
    position ∈ before ++ [last] ↔ position.Visited policy old new := by
  have hsorted := pairwise_livePositions policy old new
  rw [hlive, List.pairwise_append, List.pairwise_cons] at hsorted
  obtain ⟨hbefore, ⟨hafter, -⟩, hacross⟩ := hsorted
  have hmem : ∀ other, other ∈ before ∨ other = last ∨ other ∈ after ↔
      other.Live policy old new ∧ (site old new other).Present := by
    intro other
    rw [← mem_livePositions_iff, hlive, List.mem_append, List.mem_cons]
  have hlastFails : FailsAt policy old new last :=
    ⟨((hmem last).mp (Or.inr (Or.inl rfl))).1, failure, hfails⟩
  -- What comes before the last one has succeeded, so a failure is there or behind it.
  have hfailing : ∀ earlier, FailsAt policy old new earlier → earlier = last ∨ earlier ∈ after := by
    intro earlier hearlier
    obtain ⟨hearlierLive, otherFailure, hother⟩ := hearlier
    rcases (hmem earlier).mpr ⟨hearlierLive, present_of_fails hother⟩ with hin | hlater
    · exact absurd ⟨hearlierLive, otherFailure, hother⟩
        (not_failsAt_of_succeeds (hsucceed earlier hin))
    · exact hlater
  rw [List.mem_append, List.mem_singleton, Position.Visited, ← and_assoc, ← hmem]
  constructor
  · rintro (hin | rfl)
    · refine ⟨Or.inl hin, fun earlier hearlier hback => ?_⟩
      have hforth : position.Before earlier := by
        rcases hfailing earlier hearlier with rfl | hlater
        · exact hacross position hin earlier List.mem_cons_self
        · exact hacross position hin earlier (List.mem_cons_of_mem _ hlater)
      exact Std.Asymm.asymm _ _ hforth hback
    · refine ⟨Or.inr (Or.inl rfl), fun earlier hearlier hback => ?_⟩
      rcases hfailing earlier hearlier with rfl | hlater
      · exact Std.Asymm.asymm _ _ hback hback
      · exact Std.Asymm.asymm _ _ (hafter earlier hlater) hback
  · rintro ⟨hin | rfl | hlater, hnone⟩
    · exact Or.inl hin
    · exact Or.inr rfl
    · exact absurd (hafter position hlater) (hnone last hlastFails)

/-- A comparison leaves the steps of the positions that it visits, in their order. -/
theorem exists_visited (policy : Policy) (old new : Codebase) :
    ∃ visited : List Position, visited.Pairwise Position.Before ∧
      (∀ position, position ∈ visited ↔ position.Visited policy old new) ∧
      (compare policy old new).steps =
        visited.flatMap fun position => ((site old new position).visit policy).steps := by
  have hsorted := pairwise_livePositions policy old new
  cases houtcome : (compare policy old new).outcome with
  | ok bump =>
    have hsucceeds : Succeeds (compare policy old new) := ⟨bump, houtcome⟩
    exact ⟨livePositions policy old new, hsorted, visited_iff_of_succeeds hsucceeds,
      steps_of_succeeds hsucceeds⟩
  | error failure =>
    obtain ⟨before, last, after, hlive, hsucceed, hfails, hsteps⟩ := exists_last_visit houtcome
    have hsublist : (before ++ [last]).Sublist (livePositions policy old new) := by
      rw [hlive]
      exact (List.Sublist.refl before).append (List.singleton_sublist.mpr List.mem_cons_self)
    refine ⟨before ++ [last], hsorted.sublist hsublist,
      visited_iff_of_fails hlive hsucceed hfails, ?_⟩
    rw [hsteps, List.flatMap_append, List.flatMap_singleton]

end Codebase

/-! ### What is told of one position -/

namespace Log

theorem ofSteps_append (first second : List Step) :
    ofSteps (first ++ second) = ofSteps first ++ ofSteps second := List.filterMap_append

theorem ofSteps_flatMap {ι : Type} (parts : List ι) (steps : ι → List Step) :
    ofSteps (parts.flatMap steps) = parts.flatMap fun part => ofSteps (steps part) :=
  List.filterMap_flatMap

theorem ofSteps_found (path : String) (changes : List Change) :
    ofSteps (changes.map (.found path)) = [] := by
  rw [ofSteps, List.filterMap_map, List.filterMap_eq_nil_iff]
  intro change _
  rfl

end Log

namespace Site

/-- The steps of a site that is visited, and the log events that they raise. The policy is asked first, and only about a pair whose new entity has a name. A pair that is ignored is told as such and no further; any other pair is told to be compared, unless the kinds differ, and then follow its changes. -/
inductive Tells (policy : Policy) (site : Site) : List Step → List Log.Event → Prop
  | introduced {new : Entity} (hold : site.old? = none) (hnew : site.new? = some new) :
      Tells policy site [.found site.path .entityWasIntroduced] []
  | removed {old : Entity} (hold : site.old? = some old) (hnew : site.new? = none) :
      Tells policy site [.found site.path .entityWasRemoved] []
  | refused {old new : Entity} {failure : Failure} (hold : site.old? = some old)
      (hnew : site.new? = some new) (hname : new.name ≠ "")
      (hpolicy : policy site.path = .error failure) :
      Tells policy site [.asked site.path] []
  | ignored {old new : Entity} (hold : site.old? = some old) (hnew : site.new? = some new)
      (hname : new.name ≠ "") (hpolicy : policy site.path = .ok true) :
      Tells policy site [.asked site.path, .ignored site.path]
        [⟨.debug, Log.treeSource, "ignoring entity", [("path", site.path)]⟩]
  | mismatched {old new : Entity} (hold : site.old? = some old) (hnew : site.new? = some new)
      (hkept : new.name = "" ∨ policy site.path = .ok false) (hkinds : old.kind ≠ new.kind) :
      Tells policy site (if new.name = "" then [] else [.asked site.path]) []
  | compared {old new : Entity} (hold : site.old? = some old) (hnew : site.new? = some new)
      (hkept : new.name = "" ∨ policy site.path = .ok false) (hkinds : old.kind = new.kind) :
      Tells policy site
        ((if new.name = "" then [] else [.asked site.path]) ++ .visited site.path new.kind ::
          ((old.typeChange? new).toList.map (.found site.path) ++
            ((old.overloadDiff new).reconciled.map .reconciled ++
              (old.overloadDiff new).changes.map (.found site.path))))
        (⟨.trace, Log.treeSource, "comparing entity",
            [("path", site.path), ("kind", Log.quoted new.kind.word)]⟩ ::
          Log.ofSteps ((old.overloadDiff new).reconciled.map .reconciled))

variable {policy : Policy} {site : Site}

theorem ofSteps_compared {old new : Entity} (hkinds : old.kind = new.kind) :
    Log.ofSteps (site.compared old new).steps =
      ⟨.trace, Log.treeSource, "comparing entity",
          [("path", site.path), ("kind", Log.quoted new.kind.word)]⟩ ::
        Log.ofSteps ((old.overloadDiff new).reconciled.map .reconciled) := by
  have hpair : Log.ofSteps (ofPair site.path old new).steps =
      Log.ofSteps ((old.overloadDiff new).reconciled.map .reconciled) := by
    rw [steps_ofPair, Log.ofSteps_append, Log.ofSteps_append, Log.ofSteps_found,
      Log.ofSteps_found, List.nil_append, List.append_nil]
  rw [compared, if_pos hkinds]
  exact congrArg (List.cons _) hpair

theorem tells_of_pair {old new : Entity} (hold : site.old? = some old)
    (hnew : site.new? = some new) :
    site.Tells policy (site.visit policy).steps (Log.ofSteps (site.visit policy).steps) := by
  rw [visit_of_pair hold hnew]
  rcases pair_cases policy site new with hignored | hkept | ⟨hname, failure, hfailure⟩
  · rw [unlessIgnored_of_ignored hignored]
    exact .ignored hold hnew hignored.1 hignored.2
  · have hasked : Log.ofSteps (if new.name = "" then [] else [.asked site.path]) = [] := by
      split <;> rfl
    rw [unlessIgnored_of_kept hkept, Log.ofSteps_append, hasked, List.nil_append]
    by_cases hkinds : old.kind = new.kind
    · have hsteps : (site.compared old new).steps =
          .visited site.path new.kind :: (ofPair site.path old new).steps := by
        rw [compared, if_pos hkinds]
        rfl
      rw [ofSteps_compared hkinds, hsteps, steps_ofPair]
      exact .compared hold hnew hkept hkinds
    · have hsteps : (site.compared old new).steps = [] := by
        rw [compared, if_neg hkinds]
        rfl
      rw [hsteps, List.append_nil]
      exact .mismatched hold hnew hkept hkinds
  · obtain ⟨asked, hask⟩ := Policy.exists_ask_of_error hfailure
    rw [unlessIgnored_of_policy_error hname hask]
    exact .refused hold hnew hname hfailure

theorem tells_visit (hpresent : site.Present) :
    site.Tells policy (site.visit policy).steps (Log.ofSteps (site.visit policy).steps) := by
  cases hold : site.old? with
  | some old =>
    cases hnew : site.new? with
    | some new => exact tells_of_pair hold hnew
    | none =>
      rw [visit, hold, hnew]
      exact .removed hold hnew
  | none =>
    cases hnew : site.new? with
    | some new =>
      rw [visit, hold, hnew]
      exact .introduced hold hnew
    | none => simp [Present, hold, hnew] at hpresent

/-- The comparison goes into no pair that is ignored. -/
theorem not_opened_of_ignored {newEntity : Entity} (hnew : site.new? = some newEntity)
    (hignored : site.Ignored policy newEntity) : ¬ site.Opened policy := by
  rintro ⟨_, other, -, hother, -, -, hkept⟩
  obtain rfl := Option.some.inj (hnew.symm.trans hother)
  exact not_ignored_of_kept hkept hignored

end Site

/-! ### The course as a whole -/

/-- Which positions a comparison visits, and which steps and log events belong to each of them. -/
structure Course (policy : Policy) (old new : Codebase) (visited : List Position)
    (steps : Position → List Step) (events : Position → List Log.Event) : Prop where
  sorted : visited.Pairwise Position.Before
  mem_iff : ∀ position, position ∈ visited ↔ position.Visited policy old new
  steps_eq : (Codebase.compare policy old new).steps = visited.flatMap steps
  events_eq : Log.ofSteps (Codebase.compare policy old new).steps = visited.flatMap events
  tells : ∀ position ∈ visited,
    (Codebase.site old new position).Tells policy (steps position) (events position)
  /-- Nothing else is asked than one question for each named pair. -/
  asked_eq : (Codebase.compare policy old new).asked =
    visited.flatMap fun position => (Codebase.site old new position).asked
  above_before : ∀ above ∈ visited, ∀ below ∈ visited, above.Above below → above.Before below
  none_below_ignored : ∀ above ∈ visited, ∀ newEntity,
    (Codebase.site old new above).new? = some newEntity →
      (Codebase.site old new above).Ignored policy newEntity →
        ∀ below ∈ visited, ¬ above.Above below

/-- Every comparison takes its course: one question for each named pair that is visited, before anything else is told of the pair or of what lies below it, then one event that says whether the pair is ignored or compared, and after a failure nothing at all. -/
theorem exists_course (policy : Policy) (old new : Codebase) :
    ∃ visited steps events, Course policy old new visited steps events := by
  obtain ⟨visited, hsorted, hmem, hsteps⟩ := Codebase.exists_visited policy old new
  refine ⟨visited, fun position => ((Codebase.site old new position).visit policy).steps,
    fun position => Log.ofSteps ((Codebase.site old new position).visit policy).steps, ?_⟩
  constructor
  · exact hsorted
  · exact hmem
  · exact hsteps
  · rw [hsteps, Log.ofSteps_flatMap]
  · intro position hvisited
    exact Site.tells_visit ((hmem position).mp hvisited).2.1
  · rw [asked, hsteps, List.filterMap_flatMap]
    exact List.flatMap_congr fun position _ => Site.asked_visit policy _
  · intro above _ below _ habove
    exact habove.before
  · intro above _ newEntity hnew hignored below hbelow habove
    have hopened := ((hmem below).mp hbelow).1 above habove
    exact Site.not_opened_of_ignored hnew hignored hopened

end ApiDrift
