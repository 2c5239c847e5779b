import ApiDrift.Ignore
import ApiDrift.Proofs.Comparison.Severity
import ApiDrift.Proofs.Comparison.Success
import Mathlib.Data.List.Flatten

/-!
# Ignoring more

Of two policies that always answer, one may ignore whatever the other does and more. A comparison under it goes into fewer units and passes over more pairs, but wherever both look they see the same. So it succeeds where the other does, it is no more severe, and what it tells and asks is what the other does with some left out. Whoever adds patterns to a list of ignore rules gets such a policy.
-/

namespace ApiDrift

open Comparison

/-! ### One site under two policies -/

theorem Policy.ofBool_eq_ok_iff {ignored : String → Bool} {path : String} {answer : Bool} :
    Policy.ofBool ignored path = .ok answer ↔ ignored path = answer := by
  rw [Policy.ofBool, Except.ok.injEq]

namespace Site

variable {few many : String → Bool} (hmore : ∀ path, few path = true → many path = true)
  {site : Site}

include hmore

theorem kept_of_ignoring_more {path : String} (hkept : Policy.ofBool many path = .ok false) :
    Policy.ofBool few path = .ok false := by
  rw [Policy.ofBool_eq_ok_iff, Bool.eq_false_iff] at hkept ⊢
  exact fun hfew => hkept (hmore path hfew)

theorem Ignored.of_ignoring_less {new : Entity} (hignored : site.Ignored (.ofBool few) new) :
    site.Ignored (.ofBool many) new := by
  have hfew := Policy.ofBool_eq_ok_iff.mp hignored.2
  exact ⟨hignored.1, Policy.ofBool_eq_ok_iff.mpr (hmore site.path hfew)⟩

theorem Opened.of_ignoring_more (hopened : site.Opened (.ofBool many)) :
    site.Opened (.ofBool few) := by
  obtain ⟨old, new, hold, hnew, holdKind, hnewKind, hkept⟩ := hopened
  exact ⟨old, new, hold, hnew, holdKind, hnewKind, hkept.imp_right (kept_of_ignoring_more hmore)⟩

/-- A policy that always answers fails nowhere itself, so only mixed kinds fail, where they are not ignored. -/
theorem Fails.of_ignoring_more {failure : Failure} (hfails : site.Fails (.ofBool many) failure) :
    site.Fails (.ofBool few) failure := by
  cases hfails with
  | refused _ _ _ hpolicy => cases hpolicy
  | wrapped _ _ _ hpolicy _ => cases hpolicy
  | mismatched hold hnew hkept hkinds =>
    exact .mismatched hold hnew (hkept.imp_right (kept_of_ignoring_more hmore)) hkinds

theorem succeeds_visit_of_ignoring_more (hsucceeds : Succeeds (site.visit (.ofBool few))) :
    Succeeds (site.visit (.ofBool many)) := by
  cases houtcome : (site.visit (.ofBool many)).outcome with
  | ok bump => exact ⟨bump, houtcome⟩
  | error failure =>
    have hfails := (outcome_visit_eq_error_iff.mp houtcome).of_ignoring_more hmore
    obtain ⟨bump, hok⟩ := hsucceeds
    rw [outcome_visit_eq_error_iff.mpr hfails] at hok
    cases hok

theorem records_sublist_of_ignoring_more (site : Site) :
    (site.records (.ofBool many)).Sublist (site.records (.ofBool few)) := by
  cases hold : site.old? with
  | none => cases hnew : site.new? <;> rw [records, records, hold, hnew]
  | some old =>
    cases hnew : site.new? with
    | none => rw [records, records, hold, hnew]
    | some new =>
      rw [records_of_pair hold hnew, records_of_pair hold hnew]
      by_cases hmany : site.Ignored (.ofBool many) new
      · rw [if_pos hmany]
        exact List.nil_sublist _
      · rw [if_neg hmany, if_neg fun hfew => hmany (Ignored.of_ignoring_less hmore hfew)]

end Site

/-! ### Two codebases under two policies -/

namespace Codebase

variable {few many : String → Bool} (hmore : ∀ path, few path = true → many path = true)
  {old new : Codebase}

include hmore

theorem live_of_ignoring_more {position : Position}
    (hlive : position.Live (.ofBool many) old new) : position.Live (.ofBool few) old new :=
  fun above habove => (hlive above habove).of_ignoring_more hmore

theorem livePositions_sublist_of_ignoring_more :
    (livePositions (.ofBool many) old new).Sublist (livePositions (.ofBool few) old new) := by
  rw [livePositions_eq_filter fun _ => live_of_ignoring_more hmore]
  exact List.filter_sublist

theorem succeeds_of_ignoring_more (hsucceeds : Succeeds (compare (.ofBool few) old new)) :
    Succeeds (compare (.ofBool many) old new) := by
  rw [succeeds_iff] at hsucceeds ⊢
  intro position hmem
  exact Site.succeeds_visit_of_ignoring_more hmore
    (hsucceeds position ((livePositions_sublist_of_ignoring_more hmore).subset hmem))

variable (hsucceeds : Succeeds (compare (.ofBool few) old new))

include hsucceeds

theorem records_sublist_of_ignoring_more :
    (compare (.ofBool many) old new).records.Sublist (compare (.ofBool few) old new).records := by
  rw [records_of_succeeds hsucceeds,
    records_of_succeeds (succeeds_of_ignoring_more hmore hsucceeds)]
  refine ((livePositions_sublist_of_ignoring_more hmore).flatMap _).trans ?_
  exact List.Sublist.flatMap_right _ fun _ _ => Site.records_sublist_of_ignoring_more hmore _

theorem asked_sublist_of_ignoring_more :
    (compare (.ofBool many) old new).asked.Sublist (compare (.ofBool few) old new).asked := by
  rw [asked_of_succeeds hsucceeds, asked_of_succeeds (succeeds_of_ignoring_more hmore hsucceeds)]
  exact (livePositions_sublist_of_ignoring_more hmore).flatMap _

end Codebase

/-! ### Severity -/

namespace Comparison

/-- Fewer records are no more severe. -/
theorem bump_le_of_records_subset {milder harsher : Comparison Bump} {bump other : Bump}
    (hmilder : Weighed milder) (hharsher : Weighed harsher) (hother : milder.outcome = .ok other)
    (hbump : harsher.outcome = .ok bump) (hsubset : milder.records ⊆ harsher.records) :
    other ≤ bump := by
  rw [hmilder other hother, hharsher bump hbump]
  exact Bump.worst_le_worst_of_subset .patch (List.map_subset _ hsubset)

/-- If one comparison succeeds, the milder one does too, with no higher severity. It tells and asks what the other does with some left out, and nothing is added or moved. -/
def Milder (milder harsher : Comparison Bump) : Prop :=
  ∀ bump, harsher.outcome = .ok bump → ∃ other, milder.outcome = .ok other ∧ other ≤ bump ∧
    milder.records.Sublist harsher.records ∧ milder.asked.Sublist harsher.asked

theorem milder_compare {few many : String → Bool}
    (hmore : ∀ path, few path = true → many path = true) (old new : Codebase) :
    Milder (Codebase.compare (.ofBool many) old new) (Codebase.compare (.ofBool few) old new) := by
  intro bump hok
  obtain ⟨other, hother⟩ := Codebase.succeeds_of_ignoring_more hmore ⟨bump, hok⟩
  have hrecords := Codebase.records_sublist_of_ignoring_more hmore ⟨bump, hok⟩
  have hle : other ≤ bump := bump_le_of_records_subset (weighed_compareAt _ "" old new)
    (weighed_compareAt _ "" old new) hother hok hrecords.subset
  exact ⟨other, hother, hle, hrecords, Codebase.asked_sublist_of_ignoring_more hmore ⟨bump, hok⟩⟩

end Comparison

/-! ### Rules out of patterns -/

namespace IgnoreRules

theorem ofPatterns_cons_eq_ok_iff {pattern : String} {patterns : List String}
    {rules : IgnoreRules} :
    ofPatterns (pattern :: patterns) = .ok rules ↔ ∃ rule others,
      IgnoreRule.ofPattern pattern = .ok rule ∧ ofPatterns patterns = .ok others ∧
        rules = rule :: others := by
  rw [ofPatterns, List.mapM_cons, ofPatterns]
  cases IgnoreRule.ofPattern pattern with
  | error failure => simp [bind, Except.bind]
  | ok rule =>
    cases List.mapM IgnoreRule.ofPattern patterns with
    | error failure => simp [bind, Except.bind]
    | ok others => simp [bind, Except.bind, pure, Except.pure, eq_comm]

/-- The rules out of a list of patterns are those of its patterns. -/
theorem mem_ofPatterns_iff {patterns : List String} {rules : IgnoreRules}
    (hrules : ofPatterns patterns = .ok rules) {rule : IgnoreRule} :
    rule ∈ rules ↔ ∃ pattern ∈ patterns, IgnoreRule.ofPattern pattern = .ok rule := by
  induction patterns generalizing rules with
  | nil =>
    cases hrules
    simp
  | cons pattern patterns ih =>
    obtain ⟨first, others, hfirst, hothers, rfl⟩ := ofPatterns_cons_eq_ok_iff.mp hrules
    rw [List.mem_cons, ih hothers, List.exists_mem_cons_iff, hfirst, Except.ok.injEq, eq_comm]

theorem exists_rule_of_mem {patterns : List String} {rules : IgnoreRules}
    (hrules : ofPatterns patterns = .ok rules) {pattern : String} (hmem : pattern ∈ patterns) :
    ∃ rule, IgnoreRule.ofPattern pattern = .ok rule := by
  induction patterns generalizing rules with
  | nil => cases hmem
  | cons first patterns ih =>
    obtain ⟨rule, others, hrule, hothers, rfl⟩ := ofPatterns_cons_eq_ok_iff.mp hrules
    rcases List.mem_cons.mp hmem with rfl | hmem
    · exact ⟨rule, hrule⟩
    · exact ih hothers hmem

theorem exists_ofPatterns {patterns : List String}
    (hall : ∀ pattern ∈ patterns, ∃ rule, IgnoreRule.ofPattern pattern = .ok rule) :
    ∃ rules, ofPatterns patterns = .ok rules := by
  induction patterns with
  | nil => exact ⟨[], rfl⟩
  | cons pattern patterns ih =>
    obtain ⟨⟨rule, hrule⟩, hrest⟩ := List.forall_mem_cons.mp hall
    obtain ⟨others, hothers⟩ := ih hrest
    exact ⟨rule :: others, ofPatterns_cons_eq_ok_iff.mpr ⟨rule, others, hrule, hothers, rfl⟩⟩

/-- Patterns out of a list that can be read can be read themselves, and ignore nothing that the list does not, in whatever order they stand. -/
theorem exists_ofPatterns_of_subset {patterns others : List String} (hsubset : patterns ⊆ others)
    {all : IgnoreRules} (hall : ofPatterns others = .ok all) :
    ∃ rules, ofPatterns patterns = .ok rules ∧
      ∀ path, rules.ignores path = true → all.ignores path = true := by
  have hreadable : ∀ pattern ∈ patterns, ∃ rule, IgnoreRule.ofPattern pattern = .ok rule :=
    fun pattern hmem => exists_rule_of_mem hall (hsubset hmem)
  obtain ⟨rules, hrules⟩ := exists_ofPatterns hreadable
  refine ⟨rules, hrules, fun path hignores => ?_⟩
  obtain ⟨rule, hmem, hignored⟩ := List.any_eq_true.mp hignores
  obtain ⟨pattern, hpattern, hrule⟩ := (mem_ofPatterns_iff hrules).mp hmem
  exact List.any_eq_true.mpr
    ⟨rule, (mem_ofPatterns_iff hall).mpr ⟨pattern, hsubset hpattern, hrule⟩, hignored⟩

end IgnoreRules

/-- A policy that ignores more makes every comparison milder, and so does a list of patterns that contains all of another and more, in any order. -/
theorem ignoring_more_is_milder :
    (∀ few many : String → Bool, (∀ path, few path = true → many path = true) → ∀ old new,
        Milder (Codebase.compare (.ofBool many) old new)
          (Codebase.compare (.ofBool few) old new)) ∧
      ∀ patterns others : List String, patterns ⊆ others →
        ∀ all, IgnoreRules.ofPatterns others = .ok all →
          ∃ rules, IgnoreRules.ofPatterns patterns = .ok rules ∧ ∀ old new,
            Milder (Codebase.compare all.policy old new)
              (Codebase.compare rules.policy old new) := by
  refine ⟨fun few many hmore old new => milder_compare hmore old new,
    fun patterns others hsubset all hall => ?_⟩
  obtain ⟨rules, hrules, hmore⟩ := IgnoreRules.exists_ofPatterns_of_subset hsubset hall
  exact ⟨rules, hrules, fun old new => milder_compare hmore old new⟩

/-- Of two fields that got other types one is ignored, and then the other one too. -/
theorem ignoring_more_is_milder_two_fields :
    ∃ old new : Codebase,
      (∀ path, (path == "u.a") = true → (path == "u.a" || path == "u.b") = true) ∧
        (Codebase.compare (.ofBool (· == "u.a")) old new).outcome = .ok .major ∧
        (∃ other,
          (Codebase.compare (.ofBool fun path => path == "u.a" || path == "u.b") old new).outcome =
            .ok other ∧ other ≤ .major ∧
          (Codebase.compare (.ofBool fun path => path == "u.a" || path == "u.b") old
            new).records.Sublist (Codebase.compare (.ofBool (· == "u.a")) old new).records ∧
          (Codebase.compare (.ofBool fun path => path == "u.a" || path == "u.b") old
            new).asked.Sublist (Codebase.compare (.ofBool (· == "u.a")) old new).asked) ∧
        ["u.a"] ⊆ ["*.b", "u.a"] ∧
        ∃ all, IgnoreRules.ofPatterns ["*.b", "u.a"] = .ok all ∧
          ∃ rules, IgnoreRules.ofPatterns ["u.a"] = .ok rules ∧
            Milder (Codebase.compare all.policy old new)
              (Codebase.compare rules.policy old new) := by
  have hmore : ∀ path, (path == "u.a") = true → (path == "u.a" || path == "u.b") = true :=
    fun path hpath => by rw [hpath, Bool.true_or]
  have hok : (Codebase.compare (.ofBool (· == "u.a"))
      (.cons "u" trivial (.unit "u" (.cons "a" trivial (.field "a" ⟨"int", 0, []⟩)
        (.cons "b" (by decide) (.field "b" ⟨"int", 0, []⟩) .nil)) .nil .nil) .nil)
      (.cons "u" trivial (.unit "u" (.cons "a" trivial (.field "a" ⟨"text", 0, []⟩)
        (.cons "b" (by decide) (.field "b" ⟨"text", 0, []⟩) .nil)) .nil .nil) .nil)).outcome =
      .ok .major := by decide
  have htaken : (IgnoreRules.ofPatterns ["*.b", "u.a"]).toBool = true := by decide +kernel
  obtain ⟨all, hall⟩ : ∃ all, IgnoreRules.ofPatterns ["*.b", "u.a"] = .ok all := by
    cases hall : IgnoreRules.ofPatterns ["*.b", "u.a"] with
    | ok all => exact ⟨all, rfl⟩
    | error failure =>
      rw [hall] at htaken
      cases htaken
  have hsubset : ["u.a"] ⊆ ["*.b", "u.a"] := List.subset_cons_self _ _
  obtain ⟨rules, hrules, hmilder⟩ := ignoring_more_is_milder.2 _ _ hsubset all hall
  exact ⟨_, _, hmore, hok, ignoring_more_is_milder.1 _ _ hmore _ _ .major hok, hsubset, all, hall,
    rules, hrules, hmilder _ _⟩

end ApiDrift
