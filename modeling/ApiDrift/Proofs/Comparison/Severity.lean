import ApiDrift.Report
import ApiDrift.Proofs.Walk

/-!
# Severity and changelog

The severity of a comparison is folded along the walk, and the changelog is written on the side. Here the two are held against each other: wherever a comparison succeeds, its severity is the worst that the catalog gives to a record it wrote, or a patch if it wrote nothing worse.
-/

namespace ApiDrift

namespace Comparison

variable {α : Type}

theorem exists_of_mem_records {comparison : Comparison α} {record : ChangeRecord}
    (hmem : record ∈ comparison.records) : ∃ path change, record = .of path change := by
  rw [records, List.mem_filterMap] at hmem
  obtain ⟨step, -, hstep⟩ := hmem
  cases step with
  | found path change =>
    cases hstep
    exact ⟨path, change, rfl⟩
  | asked | ignored | visited | reconciled => cases hstep

/-- A record that a comparison writes is as severe as the catalog says. -/
theorem severity_of_mem_records {comparison : Comparison α} {record : ChangeRecord}
    (hmem : record ∈ comparison.records) : record.severity = record.change.severity := by
  obtain ⟨path, change, rfl⟩ := exists_of_mem_records hmem
  rfl

/-- The severity of the outcome is the worst severity of the records, and at least a patch. -/
def Weighed (comparison : Comparison Bump) : Prop :=
  ∀ bump, comparison.outcome = .ok bump →
    bump = .worst .patch (comparison.records.map (·.change.severity))

theorem weighed_both {first second : Comparison Bump} (hfirst : Weighed first)
    (hsecond : Weighed second) : Weighed (both first second) := by
  intro bump hok
  cases hofFirst : first.outcome with
  | error failure =>
    rw [both_of_error hofFirst] at hok
    cases hok
  | ok ofFirst =>
    cases hofSecond : second.outcome with
    | error failure =>
      rw [both_of_ok_of_error hofFirst hofSecond] at hok
      cases hok
    | ok ofSecond =>
      rw [both_of_ok hofFirst hofSecond] at hok
      cases hok
      rw [records_both_of_ok hofFirst hofSecond, List.map_append, Bump.worst_append,
        ← hfirst ofFirst hofFirst, ← hsecond ofSecond hofSecond]

theorem weighed_inTurn {comparisons : List (Comparison Bump)}
    (hall : ∀ comparison ∈ comparisons, Weighed comparison) : Weighed (inTurn comparisons) := by
  induction comparisons with
  | nil =>
    intro bump hok
    exact (Except.ok.inj hok).symm
  | cons first rest ih =>
    obtain ⟨hfirst, hrest⟩ := List.forall_mem_cons.mp hall
    exact weighed_both hfirst (ih hrest)

theorem weighed_visit (policy : Policy) (site : Site) : Weighed (site.visit policy) := by
  intro bump hok
  rw [Site.records_visit hok]
  exact Site.outcome_visit_of_ok hok

theorem weighed_comparison (policy : Policy) (site : Site) : Weighed (site.comparison policy) := by
  rw [Site.comparison_eq_inTurn]
  refine weighed_inTurn fun comparison hmem => ?_
  obtain ⟨turns, -, rfl⟩ := List.mem_map.mp hmem
  exact weighed_visit policy (site.below turns)

theorem weighed_compare (policy : Policy) (path : String) (old new : Entity) :
    Weighed (Entity.compare policy path old new) :=
  weighed_comparison policy ⟨path, new.name, some old, some new⟩

theorem weighed_compareAt (policy : Policy) (path : String) (old new : Codebase) :
    Weighed (Codebase.compareAt policy path old new) := by
  rw [Codebase.compareAt_eq_inTurn]
  refine weighed_inTurn fun comparison hmem => ?_
  obtain ⟨key, -, rfl⟩ := List.mem_map.mp hmem
  exact weighed_comparison policy (Site.top path old new key)

/-- Whatever a changelog held before, the severity of a comparison that succeeds is the greatest of a patch and the severities of the records it appends. -/
def TellsSeverity (comparison : Comparison Bump) : Prop :=
  ∀ (kept : List ChangeRecord) (bump : Bump), comparison.outcome = .ok bump →
    ∃ appended, comparison.changelog kept = kept ++ appended ∧
      IsGreatest (insert .patch {severity | ∃ record ∈ appended, record.change.severity = severity})
        bump

theorem tellsSeverity_of_weighed {comparison : Comparison Bump} (hweighed : Weighed comparison) :
    TellsSeverity comparison := by
  intro kept bump hok
  refine ⟨comparison.records, changelog_eq_append kept comparison, ?_⟩
  rw [hweighed bump hok]
  simpa only [List.mem_map] using
    Bump.isGreatest_worst .patch (comparison.records.map (·.change.severity))

/-- Some record is breaking exactly if the comparison as a whole is. -/
theorem any_isBreaking_iff {comparison : Comparison Bump} {bump : Bump}
    (htells : TellsSeverity comparison) (hok : comparison.outcome = .ok bump) :
    comparison.records.any ChangeRecord.isBreaking = true ↔ bump = .major := by
  obtain ⟨appended, happended, hgreatest⟩ := htells [] bump hok
  rw [changelog_eq_append, List.nil_append, List.nil_append] at happended
  subst happended
  rw [List.any_eq_true]
  constructor
  · rintro ⟨record, hmem, hbreaking⟩
    have hseverity : record.severity = .major := of_decide_eq_true hbreaking
    rw [severity_of_mem_records hmem] at hseverity
    exact (Bump.le_major bump).antisymm (hgreatest.2 (Or.inr ⟨record, hmem, hseverity⟩))
  · rintro rfl
    rcases hgreatest.1 with hpatch | ⟨record, hmem, hseverity⟩
    · cases hpatch
    · rw [← severity_of_mem_records hmem] at hseverity
      exact ⟨record, hmem, decide_eq_true hseverity⟩

end Comparison

open Comparison

namespace Codebase

theorem report_eq_ok_iff {policy : Policy} {old new : Codebase} {report : Report} :
    Codebase.report policy old new = .ok report ↔
      ∃ bump, (compare policy old new).outcome = .ok bump ∧
        Report.of bump (compare policy old new).records = report := by
  rw [Codebase.report]
  cases (compare policy old new).outcome with
  | error failure => simp [Except.map]
  | ok bump => simp [Except.map]

/-- A report is as severe as the worst change it lists, and at least a patch. -/
theorem bump_of_report {policy : Policy} {old new : Codebase} {report : Report}
    (hreport : Codebase.report policy old new = .ok report) :
    report.bump = .worst .patch (report.changes.map ChangeRecord.severity) := by
  obtain ⟨bump, hok, rfl⟩ := report_eq_ok_iff.mp hreport
  have hweighed := Comparison.weighed_compareAt policy "" old new bump hok
  have hseverities : (compare policy old new).records.map ChangeRecord.severity =
      (compare policy old new).records.map (·.change.severity) :=
    List.map_congr_left fun record hmem => Comparison.severity_of_mem_records hmem
  show bump = .worst .patch ((compare policy old new).records.map ChangeRecord.severity)
  rw [hseverities]
  exact hweighed

end Codebase

/-- Entities, collections and codebases are told as severe as the changelog shows them, and a report shows a breaking change exactly if its severity is major. -/
theorem severity_agrees_with_changelog (policy : Policy) :
    (∀ path old new, TellsSeverity (Entity.compare policy path old new)) ∧
      (∀ path old new, TellsSeverity (Codebase.compareAt policy path old new)) ∧
      (∀ old new, TellsSeverity (Codebase.compare policy old new)) ∧
      ∀ old new report, Codebase.report policy old new = .ok report →
        (report.hasBreaking = true ↔ report.bump = .major) := by
  refine ⟨fun path old new => ?_, fun path old new => ?_, fun old new => ?_,
    fun old new report hreport => ?_⟩
  · exact tellsSeverity_of_weighed (weighed_compare policy path old new)
  · exact tellsSeverity_of_weighed (weighed_compareAt policy path old new)
  · exact tellsSeverity_of_weighed (weighed_compareAt policy "" old new)
  · obtain ⟨bump, hok, rfl⟩ := Codebase.report_eq_ok_iff.mp hreport
    exact any_isBreaking_iff (tellsSeverity_of_weighed (weighed_compareAt policy "" old new)) hok

/-- The field of a unit is gone, and a function has come. -/
theorem severity_agrees_with_changelog_field_removed :
    ∃ old new : Codebase, ∃ report,
      (Codebase.compare (.ofBool fun _ => false) old new).outcome = .ok .major ∧
        (∃ appended,
          (Codebase.compare (.ofBool fun _ => false) old new).changelog [] = [] ++ appended ∧
            IsGreatest
              (insert .patch {severity | ∃ record ∈ appended, record.change.severity = severity})
              .major) ∧
        Codebase.report (.ofBool fun _ => false) old new = .ok report ∧
        (report.hasBreaking = true ↔ report.bump = .major) := by
  have hagrees := severity_agrees_with_changelog (.ofBool fun _ => false)
  have hreport : Codebase.report (.ofBool fun _ => false)
      (.cons "u" trivial
        (.unit "u" (.cons "f" trivial (.field "f" ⟨"int", 0, []⟩) .nil) .nil .nil) .nil)
      (.cons "u" trivial
        (.unit "u" .nil (.cons "g" trivial (.function "g" ⟨"int", 0, []⟩ []) .nil) .nil) .nil) =
      .ok (.of .major [.of "u.f" .entityWasRemoved, .of "u.g" .entityWasIntroduced]) := rfl
  exact ⟨_, _, _, by decide, hagrees.2.2.1 _ _ [] .major (by decide), hreport,
    hagrees.2.2.2 _ _ _ hreport⟩

end ApiDrift
