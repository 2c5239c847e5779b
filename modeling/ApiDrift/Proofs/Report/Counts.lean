import ApiDrift.Proofs.Comparison.Severity
import ApiDrift.Proofs.Json.Number
import Mathlib.Algebra.BigOperators.Group.List.Basic
import Mathlib.Algebra.GroupWithZero.Nat

/-!
# What a summary counts

A summary is counted change by change, once for the severity and once for the kind. Both counts are multiplicities in the list of changes, so they do not depend on its order and add up to its length. The counters are words of 32 bits; up to their size they are exact.
-/

namespace ApiDrift

namespace Summary

/-- How many of the changes are of one severity, in a counter. -/
def severityCounter (severity : Bump) (changes : List Change) : UInt32 :=
  .ofNat (changes.countP (·.severity = severity))

/-- The summary that is read off a list of changes at once. -/
def tally (changes : List Change) : Summary where
  major := severityCounter .major changes
  minor := severityCounter .minor changes
  patch := severityCounter .patch changes
  byKind change := if change ∈ changes then some (.ofNat (changes.count change)) else none

/-! ### One change after another -/

theorem severityCounter_concat (severity : Bump) (changes : List Change) (last : Change) :
    severityCounter severity (changes ++ [last]) =
      if last.severity = severity then severityCounter severity changes + 1
      else severityCounter severity changes := by
  rw [severityCounter, List.countP_append, List.countP_singleton, UInt32.ofNat_add, severityCounter]
  split
  case isTrue h => rw [if_pos (of_decide_eq_true h)]; rfl
  case isFalse h => rw [if_neg (mt decide_eq_true h)]; exact UInt32.add_zero _

theorem countSeverity_tally (changes : List Change) (last : Change) :
    (tally changes).countSeverity last.severity =
      { tally (changes ++ [last]) with byKind := (tally changes).byKind } := by
  simp only [tally, severityCounter_concat]
  cases last.severity <;> rfl

theorem getD_byKind_tally (changes : List Change) (change : Change) :
    ((tally changes).byKind change).getD 0 = .ofNat (changes.count change) := by
  change (if change ∈ changes then _ else _ : Option UInt32).getD 0 = _
  split
  case isTrue => rfl
  case isFalse h => rw [List.count_eq_zero_of_not_mem h]; rfl

/-- Counting one more change gives the tally of the longer list. -/
theorem count_tally (changes : List Change) (last : Change) :
    (tally changes).count last = tally (changes ++ [last]) := by
  rw [count, countSeverity_tally, getD_byKind_tally, setKind, tally, mk.injEq]
  refine ⟨rfl, rfl, rfl, funext fun change => ?_⟩
  change (if change = last then _ else (tally changes).byKind change) =
    if change ∈ changes ++ [last] then _ else _
  by_cases hlast : change = last
  · subst hlast
    rw [if_pos rfl, if_pos (by simp), List.count_append, List.count_singleton_self,
      UInt32.ofNat_add]
    rfl
  · have hmem : change ∈ changes ++ [last] ↔ change ∈ changes := by simp [hlast]
    have hother : [last].count change = 0 :=
      List.count_eq_zero_of_not_mem (mt List.mem_singleton.mp hlast)
    rw [if_neg hlast, List.count_append, hother, tally]
    simp only [hmem, Nat.add_zero]

theorem ofChanges_eq_tally (changes : List Change) : ofChanges changes = tally changes := by
  induction changes using List.reverseRecOn with
  | nil => rfl
  | append_singleton changes last ih =>
    rw [← count_tally, ← ih, ofChanges, List.foldl_append]
    rfl

theorem ofChanges_perm {first second : List Change} (hperm : first.Perm second) :
    ofChanges first = ofChanges second := by
  simp only [ofChanges_eq_tally, tally, severityCounter, hperm.mem_iff, hperm.countP_eq,
    hperm.count_eq]

/-! ### Sums over all kinds -/

/-- A kind that was not counted adds nothing to a total. -/
theorem foldl_kinds_tally (changes kinds : List Change) (start : UInt32) :
    ((kinds.filterMap fun change =>
        ((tally changes).byKind change).map fun count => (change, count)).map (·.2)).foldl
        (· + ·) start = start + .ofNat (kinds.map changes.count).sum := by
  induction kinds generalizing start with
  | nil => exact (UInt32.add_zero start).symm
  | cons change rest ih =>
    have hcount := getD_byKind_tally changes change
    rw [List.filterMap_cons, List.map_cons, List.sum_cons, UInt32.ofNat_add, ← UInt32.add_assoc,
      ← hcount]
    cases (tally changes).byKind change with
    | none => exact (ih start).trans (congrArg (· + _) (UInt32.add_zero start).symm)
    | some count => exact ih (start + count)

theorem sum_count_all (changes : List Change) :
    (Change.all.map changes.count).sum = changes.length := by
  induction changes with
  | nil => rfl
  | cons first rest ih =>
    simp only [List.count_cons, List.sum_map_add, ih, List.length_cons, Nat.add_left_cancel_iff]
    cases first <;> rfl

theorem total_tally (changes : List Change) : (tally changes).total = .ofNat changes.length := by
  rw [total, kinds, foldl_kinds_tally, sum_count_all]
  exact UInt32.zero_add _

theorem sum_countP_severity (changes : List Change) :
    changes.countP (·.severity = .major) + changes.countP (·.severity = .minor) +
      changes.countP (·.severity = .patch) = changes.length := by
  induction changes with
  | nil => rfl
  | cons first rest ih =>
    simp only [List.countP_cons, List.length_cons]
    cases hseverity : first.severity with
    | none => cases first <;> cases hseverity
    | patch | minor | major => simp; omega

/-! ### The text of a summary -/

/-- What is put together from texts begins with the first of them. -/
theorem exists_toList_intercalate (separator first : String) (rest : List String) :
    ∃ tail, (separator.intercalate (first :: rest)).toList = first.toList ++ tail := by
  rw [String.toList_intercalate, List.map_cons]
  cases rest with
  | nil => exact ⟨[], by simp [List.intercalate]⟩
  | cons second others =>
    rw [List.map_cons, List.intercalate_cons_cons, List.append_assoc]
    exact ⟨_, rfl⟩

/-- A text that names a count begins with a digit. -/
theorem text_eq_noChanges_iff (summary : Summary) :
    summary.text = "No changes" ↔ summary.major = 0 ∧ summary.minor = 0 ∧ summary.patch = 0 := by
  rw [text]
  cases hpresent : [(summary.major, "major"), (summary.minor, "minor"),
      (summary.patch, "patch")].filter (·.1 != 0) with
  | nil =>
    rw [List.filter_eq_nil_iff] at hpresent
    exact iff_of_true rfl (by simpa using hpresent)
  | cons part rest =>
    have hpart := List.mem_filter.mp (hpresent ▸ List.mem_cons_self : part ∈ List.filter _ _)
    refine iff_of_false (fun hsame => ?_) (fun hzero => ?_)
    · let spelled (part : UInt32 × String) : String := toString part.1.toNat ++ " " ++ part.2
      have hsame : ", ".intercalate (spelled part :: rest.map spelled) = "No changes" := hsame
      obtain ⟨tail, htail⟩ := exists_toList_intercalate ", " (spelled part) (rest.map spelled)
      obtain ⟨hne, hdigits⟩ := Decimal.areDigits_toDigits part.1.toNat
      obtain ⟨digit, digits, hnumber⟩ := List.exists_cons_of_ne_nil hne
      have hdigit : digit.isDigit := hdigits digit (hnumber ▸ List.mem_cons_self)
      have hfirst : 'N' = digit := by
        rw [hsame, String.toList_append, String.toList_append, Nat.toString_eq_repr,
          Nat.toList_repr, hnumber] at htail
        exact (List.cons.inj htail).1
      exact absurd (hfirst ▸ hdigit) (by decide)
    · obtain ⟨hmem, hcounted⟩ := hpart
      simp only [hzero.1, hzero.2.1, hzero.2.2, List.mem_cons, List.not_mem_nil, or_false] at hmem
      rcases hmem with rfl | rfl | rfl <;> exact absurd hcounted (by decide)

end Summary

/-! ### Reports -/

/-- A severity as the numbers of major and of minor changes call for it. -/
structure Bump.CalledFor (bump : Bump) (majors minors : Nat) : Prop where
  major : bump = .major ↔ 0 < majors
  minor : bump = .minor ↔ majors = 0 ∧ 0 < minors
  patch : bump = .patch ↔ majors = 0 ∧ minors = 0

theorem Bump.calledFor_worst (bumps : List Bump) :
    CalledFor (worst .patch bumps) (bumps.count .major) (bumps.count .minor) := by
  rw [worst_patch_eq]
  constructor <;> simp only [List.count_pos_iff, List.count_eq_zero] <;>
    by_cases hmajor : Bump.major ∈ bumps <;> by_cases hminor : Bump.minor ∈ bumps <;>
    simp [hmajor, hminor]

namespace Report

/-- How many of the listed changes are of one severity. -/
def severityCount (report : Report) (severity : Bump) : Nat :=
  (report.changes.map ChangeRecord.severity).count severity

/-- The counts of a report are those of the changes it lists. -/
structure Accounted (report : Report) : Prop where
  byKind : ∀ change, (report.summary.byKind change).map UInt32.toNat =
    if ∃ record ∈ report.changes, record.change = change then
      some ((report.changes.map ChangeRecord.change).count change)
    else none
  bySeverity : report.summary.major.toNat + report.summary.minor.toNat +
    report.summary.patch.toNat = report.changes.length
  total : report.summary.total.toNat = report.changes.length
  breaking : report.summary.major.toNat = report.breaking.length
  ofKind : ∀ change,
    (report.ofKind change).length = ((report.summary.byKind change).getD 0).toNat
  text : report.summaryText = "No changes" ↔ report.changes = []

variable {changes : List ChangeRecord}

theorem countP_severity (hcatalog : ∀ record ∈ changes, record.severity = record.change.severity)
    (severity : Bump) :
    (changes.map ChangeRecord.change).countP (·.severity = severity) =
      (changes.map ChangeRecord.severity).count severity := by
  rw [List.countP_map, List.count_eq_countP, List.countP_map]
  refine List.countP_congr fun record hmem => ?_
  simp [hcatalog record hmem]

/-- A counter holds the number of changes of its severity, as far as it reaches. -/
theorem toNat_severityCounter (bump : Bump)
    (hcatalog : ∀ record ∈ changes, record.severity = record.change.severity) (severity : Bump) :
    (Summary.severityCounter severity (changes.map ChangeRecord.change)).toNat =
      (Report.of bump changes).severityCount severity % 2 ^ 32 := by
  rw [Summary.severityCounter, countP_severity hcatalog, UInt32.toNat_ofNat']
  rfl

theorem severityCount_le_length (report : Report) (severity : Bump) :
    report.severityCount severity ≤ report.changes.length :=
  List.count_le_length.trans_eq (List.length_map _)

theorem summary_of (bump : Bump) (changes : List ChangeRecord) :
    (Report.of bump changes).summary = Summary.tally (changes.map ChangeRecord.change) :=
  Summary.ofChanges_eq_tally _

theorem accounted_of (bump : Bump) (hlength : changes.length < 2 ^ 32)
    (hcatalog : ∀ record ∈ changes, record.severity = record.change.severity) :
    (Report.of bump changes).Accounted := by
  have hkinds : (changes.map ChangeRecord.change).length = changes.length := List.length_map _
  have hcount (change : Change) : (changes.map ChangeRecord.change).count change < 2 ^ 32 :=
    (List.count_le_length.trans_eq hkinds).trans_lt hlength
  have hseverity (severity : Bump) :
      (Summary.severityCounter severity (changes.map ChangeRecord.change)).toNat =
        (changes.map ChangeRecord.change).countP (·.severity = severity) :=
    UInt32.toNat_ofNat_of_lt' ((List.countP_le_length.trans_eq hkinds).trans_lt hlength)
  have hlisted : (Report.of bump changes).changes = changes := rfl
  constructor
  case byKind =>
    intro change
    rw [summary_of, Summary.tally, hlisted]
    simp only [List.mem_map]
    split
    · exact congrArg some (UInt32.toNat_ofNat_of_lt' (hcount change))
    · rfl
  case bySeverity =>
    rw [summary_of, hlisted]
    simp only [Summary.tally, hseverity]
    rw [Summary.sum_countP_severity, hkinds]
  case total =>
    rw [summary_of, Summary.total_tally, hkinds, hlisted]
    exact UInt32.toNat_ofNat_of_lt' hlength
  case breaking =>
    rw [summary_of, breaking, ← List.countP_eq_length_filter, hlisted]
    simp only [Summary.tally, hseverity]
    rw [countP_severity hcatalog, List.count_eq_countP, List.countP_map]
    exact List.countP_congr fun record _ => by simp [ChangeRecord.isBreaking, Bump.isBreaking]
  case ofKind =>
    intro change
    rw [summary_of, Summary.getD_byKind_tally, UInt32.toNat_ofNat_of_lt' (hcount change), ofKind,
      ← List.countP_eq_length_filter, hlisted, List.count_eq_countP, List.countP_map]
    exact List.countP_congr fun record _ => by simp
  case text =>
    have hlengths := Summary.sum_countP_severity (changes.map ChangeRecord.change)
    have htext : (Report.of bump changes).summaryText = "No changes" ↔ _ :=
      Summary.text_eq_noChanges_iff _
    rw [htext, Summary.ofChanges_eq_tally, hlisted, ← List.length_eq_zero_iff]
    simp only [Summary.tally, ← UInt32.toNat_inj, hseverity, UInt32.toNat_zero]
    omega

end Report

/-- A report lists the changes it is made of, and its counts are theirs, in whatever order they are listed. The report on a comparison is made of what the comparison found, and its counts tell its severity. -/
theorem Report.counts_account_for_changes :
    (∀ (bump : Bump) (changes : List ChangeRecord),
      (Report.of bump changes).bump = bump ∧ (Report.of bump changes).changes = changes ∧
      (changes.length < 2 ^ 32 →
        (∀ record ∈ changes, ∃ path change, record = .of path change) →
        (Report.of bump changes).Accounted)) ∧
    (∀ (bump : Bump) (changes others : List ChangeRecord), changes.Perm others →
      (Report.of bump others).summary = (Report.of bump changes).summary ∧
      (Report.of bump others).summaryText = (Report.of bump changes).summaryText) ∧
    ∀ policy old new report, Codebase.report policy old new = .ok report →
      (Codebase.compare policy old new).outcome = .ok report.bump ∧
      report.changes = (Codebase.compare policy old new).records ∧
      report.bump.CalledFor (report.severityCount .major) (report.severityCount .minor) ∧
      report.summary.major.toNat = report.severityCount .major % 2 ^ 32 ∧
      report.summary.minor.toNat = report.severityCount .minor % 2 ^ 32 ∧
      (report.changes.length < 2 ^ 32 →
        report.bump.CalledFor report.summary.major.toNat report.summary.minor.toNat) := by
  refine ⟨fun bump changes => ⟨rfl, rfl, fun hlength hmade => ?_⟩,
    fun bump changes others hperm => ?_, fun policy old new report hreport => ?_⟩
  · refine accounted_of bump hlength fun record hmem => ?_
    obtain ⟨path, change, rfl⟩ := hmade record hmem
    rfl
  · have hsummary : (Report.of bump others).summary = (Report.of bump changes).summary :=
      (Summary.ofChanges_perm (hperm.map ChangeRecord.change)).symm
    exact ⟨hsummary, congrArg Summary.text hsummary⟩
  · have hcalled :
        report.bump.CalledFor (report.severityCount .major) (report.severityCount .minor) := by
      rw [Codebase.bump_of_report hreport]
      exact Bump.calledFor_worst _
    obtain ⟨bump, houtcome, rfl⟩ := Codebase.report_eq_ok_iff.mp hreport
    have hcatalog : ∀ record ∈ (Codebase.compare policy old new).records,
        record.severity = record.change.severity := fun _ => Comparison.severity_of_mem_records
    have hmajor := toNat_severityCounter bump hcatalog .major
    have hminor := toNat_severityCounter bump hcatalog .minor
    rw [summary_of]
    refine ⟨houtcome, rfl, hcalled, hmajor, hminor, fun hlength => ?_⟩
    have hfits (severity : Bump) := (severityCount_le_length _ severity).trans_lt hlength
    change Bump.CalledFor _ (Summary.severityCounter .major _).toNat
      (Summary.severityCounter .minor _).toNat
    rw [hmajor, hminor, Nat.mod_eq_of_lt (hfits .major), Nat.mod_eq_of_lt (hfits .minor)]
    exact hcalled

/-- Three changes in two orders, and a unit that lost a field and got a function. -/
theorem Report.counts_account_for_changes_three :
    ∃ changes others : List ChangeRecord, changes.length < 2 ^ 32 ∧
      (∀ record ∈ changes, ∃ path change, record = .of path change) ∧
      (Report.of .major changes).bump = .major ∧ (Report.of .major changes).changes = changes ∧
      (Report.of .major changes).Accounted ∧ changes.Perm others ∧ changes ≠ others ∧
      (Report.of .major others).summary = (Report.of .major changes).summary ∧
      ∃ old new report, Codebase.report (.ofBool fun _ => false) old new = .ok report ∧
        (Codebase.compare (.ofBool fun _ => false) old new).outcome = .ok report.bump ∧
        report.changes = (Codebase.compare (.ofBool fun _ => false) old new).records ∧
        report.changes.length < 2 ^ 32 ∧
        report.bump.CalledFor report.summary.major.toNat report.summary.minor.toNat ∧
        report.summary.major = 1 ∧ report.summary.minor = 1 := by
  obtain ⟨haccounted, hperm, hreported⟩ := Report.counts_account_for_changes
  have hmade : ∀ record ∈ [ChangeRecord.of "a" .entityWasRemoved, .of "b" .changedDefaultValue,
      .of "c" .entityWasRemoved], ∃ path change, record = .of path change := by
    simp
  have hreport : Codebase.report (.ofBool fun _ => false)
      (.cons "u" trivial
        (.unit "u" (.cons "f" trivial (.field "f" ⟨"int", 0, []⟩) .nil) .nil .nil) .nil)
      (.cons "u" trivial
        (.unit "u" .nil (.cons "g" trivial (.function "g" ⟨"int", 0, []⟩ []) .nil) .nil) .nil) =
      .ok (.of .major [.of "u.f" .entityWasRemoved, .of "u.g" .entityWasIntroduced]) := rfl
  obtain ⟨hbump, hchanges, hcounts⟩ := haccounted .major
    [ChangeRecord.of "a" .entityWasRemoved, .of "b" .changedDefaultValue, .of "c" .entityWasRemoved]
  obtain ⟨houtcome, hrecords, -, -, -, hcalled⟩ := hreported _ _ _ _ hreport
  exact ⟨_, _, by decide, hmade, hbump, hchanges, hcounts (by decide) hmade,
    List.reverse_perm _ |>.symm, by decide, (hperm .major _ _ (List.reverse_perm _).symm).1, _, _, _,
    hreport, houtcome, hrecords, by decide, hcalled (by decide), rfl, rfl⟩

end ApiDrift
