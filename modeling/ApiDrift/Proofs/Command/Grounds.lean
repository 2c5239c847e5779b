import ApiDrift.Command.Comparing
import ApiDrift.Proofs.Comparison.Severity

/-!
# What a verdict rests on

The verdict on two snapshots is worked out stage by stage, and the first stage that goes wrong ends it. Each stage is described here by what it takes to succeed. A verdict is there exactly if all stages succeed, and then it is put together from what they found.
-/

namespace ApiDrift.Command

/-! ### Progress -/

namespace Progress

variable {α β : Type}

@[simp] theorem result_pure (value : α) : (pure value : Progress α).result = .ok value := rfl

@[simp] theorem result_note (events : List Log.Event) : (note events).result = .ok () := rfl

@[simp] theorem result_fail (message : String) (cause : Option String) :
    (fail message cause : Progress α).result =
      .error { message := message, cause := cause } := rfl

theorem result_bind_of_ok {first : Progress α} {found : α} (hfirst : first.result = .ok found)
    (next : α → Progress β) : (first >>= next).result = (next found).result := by
  obtain ⟨events, result⟩ := first
  subst hfirst
  rfl

theorem result_bind_of_error {first : Progress α} {fault : Fault}
    (hfirst : first.result = .error fault) (next : α → Progress β) :
    (first >>= next).result = .error fault := by
  obtain ⟨events, result⟩ := first
  subst hfirst
  rfl

/-- A command that goes on after another one succeeds exactly if both do. -/
theorem result_bind_eq_ok_iff {first : Progress α} {next : α → Progress β} {value : β} :
    (first >>= next).result = .ok value ↔
      ∃ found, first.result = .ok found ∧ (next found).result = .ok value := by
  cases hfirst : first.result with
  | error fault => simp [result_bind_of_error hfirst]
  | ok found => simp [result_bind_of_ok hfirst]

theorem result_map_eq_ok_iff {first : Progress α} {made : α → β} {value : β} :
    (made <$> first).result = .ok value ↔
      ∃ found, first.result = .ok found ∧ made found = value := by
  show (first >>= fun found => pure (made found)).result = .ok value ↔ _
  simp [result_bind_eq_ok_iff]

@[simp] theorem result_orFail_eq_ok_iff {message : String} {value : Except Failure α} {found : α} :
    (orFail message value).result = .ok found ↔ value = .ok found := by
  cases value <;> simp [orFail]

end Progress

/-! ### The stages -/

/-- What was read of a file is the text of a snapshot. -/
def Content.IsSnapshot (content : Content) (codebase : Codebase) : Prop :=
  ∃ text, content = .text text ∧ Snapshot.read text = .ok codebase

/-- The version before the release, as the command line gives it: as it is, or inside a tag. -/
inductive CompareOptions.Previous (options : CompareOptions) : Option Version → Prop
  | exact {text : String} {version : Version} (hgiven : options.fromVersion = some text)
      (hread : Version.parse text = .ok version) : Previous options (some version)
  | tagged {tag : String} {version : Version} (hexact : options.fromVersion = none)
      (hgiven : options.fromTag = some tag) (hread : Version.guess tag = .ok version) :
      Previous options (some version)
  | unversioned (hexact : options.fromVersion = none) (htag : options.fromTag = none) :
      Previous options none

end ApiDrift.Command

namespace ApiDrift

/-- The severity with which changes are released: while there is no stable version before it, a configuration may lower it. -/
def Config.applied (config : Config) (previous : Option Version) (bump : Bump) : Bump :=
  match previous with
  | some version => if config.majorIsMinor then version.releaseBump bump else bump
  | none => bump

end ApiDrift

namespace ApiDrift.Command

theorem checkTarget_eq_ok_iff {target : ChangelogTarget} {format : Format} :
    (checkTarget target format).result = .ok () ↔ ¬ (target = .stdout ∧ format = .json) := by
  unfold checkTarget
  split <;> simp_all

theorem loadSnapshot_eq_ok_iff {path : String} {content : Content} {codebase : Codebase} :
    (loadSnapshot path content).result = .ok codebase ↔ content.IsSnapshot codebase := by
  unfold loadSnapshot Content.IsSnapshot
  split
  case h_1 text =>
    cases hread : Snapshot.read text <;> simp [hread]
  all_goals simp

theorem compareSnapshots_eq_ok_iff {options : CompareOptions} {rules : IgnoreRules}
    {old new : Codebase} {report : Report} :
    (compareSnapshots options rules old new).result = .ok report ↔
      Codebase.report rules.policy old new = .ok report := by
  simp [compareSnapshots, Progress.result_bind_eq_ok_iff, Codebase.report_eq_ok_iff]

theorem previousVersion_eq_ok_iff {options : CompareOptions} {previous : Option Version} :
    (previousVersion options).result = .ok previous ↔ options.Previous previous := by
  unfold previousVersion
  split
  case h_1 text _ hexact =>
    rw [Progress.result_map_eq_ok_iff]
    constructor
    · intro h
      obtain ⟨version, hread, rfl⟩ := h
      exact .exact hexact (Progress.result_orFail_eq_ok_iff.mp hread)
    · intro h
      cases h with
      | exact hgiven hread =>
        obtain rfl := Option.some.inj (hexact.symm.trans hgiven)
        exact ⟨_, Progress.result_orFail_eq_ok_iff.mpr hread, rfl⟩
      | tagged hnone | unversioned hnone => simp [hexact] at hnone
  case h_2 tag hexact htag =>
    rw [Progress.result_map_eq_ok_iff]
    constructor
    · intro h
      obtain ⟨version, hread, rfl⟩ := h
      exact .tagged hexact htag (Progress.result_orFail_eq_ok_iff.mp hread)
    · intro h
      cases h with
      | exact hgiven => simp [hexact] at hgiven
      | tagged _ hgiven hread =>
        obtain rfl := Option.some.inj (htag.symm.trans hgiven)
        exact ⟨_, Progress.result_orFail_eq_ok_iff.mpr hread, rfl⟩
      | unversioned _ hnone => simp [htag] at hnone
  case h_3 hexact htag =>
    constructor
    · intro h
      obtain rfl := Except.ok.inj h
      exact .unversioned hexact htag
    · intro h
      cases h with
      | exact hgiven => simp [hexact] at hgiven
      | tagged _ hgiven => simp [htag] at hgiven
      | unversioned => rfl

/-- Lowering a severity never fails. -/
theorem result_appliedBump (config : Config) (previous : Option Version) (bump : Bump) :
    (appliedBump config previous bump).result = .ok (config.applied previous bump) := by
  unfold appliedBump Config.applied
  split
  · split <;> rfl
  · rfl

/-- A version follows if there is one before it and its number does not overflow. -/
def nextVersion? (previous : Option Version) (applied : Bump) : Option (Option Version) :=
  previous.mapM fun version => version.next? applied

theorem nextVersion_eq_ok_iff {previous : Option Version} {applied : Bump}
    {next : Option Version} :
    (nextVersion previous applied).result = .ok next ↔
      nextVersion? previous applied = some next := by
  cases previous with
  | none => simp [nextVersion, nextVersion?]
  | some version =>
    cases hnext : version.next? applied <;>
      simp [nextVersion, nextVersion?, Progress.result_map_eq_ok_iff, Version.bump, hnext]

/-! ### The verdict -/

/-- What is found on the way to a verdict, up to the version before the release. -/
structure Grounds where
  old : Codebase
  new : Codebase
  rules : IgnoreRules
  report : Report
  previous : Option Version

namespace Grounds

/-- These are the grounds of a verdict on two files. -/
structure Hold (grounds : Grounds) (options : CompareOptions) (config : Config) (format : Format)
    (old new : Content) : Prop where
  target : ¬ (options.changelogTarget = .stdout ∧ format = .json)
  old : old.IsSnapshot grounds.old
  new : new.IsSnapshot grounds.new
  rules : IgnoreRules.ofPatterns config.ignored = .ok grounds.rules
  report : Codebase.report grounds.rules.policy grounds.old grounds.new = .ok grounds.report
  previous : options.Previous grounds.previous

def applied (grounds : Grounds) (config : Config) : Bump :=
  config.applied grounds.previous grounds.report.bump

/-- The verdict on these grounds, before anyone has looked at the clock. -/
def verdict (grounds : Grounds) (options : CompareOptions) (config : Config)
    (next : Option Version) : Verdict where
  old := options.old
  new := options.new
  bump := grounds.report.bump
  releaseBump := grounds.applied config
  previousVersion := grounds.previous.map Version.text
  nextVersion := next.map Version.text
  changes := grounds.report.changes
  summary := grounds.report.summary
  summaryText := grounds.report.summaryText
  duration := Decimal.Binary.zero

end Grounds

variable {options : CompareOptions} {config : Config} {format : Format} {old new : Content}

/-- Once everything else is found, the verdict only waits for the next version. -/
theorem result_verdict_of_hold {grounds : Grounds}
    (hgrounds : grounds.Hold options config format old new) :
    (verdict options config format old new).result =
      ((grounds.verdict options config) <$>
        nextVersion grounds.previous (grounds.applied config)).result := by
  unfold verdict
  rw [Progress.result_bind_of_ok (checkTarget_eq_ok_iff.mpr hgrounds.target),
    Progress.result_bind_of_ok (loadSnapshot_eq_ok_iff.mpr hgrounds.old),
    Progress.result_bind_of_ok (loadSnapshot_eq_ok_iff.mpr hgrounds.new),
    Progress.result_bind_of_ok (Progress.result_orFail_eq_ok_iff.mpr hgrounds.rules),
    Progress.result_bind_of_ok (Progress.result_note _),
    Progress.result_bind_of_ok (compareSnapshots_eq_ok_iff.mpr hgrounds.report),
    Progress.result_bind_of_ok (previousVersion_eq_ok_iff.mpr hgrounds.previous),
    Progress.result_bind_of_ok (result_appliedBump _ _ _)]
  rfl

/-- A verdict is there exactly if it has grounds and the next version exists. -/
theorem result_verdict_eq_ok_iff {judged : Verdict} :
    (verdict options config format old new).result = .ok judged ↔
      ∃ (grounds : Grounds) (next : Option Version), grounds.Hold options config format old new ∧
        nextVersion? grounds.previous (grounds.applied config) = some next ∧
          grounds.verdict options config next = judged := by
  constructor
  · intro h
    -- Taken apart up to the previous version, the stages give the grounds; the rest is known then.
    have hstages := h
    unfold verdict at h
    obtain ⟨⟨⟩, htarget, h⟩ := Progress.result_bind_eq_ok_iff.mp h
    obtain ⟨oldSnapshot, hold, h⟩ := Progress.result_bind_eq_ok_iff.mp h
    obtain ⟨newSnapshot, hnew, h⟩ := Progress.result_bind_eq_ok_iff.mp h
    obtain ⟨rules, hrules, h⟩ := Progress.result_bind_eq_ok_iff.mp h
    obtain ⟨⟨⟩, -, h⟩ := Progress.result_bind_eq_ok_iff.mp h
    obtain ⟨report, hreport, h⟩ := Progress.result_bind_eq_ok_iff.mp h
    obtain ⟨previous, hprevious, -⟩ := Progress.result_bind_eq_ok_iff.mp h
    have hgrounds : Grounds.Hold ⟨oldSnapshot, newSnapshot, rules, report, previous⟩ options config
        format old new :=
      { target := checkTarget_eq_ok_iff.mp htarget
        old := loadSnapshot_eq_ok_iff.mp hold
        new := loadSnapshot_eq_ok_iff.mp hnew
        rules := Progress.result_orFail_eq_ok_iff.mp hrules
        report := compareSnapshots_eq_ok_iff.mp hreport
        previous := previousVersion_eq_ok_iff.mp hprevious }
    rw [result_verdict_of_hold hgrounds, Progress.result_map_eq_ok_iff] at hstages
    obtain ⟨next, hnext, hjudged⟩ := hstages
    exact ⟨_, next, hgrounds, nextVersion_eq_ok_iff.mp hnext, hjudged⟩
  · intro h
    obtain ⟨grounds, next, hgrounds, hnext, hjudged⟩ := h
    rw [result_verdict_of_hold hgrounds, Progress.result_map_eq_ok_iff]
    exact ⟨next, nextVersion_eq_ok_iff.mpr hnext, hjudged⟩

/-- What keeps a comparison from its verdict. -/
inductive Obstacle (options : CompareOptions) (config : Config) (format : Format)
    (old new : Content) : Prop
  | target (htarget : options.changelogTarget = .stdout) (hformat : format = .json)
  | oldSnapshot (hold : ∀ codebase, ¬ old.IsSnapshot codebase)
  | newSnapshot (hnew : ∀ codebase, ¬ new.IsSnapshot codebase)
  | pattern {failure : Failure} (hrules : IgnoreRules.ofPatterns config.ignored = .error failure)
  | comparison {rules : IgnoreRules} {oldSnapshot newSnapshot : Codebase} {failure : Failure}
      (hrules : IgnoreRules.ofPatterns config.ignored = .ok rules)
      (hold : old.IsSnapshot oldSnapshot) (hnew : new.IsSnapshot newSnapshot)
      (hreport : Codebase.report rules.policy oldSnapshot newSnapshot = .error failure)
  | version (hprevious : ∀ previous, ¬ options.Previous previous)
  | next {grounds : Grounds} (hgrounds : grounds.Hold options config format old new)
      (hnext : nextVersion? grounds.previous (grounds.applied config) = none)

theorem Content.IsSnapshot.unique {content : Content} {first second : Codebase}
    (hfirst : content.IsSnapshot first) (hsecond : content.IsSnapshot second) : first = second := by
  obtain ⟨text, hcontent, hread⟩ := hfirst
  obtain ⟨other, hother, hreadOther⟩ := hsecond
  obtain rfl := Content.text.inj (hcontent.symm.trans hother)
  exact Except.ok.inj (hread.symm.trans hreadOther)

theorem CompareOptions.Previous.unique {first second : Option Version}
    (hfirst : options.Previous first) (hsecond : options.Previous second) : first = second := by
  have hread := previousVersion_eq_ok_iff.mpr hfirst
  rw [previousVersion_eq_ok_iff.mpr hsecond] at hread
  exact (Except.ok.inj hread).symm

/-- There is only one way to the verdict. -/
theorem Grounds.Hold.unique {first second : Grounds}
    (hfirst : first.Hold options config format old new)
    (hsecond : second.Hold options config format old new) : first = second := by
  obtain ⟨firstOld, firstNew, firstRules, firstReport, firstPrevious⟩ := first
  obtain ⟨secondOld, secondNew, secondRules, secondReport, secondPrevious⟩ := second
  obtain rfl : firstOld = secondOld := hfirst.old.unique hsecond.old
  obtain rfl : firstNew = secondNew := hfirst.new.unique hsecond.new
  obtain rfl : firstRules = secondRules := Except.ok.inj (hfirst.rules.symm.trans hsecond.rules)
  obtain rfl : firstReport = secondReport :=
    Except.ok.inj (hfirst.report.symm.trans hsecond.report)
  obtain rfl : firstPrevious = secondPrevious := hfirst.previous.unique hsecond.previous
  rfl

theorem not_obstacle_of_ok {judged : Verdict}
    (hjudged : (verdict options config format old new).result = .ok judged) :
    ¬ Obstacle options config format old new := by
  obtain ⟨grounds, next, hgrounds, hnext, -⟩ := result_verdict_eq_ok_iff.mp hjudged
  intro hobstacle
  cases hobstacle with
  | target htarget hformat => exact hgrounds.target ⟨htarget, hformat⟩
  | oldSnapshot hold => exact hold _ hgrounds.old
  | newSnapshot hnew => exact hnew _ hgrounds.new
  | pattern hrules =>
    rw [hgrounds.rules] at hrules
    cases hrules
  | comparison hrules hold hnew hreport =>
    rw [← Except.ok.inj (hgrounds.rules.symm.trans hrules), ← hgrounds.old.unique hold,
      ← hgrounds.new.unique hnew, hgrounds.report] at hreport
    cases hreport
  | version hprevious => exact hprevious _ hgrounds.previous
  | next hother hnone =>
    rw [hother.unique hgrounds, hnext] at hnone
    cases hnone

theorem obstacle_of_error {fault : Fault}
    (hfault : (verdict options config format old new).result = .error fault) :
    Obstacle options config format old new := by
  by_contra hnone
  have htarget : ¬ (options.changelogTarget = .stdout ∧ format = .json) := by
    intro h
    exact hnone (.target h.1 h.2)
  obtain ⟨oldSnapshot, hold⟩ : ∃ codebase, old.IsSnapshot codebase := by
    by_contra h
    exact hnone (.oldSnapshot (not_exists.mp h))
  obtain ⟨newSnapshot, hnew⟩ : ∃ codebase, new.IsSnapshot codebase := by
    by_contra h
    exact hnone (.newSnapshot (not_exists.mp h))
  obtain ⟨previous, hprevious⟩ : ∃ previous, options.Previous previous := by
    by_contra h
    exact hnone (.version (not_exists.mp h))
  cases hrules : IgnoreRules.ofPatterns config.ignored with
  | error failure => exact hnone (.pattern hrules)
  | ok rules =>
    cases hreport : Codebase.report rules.policy oldSnapshot newSnapshot with
    | error failure => exact hnone (.comparison hrules hold hnew hreport)
    | ok report =>
      let grounds : Grounds := ⟨oldSnapshot, newSnapshot, rules, report, previous⟩
      have hgrounds : grounds.Hold options config format old new :=
        ⟨htarget, hold, hnew, hrules, hreport, hprevious⟩
      cases hnext : nextVersion? grounds.previous (grounds.applied config) with
      | none => exact hnone (.next hgrounds hnext)
      | some next =>
        rw [result_verdict_eq_ok_iff.mpr ⟨grounds, next, hgrounds, hnext, rfl⟩] at hfault
        cases hfault

/-- Two files and the patterns in force decide what is reported on them. -/
theorem Grounds.Hold.report_eq {first second : Grounds} {otherOptions : CompareOptions}
    {otherConfig : Config} {otherFormat : Format}
    (hfirst : first.Hold options config format old new)
    (hsecond : second.Hold otherOptions otherConfig otherFormat old new)
    (hignored : config.ignored = otherConfig.ignored) : first.report = second.report := by
  have hrules := hfirst.rules
  have hreport := hfirst.report
  rw [hignored, hsecond.rules] at hrules
  rw [← Except.ok.inj hrules, hfirst.old.unique hsecond.old, hfirst.new.unique hsecond.new,
    hsecond.report] at hreport
  exact (Except.ok.inj hreport).symm

end ApiDrift.Command
