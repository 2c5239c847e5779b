import ApiDrift.Proofs.Command.Ending
import ApiDrift.Proofs.Version.Next

/-!
# The announced version

The version that a run announces can be told from the changes it lists and the version before them. The most severe change says which number moves on, unless there is no stable version yet and the configuration lets a breaking change pass as a minor one.
-/

namespace ApiDrift

/-- The severity with which the listed changes are released after a version. -/
def Config.severityAfter (config : Config) (version : Version) (changes : List ChangeRecord) :
    Bump :=
  if (∃ record ∈ changes, record.severity = .major) ∧
      (0 < version.major ∨ config.majorIsMinor = false) then .major
  else if ∃ record ∈ changes, record.severity = .major ∨ record.severity = .minor then .minor
  else .patch

theorem Config.severityAfter_ne_none (config : Config) (version : Version)
    (changes : List ChangeRecord) : config.severityAfter version changes ≠ .none := by
  unfold severityAfter
  split
  · decide
  · split <;> decide

/-- What is lowered is the worst of the listed changes. -/
theorem Config.applied_worst (config : Config) (version : Version) (changes : List ChangeRecord) :
    config.applied (some version) (.worst .patch (changes.map ChangeRecord.severity)) =
      config.severityAfter version changes := by
  have hmem (severity : Bump) : severity ∈ changes.map ChangeRecord.severity ↔
      ∃ record ∈ changes, record.severity = severity := List.mem_map
  have hstable : 0 < version.major ↔ version.major ≠ 0 := UInt64.pos_iff_ne_zero
  rw [Bump.worst_patch_eq, applied, severityAfter]
  simp only [hmem, hstable, Version.releaseBump, Version.lowers_iff, and_or_left, exists_or]
  -- Only a major change can be lowered, so nothing else asks for the version or the configuration.
  by_cases hmajor : ∃ record ∈ changes, record.severity = .major
  · by_cases hzero : version.major = 0 <;> cases hlowered : config.majorIsMinor <;>
      simp [hmajor, hzero]
  · by_cases hminor : ∃ record ∈ changes, record.severity = .minor <;>
      cases hlowered : config.majorIsMinor <;> simp [hmajor, hminor]

end ApiDrift

namespace ApiDrift.Command

/-- What a verdict announces about a release, given the version before it if there is one. -/
inductive Announces (config : Config) (judged : Verdict) : Option Version → Prop
  | unversioned (hbump : judged.releaseBump = judged.bump)
      (hprevious : judged.previousVersion = none) (hnext : judged.nextVersion = none) :
      Announces config judged none
  | released {version next : Version}
      (hbump : judged.releaseBump = config.severityAfter version judged.changes)
      (hprevious : judged.previousVersion = some version.text)
      (hnext : judged.nextVersion = some next.text) (hlabel : next.label = none)
      (hnumbers : next.numbers = version.numbersAfter judged.releaseBump) :
      Announces config judged (some version)

/-- The fault of a release whose number does not fit. -/
def overflow (version : Version) (severity : Bump) : Fault :=
  { message := "Cannot compute the next version"
    cause := some (Failure.invalidVersion
      (version.text ++ " has no next " ++ severity.word ++ " version")).message }

section

variable {options : CompareOptions} {config : Config} {format : Format} {old new : Content}
  {grounds : Grounds} {version : Version}

theorem Grounds.Hold.applied_eq (hgrounds : grounds.Hold options config format old new)
    (hprevious : grounds.previous = some version) :
    grounds.applied config = config.severityAfter version grounds.report.changes := by
  rw [applied, hprevious, Codebase.bump_of_report hgrounds.report, Config.applied_worst]

theorem Grounds.Hold.announces (hgrounds : grounds.Hold options config format old new)
    {next : Option Version}
    (hnext : nextVersion? grounds.previous (grounds.applied config) = some next)
    (duration : Decimal.Binary) :
    Announces config { grounds.verdict options config next with duration := duration }
      grounds.previous := by
  cases hprevious : grounds.previous with
  | none =>
    rw [hprevious] at hnext
    obtain rfl := Option.some.inj hnext
    refine .unversioned ?_ ?_ rfl
    · show grounds.applied config = grounds.report.bump
      rw [applied, hprevious, Config.applied]
    · show grounds.previous.map Version.text = none
      rw [hprevious]
      rfl
  | some version =>
    have happlied := hgrounds.applied_eq hprevious
    rw [hprevious] at hnext
    obtain ⟨following, hfollowing, rfl⟩ := Option.map_eq_some_iff.mp hnext
    have hchange : grounds.applied config ≠ .none := by
      rw [happlied]
      exact config.severityAfter_ne_none version _
    refine .released happlied ?_ rfl (Version.label_of_next? hfollowing)
      (Version.numbers_of_next? hchange hfollowing)
    show grounds.previous.map Version.text = some version.text
    rw [hprevious]
    rfl

/-- With everything else found, there is a verdict unless the number that has to move on is full. -/
theorem result_verdict_of_previous (hgrounds : grounds.Hold options config format old new)
    (hprevious : grounds.previous = some version) :
    (verdict options config format old new).result =
      match version.next? (config.severityAfter version grounds.report.changes) with
      | none => .error (overflow version (config.severityAfter version grounds.report.changes))
      | some next => .ok (grounds.verdict options config (some next)) := by
  rw [result_verdict_of_hold hgrounds, hgrounds.applied_eq hprevious, hprevious, nextVersion,
    Version.bump]
  cases version.next? (config.severityAfter version grounds.report.changes) <;> rfl

end

section Runs

variable {σ φ : Type} {world : World (StateM σ)} {store : FileStore φ} {files : σ → φ}
  {terminal : Bool} {common : Common} {options : CompareOptions} {before : σ}
  {ended : Outcome × σ}

/-- A run that has its verdict does not fail for want of a version. -/
theorem Ending.fault_ne_overflow {config : Config} {judged : Verdict}
    (hending : Ending world store files terminal common options before ended)
    (hload : loadedIn (store.read (files before)) common options = .ok config)
    (hverdict : judgedIn (store.read (files before)) common options config = .ok judged)
    (version : Version) (severity : Bump) : ended.1.fault ≠ some (overflow version severity) := by
  rcases hending.of_judged hload hverdict with hshown | hfailed
  · simp [hshown.2]
  · obtain ⟨path, -, cause, -, -, -, hfault⟩ := hfailed
    rw [hfault]
    intro hsame
    -- The two messages differ in their first letter.
    have hmessage := congrArg Fault.message (Option.some.inj hsame)
    have hfirst := congrArg (·.toList.head?) hmessage
    simp [overflow] at hfirst

/-- Once everything else is found, the run fails exactly if the number that has to move on is full. -/
theorem Ending.fails_iff {config : Config} {grounds : Grounds} {version : Version}
    (hending : Ending world store files terminal common options before ended)
    (hload : loadedIn (store.read (files before)) common options = .ok config)
    (hgrounds : grounds.Hold options config (effectiveFormat common config)
      (store.read (files before) options.old) (store.read (files before) options.new))
    (hprevious : grounds.previous = some version) :
    let severity := config.severityAfter version grounds.report.changes
    let full := (version.moved severity).toNat = 2 ^ 64 - 1
    (ended.1.fault = some (overflow version severity) ↔ full) ∧
      ((∀ path between text, options.changelogTarget = .file path →
          files between = files before → (world.write path text between).1 = true) →
        (ended.1.exit ≠ 0 ↔ full)) := by
  intro severity full
  have hfull : version.next? severity = none ↔ full :=
    Version.next?_eq_none_iff (config.severityAfter_ne_none version _)
  have hverdict : judgedIn (store.read (files before)) common options config = _ :=
    result_verdict_of_previous hgrounds hprevious
  rw [← hfull]
  cases hnext : version.next? severity with
  | none =>
    rw [hnext] at hverdict
    obtain ⟨hexit, hfault⟩ := hending.of_unjudged hload hverdict
    exact ⟨⟨fun _ => rfl, fun _ => hfault⟩, fun _ => ⟨fun _ => rfl, fun _ => by simp [hexit]⟩⟩
  | some next =>
    rw [hnext] at hverdict
    have hother := hending.fault_ne_overflow hload hverdict version severity
    refine ⟨⟨fun h => absurd h hother, fun h => nomatch h⟩, fun hwritable => ?_⟩
    have hexit := hending.exit_eq_zero hload hverdict fun path between => hwritable path between _
    exact ⟨fun h => absurd hexit h, fun h => nomatch h⟩

end Runs

/-- A run that succeeds announces what its changes call for. With everything else in place, it fails exactly if the number that has to move on is full. -/
theorem announcement_follows_from_changes {σ φ : Type} {world : World (StateM σ)}
    {store : FileStore φ} {files : σ → φ} (hkeeps : world.Keeps store files) (terminal : Bool)
    (common : Common) (options : CompareOptions) (before : σ) :
    let ended := run world terminal (.run common (.compare options)) before
    (ended.1.exit = 0 →
      ∃ (finding : Finding) (previous : Option Version),
        finding.Shown world store files terminal common options before ended ∧
        options.Previous previous ∧
        Announces finding.config (finding.judged options) previous) ∧
    ∀ (config : Config) (grounds : Grounds) (version : Version),
      loadedIn (store.read (files before)) common options = .ok config →
      grounds.Hold options config (effectiveFormat common config)
        (store.read (files before) options.old) (store.read (files before) options.new) →
      grounds.previous = some version →
      let severity := config.severityAfter version grounds.report.changes
      let full := (version.moved severity).toNat = 2 ^ 64 - 1
      (ended.1.fault = some (overflow version severity) ↔ full) ∧
        ((∀ path between text, options.changelogTarget = .file path →
            files between = files before → (world.write path text between).1 = true) →
          (ended.1.exit ≠ 0 ↔ full)) := by
  intro ended
  refine ⟨fun hexit => ?_, fun config grounds version hload hgrounds hprevious => ?_⟩
  · obtain ⟨finding, hshown⟩ := exists_shown hkeeps hexit
    exact ⟨finding, finding.grounds.previous, hshown, hshown.grounds.previous,
      hshown.grounds.announces hshown.next (milliseconds finding.nanoseconds)⟩
  · have hending : Ending world store files terminal common options before ended :=
      ending_run hkeeps terminal common options before
    exact hending.fails_iff hload hgrounds hprevious

/-- A new field moves the second number, and if that one is full there is no release. -/
theorem announcement_follows_from_changes_new_field :
    let options : CompareOptions :=
      { old := "/w/a", new := "../b", fromVersion := some "1.2.3" }
    let lastOptions : CompareOptions :=
      { old := "/w/a", new := "../b", fromVersion := some "1.18446744073709551615.3" }
    let ended := run (Folder.world ["w"]) false (.run { config := some "c" } (.compare options))
      .small
    let failed := run (Folder.world ["w"]) false
      (.run { config := some "c" } (.compare lastOptions)) .small
    (Folder.world ["w"]).Keeps (Folder.store ["w"]) id ∧ ended.1.exit = 0 ∧
      (∃ finding : Finding,
        finding.Shown (Folder.world ["w"]) (Folder.store ["w"]) id false { config := some "c" }
          options .small ended ∧
        Announces finding.config (finding.judged options) (some ⟨1, 2, 3, none⟩)) ∧
      (Version.moved ⟨1, 18446744073709551615, 3, none⟩ .minor).toNat = 2 ^ 64 - 1 ∧
      failed.1.fault = some (overflow ⟨1, 18446744073709551615, 3, none⟩ .minor) := by
  intro options lastOptions ended failed
  subst ended failed
  have hprevious : options.Previous (some ⟨1, 2, 3, none⟩) := .exact rfl (by decide +kernel)
  have hexit := exit_small false { config := some "c" } options rfl rfl rfl (.inl rfl) hprevious rfl
  obtain ⟨finding, previous, hshown, hother, hannounces⟩ :=
    (announcement_follows_from_changes (Folder.keeps_world ["w"]) false { config := some "c" }
      options .small).1 hexit
  obtain rfl := hprevious.unique hother
  refine ⟨Folder.keeps_world ["w"], hexit, ⟨finding, hshown, hannounces⟩, rfl, ?_⟩
  have hfull : lastOptions.Previous (some ⟨1, 18446744073709551615, 3, none⟩) :=
    .exact rfl (by decide +kernel)
  have hfails := (announcement_follows_from_changes (Folder.keeps_world ["w"]) false
    { config := some "c" } lastOptions .small).2 {} (.small _) _ (loadedIn_small _ rfl _)
    (Grounds.hold_small rfl rfl (by simp [lastOptions, CompareOptions.changelogTarget]) hfull) rfl
  exact hfails.1.mpr rfl

end ApiDrift.Command
