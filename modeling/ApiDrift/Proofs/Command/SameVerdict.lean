import ApiDrift.Proofs.Command.Ending
import ApiDrift.Proofs.Command.Folder

/-!
# Options do not change the verdict

What a run says about two snapshots depends on the snapshots and on the patterns in force. Everything else that can be asked for changes where it is said and how, and what follows from it for the release. Asking for strictness changes nothing at all in a run that succeeds.
-/

namespace ApiDrift.Command

/-! ### Two runs -/

/-- Two verdicts say the same about what has changed. -/
structure SameChanges (first second : Verdict) : Prop where
  bump : first.bump = second.bump
  changes : first.changes = second.changes
  summary : first.summary = second.summary
  summaryText : first.summaryText = second.summaryText

theorem Finding.sameChanges_of_report_eq {first second : Finding}
    (hreport : first.grounds.report = second.grounds.report)
    (options otherOptions : CompareOptions) :
    SameChanges (first.judged options) (second.judged otherOptions) where
  bump := congrArg Report.bump hreport
  changes := congrArg Report.changes hreport
  summary := congrArg Report.summary hreport
  summaryText := congrArg Report.summaryText hreport

section TwoRuns

variable {σ τ φ ψ : Type} {world : World (StateM σ)} {otherWorld : World (StateM τ)}
  {store : FileStore φ} {otherStore : FileStore ψ} {files : σ → φ} {otherFiles : τ → ψ}
  {terminal otherTerminal : Bool} {common otherCommon : Common}
  {options otherOptions : CompareOptions} {before : σ} {otherBefore : τ} {ended : Outcome × σ}
  {otherEnded : Outcome × τ} {first second : Finding}

/-- Two runs that have read the same and leave out the same have found the same changes. -/
theorem Finding.Shown.sameChanges
    (hfirst : first.Shown world store files terminal common options before ended)
    (hsecond : second.Shown otherWorld otherStore otherFiles otherTerminal otherCommon
      otherOptions otherBefore otherEnded)
    (hold : store.read (files before) options.old =
      otherStore.read (otherFiles otherBefore) otherOptions.old)
    (hnew : store.read (files before) options.new =
      otherStore.read (otherFiles otherBefore) otherOptions.new)
    (hignored : first.config.ignored = second.config.ignored) :
    SameChanges (first.judged options) (second.judged otherOptions) := by
  have hgrounds := hfirst.grounds
  rw [hold, hnew] at hgrounds
  exact sameChanges_of_report_eq (hgrounds.report_eq hsecond.grounds hignored) options otherOptions

end TwoRuns

/-! ### The changelog -/

section Changelog

variable {σ φ : Type} {world : World (StateM σ)} {store : FileStore φ} {files : σ → φ}
  {terminal : Bool} {common : Common} {options : CompareOptions} {before : σ}
  {ended : Outcome × σ} {finding : Finding}

/-- The changelog of a verdict is where it was asked for. In a file it has been written as it is, and it is read there wherever what is written can be read. -/
inductive Logged (store : FileStore φ) (target : ChangelogTarget) (lines : String)
    (stdout : String) (before after : φ) : Prop
  | nowhere (htarget : target = .nowhere)
  | file {path : String} (htarget : target = .file path)
      (hwrite : store.write? before path lines = some after)
      (hread : store.Retains path → store.read after path = .text lines)
  | stdout {rest : String} (htarget : target = .stdout) (hstdout : stdout = lines ++ rest)

theorem Finding.Shown.logged
    (hshown : finding.Shown world store files terminal common options before ended) :
    Logged store options.changelogTarget
      (String.join ((finding.judged options).changes.map fun record => record.line ++ "\n"))
      ended.1.stdout (files before) (files ended.2) := by
  have hwritten := hshown.written
  have hstdout := hshown.stdout
  cases htarget : options.changelogTarget with
  | nowhere => exact .nowhere rfl
  | file path =>
    rw [htarget] at hwritten
    exact .file rfl hwritten fun hretains => hretains hwritten
  | stdout =>
    rw [htarget, printed, if_pos rfl, String.append_assoc] at hstdout
    exact .stdout rfl hstdout

end Changelog

/-! ### Strictness -/

/-- How a file is named in a message does not matter to what is read from it. -/
theorem readConfig_eq_ok_of_label {label : String} (other : String) {content : Content}
    {config : Config} (hread : readConfig label content = .ok config) :
    readConfig other content = .ok config := by
  cases content with
  | absent => exact hread
  | unreadable => cases hread
  | text text =>
    simp only [readConfig] at hread ⊢
    cases hparse : Config.read? text with
    | none =>
      rw [hparse] at hread
      cases hread
    | some found =>
      rw [hparse] at hread
      exact hread

/-- A configuration that strictness lets pass is the same without it, and there is nothing to tell. -/
theorem loadConfig_of_strict {common : Common} {content : Content} {config : Config}
    (hload : (loadConfig common true content).result = .ok config) :
    loadConfig common false content = loadConfig common true content := by
  -- The label differs with strictness, but it only ever stands in a message.
  cases hread : readConfig (common.configLabel true) content with
  | error fault =>
    unfold loadConfig at hload
    split at hload
    · cases hload
    · next given found _ =>
      rw [hread] at hload
      cases hload
  | ok found =>
    have hsame := readConfig_eq_ok_of_label (common.configLabel false) hread
    unfold loadConfig
    split
    · rfl
    · simp only [hread, hsame]

section Strictness

variable {σ : Type} (world : World (StateM σ)) (terminal : Bool) (common : Common)
  (options : CompareOptions) (before : σ)

theorem runCompare_strict (strict : Bool) (config : Config) (format : Format) (colors : Bool)
    (events : List Log.Event) :
    runCompare world { options with strict := strict } config format colors events =
      runCompare world options config format colors events := rfl

theorem run_without_strict
    (hexit : (run world terminal (.run common (.compare { options with strict := true }))
      before).1.exit = 0) :
    run world terminal (.run common (.compare { options with strict := false })) before =
      run world terminal (.run common (.compare { options with strict := true })) before := by
  cases hload : (loadConfig common true (world.read common.configPath before).1).result with
  | error fault =>
    obtain ⟨later, hrun⟩ := runTask_of_error world terminal common { options with strict := true }
      before hload
    have hfailed : (runTask world terminal common (.compare { options with strict := true })
      before).1.exit = 0 := hexit
    rw [hrun] at hfailed
    cases hfailed
  | ok config =>
    have hsame := loadConfig_of_strict hload
    have hstrict := runTask_of_ok world terminal common { options with strict := true } before hload
    have hlenient := runTask_of_ok world terminal common { options with strict := false } before
      ((congrArg Progress.result hsame).trans hload)
    dsimp only at hstrict hlenient
    rw [runCompare_strict] at hstrict hlenient
    rw [hsame] at hlenient
    exact hlenient.trans hstrict.symm

end Strictness

theorem CompareOptions.Previous.with_strict {options : CompareOptions} {previous : Option Version}
    (hprevious : options.Previous previous) (strict : Bool) :
    CompareOptions.Previous { options with strict := strict } previous := by
  cases hprevious with
  | exact hgiven hread => exact .exact hgiven hread
  | tagged hexact hgiven hread => exact .tagged hexact hgiven hread
  | unversioned hexact htag => exact .unversioned hexact htag

theorem Grounds.Hold.with_strict {grounds : Grounds} {options : CompareOptions} {config : Config}
    {format : Format} {old new : Content} (hgrounds : grounds.Hold options config format old new)
    (strict : Bool) :
    grounds.Hold { options with strict := strict } config format old new :=
  ⟨hgrounds.target, hgrounds.old, hgrounds.new, hgrounds.rules, hgrounds.report,
    hgrounds.previous.with_strict strict⟩

theorem ChangelogTarget.Written.unique {φ : Type} {store : FileStore φ} {target : ChangelogTarget}
    {text : String} {before first second : φ} (hfirst : target.Written store text before first)
    (hsecond : target.Written store text before second) : first = second := by
  cases target with
  | nowhere | stdout => exact hfirst.trans hsecond.symm
  | file path => exact Option.some.inj (hfirst.symm.trans hsecond)

section Again

variable {σ φ : Type} {world : World (StateM σ)} {store : FileStore φ} {files : σ → φ}
  (hkeeps : world.Keeps store files) {terminal : Bool} {common : Common}
  {options : CompareOptions} {before again : σ} {ended : Outcome × σ} {finding : Finding}

include hkeeps

/-- What was found under strictness is found again without it, at any other time. -/
theorem Finding.Shown.without_strict
    (hshown : finding.Shown world store files terminal common { options with strict := true }
      before ended)
    (hagain : files again = files before)
    (hwritable : ∀ path between text, options.changelogTarget = .file path →
      files between = files before → (world.write path text between).1 = true) :
    let rerun := run world terminal (.run common (.compare { options with strict := false })) again
    rerun.1.exit = 0 ∧ files rerun.2 = files ended.2 ∧ ∃ nanoseconds,
      Finding.Shown { finding with nanoseconds := nanoseconds } world store files terminal common
        { options with strict := false } again rerun := by
  intro rerun
  have hload : loadedIn (store.read (files again)) common { options with strict := false } =
      .ok finding.config := by
    rw [hagain]
    exact (congrArg Progress.result (loadConfig_of_strict hshown.load)).trans hshown.load
  have hgrounds := hshown.grounds.with_strict false
  have hverdict : judgedIn (store.read (files again)) common { options with strict := false }
      finding.config = .ok (finding.grounds.verdict { options with strict := false }
        finding.config finding.next) := by
    rw [hagain]
    exact result_verdict_eq_ok_iff.mpr ⟨_, _, hgrounds, hshown.next, rfl⟩
  have hexit : rerun.1.exit = 0 :=
    (ending_run hkeeps terminal common { options with strict := false } again).exit_eq_zero hload
      hverdict fun path between htarget hbetween =>
        hwritable path between _ htarget (hbetween.trans hagain)
  obtain ⟨⟨config, others, next, nanoseconds⟩, hother⟩ := exists_shown hkeeps hexit
  obtain rfl : config = finding.config := Except.ok.inj (hother.load.symm.trans hload)
  have hothers := hother.grounds
  rw [hagain] at hothers
  obtain rfl : others = finding.grounds := hothers.unique hgrounds
  obtain rfl : next = finding.next := Option.some.inj (hother.next.symm.trans hshown.next)
  have hwritten := hother.written
  rw [hagain] at hwritten
  exact ⟨hexit, hwritten.unique hshown.written, nanoseconds, hother⟩

end Again

/-! ### The result -/

section Result

variable {σ τ φ ψ : Type} {world : World (StateM σ)} {otherWorld : World (StateM τ)}
  {store : FileStore φ} {otherStore : FileStore ψ} {files : σ → φ} {otherFiles : τ → ψ}

/-- Two runs that succeed on the same two snapshots and under the same patterns tell the same changes, and each logs the changes that it tells. A run that succeeds under strictness does exactly the same without it, and it tells and logs the same at any other time, but for how long it takes. -/
theorem options_keep_the_verdict (hkeeps : world.Keeps store files)
    (hotherKeeps : otherWorld.Keeps otherStore otherFiles) (terminal otherTerminal : Bool)
    (common otherCommon : Common) (options otherOptions : CompareOptions) (before : σ)
    (otherBefore : τ) :
    let ended := run world terminal (.run common (.compare options)) before
    let otherEnded := run otherWorld otherTerminal (.run otherCommon (.compare otherOptions))
      otherBefore
    let lines (judged : Verdict) : String :=
      String.join (judged.changes.map fun record => record.line ++ "\n")
    let strict : CompareOptions := { options with strict := true }
    let lenient : CompareOptions := { options with strict := false }
    let strictly := run world terminal (.run common (.compare strict)) before
    (ended.1.exit = 0 → otherEnded.1.exit = 0 →
      ∃ finding otherFinding : Finding,
        finding.Shown world store files terminal common options before ended ∧
        otherFinding.Shown otherWorld otherStore otherFiles otherTerminal otherCommon otherOptions
          otherBefore otherEnded ∧
        Logged store options.changelogTarget (lines (finding.judged options)) ended.1.stdout
          (files before) (files ended.2) ∧
        Logged otherStore otherOptions.changelogTarget (lines (otherFinding.judged otherOptions))
          otherEnded.1.stdout (otherFiles otherBefore) (otherFiles otherEnded.2) ∧
        (store.read (files before) options.old =
            otherStore.read (otherFiles otherBefore) otherOptions.old →
          store.read (files before) options.new =
            otherStore.read (otherFiles otherBefore) otherOptions.new →
          finding.config.ignored = otherFinding.config.ignored →
          SameChanges (finding.judged options) (otherFinding.judged otherOptions))) ∧
    (strictly.1.exit = 0 →
      run world terminal (.run common (.compare lenient)) before = strictly ∧
      ∃ finding : Finding, finding.Shown world store files terminal common strict before strictly ∧
        ∀ again, files again = files before →
          (∀ path between text, options.changelogTarget = .file path →
            files between = files before → (world.write path text between).1 = true) →
          let rerun := run world terminal (.run common (.compare lenient)) again
          rerun.1.exit = 0 ∧ files rerun.2 = files strictly.2 ∧ ∃ nanoseconds,
            Finding.Shown { finding with nanoseconds := nanoseconds } world store files terminal
              common lenient again rerun) := by
  intro ended otherEnded lines strict lenient strictly
  constructor
  · intro hexit hotherExit
    obtain ⟨finding, hshown⟩ := exists_shown hkeeps hexit
    obtain ⟨otherFinding, hotherShown⟩ := exists_shown hotherKeeps hotherExit
    refine ⟨finding, otherFinding, hshown, hotherShown, hshown.logged, hotherShown.logged, ?_⟩
    intro hold hnew hignored
    exact hshown.sameChanges hotherShown hold hnew hignored
  · intro hexit
    obtain ⟨finding, hshown⟩ := exists_shown hkeeps hexit
    refine ⟨run_without_strict world terminal common options before hexit, finding, hshown, ?_⟩
    intro again hagain hwritable
    exact hshown.without_strict hkeeps hagain hwritable

end Result

/-- A strict run that shows JSON and a version, and writes its changelog outside its folder, says the same as one that shows a table. -/
theorem options_keep_the_verdict_json_and_table :
    let common : Common := { format := some .json, config := some "c" }
    let options (strict : Bool) : CompareOptions :=
      { old := "/w/a", new := "../b", fromVersion := some "1.0.0", changelog := some "/log",
        strict := strict }
    let otherOptions : CompareOptions := { old := "/w/a", new := "../b" }
    let shown := run (Folder.world ["w"]) false (.run common (.compare (options true))) .small
    let otherShown := run (Folder.world ["w"]) true
      (.run { config := some "c" } (.compare otherOptions)) .small
    let rerun := run (Folder.world ["w"]) false (.run common (.compare (options false))) .small
    (Folder.world ["w"]).Keeps (Folder.store ["w"]) id ∧ shown.1.exit = 0 ∧
      otherShown.1.exit = 0 ∧
      (∃ finding otherFinding : Finding,
        finding.Shown (Folder.world ["w"]) (Folder.store ["w"]) id false common (options true)
          .small shown ∧
        otherFinding.Shown (Folder.world ["w"]) (Folder.store ["w"]) id true
          { config := some "c" } otherOptions .small otherShown ∧
        shown.2.read "/log" ["w"] = .text (String.join
          ((finding.judged (options true)).changes.map fun record => record.line ++ "\n")) ∧
        SameChanges (finding.judged (options true)) (otherFinding.judged otherOptions)) ∧
      rerun = shown ∧ rerun.1.exit = 0 ∧ rerun.2 = shown.2 := by
  intro common options otherOptions shown otherShown rerun
  -- With names for the runs, the kernel would carry them out to compare them.
  subst shown otherShown rerun
  have hprevious : (options true).Previous (some ⟨1, 0, 0, none⟩) := .exact rfl (by decide +kernel)
  have hexit := exit_small false common (options true) rfl rfl rfl (.inr rfl) hprevious rfl
  have hotherExit := exit_small true { config := some "c" } otherOptions rfl rfl rfl (.inl rfl)
    (.unversioned rfl rfl) rfl
  have hkept := options_keep_the_verdict (Folder.keeps_world ["w"]) (Folder.keeps_world ["w"])
    false true common { config := some "c" } (options true) otherOptions .small .small
  obtain ⟨finding, otherFinding, hshown, hotherShown, hlogged, -, hsame⟩ := hkept.1 hexit hotherExit
  have hignored : finding.config.ignored = otherFinding.config.ignored := by
    rw [← Except.ok.inj ((loadedIn_small common rfl (options true)).symm.trans hshown.load),
      ← Except.ok.inj ((loadedIn_small _ rfl otherOptions).symm.trans hotherShown.load)]
  obtain ⟨hsameRun, _, -, hagain⟩ := hkept.2 hexit
  obtain ⟨hrerun, hfiles, -⟩ := hagain .small rfl fun path between text htarget hbetween => by
    cases htarget
    obtain rfl : between = .small := hbetween
    exact Folder.write_small text
  refine ⟨Folder.keeps_world ["w"], hexit, hotherExit,
    ⟨finding, otherFinding, hshown, hotherShown, ?_, hsame rfl rfl hignored⟩, hsameRun, hrerun,
    hfiles⟩
  cases hlogged with
  | nowhere htarget | stdout htarget => cases htarget
  | file htarget _ hread =>
    cases htarget
    exact hread (Folder.retains_store ["w"] "/log")

end ApiDrift.Command
