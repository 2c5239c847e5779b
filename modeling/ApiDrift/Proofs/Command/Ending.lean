import ApiDrift.Command.Run
import ApiDrift.Proofs.Command.Grounds
import ApiDrift.Proofs.Snapshot.RoundTrip

/-!
# How a run of the compare command ends

A run takes place in any world that keeps files in a store. It reads the configuration and the two snapshots, looks at the clock, and may then write one file. So it ends in one of four ways: there is no configuration, there is no verdict, the changelog cannot be written, or the verdict is shown. What can be said about a run is read off from these four.
-/

namespace ApiDrift.Command

variable {σ φ : Type}

/-- A world keeps files in a store. Reading a file and looking at the clock leave them as they are. Writing may fail at any time, and then nothing is said about what it leaves. -/
structure World.Keeps (world : World (StateM σ)) (store : FileStore φ) (files : σ → φ) : Prop where
  read (path : String) (state : σ) : (world.read path state).1 = store.read (files state) path
  files_read (path : String) (state : σ) : files (world.read path state).2 = files state
  files_clock (state : σ) : files (world.clock state).2 = files state
  files_write (path text : String) (state : σ) : (world.write path text state).1 = true →
    store.write? (files state) path text = some (files (world.write path text state).2)

/-- Files by themselves are such a world, whatever keeps them. -/
theorem FileStore.keeps_world (store : FileStore φ) : store.world.Keeps store id where
  read _ _ := rfl
  files_read _ _ := rfl
  files_clock _ := rfl
  files_write path text files hwritten := by
    cases hwrite : store.write? files path text with
    | none => simp [FileStore.world, hwrite] at hwritten
    | some changed => simp [FileStore.world, hwrite]

theorem bind_apply {α β : Type} (first : StateM σ α) (next : α → StateM σ β) (state : σ) :
    (first >>= next) state = next (first state).1 (first state).2 := rfl

/-- The outcome of a run that shows a verdict. -/
def Outcome.showing (options : CompareOptions) (format : Format) (colors : Bool)
    (events : List Log.Event) (judged : Verdict) : Outcome :=
  { exit := 0, stdout := printed options.changelogTarget judged format colors, events := events }

/-! ### The steps of a run -/

section Steps

variable (world : World (StateM σ)) (terminal : Bool) (common : Common) (options : CompareOptions)
  (config : Config) (format : Format) (colors : Bool) (events : List Log.Event)
  (judged : Verdict) (state : σ)

theorem conclude_to_file {path : String} (htarget : options.changelogTarget = .file path) :
    conclude world options format colors events judged state =
      (if (world.write path (changelog judged) state).1 then
          .showing options format colors events judged
        else
          .failed events
            { message := "Failed to write changelog " ++ path
              cause := some "the file cannot be written" },
        (world.write path (changelog judged) state).2) := by
  unfold conclude
  simp only [htarget]
  rw [bind_apply]
  cases (world.write path (changelog judged) state).1 with
  | false => rfl
  | true =>
    rw [if_pos rfl, if_pos rfl, Outcome.showing, htarget]
    rfl

theorem conclude_to_no_file (htarget : ∀ path, options.changelogTarget ≠ .file path) :
    conclude world options format colors events judged state =
      (.showing options format colors events judged, state) := by
  unfold conclude
  cases hcases : options.changelogTarget with
  | file path => exact absurd hcases (htarget path)
  | nowhere | stdout =>
    rw [Outcome.showing, hcases]
    rfl

/-- The state in which both snapshots are read and the clock is running. -/
def reading : σ := (world.clock (world.read options.new (world.read options.old state).2).2).2

/-- The way to the verdict on the snapshots that a run reads. -/
def judging : Progress Verdict :=
  verdict options config format (world.read options.old state).1
    (world.read options.new (world.read options.old state).2).1

theorem runCompare_of_error {fault : Fault}
    (hverdict : (judging world options config format state).result = .error fault) :
    ∃ later, runCompare world options config format colors events state =
      (.failed later fault, reading world options state) := by
  unfold runCompare
  rw [bind_apply, bind_apply, bind_apply]
  unfold judging at hverdict
  simp only [hverdict]
  exact ⟨_, rfl⟩

theorem runCompare_of_ok {judged : Verdict}
    (hverdict : (judging world options config format state).result = .ok judged) :
    ∃ later started, runCompare world options config format colors events state =
      conclude world options format colors later
        { judged with
          duration := milliseconds ((world.clock (reading world options state)).1 - started) }
        (world.clock (reading world options state)).2 := by
  unfold runCompare
  rw [bind_apply, bind_apply, bind_apply]
  unfold judging at hverdict
  simp only [hverdict]
  exact ⟨_, _, rfl⟩

theorem runTask_of_error {fault : Fault}
    (hload : (loadConfig common options.strict (world.read common.configPath state).1).result =
      .error fault) :
    ∃ later, runTask world terminal common (.compare options) state =
      (.failed later fault, (world.read common.configPath state).2) := by
  unfold runTask
  rw [bind_apply]
  simp only [hload]
  exact ⟨_, rfl⟩

theorem runTask_of_ok {config : Config}
    (hload : (loadConfig common options.strict (world.read common.configPath state).1).result =
      .ok config) :
    runTask world terminal common (.compare options) state =
      runCompare world options config (effectiveFormat common config)
        (effectiveColors config terminal)
        (loadConfig common options.strict (world.read common.configPath state).1).events
        (world.read common.configPath state).2 := by
  unfold runTask
  rw [bind_apply]
  simp only [hload]

theorem runTask_config_of_error {fault : Fault}
    (hload : (loadConfig common false (world.read common.configPath state).1).result =
      .error fault) :
    ∃ later, runTask world terminal common .config state =
      (.failed later fault, (world.read common.configPath state).2) := by
  unfold runTask
  rw [bind_apply]
  simp only [hload]
  exact ⟨_, rfl⟩

theorem runTask_config_of_ok {config : Config}
    (hload : (loadConfig common false (world.read common.configPath state).1).result =
      .ok config) :
    ∃ later, runTask world terminal common .config state =
      ({ exit := 0
         stdout := config.render (effectiveFormat common config) ++ "\n"
         events := later },
        (world.read common.configPath state).2) := by
  unfold runTask
  rw [bind_apply]
  simp only [hload]
  exact ⟨_, rfl⟩

end Steps

/-! ### The four endings -/

/-- The configuration of a run to which each path reads as given. -/
def loadedIn (look : String → Content) (common : Common) (options : CompareOptions) :
    Except Fault Config :=
  (loadConfig common options.strict (look common.configPath)).result

/-- The verdict of a run to which each path reads as given. -/
def judgedIn (look : String → Content) (common : Common) (options : CompareOptions)
    (config : Config) : Except Fault Verdict :=
  (verdict options config (effectiveFormat common config) (look options.old)
    (look options.new)).result

/-- What becomes of the files when a changelog is written. -/
def ChangelogTarget.Written (target : ChangelogTarget) (store : FileStore φ) (text : String)
    (before after : φ) : Prop :=
  match target with
  | .file path => store.write? before path text = some after
  | _ => after = before

inductive Ending (world : World (StateM σ)) (store : FileStore φ) (files : σ → φ) (terminal : Bool)
    (common : Common) (options : CompareOptions) (before : σ) : Outcome × σ → Prop
  | unconfigured {events : List Log.Event} {fault : Fault} {after : σ}
      (hload : loadedIn (store.read (files before)) common options = .error fault)
      (hafter : files after = files before) :
      Ending world store files terminal common options before (.failed events fault, after)
  | unjudged {config : Config} {events : List Log.Event} {fault : Fault} {after : σ}
      (hload : loadedIn (store.read (files before)) common options = .ok config)
      (hverdict : judgedIn (store.read (files before)) common options config = .error fault)
      (hafter : files after = files before) :
      Ending world store files terminal common options before (.failed events fault, after)
  | unwritten {config : Config} {judged : Verdict} {path : String} {events : List Log.Event}
      {cause : Option String} {between after : σ}
      (hload : loadedIn (store.read (files before)) common options = .ok config)
      (hverdict : judgedIn (store.read (files before)) common options config = .ok judged)
      (htarget : options.changelogTarget = .file path) (hbetween : files between = files before)
      (hwrite : world.write path (changelog judged) between = (false, after)) :
      Ending world store files terminal common options before
        (.failed events { message := "Failed to write changelog " ++ path, cause := cause }, after)
  | shown {config : Config} {judged : Verdict} {started : Nat} {events : List Log.Event}
      {between after : σ}
      (hload : loadedIn (store.read (files before)) common options = .ok config)
      (hverdict : judgedIn (store.read (files before)) common options config = .ok judged)
      (hwritten : options.changelogTarget.Written store (changelog judged) (files before)
        (files after)) :
      Ending world store files terminal common options before
        (.showing options (effectiveFormat common config) (effectiveColors config terminal) events
          { judged with duration := milliseconds ((world.clock between).1 - started) }, after)

section Endings

variable {world : World (StateM σ)} {store : FileStore φ} {files : σ → φ}
  (hkeeps : world.Keeps store files) (terminal : Bool) (common : Common) (options : CompareOptions)

include hkeeps

theorem World.Keeps.files_reading (state : σ) :
    files (reading world options state) = files state := by
  unfold reading
  rw [hkeeps.files_clock, hkeeps.files_read, hkeeps.files_read]

theorem World.Keeps.judging_eq (config : Config) (format : Format) (state : σ) :
    judging world options config format state =
      verdict options config format (store.read (files state) options.old)
        (store.read (files state) options.new) := by
  unfold judging
  rw [hkeeps.read, hkeeps.read, hkeeps.files_read]

variable {before between : σ} (hbetween : files between = files before) {config : Config}
  (hload : loadedIn (store.read (files before)) common options = .ok config)

include hbetween hload

/-- Once a verdict is there, only the changelog can go wrong. -/
theorem ending_conclude {judged : Verdict}
    (hverdict : judgedIn (store.read (files before)) common options config = .ok judged)
    (events : List Log.Event) (ticking : σ) (started : Nat) :
    Ending world store files terminal common options before
      (conclude world options (effectiveFormat common config) (effectiveColors config terminal)
        events { judged with duration := milliseconds ((world.clock ticking).1 - started) }
        between) := by
  by_cases hfile : ∃ path, options.changelogTarget = .file path
  · obtain ⟨path, htarget⟩ := hfile
    rw [conclude_to_file _ _ _ _ _ _ _ htarget]
    -- How long the run took does not stand in the changelog.
    show Ending world store files terminal common options before
      (if (world.write path (changelog judged) between).1 then _ else _,
        (world.write path (changelog judged) between).2)
    cases hwrite : (world.write path (changelog judged) between).1 with
    | false => exact .unwritten hload hverdict htarget hbetween (Prod.ext hwrite rfl)
    | true =>
      have hafter := hkeeps.files_write path (changelog judged) between hwrite
      rw [hbetween] at hafter
      refine .shown hload hverdict ?_
      rw [htarget]
      exact hafter
  · rw [conclude_to_no_file _ _ _ _ _ _ _ (not_exists.mp hfile)]
    refine .shown hload hverdict ?_
    unfold ChangelogTarget.Written
    split
    · next path htarget => exact absurd ⟨path, htarget⟩ hfile
    · exact hbetween

theorem ending_runCompare (events : List Log.Event) :
    Ending world store files terminal common options before
      (runCompare world options config (effectiveFormat common config)
        (effectiveColors config terminal) events between) := by
  have hjudging := hkeeps.judging_eq options config (effectiveFormat common config) between
  have hreading := (hkeeps.files_reading options between).trans hbetween
  rw [hbetween] at hjudging
  cases hverdict : judgedIn (store.read (files before)) common options config with
  | error fault =>
    obtain ⟨later, hrun⟩ := runCompare_of_error world options config
      (effectiveFormat common config) (effectiveColors config terminal) events between
      ((congrArg Progress.result hjudging).trans hverdict)
    rw [hrun]
    exact .unjudged hload hverdict hreading
  | ok judged =>
    obtain ⟨later, started, hrun⟩ := runCompare_of_ok world options config
      (effectiveFormat common config) (effectiveColors config terminal) events between
      ((congrArg Progress.result hjudging).trans hverdict)
    rw [hrun]
    exact ending_conclude hkeeps terminal common options
      ((hkeeps.files_clock _).trans hreading) hload hverdict later _ started

end Endings

/-- In a world that keeps files, every run of the compare command ends in one of the four ways. -/
theorem ending_run {world : World (StateM σ)} {store : FileStore φ} {files : σ → φ}
    (hkeeps : world.Keeps store files) (terminal : Bool) (common : Common)
    (options : CompareOptions) (before : σ) :
    Ending world store files terminal common options before
      (run world terminal (.run common (.compare options)) before) := by
  have hread := hkeeps.read common.configPath before
  have hafter := hkeeps.files_read common.configPath before
  show Ending world store files terminal common options before
    (runTask world terminal common (.compare options) before)
  cases hload : loadedIn (store.read (files before)) common options with
  | error fault =>
    have hfault := hload
    rw [loadedIn, ← hread] at hfault
    obtain ⟨later, hrun⟩ := runTask_of_error world terminal common options before hfault
    rw [hrun]
    exact .unconfigured hload hafter
  | ok config =>
    have hconfig := hload
    rw [loadedIn, ← hread] at hconfig
    rw [runTask_of_ok world terminal common options before hconfig]
    exact ending_runCompare hkeeps terminal common options hafter hload _

section Judged

variable {world : World (StateM σ)} {store : FileStore φ} {files : σ → φ} {terminal : Bool}
  {common : Common} {options : CompareOptions} {before : σ} {ended : Outcome × σ} {config : Config}
  (hending : Ending world store files terminal common options before ended)
  (hload : loadedIn (store.read (files before)) common options = .ok config)

include hending hload

/-- A run that has its verdict succeeds, or it fails in writing its changelog. -/
theorem Ending.of_judged {judged : Verdict}
    (hverdict : judgedIn (store.read (files before)) common options config = .ok judged) :
    (ended.1.exit = 0 ∧ ended.1.fault = none) ∨
      ∃ path between cause, options.changelogTarget = .file path ∧
        files between = files before ∧
        (world.write path (changelog judged) between).1 = false ∧
        ended.1.fault =
          some { message := "Failed to write changelog " ++ path, cause := cause } := by
  cases hending with
  | unconfigured hfault =>
    rw [hload] at hfault
    cases hfault
  | unjudged hother hfault =>
    obtain rfl := Except.ok.inj (hload.symm.trans hother)
    rw [hverdict] at hfault
    cases hfault
  | unwritten hother hjudged htarget hbetween hwrite =>
    obtain rfl := Except.ok.inj (hload.symm.trans hother)
    obtain rfl := Except.ok.inj (hverdict.symm.trans hjudged)
    exact .inr ⟨_, _, _, htarget, hbetween, congrArg Prod.fst hwrite, rfl⟩
  | shown => exact .inl ⟨rfl, rfl⟩

/-- A run that has no verdict fails for that reason. -/
theorem Ending.of_unjudged {fault : Fault}
    (hverdict : judgedIn (store.read (files before)) common options config = .error fault) :
    ended.1.exit = 1 ∧ ended.1.fault = some fault := by
  cases hending with
  | unconfigured hfault =>
    rw [hload] at hfault
    cases hfault
  | unjudged hother hfault =>
    obtain rfl := Except.ok.inj (hload.symm.trans hother)
    obtain rfl := Except.error.inj (hverdict.symm.trans hfault)
    exact ⟨rfl, rfl⟩
  | unwritten hother hjudged | shown hother hjudged =>
    obtain rfl := Except.ok.inj (hload.symm.trans hother)
    rw [hverdict] at hjudged
    cases hjudged

theorem Ending.exit_eq_zero {judged : Verdict}
    (hverdict : judgedIn (store.read (files before)) common options config = .ok judged)
    (hwritable : ∀ path between, options.changelogTarget = .file path →
      files between = files before → (world.write path (changelog judged) between).1 = true) :
    ended.1.exit = 0 := by
  rcases hending.of_judged hload hverdict with hshown | hfailed
  · exact hshown.1
  · obtain ⟨path, between, -, htarget, hbetween, hwrite, -⟩ := hfailed
    rw [hwritable path between htarget hbetween] at hwrite
    cases hwrite

end Judged

/-! ### What a run shows -/

/-- What a run found before it showed its verdict, and how long that took. -/
structure Finding where
  config : Config
  grounds : Grounds
  next : Option Version
  nanoseconds : Nat

namespace Finding

/-- The verdict as it is shown. -/
def judged (finding : Finding) (options : CompareOptions) : Verdict :=
  { finding.grounds.verdict options finding.config finding.next with
    duration := milliseconds finding.nanoseconds }

/-- A run came to this finding and has shown it. -/
structure Shown (finding : Finding) (world : World (StateM σ)) (store : FileStore φ)
    (files : σ → φ) (terminal : Bool) (common : Common) (options : CompareOptions) (before : σ)
    (ended : Outcome × σ) : Prop where
  load : loadedIn (store.read (files before)) common options = .ok finding.config
  grounds : finding.grounds.Hold options finding.config (effectiveFormat common finding.config)
    (store.read (files before) options.old) (store.read (files before) options.new)
  next : nextVersion? finding.grounds.previous (finding.grounds.applied finding.config) =
    some finding.next
  time : ∃ state, finding.nanoseconds ≤ (world.clock state).1
  stdout : ended.1.stdout =
    printed options.changelogTarget (finding.judged options) (effectiveFormat common finding.config)
      (effectiveColors finding.config terminal)
  written : options.changelogTarget.Written store (changelog (finding.judged options))
    (files before) (files ended.2)

end Finding

/-- A run that succeeds shows what it found. -/
theorem exists_shown {world : World (StateM σ)} {store : FileStore φ} {files : σ → φ}
    (hkeeps : world.Keeps store files) {terminal : Bool} {common : Common}
    {options : CompareOptions} {before : σ}
    (hexit : (run world terminal (.run common (.compare options)) before).1.exit = 0) :
    ∃ finding : Finding, finding.Shown world store files terminal common options before
      (run world terminal (.run common (.compare options)) before) := by
  have hending := ending_run hkeeps terminal common options before
  generalize run world terminal (.run common (.compare options)) before = ended at hexit hending
  cases hending with
  | unconfigured | unjudged | unwritten => cases hexit
  | @shown config judged started events between after hload hverdict hwritten =>
    obtain ⟨grounds, next, hgrounds, hnext, rfl⟩ := result_verdict_eq_ok_iff.mp hverdict
    exact ⟨⟨config, grounds, next, (world.clock between).1 - started⟩,
      { load := hload
        grounds := hgrounds
        next := hnext
        time := ⟨between, Nat.sub_le _ _⟩
        stdout := rfl
        written := hwritten }⟩

/-! ### A small disk -/

/-- In the folder `w` an empty configuration and a snapshot, and outside another snapshot that has a field more. -/
def Folder.small : Folder :=
  [(["w"], .folder), (["w", "c"], .text ""), (["w", "a"], .text "\x7b\x7d"),
    (["b"], .text ("\x7b\"f\":\x7b\"name\":\"f\",\"kind\":\"field\"," ++
      "\"type\":\x7b\"name\":\"int\",\"dimension\":0\x7d\x7d\x7d"))]

theorem Folder.keeps_world (here : List String) : (world here).Keeps (store here) id :=
  (store here).keeps_world

/-- A changelog can be written beside the outer snapshot. -/
theorem Folder.write_small (text : String) :
    ((Folder.world ["w"]).write "/log" text .small).1 = true := by
  have hplace : small.place? ["w"] "/log" = some ["log"] := by decide
  have hnode : small.node? ["log"] = none := by decide
  simp [world, FileStore.world, store, write?, hplace, hnode]

theorem Folder.isSnapshot_small_inner :
    ((store ["w"]).read .small "/w/a").IsSnapshot .nil :=
  ⟨(Codebase.encode .nil).compact, by decide +kernel, Snapshot.read_compact_encode (by decide)⟩

theorem Folder.isSnapshot_small_outer :
    ((store ["w"]).read .small "../b").IsSnapshot
      (.cons "f" trivial (.field "f" ⟨"int", 0, []⟩) .nil) :=
  ⟨(Codebase.encode (.cons "f" trivial (.field "f" ⟨"int", 0, []⟩) .nil)).compact,
    by decide +kernel, Snapshot.read_compact_encode (by decide)⟩

/-- What is found when the two snapshots are compared. -/
def Grounds.small (previous : Option Version) : Grounds where
  old := .nil
  new := .cons "f" trivial (.field "f" ⟨"int", 0, []⟩) .nil
  rules := []
  report := .of .minor [.of "f" .entityWasIntroduced]
  previous := previous

theorem loadedIn_small (common : Common) (hconfig : common.config = some "c")
    (options : CompareOptions) :
    loadedIn ((Folder.store ["w"]).read .small) common options = .ok {} := by
  have hread : (Folder.store ["w"]).read .small "c" = .text "" := by decide
  have hparse : Config.read? "" = some {} := by decide +kernel
  simp [loadedIn, loadConfig, readConfig, Common.configPath, hconfig, hread, hparse]

theorem Grounds.hold_small {options : CompareOptions} {format : Format} {previous : Option Version}
    (hold : options.old = "/w/a") (hnew : options.new = "../b")
    (htarget : ¬ (options.changelogTarget = .stdout ∧ format = .json))
    (hprevious : options.Previous previous) :
    (Grounds.small previous).Hold options {} format
      ((Folder.store ["w"]).read .small options.old)
      ((Folder.store ["w"]).read .small options.new) where
  target := htarget
  old := by
    rw [hold]
    exact Folder.isSnapshot_small_inner
  new := by
    rw [hnew]
    exact Folder.isSnapshot_small_outer
  rules := rfl
  report := rfl
  previous := hprevious

theorem exit_small (terminal : Bool) (common : Common) (options : CompareOptions)
    {previous next : Option Version} (hconfig : common.config = some "c")
    (hold : options.old = "/w/a") (hnew : options.new = "../b")
    (htarget : options.changelogTarget = .nowhere ∨ options.changelogTarget = .file "/log")
    (hprevious : options.Previous previous)
    (hnext : nextVersion? previous ((Grounds.small previous).applied {}) = some next) :
    (run (Folder.world ["w"]) terminal (.run common (.compare options)) .small).1.exit = 0 := by
  have hending := ending_run (Folder.keeps_world ["w"]) terminal common options .small
  have hstdout : options.changelogTarget ≠ .stdout := by
    rcases htarget with htarget | htarget <;> simp [htarget]
  refine hending.exit_eq_zero (loadedIn_small common hconfig options)
    (result_verdict_eq_ok_iff.mpr ⟨_, next,
      Grounds.hold_small hold hnew (fun h => hstdout h.1) hprevious, hnext, rfl⟩) ?_
  intro path between hfile hbetween
  obtain rfl : between = .small := hbetween
  rcases htarget with htarget | htarget
  · rw [htarget] at hfile
    cases hfile
  · rw [htarget] at hfile
    obtain rfl := ChangelogTarget.file.inj hfile
    exact Folder.write_small _

end ApiDrift.Command
