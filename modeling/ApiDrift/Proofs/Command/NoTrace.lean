import ApiDrift.Proofs.Command.Ending

/-!
# A failed run leaves nothing behind

Whatever makes a run of the compare command fail is found before anything is written, except that the changelog itself may not be writable. So a failed run prints nothing, and it has touched a file only if it failed in writing it.
-/

namespace ApiDrift.Command

variable {σ φ : Type} {world : World (StateM σ)} {store : FileStore φ} {files : σ → φ}

/-- What keeps a run of the compare command from its changelog. -/
inductive Hindered (look : String → Content) : Line → Prop
  | configuration {common : Common} {options : CompareOptions} {fault : Fault}
      (hload : loadedIn look common options = .error fault) :
      Hindered look (.run common (.compare options))
  | verdict {common : Common} {options : CompareOptions} {config : Config}
      (hload : loadedIn look common options = .ok config)
      (hobstacle : Obstacle options config (effectiveFormat common config) (look options.old)
        (look options.new)) :
      Hindered look (.run common (.compare options))

/-- A run of the compare command reached its verdict and could not write its changelog. -/
inductive Unwritten (world : World (StateM σ)) (store : FileStore φ) (files : σ → φ)
    (before after : σ) : Line → Prop
  | intro {common : Common} {options : CompareOptions} {config : Config} {judged : Verdict}
      {path : String} {between : σ}
      (hload : loadedIn (store.read (files before)) common options = .ok config)
      (hverdict : judgedIn (store.read (files before)) common options config = .ok judged)
      (htarget : options.changelogTarget = .file path) (hbetween : files between = files before)
      (hwrite : world.write path (changelog judged) between = (false, after)) :
      Unwritten world store files before after (.run common (.compare options))

theorem not_hindered_of_ok {look : String → Content} {common : Common} {options : CompareOptions}
    {config : Config} {judged : Verdict} (hload : loadedIn look common options = .ok config)
    (hverdict : judgedIn look common options config = .ok judged) :
    ¬ Hindered look (.run common (.compare options)) := by
  intro hhindered
  cases hhindered with
  | configuration hfault =>
    rw [hload] at hfault
    cases hfault
  | verdict hother hobstacle =>
    obtain rfl := Except.ok.inj (hload.symm.trans hother)
    exact not_obstacle_of_ok hverdict hobstacle

/-- Which runs fail, why a run of the compare command fails, and what is left of a run that failed. -/
structure Traceless (world : World (StateM σ)) (store : FileStore φ) (files : σ → φ)
    (line : Line) (before : σ) (ended : Outcome × σ) : Prop where
  fails : Hindered (store.read (files before)) line → ended.1.exit = 1
  reason (common : Common) (options : CompareOptions) :
    line = .run common (.compare options) → ended.1.exit ≠ 0 →
      Hindered (store.read (files before)) line ∨ Unwritten world store files before ended.2 line
  silent : ended.1.exit ≠ 0 → ended.1.stdout = ""
  untouched : ended.1.exit ≠ 0 → files ended.2 = files before ∨
    ¬ Hindered (store.read (files before)) line ∧ Unwritten world store files before ended.2 line

theorem Ending.traceless {terminal : Bool} {common : Common} {options : CompareOptions}
    {before : σ} {ended : Outcome × σ}
    (hending : Ending world store files terminal common options before ended) :
    Traceless world store files (.run common (.compare options)) before ended := by
  cases hending with
  | unconfigured hload hafter =>
    exact ⟨fun _ => rfl, fun _ _ _ _ => .inl (.configuration hload), fun _ => rfl,
      fun _ => .inl hafter⟩
  | unjudged hload hverdict hafter =>
    exact ⟨fun _ => rfl, fun _ _ _ _ => .inl (.verdict hload (obstacle_of_error hverdict)),
      fun _ => rfl, fun _ => .inl hafter⟩
  | unwritten hload hverdict htarget hbetween hwrite =>
    have hunwritten := Unwritten.intro hload hverdict htarget hbetween hwrite
    exact ⟨fun _ => rfl, fun _ _ _ _ => .inr hunwritten, fun _ => rfl,
      fun _ => .inr ⟨not_hindered_of_ok hload hverdict, hunwritten⟩⟩
  | shown hload hverdict hwritten =>
    exact ⟨fun h => absurd h (not_hindered_of_ok hload hverdict), fun _ _ _ h => absurd rfl h,
      fun h => absurd rfl h, fun h => absurd rfl h⟩

/-- Nothing hinders a run of another command, so it only has to fail silently and to leave the files alone. -/
theorem traceless_of_not_compare {line : Line} {before : σ} {ended : Outcome × σ}
    (hother : ∀ common options, line ≠ .run common (.compare options))
    (hsilent : ended.1.exit ≠ 0 → ended.1.stdout = "")
    (hfiles : files ended.2 = files before) : Traceless world store files line before ended where
  fails hhindered := by
    cases hhindered with
    | configuration | verdict => exact absurd rfl (hother _ _)
  reason common options hline := absurd hline (hother common options)
  silent := hsilent
  untouched _ := .inl hfiles

theorem traceless_config (hkeeps : world.Keeps store files) (terminal : Bool) (common : Common)
    (before : σ) :
    Traceless world store files (.run common .config) before
      (run world terminal (.run common .config) before) := by
  have hfiles := hkeeps.files_read common.configPath before
  have hother (given : Common) (options : CompareOptions) :
      Line.run common .config ≠ .run given (.compare options) := fun h => nomatch h
  show Traceless world store files (.run common .config) before
    (runTask world terminal common .config before)
  cases hload : (loadConfig common false (world.read common.configPath before).1).result with
  | error fault =>
    obtain ⟨later, hrun⟩ := runTask_config_of_error world terminal common before hload
    rw [hrun]
    exact traceless_of_not_compare hother (fun _ => rfl) hfiles
  | ok config =>
    obtain ⟨later, hrun⟩ := runTask_config_of_ok world terminal common before hload
    rw [hrun]
    exact traceless_of_not_compare hother (fun h => absurd rfl h) hfiles

/-- In a world that keeps files, a hindered run fails, a failed run prints nothing, and it leaves every file as it is unless the changelog could not be written. -/
theorem traceless_run (hkeeps : world.Keeps store files) (terminal : Bool) (line : Line)
    (before : σ) :
    Traceless world store files line before (run world terminal line before) := by
  match line with
  | .refused => exact traceless_of_not_compare (fun _ _ h => nomatch h) (fun _ => rfl) rfl
  | .shown text =>
    exact traceless_of_not_compare (fun _ _ h => nomatch h) (fun h => absurd rfl h) rfl
  | .run common (.compare options) =>
    exact (ending_run hkeeps terminal common options before).traceless
  | .run common .config => exact traceless_config hkeeps terminal common before

/-- A tag without a version stops the run, and the changelog that was asked for is not there. -/
theorem traceless_run_tag_without_version :
    let options : CompareOptions :=
      { old := "/w/a", new := "../b", fromTag := some "latest", changelog := some "/log" }
    let ended := run (Folder.world ["w"]) false (.run { config := some "c" } (.compare options))
      .small
    (Folder.world ["w"]).Keeps (Folder.store ["w"]) id ∧ ended.1.exit = 1 ∧
      ended.1.stdout = "" ∧ ended.2 = .small := by
  intro options ended
  subst ended
  have hversion : ∀ previous, ¬ options.Previous previous := by
    intro previous h
    have hguess : Version.guess "latest" = .error (.invalidVersion "latest") := by decide +kernel
    cases h with
    | exact hgiven => cases hgiven
    | tagged _ hgiven hread =>
      cases hgiven
      rw [hguess] at hread
      cases hread
    | unversioned _ hnone => cases hnone
  have hhindered : Hindered ((Folder.store ["w"]).read .small)
      (.run { config := some "c" } (.compare options)) :=
    .verdict (loadedIn_small { config := some "c" } rfl options) (.version hversion)
  have htraceless := traceless_run (Folder.keeps_world ["w"]) false
    (.run { config := some "c" } (.compare options)) .small
  have hexit := htraceless.fails hhindered
  have hfailed : (1 : UInt8) ≠ 0 := by decide
  rw [← hexit] at hfailed
  refine ⟨Folder.keeps_world ["w"], hexit, htraceless.silent hfailed, ?_⟩
  exact (htraceless.untouched hfailed).resolve_right fun h => h.1 hhindered

end ApiDrift.Command
