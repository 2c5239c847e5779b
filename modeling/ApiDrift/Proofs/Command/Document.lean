import ApiDrift.Proofs.Command.Ending
import ApiDrift.Proofs.Decimal.Spelling
import ApiDrift.Proofs.Json.Clean
import ApiDrift.Proofs.Output.ReadBack

/-!
# JSON on the standard output

A run that succeeds and shows JSON prints one document and nothing else, because a changelog on the same stream is refused before. The document is read back as what the run found, but for the time it took, which is only sure to be a number.
-/

namespace ApiDrift.Command

/-- A time span of fewer than two to the sixty-fourth seconds is a number that can be read back. -/
theorem whole_milliseconds {nanoseconds : Nat} (hspan : nanoseconds < UInt64.size * 10 ^ 9) :
    (Json.number (milliseconds nanoseconds).numeral).Whole := by
  have hbits : nanoseconds < Nat.pow 2 94 := hspan.trans (by decide)
  obtain ⟨span, hspan⟩ := Option.isSome_iff_exists.mp
    (Decimal.Binary.isSome_nearest? hbits (by decide) false 1000000)
  have hlog : Nat.log2 1000000 ≤ 19 := by decide
  obtain ⟨hsignificand, hpower⟩ := Decimal.Binary.bounds_of_nearest? hbits hlog hspan
  have htwo : Nat.pow 2 span.power.toNat ≤ Nat.pow 2 42 :=
    Nat.pow_le_pow_right (by decide) (by omega)
  have hsmall : span.quotient.1 < Nat.pow 10 64 :=
    (Nat.mul_le_mul hsignificand htwo).trans_lt (by norm_num)
  have hleading := Decimal.Binary.power_leading_numeral_le (by decide) hsmall
  rw [milliseconds, hspan, Option.getD_some]
  refine ⟨span.proper_numeral, ?_⟩
  rw [Json.isTooLarge, Option.isNone_eq_false_iff]
  exact Decimal.Numeral.isSome_quick? (hleading.trans (by decide))

/-- What is told about a finding. -/
def Finding.told (finding : Finding) (options : CompareOptions) : Verdict.Told where
  old := options.old
  new := options.new
  bump := finding.grounds.report.bump
  releaseBump := finding.grounds.applied finding.config
  previousVersion := finding.grounds.previous.map Version.text
  nextVersion := finding.next.map Version.text
  changes := finding.grounds.report.changes
  summary := finding.grounds.report.summary
  summaryText := finding.grounds.report.summaryText

variable {σ φ : Type} {world : World (StateM σ)} {store : FileStore φ} {files : σ → φ}
  {terminal : Bool} {common : Common} {options : CompareOptions} {before : σ}
  {ended : Outcome × σ}

/-- Where JSON is shown, the changelog is not on the standard output. -/
theorem Finding.Shown.stdout_json {finding : Finding}
    (hshown : finding.Shown world store files terminal common options before ended)
    (hformat : effectiveFormat common finding.config = .json) :
    ended.1.stdout = (finding.judged options).encode.pretty ++ "\n" := by
  have htarget : options.changelogTarget ≠ .stdout := fun h => hshown.grounds.target ⟨h, hformat⟩
  rw [hshown.stdout, printed, if_neg htarget, String.empty_append, hformat]
  rfl

theorem Finding.Shown.isDocument {finding : Finding}
    (hclock : ∀ state, (world.clock state).1 < UInt64.size * 10 ^ 9)
    (hshown : finding.Shown world store files terminal common options before ended)
    (hformat : effectiveFormat common finding.config = .json) :
    Json.IsDocument ended.1.stdout (finding.judged options).encode := by
  obtain ⟨state, htime⟩ := hshown.time
  rw [hshown.stdout_json hformat]
  exact Json.isDocument_of_whole
    (Verdict.whole_encode (whole_milliseconds (htime.trans_lt (hclock state))))

/-- A run of the config command that succeeds shows the configuration in force. -/
theorem exists_config_shown (hkeeps : world.Keeps store files)
    (hexit : (run world terminal (.run common .config) before).1.exit = 0) :
    ∃ config, (loadConfig common false (store.read (files before) common.configPath)).result =
        .ok config ∧
      (run world terminal (.run common .config) before).1.stdout =
        config.render (effectiveFormat common config) ++ "\n" := by
  have hread := hkeeps.read common.configPath before
  have hrun : run world terminal (.run common .config) before =
      runTask world terminal common .config before := rfl
  rw [hrun] at hexit ⊢
  cases hload : (loadConfig common false (world.read common.configPath before).1).result with
  | error fault =>
    obtain ⟨later, hended⟩ := runTask_config_of_error world terminal common before hload
    rw [hended] at hexit
    cases hexit
  | ok config =>
    obtain ⟨later, hended⟩ := runTask_config_of_ok world terminal common before hload
    rw [hended]
    exact ⟨config, hread ▸ hload, rfl⟩

/-- Where JSON is in force, a run that succeeds prints one document. The document of a comparison tells all that was found, and the document of a configuration is the configuration. -/
theorem json_is_one_document (hkeeps : world.Keeps store files)
    (hclock : ∀ state, (world.clock state).1 < UInt64.size * 10 ^ 9) (terminal : Bool)
    (common : Common) (before : σ) :
    let configured := run world terminal (.run common .config) before
    (∀ options : CompareOptions,
      let ended := run world terminal (.run common (.compare options)) before
      ended.1.exit = 0 → ∃ finding : Finding,
        finding.Shown world store files terminal common options before ended ∧
        (effectiveFormat common finding.config = .json → ∃ json,
          Json.IsDocument ended.1.stdout json ∧
          Verdict.Told.decode json = .ok (finding.told options))) ∧
    (configured.1.exit = 0 → ∃ config : Config,
      (loadConfig common false (store.read (files before) common.configPath)).result = .ok config ∧
      (effectiveFormat common config = .json → ∃ json,
        Json.IsDocument configured.1.stdout json ∧ Config.decode json = .ok config)) := by
  intro configured
  constructor
  · intro options ended hexit
    obtain ⟨finding, hshown⟩ := exists_shown hkeeps hexit
    refine ⟨finding, hshown, fun hformat => ⟨_, hshown.isDocument hclock hformat, ?_⟩⟩
    exact (finding.judged options).decode_encode
  · intro hexit
    obtain ⟨config, hload, hstdout⟩ := exists_config_shown hkeeps hexit
    refine ⟨config, hload, fun hformat => ⟨config.encode, ?_, config.decode_encode⟩⟩
    rw [hstdout, hformat]
    exact Json.isDocument_of_whole config.whole_encode

/-- A new field and the defaults, each as one document. -/
theorem json_is_one_document_new_field :
    let common : Common := { format := some .json, config := some "c" }
    let options : CompareOptions := { old := "/w/a", new := "../b" }
    let ended := run (Folder.world ["w"]) true (.run common (.compare options)) .small
    let configured := run (Folder.world ["w"]) true (.run common .config) .small
    (Folder.world ["w"]).Keeps (Folder.store ["w"]) id ∧
      (∀ state, ((Folder.world ["w"]).clock state).1 < UInt64.size * 10 ^ 9) ∧
      ended.1.exit = 0 ∧ configured.1.exit = 0 ∧
      (∃ json told, Json.IsDocument ended.1.stdout json ∧ Verdict.Told.decode json = .ok told ∧
        told.bump = .minor ∧ told.changes = [.of "f" .entityWasIntroduced]) ∧
      ∃ json, Json.IsDocument configured.1.stdout json ∧ Config.decode json = .ok {} := by
  intro common options ended configured
  subst ended configured
  have hclock : ∀ state, ((Folder.world ["w"]).clock state).1 < UInt64.size * 10 ^ 9 := by
    intro state
    exact (by decide : 0 < UInt64.size * 10 ^ 9)
  have hload := loadedIn_small common rfl options
  have hexit := exit_small true common options rfl rfl rfl (.inl rfl) (.unversioned rfl rfl) rfl
  have hconfigured : (run (Folder.world ["w"]) true (.run common .config) .small).1.exit = 0 := by
    have hread : (loadConfig common false
        ((Folder.world ["w"]).read common.configPath .small).1).result = .ok {} := by
      rw [(Folder.keeps_world ["w"]).read]
      exact hload
    obtain ⟨later, hrun⟩ := runTask_config_of_ok (Folder.world ["w"]) true common .small hread
    show (runTask (Folder.world ["w"]) true common .config .small).1.exit = 0
    rw [hrun]
  have hdocuments := json_is_one_document (Folder.keeps_world ["w"]) hclock true common .small
  obtain ⟨finding, hshown, htold⟩ := hdocuments.1 options hexit
  obtain ⟨config, hother, hdecoded⟩ := hdocuments.2 hconfigured
  have hconfig : finding.config = {} := Except.ok.inj (hshown.load.symm.trans hload)
  obtain rfl : config = {} := Except.ok.inj (hother.symm.trans hload)
  obtain ⟨json, hdocument, htold⟩ := htold rfl
  have hgrounds := hshown.grounds
  rw [hconfig] at hgrounds
  have hsmall : finding.grounds = .small none :=
    hgrounds.unique (Grounds.hold_small rfl rfl (by simp [options, CompareOptions.changelogTarget])
      (.unversioned rfl rfl))
  refine ⟨Folder.keeps_world ["w"], hclock, hexit, hconfigured,
    ⟨json, finding.told options, hdocument, htold, ?_, ?_⟩, hdecoded rfl⟩ <;>
  · rw [Finding.told, hsmall]
    rfl

end ApiDrift.Command
