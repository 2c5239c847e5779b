import ApiDrift.Proofs.Walk

/-!
# What a changelog says

When a comparison of two codebases succeeds, its changelog is the list of what the live positions have to tell, position by position and in their order. Two changes of the catalog are about default values; no position tells of them, because a default value only decides whether two signatures are equal.
-/

namespace ApiDrift

open Comparison

/-! ### Changes of a pair -/

/-- The changes of what stands on both sides: of its type, of its parameters and of its overloads. -/
def Change.ofPair : List Change :=
  [.functionWasOverloaded, .overloadedFunctionRemoved, .parameterAddedToSignature,
    .parameterDefaultsAddedToSignature, .parameterRemovedFromSignature,
    .typeChangedToCompatibleType, .typeChangedToIncompatibleType]

theorem Change.ne_of_mem_ofPair :
    ∀ change ∈ Change.ofPair, change ≠ .entityWasIntroduced ∧ change ≠ .entityWasRemoved := by
  decide

theorem TypeRef.mem_ofPair_of_mem_change? {old new : TypeRef} {change : Change}
    (hmem : change ∈ old.change? new) : change ∈ Change.ofPair := by
  unfold TypeRef.change? at hmem
  split at hmem
  · cases hmem
  · split at hmem <;> cases hmem <;> decide

theorem Signature.mem_ofPair_of_mem_changes {old new : Signature} {change : Change}
    (hmem : change ∈ old.changes new) : change ∈ Change.ofPair := by
  rcases List.mem_append.mp hmem with hmem | hmem
  · obtain ⟨types, -, hmem⟩ := List.mem_filterMap.mp hmem
    exact TypeRef.mem_ofPair_of_mem_change? hmem
  · rw [Option.mem_toList] at hmem
    unfold Signature.lengthChange? at hmem
    split at hmem
    · split at hmem <;> cases hmem <;> decide
    · split at hmem <;> cases hmem
      decide

theorem Overloads.mem_ofPair_of_mem_diff {old new : List Signature} {change : Change}
    (hmem : change ∈ (diff old new).changes) : change ∈ Change.ofPair := by
  unfold diff at hmem
  split at hmem
  case h_1 => exact Signature.mem_ofPair_of_mem_changes hmem
  case h_2 =>
    rcases List.mem_append.mp hmem with hmem | hmem
    · rw [Option.mem_toList] at hmem
      unfold countChange? at hmem
      split at hmem
      · cases hmem
        decide
      · split at hmem <;> cases hmem
        decide
    · rcases List.mem_append.mp hmem with hmem | hmem <;>
        obtain ⟨signature, -, rfl⟩ := List.mem_map.mp hmem <;> decide

theorem Entity.mem_ofPair_of_mem_changes {old new : Entity} {change : Change}
    (hmem : change ∈ old.changes new) : change ∈ Change.ofPair := by
  rcases List.mem_append.mp hmem with hmem | hmem
  · rw [Option.mem_toList] at hmem
    unfold Entity.typeChange? at hmem
    split at hmem
    · exact TypeRef.mem_ofPair_of_mem_change? hmem
    · cases hmem
  · unfold Entity.overloadDiff at hmem
    split at hmem
    · exact Overloads.mem_ofPair_of_mem_diff hmem
    · cases hmem

/-! ### Default values -/

def Change.OfDefault (change : Change) : Prop :=
  change = .removedDefaultValue ∨ change = .changedDefaultValue

instance : DecidablePred Change.OfDefault :=
  fun change => inferInstanceAs (Decidable (change = _ ∨ change = _))

theorem Change.not_ofDefault_of_mem_ofPair : ∀ change ∈ Change.ofPair, ¬ change.OfDefault := by
  decide

theorem Site.not_ofDefault_of_mem_records {policy : Policy} {site : Site} {record : ChangeRecord}
    (hmem : record ∈ site.records policy) : ¬ record.change.OfDefault := by
  unfold Site.records at hmem
  split at hmem
  · cases hmem
  · obtain rfl := List.mem_singleton.mp hmem
    exact show ¬ Change.entityWasIntroduced.OfDefault by decide
  · obtain rfl := List.mem_singleton.mp hmem
    exact show ¬ Change.entityWasRemoved.OfDefault by decide
  · split at hmem
    · cases hmem
    · obtain ⟨change, hchange, rfl⟩ := List.mem_map.mp hmem
      exact Change.not_ofDefault_of_mem_ofPair change (Entity.mem_ofPair_of_mem_changes hchange)

/-! ### The changelog -/

/-- Of a comparison that succeeds, a changelog takes in exactly what the live positions tell, in order. -/
theorem changelog_of_ok {policy : Policy} {old new : Codebase} {bump : Bump}
    (hok : (Codebase.compare policy old new).outcome = .ok bump) :
    ∃ live : List Position, live.Pairwise Position.Before ∧
      (∀ position, position ∈ live ↔
        position.Live policy old new ∧ (Codebase.site old new position).Present) ∧
      (∀ kept, (Codebase.compare policy old new).changelog kept =
        kept ++ live.flatMap fun position => (Codebase.site old new position).records policy) ∧
      ∀ record ∈ (Codebase.compare policy old new).records,
        record.change ≠ .removedDefaultValue ∧ record.change ≠ .changedDefaultValue := by
  have hall : ∀ position ∈ Codebase.livePositions policy old new,
      Succeeds ((Codebase.site old new position).visit policy) := by
    intro position hmem
    obtain ⟨part, hpart, -⟩ := Codebase.visit_of_compare_ok hok hmem
    exact ⟨part, hpart⟩
  have hrecords : (Codebase.compare policy old new).records =
      (Codebase.livePositions policy old new).flatMap fun position =>
        (Codebase.site old new position).records policy := by
    rw [Codebase.compare_eq_inTurn, ← Codebase.records_visits hall (.ok bump)]
    have hsteps := (inTurn_of_succeeds (List.forall_mem_map.mpr hall)).2
    rw [List.flatMap_map] at hsteps
    rw [records, records, hsteps]
  refine ⟨Codebase.livePositions policy old new, Codebase.pairwise_livePositions policy old new,
    fun position => Codebase.mem_livePositions_iff, fun kept => ?_, fun record hmem => ?_⟩
  · rw [changelog_eq_append, hrecords]
  · rw [hrecords] at hmem
    obtain ⟨position, -, hmem⟩ := List.mem_flatMap.mp hmem
    exact not_or.mp (Site.not_ofDefault_of_mem_records hmem)

/-- Next to a field that got another type, one field is ignored and one is gone. -/
theorem changelog_of_ok_field_retyped :
    ∃ (policy : Policy) (old new : Codebase),
      (Codebase.compare policy old new).outcome = .ok .major ∧
        ∃ live : List Position, live.Pairwise Position.Before ∧
          (∀ position, position ∈ live ↔
            position.Live policy old new ∧ (Codebase.site old new position).Present) ∧
          (∀ kept, (Codebase.compare policy old new).changelog kept =
            kept ++ live.flatMap fun position => (Codebase.site old new position).records policy) ∧
          ∀ record ∈ (Codebase.compare policy old new).records,
            record.change ≠ .removedDefaultValue ∧ record.change ≠ .changedDefaultValue := by
  have hok : (Codebase.compare (.ofBool (· == "u.b"))
      (.cons "u" trivial (.unit "u" (.cons "a" trivial (.field "a" ⟨"int", 0, []⟩)
        (.cons "b" (by decide) (.field "b" ⟨"int", 0, []⟩)
          (.cons "c" (by decide) (.field "c" ⟨"int", 0, []⟩) .nil))) .nil .nil) .nil)
      (.cons "u" trivial (.unit "u" (.cons "a" trivial (.field "a" ⟨"text", 0, []⟩)
        (.cons "b" (by decide) (.field "b" ⟨"text", 0, []⟩) .nil)) .nil .nil) .nil)).outcome =
      .ok .major := by decide
  exact ⟨_, _, _, hok, changelog_of_ok hok⟩

end ApiDrift
