import ApiDrift.Proofs.Overloads.Equivalence

/-!
# One overload against another

The types of two overloads are compared at the positions that both have, in order; then it is told what happened to their number. Callers break if a type does not stand in for the one before it, if a parameter is gone, or if a further one has no default. Otherwise further parameters make the difference minor, and types that stand in for those before them make it a patch.
-/

namespace ApiDrift.Signature

variable {old new : Signature} {position : Nat} {change : Change}

/-! ### Position by position -/

/-- The types at a position that both signatures have. -/
def TypesAt (old new : Signature) (position : Nat) (oldType newType : TypeRef) : Prop :=
  old.types[position]? = some oldType ∧ new.types[position]? = some newType

/-- The types at a position that both signatures have are not equal. -/
def DiffersAt (old new : Signature) (position : Nat) : Prop :=
  ∃ oldType newType, old.TypesAt new position oldType newType ∧ (oldType == newType) = false

/-- What is told of a position where the types are not equal. -/
inductive ToldAt (old new : Signature) (position : Nat) : Change → Prop
  | compatible {oldType newType : TypeRef} (htypes : old.TypesAt new position oldType newType)
      (hne : (oldType == newType) = false) (hstands : newType.standsInFor oldType = true) :
      ToldAt old new position .typeChangedToCompatibleType
  | incompatible {oldType newType : TypeRef} (htypes : old.TypesAt new position oldType newType)
      (hne : (oldType == newType) = false) (hstands : newType.standsInFor oldType = false) :
      ToldAt old new position .typeChangedToIncompatibleType

theorem typesAt_iff {oldType newType : TypeRef} :
    old.TypesAt new position oldType newType ↔
      (old.types.zip new.types)[position]? = some (oldType, newType) :=
  (List.getElem?_zip_eq_some (z := (oldType, newType))).symm

theorem toldAt_iff : old.ToldAt new position change ↔
    ∃ oldType newType, old.TypesAt new position oldType newType ∧
      oldType.change? newType = some change := by
  constructor
  · rintro (⟨htypes, hne, hstands⟩ | ⟨htypes, hne, hstands⟩)
    all_goals exact ⟨_, _, htypes, by rw [TypeRef.change?, hne, hstands]; rfl⟩
  · rintro ⟨oldType, newType, htypes, hchange⟩
    rw [TypeRef.change?] at hchange
    split at hchange
    case isTrue => cases hchange
    case isFalse hne =>
      split at hchange
      case isTrue hstands =>
        cases hchange
        exact .compatible htypes (Bool.eq_false_iff.mpr hne) hstands
      case isFalse hstands =>
        cases hchange
        exact .incompatible htypes (Bool.eq_false_iff.mpr hne) (Bool.eq_false_iff.mpr hstands)

theorem differsAt_iff_exists_toldAt :
    old.DiffersAt new position ↔ ∃ change, old.ToldAt new position change := by
  constructor
  · rintro ⟨oldType, newType, htypes, hne⟩
    cases hstands : newType.standsInFor oldType with
    | true => exact ⟨_, .compatible htypes hne hstands⟩
    | false => exact ⟨_, .incompatible htypes hne hstands⟩
  · rintro ⟨_, ⟨htypes, hne, -⟩ | ⟨htypes, hne, -⟩⟩
    all_goals exact ⟨_, _, htypes, hne⟩

/-- The changes of the types, each with its position. -/
def told (old new : Signature) : List (Nat × Change) :=
  (old.types.zip new.types).zipIdx.filterMap fun entry =>
    (entry.1.1.change? entry.1.2).map (Prod.mk entry.2)

theorem mem_told_iff : (position, change) ∈ old.told new ↔ old.ToldAt new position change := by
  rw [told, List.mem_filterMap, toldAt_iff]
  constructor
  · rintro ⟨⟨⟨oldType, newType⟩, index⟩, hmem, hentry⟩
    obtain ⟨_, hchange, heq⟩ := Option.map_eq_some_iff.mp hentry
    cases heq
    exact ⟨oldType, newType, typesAt_iff.mpr (List.mem_zipIdx_iff_getElem?.mp hmem), hchange⟩
  · rintro ⟨oldType, newType, htypes, hchange⟩
    refine ⟨((oldType, newType), position), ?_, Option.map_eq_some_iff.mpr ⟨_, hchange, rfl⟩⟩
    exact List.mem_zipIdx_iff_getElem?.mpr (typesAt_iff.mp htypes)

theorem pairwise_told (old new : Signature) :
    (old.told new).Pairwise fun first second => first.1 < second.1 := by
  refine (pairwise_zipIdx _).filterMap _ fun entry entry' hlt first hfirst second hsecond => ?_
  obtain ⟨_, -, rfl⟩ := Option.map_eq_some_iff.mp hfirst
  obtain ⟨_, -, rfl⟩ := Option.map_eq_some_iff.mp hsecond
  exact hlt

theorem changes_eq_told (old new : Signature) :
    old.changes new = (old.told new).map Prod.snd ++ (old.lengthChange? new).toList := by
  have hentries : (old.told new).map Prod.snd =
      ((old.types.zip new.types).zipIdx.map Prod.fst).filterMap fun pair =>
        pair.1.change? pair.2 := by
    rw [told, List.map_filterMap, List.filterMap_map]
    refine List.filterMap_congr fun entry _ => ?_
    rw [Option.map_map]
    exact Option.map_id'
  rw [changes, hentries, List.zipIdx_map_fst]

theorem mem_changes_iff : change ∈ old.changes new ↔
    (∃ position, old.ToldAt new position change) ∨ old.Resized new change := by
  rw [changes_eq_told, List.mem_append, List.mem_map, Option.mem_toList, ← Option.mem_def,
    mem_lengthChange?_iff]
  simp only [Prod.exists, exists_eq_right, mem_told_iff]

/-! ### Severity -/

/-- Callers of the old signature may fail with the new one. -/
def Breaks (old new : Signature) : Prop :=
  (∃ position oldType newType, old.TypesAt new position oldType newType ∧
    newType.standsInFor oldType = false) ∨
  new.length < old.length ∨
  ∃ parameter ∈ new.parameters.drop old.length, parameter.hasDefault = false

/-- The severities of what is told. -/
def severities (old new : Signature) : Set Bump :=
  {bump | ∃ change ∈ old.changes new, change.severity = bump}

theorem major_mem_severities_iff : .major ∈ old.severities new ↔ old.Breaks new := by
  constructor
  · rintro ⟨change, hchange, hmajor⟩
    rcases mem_changes_iff.mp hchange with ⟨position, htold⟩ | hresized
    · cases htold with
      | compatible => cases hmajor
      | incompatible htypes _ hstands => exact Or.inl ⟨position, _, _, htypes, hstands⟩
    · cases hresized with
      | optional => cases hmajor
      | required hmem hrequired => exact Or.inr (Or.inr ⟨_, hmem, hrequired⟩)
      | shorter hshorter => exact Or.inr (Or.inl hshorter)
  · rintro (⟨position, oldType, newType, htypes, hstands⟩ | hshorter | ⟨_, hmem, hrequired⟩)
    · have hne : (oldType == newType) = false := by
        rw [Bool.eq_false_iff]
        intro hbeq
        rw [TypeRef.standsInFor_of_beq hbeq] at hstands
        cases hstands
      exact ⟨_, mem_changes_iff.mpr (Or.inl ⟨position, .incompatible htypes hne hstands⟩), rfl⟩
    · exact ⟨_, mem_changes_iff.mpr (Or.inr (.shorter hshorter)), rfl⟩
    · exact ⟨_, mem_changes_iff.mpr (Or.inr (.required hmem hrequired)), rfl⟩

theorem minor_mem_severities_iff : .minor ∈ old.severities new ↔ old.length < new.length ∧
    ∀ parameter ∈ new.parameters.drop old.length, parameter.hasDefault = true := by
  constructor
  · rintro ⟨change, hchange, hminor⟩
    rcases mem_changes_iff.mp hchange with ⟨position, htold⟩ | hresized
    · cases htold <;> cases hminor
    · cases hresized with
      | optional hlonger hdefaults => exact ⟨hlonger, hdefaults⟩
      | required | shorter => cases hminor
  · rintro ⟨hlonger, hdefaults⟩
    exact ⟨_, mem_changes_iff.mpr (Or.inr (.optional hlonger hdefaults)), rfl⟩

theorem patch_mem_severities_iff : .patch ∈ old.severities new ↔
    ∃ position, old.ToldAt new position .typeChangedToCompatibleType := by
  constructor
  · rintro ⟨change, hchange, hpatch⟩
    rcases mem_changes_iff.mp hchange with ⟨position, htold⟩ | hresized
    · cases htold with
      | compatible htypes hne hstands => exact ⟨position, .compatible htypes hne hstands⟩
      | incompatible => cases hpatch
    · cases hresized <;> cases hpatch
  · rintro ⟨position, htold⟩
    exact ⟨_, mem_changes_iff.mpr (Or.inl ⟨position, htold⟩), rfl⟩

/-- What does not break callers has a default for whatever is further. -/
theorem hasDefault_of_not_breaks (hbreaks : ¬ old.Breaks new) :
    ∀ parameter ∈ new.parameters.drop old.length, parameter.hasDefault = true := by
  intro parameter hmem
  by_contra hrequired
  exact hbreaks (Or.inr (Or.inr ⟨parameter, hmem, Bool.eq_false_iff.mpr hrequired⟩))

theorem isGreatest_minor_severities_iff : IsGreatest (old.severities new) .minor ↔
    ¬ old.Breaks new ∧ old.length < new.length := by
  rw [Bump.isGreatest_minor_iff, major_mem_severities_iff, minor_mem_severities_iff, and_comm]
  refine and_congr_right fun hbreaks => and_iff_left (hasDefault_of_not_breaks hbreaks)

theorem isGreatest_patch_severities_iff : IsGreatest (old.severities new) .patch ↔
    old.length = new.length ∧ (∃ position, old.DiffersAt new position) ∧
      ∀ position oldType newType, old.TypesAt new position oldType newType →
        (oldType == newType) = false → newType.standsInFor oldType = true := by
  rw [Bump.isGreatest_patch_iff, patch_mem_severities_iff, minor_mem_severities_iff,
    major_mem_severities_iff]
  constructor
  · rintro ⟨⟨position, htold⟩, hnotMinor, hbreaks⟩
    have hnotLonger : ¬ old.length < new.length := fun hlonger =>
      hnotMinor ⟨hlonger, hasDefault_of_not_breaks hbreaks⟩
    have hnotShorter : ¬ new.length < old.length := fun hshorter =>
      hbreaks (Or.inr (Or.inl hshorter))
    refine ⟨by omega, ⟨position, differsAt_iff_exists_toldAt.mpr ⟨_, htold⟩⟩, ?_⟩
    intro position oldType newType htypes _
    by_contra hstands
    exact hbreaks (Or.inl ⟨position, _, _, htypes, Bool.eq_false_iff.mpr hstands⟩)
  · rintro ⟨hlength, ⟨position, oldType, newType, htypes, hne⟩, hstands⟩
    refine ⟨⟨position, .compatible htypes hne (hstands _ _ _ htypes hne)⟩,
      fun hminor => absurd hlength hminor.1.ne, ?_⟩
    rintro (⟨position, oldType, newType, htypes, hnot⟩ | hshorter | ⟨_, hmem, -⟩)
    · have hstands' : newType.standsInFor oldType = true := by
        cases hbeq : oldType == newType with
        | true => exact TypeRef.standsInFor_of_beq hbeq
        | false => exact hstands _ _ _ htypes hbeq
      rw [hstands'] at hnot
      cases hnot
    · exact absurd hlength hshorter.ne'
    · exact absurd hlength (length_lt_of_mem_drop hmem).ne

/-- Of two single overloads the types that differ are told in the order of their positions, and then at most one change of their number. The highest severity told is major exactly if callers break, otherwise minor if there are further parameters, and a patch if there are as many and some types differ, each of which stands in for the one before it. Nothing is told exactly if the types are the same. -/
theorem compared_position_by_position (old new : Signature) :
    (∃ told : List (Nat × Change), ∃ resized : Option Change,
      old.changes new = told.map Prod.snd ++ resized.toList ∧
      (told.Pairwise fun first second => first.1 < second.1) ∧
      (∀ position change, (position, change) ∈ told ↔ old.ToldAt new position change) ∧
      ∀ change, change ∈ resized ↔ old.Resized new change) ∧
    (IsGreatest (old.severities new) .major ↔ old.Breaks new) ∧
    (IsGreatest (old.severities new) .minor ↔ ¬ old.Breaks new ∧ old.length < new.length) ∧
    (IsGreatest (old.severities new) .patch ↔
      old.length = new.length ∧ (∃ position, old.DiffersAt new position) ∧
        ∀ position oldType newType, old.TypesAt new position oldType newType →
          (oldType == newType) = false → newType.standsInFor oldType = true) ∧
    (old.changes new = [] ↔ old.SameTypes new) := by
  refine ⟨⟨old.told new, old.lengthChange? new, changes_eq_told old new, pairwise_told old new,
    fun _ _ => mem_told_iff, fun _ => mem_lengthChange?_iff⟩, ?_, isGreatest_minor_severities_iff,
    isGreatest_patch_severities_iff, changes_eq_nil_iff⟩
  rw [Bump.isGreatest_major_iff, major_mem_severities_iff]

/-- A default at a further position does not help where an earlier type does not stand in. -/
example :
    let old : Signature := ⟨[⟨"a", ⟨"int", 0, []⟩, none⟩, ⟨"b", ⟨"text", 0, []⟩, none⟩]⟩
    let new : Signature := ⟨[⟨"a", ⟨"long", 0, ["int"]⟩, none⟩, ⟨"b", ⟨"bytes", 0, []⟩, none⟩,
      ⟨"c", ⟨"int", 0, []⟩, some "0"⟩]⟩
    old.changes new = [.typeChangedToCompatibleType, .typeChangedToIncompatibleType,
      .parameterDefaultsAddedToSignature] := by
  decide

end ApiDrift.Signature
