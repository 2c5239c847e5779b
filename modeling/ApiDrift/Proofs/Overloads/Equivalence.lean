import ApiDrift.Proofs.Overloads.Missing
import Mathlib.Data.List.Forall2

/-!
# Overloads between which nothing is reported

Two single overloads are compared without a word exactly if their types are equal position by position. Otherwise there have to be as many overloads as before, and every one that is missing on one side has to find one that is missing on the other and that stands in for it, or that it stands in for. One may serve several.
-/

namespace ApiDrift

namespace TypeRef

theorem change?_eq_none_iff {old new : TypeRef} : old.change? new = none ↔ (old == new) = true := by
  rw [change?]
  split
  case isTrue hbeq => exact iff_of_true rfl hbeq
  case isFalse hbeq => split <;> exact iff_of_false (by simp) hbeq

/-- A type that stands in for the old one is worth no more than a patch. -/
theorem standsInFor_iff_change?_le {old new : TypeRef} :
    new.standsInFor old = true ↔ ∀ change ∈ old.change? new, change.severity ≤ .patch := by
  rw [change?]
  split
  case isTrue hbeq => exact iff_of_true (standsInFor_of_beq hbeq) (by simp)
  case isFalse =>
    split
    case isTrue hstands => exact iff_of_true hstands (by simp [Change.severity])
    case isFalse hstands => exact iff_of_false hstands (by simp [Change.severity]; decide)

end TypeRef

namespace Signature

variable {old new : Signature}

/-- As many parameters of equal types, position by position. -/
def SameTypes (old new : Signature) : Prop :=
  List.Forall₂ (fun oldType newType => (oldType == newType) = true) old.types new.types

/-- As many parameters, each of a type that stands in for the old one. -/
def StandsInFor (new old : Signature) : Prop :=
  List.Forall₂ (fun oldType newType => newType.standsInFor oldType = true) old.types new.types

theorem lengthChange?_cases (old new : Signature) :
    old.length = new.length ∧ old.lengthChange? new = none ∨
      old.length ≠ new.length ∧ ∃ change, old.lengthChange? new = some change ∧
        .patch < change.severity := by
  rw [lengthChange?]
  split
  case isTrue hlt =>
    right
    split
    · exact ⟨hlt.ne, _, rfl, by decide⟩
    · exact ⟨hlt.ne, _, rfl, by decide⟩
  case isFalse hge =>
    split
    case isTrue hlt => exact Or.inr ⟨hlt.ne', _, rfl, by decide⟩
    case isFalse hle => exact Or.inl ⟨by omega, rfl⟩

theorem length_types (signature : Signature) : signature.types.length = signature.length :=
  List.length_map _

theorem changes_eq_nil_iff : old.changes new = [] ↔ old.SameTypes new := by
  rw [changes, List.append_eq_nil_iff, List.filterMap_eq_nil_iff, SameTypes, List.forall₂_iff_zip,
    length_types, length_types, and_comm]
  refine and_congr ?_ ?_
  · rcases lengthChange?_cases old new with ⟨hlength, hnone⟩ | ⟨hlength, change, hsome, -⟩
    · rw [hnone]
      exact iff_of_true rfl hlength
    · rw [hsome]
      exact iff_of_false (by simp) hlength
  · simp only [Prod.forall, TypeRef.change?_eq_none_iff]

theorem evolvesInto_iff : old.evolvesInto new = true ↔ new.StandsInFor old := by
  rw [evolvesInto, List.all_eq_true, changes, List.forall_mem_append, StandsInFor,
    List.forall₂_iff_zip, length_types, length_types, and_comm]
  simp only [decide_eq_true_eq]
  refine and_congr ?_ ?_
  · rcases lengthChange?_cases old new with ⟨hlength, hnone⟩ | ⟨hlength, change, hsome, hworse⟩
    · rw [hnone]
      exact iff_of_true (by simp) hlength
    · rw [hsome]
      exact iff_of_false (by simpa using hworse) hlength
  · simp only [List.mem_filterMap, Prod.exists, TypeRef.standsInFor_iff_change?_le]
    constructor
    · intro hpatch oldType newType hmem change hchange
      exact hpatch change ⟨oldType, newType, hmem, hchange⟩
    · rintro hpatch change ⟨oldType, newType, hmem, hchange⟩
      exact hpatch hmem change hchange

end Signature

namespace Overloads

/-- Two single overloads have the same types. Otherwise there are as many on either side, and what is missing on one side stands in for something missing on the other, or the other way about. -/
def Equivalent (old new : List Signature) : Prop :=
  match old, new with
  | [single], [other] => single.SameTypes other
  | _, _ => old.length = new.length ∧
    (∀ removed, Lacking old new removed →
      ∃ added, Lacking new old added ∧ added.StandsInFor removed) ∧
    ∀ added, Lacking new old added →
      ∃ removed, Lacking old new removed ∧ added.StandsInFor removed

theorem equivalent_of_not_singles {old new : List Signature}
    (hsingles : ¬ (old.length = 1 ∧ new.length = 1)) :
    Equivalent old new ↔ old.length = new.length ∧
      (∀ removed, Lacking old new removed →
        ∃ added, Lacking new old added ∧ added.StandsInFor removed) ∧
      ∀ added, Lacking new old added →
        ∃ removed, Lacking old new removed ∧ added.StandsInFor removed := by
  unfold Equivalent
  split
  · exact absurd ⟨rfl, rfl⟩ hsingles
  · rfl

theorem countChange?_eq_none_iff {old new : List Signature} :
    countChange? old new = none ↔ old.length = new.length := by
  rw [countChange?]
  split
  case isTrue hlt => exact iff_of_false (by simp) hlt.ne
  case isFalse hge =>
    split
    case isTrue hlt => exact iff_of_false (by simp) hlt.ne'
    case isFalse hle => exact iff_of_true rfl (by omega)

/-- Nothing is left unreconciled exactly if everything missing finds a partner. -/
theorem unreconciled_eq_nil_iff {removed added : List Signature} :
    unreconciled removed added = [] ↔
      (∀ old ∈ removed, ∃ new ∈ added, new.StandsInFor old) ∧
        ∀ new ∈ added, ∃ old ∈ removed, new.StandsInFor old := by
  rw [unreconciled, List.append_eq_nil_iff, List.map_eq_nil_iff, List.map_eq_nil_iff,
    List.filter_eq_nil_iff, List.filter_eq_nil_iff, and_comm]
  simp only [Bool.not_eq_true', Bool.not_eq_false, List.any_eq_true, Signature.evolvesInto_iff]

theorem diff_changes_eq_nil_iff {old new : List Signature} :
    (diff old new).changes = [] ↔ Equivalent old new := by
  by_cases hsingles : old.length = 1 ∧ new.length = 1
  · obtain ⟨single, rfl⟩ := List.length_eq_one_iff.mp hsingles.1
    obtain ⟨other, rfl⟩ := List.length_eq_one_iff.mp hsingles.2
    exact Signature.changes_eq_nil_iff
  · rw [diff_of_not_singles hsingles, equivalent_of_not_singles hsingles, List.append_eq_nil_iff,
      Option.toList_eq_nil_iff, countChange?_eq_none_iff, unreconciled_eq_nil_iff]
    simp only [mem_missingFrom_iff]

/-- A type that stands in for the old one is told of a single overload, and not of one among others. -/
example :
    let int : Signature := ⟨[⟨"x", ⟨"int", 0, []⟩, none⟩]⟩
    let long : Signature := ⟨[⟨"x", ⟨"long", 0, ["int"]⟩, none⟩]⟩
    (diff [int] [long]).changes = [.typeChangedToCompatibleType] ∧
      (diff [int, ⟨[]⟩] [⟨[]⟩, long]).changes = [] := by
  decide

/-- Nothing is missing among the same overloads. -/
theorem not_lacking_self (signatures : List Signature) (signature : Signature) :
    ¬ Lacking signatures signatures signature :=
  fun hlacking => hlacking.2 signature (List.mem_of_find?_eq_some hlacking.1) rfl

theorem equivalent_refl (signatures : List Signature) : Equivalent signatures signatures := by
  by_cases hsingles : signatures.length = 1 ∧ signatures.length = 1
  · obtain ⟨single, rfl⟩ := List.length_eq_one_iff.mp hsingles.1
    exact List.forall₂_same.mpr fun type _ => beq_self_eq_true type
  · rw [equivalent_of_not_singles hsingles]
    exact ⟨rfl, fun removed hlacking => absurd hlacking (not_lacking_self _ removed),
      fun added hlacking => absurd hlacking (not_lacking_self _ added)⟩

end Overloads

end ApiDrift
