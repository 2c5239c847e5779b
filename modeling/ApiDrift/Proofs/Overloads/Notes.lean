import ApiDrift.Proofs.Overloads.Marking
import ApiDrift.Proofs.Overloads.Single
import Mathlib.Data.Set.Card

/-!
# Notes of reconciled overloads

What was passed over when overloads were reconciled survives in the notes alone. There is a note of a pair exactly if the new overload stands in for the old one and some types differ; the pair is given by the numbers of its overloads among those that are missing, and the note has one change for each type that differs. A pair without a difference is reconciled as well and leaves no note. With this exception the notes account for everything that is missing: what no note mentions is reported.
-/

namespace ApiDrift

/-! ### Counting -/

/-- A list without repetitions is as long as the set of its entries is large. -/
theorem length_eq_ncard {α : Type} {entries : List α} (hnodup : entries.Nodup) :
    entries.length = {a | a ∈ entries}.ncard := by
  classical
  rw [← List.coe_toFinset, Set.ncard_coe_finset, List.toFinset_card_of_nodup hnodup]

namespace Signature

variable {old new : Signature}

/-! ### What is passed over -/

theorem SameTypes.standsInFor (hsame : old.SameTypes new) : new.StandsInFor old :=
  List.Forall₂.imp (fun _ _ => TypeRef.standsInFor_of_beq) hsame

theorem StandsInFor.length_eq (hstands : new.StandsInFor old) : old.length = new.length := by
  have hlength := List.Forall₂.length_eq hstands
  rwa [length_types, length_types] at hlength

theorem StandsInFor.standsInFor (hstands : new.StandsInFor old) {position : Nat}
    {oldType newType : TypeRef} (htypes : old.TypesAt new position oldType newType) :
    newType.standsInFor oldType = true :=
  (List.forall₂_iff_zip.mp hstands).2 (List.mem_of_getElem? (typesAt_iff.mp htypes))

theorem nodup_positions_told (old new : Signature) : ((old.told new).map Prod.fst).Nodup := by
  rw [List.Nodup, List.pairwise_map]
  exact (pairwise_told old new).imp Nat.ne_of_lt

theorem length_told (old new : Signature) :
    (old.told new).length = {position | old.DiffersAt new position}.ncard := by
  rw [← List.length_map Prod.fst, length_eq_ncard (nodup_positions_told old new)]
  congr 1
  ext position
  simp only [Set.mem_ofPred_eq, List.mem_map, Prod.exists, exists_and_right, exists_eq_right,
    mem_told_iff, differsAt_iff_exists_toldAt]

/-- Where all types stand in for those before them, there is one change for each type that differs. -/
theorem StandsInFor.changes_eq (hstands : new.StandsInFor old) :
    old.changes new = List.replicate {position | old.DiffersAt new position}.ncard
      .typeChangedToCompatibleType := by
  have hnone : old.lengthChange? new = none := by
    rw [Option.eq_none_iff_forall_not_mem]
    intro change hchange
    exact (mem_lengthChange?_iff.mp hchange).length_ne hstands.length_eq
  rw [changes_eq_told, hnone, Option.toList_none, List.append_nil, List.eq_replicate_iff,
    List.length_map, length_told]
  refine ⟨rfl, fun change hchange => ?_⟩
  obtain ⟨⟨position, change⟩, htold, rfl⟩ := List.mem_map.mp hchange
  cases mem_told_iff.mp htold with
  | compatible => rfl
  | incompatible htypes _ hnot =>
    rw [hstands.standsInFor htypes] at hnot
    cases hnot

end Signature

namespace Overloads

variable {removed added : List Signature}

/-! ### Which notes there are -/

/-- Missing old overloads that no note mentions, and of whose types there is no missing new one. -/
def unnotedRemoved (removed added : List Signature) (notes : List Reconciliation) :
    Set (Fin removed.length) :=
  {index | (∀ note ∈ notes, note.removed ≠ index) ∧
    ∀ new ∈ added, ¬ removed[index].SameTypes new}

/-- Missing new overloads that no note mentions, and of whose types there is no missing old one. -/
def unnotedAdded (removed added : List Signature) (notes : List Reconciliation) :
    Set (Fin added.length) :=
  {index | (∀ note ∈ notes, note.added ≠ index) ∧
    ∀ old ∈ removed, ¬ old.SameTypes added[index]}

/-- Notes, and the changes told beside them, account for the overloads that are missing on either side. -/
structure Accounted (removed added : List Signature) (notes : List Reconciliation)
    (told : List Change) : Prop where
  ordered : notes.Pairwise fun note note' =>
    Prod.Lex (· < ·) (· < ·) (note.removed, note.added) (note'.removed, note'.added)
  mem_iff : ∀ note, note ∈ notes ↔
    ∃ old new, removed[note.removed]? = some old ∧ added[note.added]? = some new ∧
      new.StandsInFor old ∧ (∃ position, old.DiffersAt new position) ∧
      note.discarded = List.replicate {position | old.DiffersAt new position}.ncard
        .typeChangedToCompatibleType
  lost : told.count .overloadedFunctionRemoved = (unnotedRemoved removed added notes).ncard
  gained : told.count .functionWasOverloaded = (unnotedAdded removed added notes).ncard

end Overloads

end ApiDrift
