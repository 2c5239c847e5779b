import ApiDrift.Change.Record
import ApiDrift.Proofs.Bump.Order

/-!
# Softened changelogs

A softened changelog has the records of another one at the same places, with two exceptions: it may call a new type compatible where the other one does not, and it may leave out that an overload came or went. It is never more severe.
-/

namespace ApiDrift

/-- An overload came or went. -/
def Change.OfOverloads (change : Change) : Prop :=
  change = .functionWasOverloaded ∨ change = .overloadedFunctionRemoved

/-- The first changelog becomes the second. -/
inductive Softened : List ChangeRecord → List ChangeRecord → Prop
  | nil : Softened [] []
  | kept {harsh gentle : List ChangeRecord} (record : ChangeRecord) (rest : Softened harsh gentle) :
      Softened (record :: harsh) (record :: gentle)
  | compatible {harsh gentle : List ChangeRecord} (path : String) (rest : Softened harsh gentle) :
      Softened (.of path .typeChangedToIncompatibleType :: harsh)
        (.of path .typeChangedToCompatibleType :: gentle)
  | leftOut {harsh gentle : List ChangeRecord} (path : String) {change : Change}
      (hchange : change.OfOverloads) (rest : Softened harsh gentle) :
      Softened (.of path change :: harsh) gentle

namespace Softened

variable {harsh gentle harsh' gentle' : List ChangeRecord}

theorem refl : ∀ records : List ChangeRecord, Softened records records
  | [] => .nil
  | record :: records => .kept record (refl records)

theorem append (hfirst : Softened harsh gentle) (hsecond : Softened harsh' gentle') :
    Softened (harsh ++ harsh') (gentle ++ gentle') := by
  induction hfirst with
  | nil => exact hsecond
  | kept record _ ih => exact .kept record ih
  | compatible path _ ih => exact .compatible path ih
  | leftOut path hchange _ ih => exact .leftOut path hchange ih

/-- Of changes to overloads any may be left out. -/
theorem of_sublist {harsh gentle : List Change} (hsublist : gentle.Sublist harsh)
    (hoverloads : ∀ change ∈ harsh, change.OfOverloads) (path : String) :
    Softened (harsh.map (.of path)) (gentle.map (.of path)) := by
  induction hsublist with
  | slnil => exact .nil
  | cons change _ ih =>
    obtain ⟨hchange, hrest⟩ := List.forall_mem_cons.mp hoverloads
    exact .leftOut path hchange (ih hrest)
  | cons_cons change _ ih =>
    exact .kept _ (ih (List.forall_mem_cons.mp hoverloads).2)

theorem exists_le_of_mem (hsoftened : Softened harsh gentle) {record : ChangeRecord}
    (hmem : record ∈ gentle) : ∃ other ∈ harsh, record.change.severity ≤ other.change.severity := by
  induction hsoftened with
  | nil => cases hmem
  | kept same _ ih =>
    rcases List.mem_cons.mp hmem with rfl | hmem
    · exact ⟨record, List.mem_cons_self, le_rfl⟩
    · exact (ih hmem).imp fun _ => And.imp_left (List.mem_cons_of_mem _)
  | compatible path _ ih =>
    rcases List.mem_cons.mp hmem with rfl | hmem
    · exact ⟨_, List.mem_cons_self, Bump.le_major _⟩
    · exact (ih hmem).imp fun _ => And.imp_left (List.mem_cons_of_mem _)
  | leftOut path _ _ ih => exact (ih hmem).imp fun _ => And.imp_left (List.mem_cons_of_mem _)

theorem worst_le (hsoftened : Softened harsh gentle) :
    Bump.worst .patch (gentle.map (·.change.severity)) ≤
      .worst .patch (harsh.map (·.change.severity)) := by
  refine Bump.worst_le_iff.mpr ⟨Bump.floor_le_worst _ _, List.forall_mem_map.mpr ?_⟩
  intro record hmem
  obtain ⟨other, hother, hle⟩ := hsoftened.exists_le_of_mem hmem
  exact hle.trans (Bump.le_worst_of_mem .patch (List.mem_map_of_mem hother))

end Softened

end ApiDrift
