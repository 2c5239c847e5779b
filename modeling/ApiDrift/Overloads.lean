import ApiDrift.Api.Signature
import ApiDrift.Change

/-!
# Comparing overloads

Two single signatures are compared parameter by parameter. In larger sets, a signature that is missing on one side may have evolved into one that is missing on the other; such a pair is reconciled and reported as nothing. One signature may be reconciled with several partners.
-/

namespace ApiDrift

/-- The new type decides whether it can replace the old one. -/
def TypeRef.change? (old new : TypeRef) : Option Change :=
  if old == new then none
  else if new.standsInFor old then some .typeChangedToCompatibleType
  else some .typeChangedToIncompatibleType

namespace Signature

/-- Parameters beyond the common positions were added or removed. -/
def lengthChange? (old new : Signature) : Option Change :=
  if old.length < new.length then
    if (new.parameters.drop old.length).all Parameter.hasDefault then
      some .parameterDefaultsAddedToSignature
    else some .parameterAddedToSignature
  else if new.length < old.length then some .parameterRemovedFromSignature
  else none

/-- Position by position over the common positions, then the change of length. -/
def changes (old new : Signature) : List Change :=
  (old.types.zip new.types).filterMap (fun pair => pair.1.change? pair.2) ++
    (old.lengthChange? new).toList

/-- A caller of `old` can call `new` instead without noticing more than a patch. -/
def evolvesInto (old new : Signature) : Bool :=
  (old.changes new).all fun change => change.severity ≤ .patch

end Signature

/-- A pair of signatures that counts as one signature evolving, with the changes passed over. -/
structure Reconciliation where
  removed : Nat
  added : Nat
  discarded : List Change
  deriving DecidableEq

namespace Overloads

/-- The signatures of one side without an equal on the other, each once. -/
def missingFrom (side other : List Signature) : List Signature :=
  (side.filter fun signature => !other.contains signature).eraseDups

/-- Changes in number are reported once, whatever the difference is. -/
def countChange? (old new : List Signature) : Option Change :=
  if old.length < new.length then some .functionWasOverloaded
  else if new.length < old.length then some .overloadedFunctionRemoved
  else none

/-- Pairs that evolve with a difference worth telling. -/
def reconciliations (removed added : List Signature) : List Reconciliation :=
  removed.zipIdx.flatMap fun old =>
    added.zipIdx.filterMap fun new =>
      if old.1.evolvesInto new.1 && !(old.1.changes new.1).isEmpty then
        some ⟨old.2, new.2, old.1.changes new.1⟩
      else none

/-- Added signatures that nothing evolved into, then removed ones that evolved into nothing. -/
def unreconciled (removed added : List Signature) : List Change :=
  (added.filter fun new => !removed.any (·.evolvesInto new)).map
      (fun _ => .functionWasOverloaded) ++
    (removed.filter fun old => !added.any old.evolvesInto).map
      (fun _ => .overloadedFunctionRemoved)

structure Diff where
  reconciled : List Reconciliation
  changes : List Change

def diff (old new : List Signature) : Diff :=
  match old, new with
  | [single], [other] => ⟨[], single.changes other⟩
  | _, _ =>
    let removed := missingFrom old new
    let added := missingFrom new old
    ⟨reconciliations removed added, (countChange? old new).toList ++ unreconciled removed added⟩

end Overloads

end ApiDrift
