import ApiDrift.Failure
import ApiDrift.Overloads
import ApiDrift.Path
import ApiDrift.Change.Record

/-!
# Comparing two trees of entities

A comparison walks two trees in lockstep and leaves a list of steps: the paths it asked the ignore policy about, the entities it passed over or looked at, and the changes it found. The severity of what was found is folded along the way, never below a patch. The first failure ends the walk; the steps made until then stay.
-/

namespace ApiDrift

/-- Says of a path whether the entity there is left out of the comparison. -/
abbrev Policy := String → Except Failure Bool

namespace Policy

def ofBool (ignored : String → Bool) : Policy := fun path => .ok (ignored path)

/-- Whatever a policy fails with, it fails as a policy at the path it was asked about. -/
def ask (policy : Policy) (path : String) : Except Failure Bool :=
  match policy path with
  | .ok answer => .ok answer
  | .error (.policyFailed asked message) => .error (.policyFailed asked message)
  | .error other => .error (.policyFailed path other.text)

end Policy

inductive Step
  | asked (path : String)
  | ignored (path : String)
  | visited (path : String) (kind : Kind)
  | reconciled (pair : Reconciliation)
  | found (path : String) (change : Change)
  deriving DecidableEq

structure Comparison (α : Type) where
  steps : List Step
  outcome : Except Failure α

namespace Comparison

/-- Later steps follow earlier ones, and nothing follows a failure. -/
instance : Monad Comparison where
  pure value := ⟨[], .ok value⟩
  bind first next :=
    match first.outcome with
    | .error failure => ⟨first.steps, .error failure⟩
    | .ok value => ⟨first.steps ++ (next value).steps, (next value).outcome⟩

def note (steps : List Step) : Comparison Unit := ⟨steps, .ok ()⟩

def fail {α : Type} (failure : Failure) : Comparison α := ⟨[], .error failure⟩

/-- Changes found at one path, with their joint severity. -/
def foundAt (path : String) (changes : List Change) : Comparison Bump :=
  ⟨changes.map (.found path), .ok (Bump.worst .patch (changes.map Change.severity))⟩

/-- Entities that stand on one side only are reported under their keys, and nothing is asked about them. -/
def oneSided (path : String) (change : Change) (keys : List String) : Comparison Bump :=
  ⟨keys.map fun key => .found (Path.join path key) change,
    .ok (Bump.worst .patch (keys.map fun _ => change.severity))⟩

/-- An entity without a name of its own cannot be ignored, and its path is not asked about. -/
def ignores (policy : Policy) (path name : String) : Comparison Bool :=
  if name.isEmpty then pure false
  else ⟨[.asked path], policy.ask path⟩

/-- Changes of the overloads of one function. -/
def overloads (path : String) (old new : List Signature) : Comparison Bump := do
  note ((Overloads.diff old new).reconciled.map .reconciled)
  foundAt path (Overloads.diff old new).changes

variable {α : Type}

/-- Paths the policy was asked about, in order. -/
def asked (comparison : Comparison α) : List String :=
  comparison.steps.filterMap fun
    | .asked path => some path
    | _ => none

/-- Changes found, in order. -/
def records (comparison : Comparison α) : List ChangeRecord :=
  comparison.steps.filterMap fun
    | .found path change => some (.of path change)
    | _ => none

end Comparison

open Comparison

mutual

/-- Compares two entities below a path; the name of the new one extends it. -/
def Entity.compare (policy : Policy) (path : String) (old new : Entity) : Comparison Bump := do
  if ← ignores policy (Path.join path new.name) new.name then
    note [.ignored (Path.join path new.name)]
    return .patch
  else
    match old, new with
    | .field _ oldType, .field name newType =>
      note [.visited (Path.join path name) .field]
      foundAt (Path.join path name) (oldType.change? newType).toList
    | .function _ oldType oldSignatures, .function name newType newSignatures =>
      note [.visited (Path.join path name) .function]
      let ofType ← foundAt (Path.join path name) (oldType.change? newType).toList
      let ofOverloads ← overloads (Path.join path name) oldSignatures newSignatures
      return max ofType ofOverloads
    | .unit _ oldFields oldFunctions oldUnits, .unit name fields functions units =>
      note [.visited (Path.join path name) .unit]
      let ofFields ← Entity.compareEntries policy (Path.join path name) oldFields fields.toList
      let ofFunctions ←
        Entity.compareEntries policy (Path.join path name) oldFunctions functions.toList
      let ofUnits ← Entity.compareEntries policy (Path.join path name) oldUnits units.toList
      return max (max ofFields ofFunctions) ofUnits
    | old, new => fail (.shapeMismatch (Path.join path new.name) old.kind new.kind)

/-- Compares two collections at a path, key by key in order. Before each old key come the new keys below it. -/
def Entity.compareEntries (policy : Policy) (path : String) {low : Option String} :
    Keyed Entity low → List (String × Entity) → Comparison Bump
  | .nil, new => oneSided path .entityWasIntroduced (new.map (·.1))
  | .cons key _ old rest, new => do
    let introduced ←
      oneSided path .entityWasIntroduced ((new.takeWhile (·.1 < key)).map (·.1))
    match new.dropWhile (·.1 < key) with
    | [] =>
      let removed ← oneSided path .entityWasRemoved [key]
      let later ← Entity.compareEntries policy path rest []
      return max (max introduced removed) later
    | (newKey, newEntity) :: others =>
      if newKey = key then
        let both ← Entity.compare policy path old newEntity
        let later ← Entity.compareEntries policy path rest others
        return max (max introduced both) later
      else
        let removed ← oneSided path .entityWasRemoved [key]
        let later ← Entity.compareEntries policy path rest ((newKey, newEntity) :: others)
        return max (max introduced removed) later

end

namespace Codebase

/-- Compares two collections of children of one unit whose path is given. -/
def compareAt (policy : Policy) (path : String) (old new : Codebase) : Comparison Bump :=
  Entity.compareEntries policy path old new.toList

/-- Compares two snapshots. -/
def compare (policy : Policy) (old new : Codebase) : Comparison Bump :=
  compareAt policy "" old new

end Codebase

end ApiDrift
