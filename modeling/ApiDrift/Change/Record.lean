import ApiDrift.Change

/-!
# Change records

A record says at which path a change was found. Severity and description are written out in it, so a record that was read back keeps what it says even where the catalog says otherwise.
-/

namespace ApiDrift

structure ChangeRecord where
  path : String
  change : Change
  severity : Bump
  description : String
  deriving DecidableEq

namespace ChangeRecord

/-- The record of a change as the catalog describes it. -/
def of (path : String) (change : Change) : ChangeRecord :=
  ⟨path, change, change.severity, change.description⟩

def isBreaking (record : ChangeRecord) : Bool := record.severity.isBreaking

/-- One changelog line; a change at the root has no path to name. -/
def line (record : ChangeRecord) : String :=
  if record.path.isEmpty then record.description else record.path ++ ": " ++ record.description

end ChangeRecord

end ApiDrift
