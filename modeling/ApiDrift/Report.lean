import ApiDrift.Comparison

/-!
# Reports

A summary counts changes by severity and by kind. A report puts the outcome of a comparison together: the severity, the changes in the order of their discovery, and their summary.
-/

namespace ApiDrift

/-- A kind that was never counted has no count, which is not the same as a count of zero. -/
structure Summary where
  major : UInt32 := 0
  minor : UInt32 := 0
  patch : UInt32 := 0
  byKind : Change → Option UInt32 := fun _ => none

namespace Summary

def empty : Summary := {}

/-- Sets the count of one kind. -/
def setKind (summary : Summary) (change : Change) (count : UInt32) : Summary :=
  { summary with byKind := fun other => if other = change then some count else summary.byKind other }

def countSeverity (summary : Summary) : Bump → Summary
  | .major => { summary with major := summary.major + 1 }
  | .minor => { summary with minor := summary.minor + 1 }
  | .patch => { summary with patch := summary.patch + 1 }
  | .none => summary

/-- Counts one change, by the severity that the catalog gives it. -/
def count (summary : Summary) (change : Change) : Summary :=
  (summary.countSeverity change.severity).setKind change ((summary.byKind change).getD 0 + 1)

/-- The kinds counted, in catalog order. -/
def kinds (summary : Summary) : List (Change × UInt32) :=
  Change.all.filterMap fun change => (summary.byKind change).map fun count => (change, count)

def total (summary : Summary) : UInt32 := (summary.kinds.map (·.2)).foldl (· + ·) 0

def text (summary : Summary) : String :=
  let parts := [(summary.major, "major"), (summary.minor, "minor"), (summary.patch, "patch")]
  match parts.filter (·.1 != 0) with
  | [] => "No changes"
  | present =>
    String.intercalate ", " (present.map fun part => toString part.1.toNat ++ " " ++ part.2)

def ofChanges (changes : List Change) : Summary := changes.foldl count empty

end Summary

structure Report where
  bump : Bump
  changes : List ChangeRecord
  summary : Summary
  summaryText : String

namespace Report

def of (bump : Bump) (changes : List ChangeRecord) : Report :=
  let summary := Summary.ofChanges (changes.map ChangeRecord.change)
  ⟨bump, changes, summary, summary.text⟩

def hasChanges (report : Report) : Bool := !report.changes.isEmpty

def breaking (report : Report) : List ChangeRecord := report.changes.filter ChangeRecord.isBreaking

def hasBreaking (report : Report) : Bool := report.changes.any ChangeRecord.isBreaking

def ofKind (report : Report) (change : Change) : List ChangeRecord :=
  report.changes.filter (·.change = change)

/-- The changes on one entity and on what lies below it. -/
def below (report : Report) (root : String) : List ChangeRecord :=
  report.changes.filter fun record => Path.within root record.path

end Report

namespace Codebase

/-- Compares two snapshots and reports what was found. -/
def report (policy : Policy) (old new : Codebase) : Except Failure Report :=
  let comparison := Codebase.compare policy old new
  comparison.outcome.map fun bump => Report.of bump comparison.records

end Codebase

end ApiDrift
