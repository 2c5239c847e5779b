/-!
# Release severities

A release is as severe as its most severe change. The four severities form a chain, and the severity of several changes together is the maximum of theirs.
-/

namespace ApiDrift

inductive Bump
  | none
  | patch
  | minor
  | major
  deriving DecidableEq

namespace Bump

/-- Ascending order of severity. -/
def all : List Bump := [none, patch, minor, major]

def level : Bump → Nat
  | none => 0
  | patch => 1
  | minor => 2
  | major => 3

def word : Bump → String
  | none => "none"
  | patch => "patch"
  | minor => "minor"
  | major => "major"

instance : LE Bump := ⟨fun a b => a.level ≤ b.level⟩

instance (a b : Bump) : Decidable (a ≤ b) := inferInstanceAs (Decidable (a.level ≤ b.level))

instance : Max Bump := ⟨fun a b => if a ≤ b then b else a⟩

/-- Only a major release may break code written against the previous one. -/
def isBreaking (bump : Bump) : Bool := bump = major

/-- The most severe of several severities, at least `floor`. -/
def worst (floor : Bump) (bumps : List Bump) : Bump := bumps.foldl max floor

end Bump

end ApiDrift
