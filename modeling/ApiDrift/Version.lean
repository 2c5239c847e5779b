import ApiDrift.Bump
import ApiDrift.Failure

/-!
# Versions

A version has three numbers of one machine word each and may carry a label. A release of some severity moves the number of that severity on by one, sets the lower ones to zero and drops the label. While the first number is zero there is no stable API, so a breaking change moves the second number only.
-/

namespace ApiDrift

structure Version where
  major : UInt64
  minor : UInt64
  patch : UInt64
  label : Option String := none
  deriving DecidableEq

namespace Version

def zero : Version := ⟨0, 0, 0, none⟩

def text (version : Version) : String :=
  toString version.major.toNat ++ "." ++ toString version.minor.toNat ++ "." ++
    toString version.patch.toNat ++
    match version.label with
    | some label => "-" ++ label
    | none => ""

def dropLabel (version : Version) : Version := { version with label := none }

def withLabel (version : Version) (label : String) : Version := { version with label := some label }

/-- No stable API yet. -/
def isInitialDevelopment (version : Version) : Bool := version.major == 0

/-- The next number, unless the word is full. -/
def successor? (number : UInt64) : Option UInt64 :=
  if number.toNat + 1 < UInt64.size then some (number + 1) else none

def next? (version : Version) : Bump → Option Version
  | .none => some version.dropLabel
  | .patch => (successor? version.patch).map fun patch => ⟨version.major, version.minor, patch, none⟩
  | .minor => (successor? version.minor).map fun minor => ⟨version.major, minor, 0, none⟩
  | .major => (successor? version.major).map fun major => ⟨major, 0, 0, none⟩

/-- The version after a release of the given severity. -/
def bump (version : Version) (bump : Bump) : Except Failure Version :=
  match version.next? bump with
  | some next => .ok next
  | none =>
    .error (.invalidVersion (version.text ++ " has no next " ++ bump.word ++ " version"))

/-- A breaking change before the first stable release. -/
def lowers (previous : Version) (bump : Bump) : Bool :=
  bump.isBreaking && previous.isInitialDevelopment

/-- The severity with which a change of the given severity is released. -/
def releaseBump (previous : Version) (bump : Bump) : Bump :=
  if previous.lowers bump then .minor else bump

end Version

end ApiDrift
