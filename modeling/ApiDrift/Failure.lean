import ApiDrift.Api.Entity

/-!
# Failures

What stops a comparison or refuses its input. A difference between two snapshots is never a failure; it is a change. A failure has a message of its own. Behind an invalid pattern stands a cause, told by whoever reads patterns, and the whole text of the failure ends with it.
-/

namespace ApiDrift

inductive Failure
  | shapeMismatch (path : String) (old new : Kind)
  | policyFailed (path message : String)
  | invalidPattern (pattern cause : String)
  | invalidVersion (text : String)
  deriving DecidableEq

namespace Failure

def message : Failure → String
  | shapeMismatch path old new =>
    "Cannot compare " ++ old.word ++ " with " ++ new.word ++ " at \x60" ++ path ++ "\x60"
  | policyFailed path message => "Ignore policy failed for \x60" ++ path ++ "\x60: " ++ message
  | invalidPattern pattern _ => "Invalid ignore pattern \x60" ++ pattern ++ "\x60"
  | invalidVersion text => "Invalid version: " ++ text

def cause? : Failure → Option String
  | invalidPattern _ cause => some cause
  | _ => none

/-- The message, and the cause if there is one. -/
def text (failure : Failure) : String :=
  match failure.cause? with
  | some cause => failure.message ++ ": " ++ cause
  | none => failure.message

end Failure

end ApiDrift
