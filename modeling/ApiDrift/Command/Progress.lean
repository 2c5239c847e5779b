import ApiDrift.Log

/-!
# Progress of a command

A command raises log events on its way and may end with a fault. The events raised before the fault stay.
-/

namespace ApiDrift.Command

/-- What went wrong, what was behind it, and the reason that the cause itself gives if it has one. -/
structure Fault where
  message : String
  cause : Option String := none
  reason : Option String := none
  deriving DecidableEq

/-- What was behind a fault, the nearest first. A cause is told with its reason, which then stands by itself as well. -/
def Fault.causes (fault : Fault) : List String :=
  match fault.cause, fault.reason with
  | none, _ => []
  | some cause, none => [cause]
  | some cause, some reason => [cause ++ ": " ++ reason, reason]

structure Progress (α : Type) where
  events : List Log.Event
  result : Except Fault α

namespace Progress

/-- Later events follow earlier ones, and nothing follows a fault. -/
instance : Monad Progress where
  pure value := ⟨[], .ok value⟩
  bind first next :=
    match first.result with
    | .error fault => ⟨first.events, .error fault⟩
    | .ok value => ⟨first.events ++ (next value).events, (next value).result⟩

def note (events : List Log.Event) : Progress Unit := ⟨events, .ok ()⟩

def fail {α : Type} (message : String) (cause : Option String) : Progress α :=
  ⟨[], .error { message := message, cause := cause }⟩

/-- Goes on with a value, or fails with a message of its own and the failure as the cause. -/
def orFail {α : Type} (message : String) (value : Except Failure α) : Progress α :=
  match value with
  | .ok value => pure value
  | .error failure =>
    ⟨[], .error { message := message, cause := some failure.message, reason := failure.cause? }⟩

end Progress

end ApiDrift.Command
