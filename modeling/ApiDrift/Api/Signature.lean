import ApiDrift.Api.TypeRef

/-!
# Overloads of a function

Arguments are passed by position, so the name of a parameter takes no part in equality. Two parameters are equal when their types and their default values are.
-/

namespace ApiDrift

structure Parameter where
  name : String := ""
  type : TypeRef
  defaultValue : Option String := none

namespace Parameter

instance : BEq Parameter := ⟨fun a b => a.type == b.type && a.defaultValue == b.defaultValue⟩

/-- A caller may leave the argument out. -/
def hasDefault (parameter : Parameter) : Bool := parameter.defaultValue.isSome

end Parameter

structure Signature where
  parameters : List Parameter := []

namespace Signature

instance : BEq Signature := ⟨fun a b => a.parameters == b.parameters⟩

def types (signature : Signature) : List TypeRef := signature.parameters.map Parameter.type

def length (signature : Signature) : Nat := signature.parameters.length

def isEmpty (signature : Signature) : Bool := signature.parameters.isEmpty

end Signature

end ApiDrift
