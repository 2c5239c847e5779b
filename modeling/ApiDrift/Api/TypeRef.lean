/-!
# Type references

A type is known by its name and the number of array dimensions around it. It also lists the names of the types it can stand in for; that list is what an extractor found out about the type, and two references to one type may carry different lists.
-/

namespace ApiDrift

structure TypeRef where
  name : String
  dimension : UInt32 := 0
  accepts : List String := []

namespace TypeRef

/-- The accepted names take no part in equality. -/
instance : BEq TypeRef := ⟨fun a b => a.name == b.name && a.dimension == b.dimension⟩

/-- Code written against `old` keeps working when it receives `new`. -/
def standsInFor (new old : TypeRef) : Bool :=
  new == old || (new.dimension == old.dimension && new.accepts.contains old.name)

def display (type : TypeRef) : String :=
  type.name ++ String.join (List.replicate type.dimension.toNat "[]")

end TypeRef

end ApiDrift
