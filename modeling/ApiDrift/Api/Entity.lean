import ApiDrift.Keyed
import ApiDrift.Api.Signature

/-!
# Entities of an API

A snapshot of an API is a codebase: a collection of entities under keys. A field has a type, a function has a return type and overloads, and a unit keeps further entities on three shelves. Any kind of entity may stand on any shelf, and a key need not be the name of the entity that stands there.
-/

namespace ApiDrift

inductive Kind
  | field
  | function
  | unit
  deriving DecidableEq

namespace Kind

def all : List Kind := [field, function, unit]

def word : Kind → String
  | field => "field"
  | function => "function"
  | unit => "unit"

end Kind

/-- The three collections of children of a unit. -/
inductive Shelf
  | fields
  | functions
  | units
  deriving DecidableEq

namespace Shelf

def all : List Shelf := [fields, functions, units]

def word : Shelf → String
  | fields => "fields"
  | functions => "functions"
  | units => "units"

end Shelf

inductive Entity
  | field (name : String) (type : TypeRef)
  | function (name : String) (type : TypeRef) (signatures : List Signature)
  | unit (name : String) (fields functions units : Keyed Entity none)

abbrev Codebase := Keyed Entity none

namespace Entity

def emptyUnit (name : String) : Entity := unit name .nil .nil .nil

def name : Entity → String
  | field name _ => name
  | function name _ _ => name
  | unit name _ _ _ => name

def kind : Entity → Kind
  | field .. => .field
  | function .. => .function
  | unit .. => .unit

def type? : Entity → Option TypeRef
  | field _ type => some type
  | function _ type _ => some type
  | unit .. => none

def signatures? : Entity → Option (List Signature)
  | function _ _ signatures => some signatures
  | _ => none

/-- Only a unit has shelves. -/
def children? : Entity → Shelf → Option Codebase
  | unit _ fields _ _, .fields => some fields
  | unit _ _ functions _, .functions => some functions
  | unit _ _ _ units, .units => some units
  | _, _ => none

/-- Puts a child on a shelf under its own name; an entity that is no unit stays as it is. -/
def withChild (entity : Entity) (shelf : Shelf) (child : Entity) : Entity :=
  match entity, shelf with
  | unit name fields functions units, .fields =>
    unit name (fields.insert child.name child) functions units
  | unit name fields functions units, .functions =>
    unit name fields (functions.insert child.name child) units
  | unit name fields functions units, .units =>
    unit name fields functions (units.insert child.name child)
  | other, _ => other

def sameShape (a b : Entity) : Bool := a.kind = b.kind

end Entity

namespace Codebase

/-- Each entity stands under its own name. -/
def ofEntities (entities : List Entity) : Codebase :=
  Keyed.ofList (entities.map fun entity => (entity.name, entity))

end Codebase

end ApiDrift
