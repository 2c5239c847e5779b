/-!
# Collections with ascending keys

A `Keyed α low` holds entries whose keys ascend strictly in code point order and lie above `low`. The order is part of the type, so two collections with the same entries are equal, and walking one visits its keys in order.
-/

namespace ApiDrift

/-- A key lies above a bound; every key lies above no bound. -/
def Above : Option String → String → Prop
  | none, _ => True
  | some low, key => low < key

instance : (low : Option String) → (key : String) → Decidable (Above low key)
  | none, _ => isTrue trivial
  | some low, key => inferInstanceAs (Decidable (low < key))

inductive Keyed (α : Type) : Option String → Type
  | nil {low : Option String} : Keyed α low
  | cons {low : Option String} (key : String) (above : Above low key) (value : α)
      (rest : Keyed α (some key)) : Keyed α low

namespace Keyed

variable {α : Type}

def toList {low : Option String} : Keyed α low → List (String × α)
  | nil => []
  | cons key _ value rest => (key, value) :: rest.toList

def keys {low : Option String} (entries : Keyed α low) : List String := entries.toList.map (·.1)

def get? {low : Option String} : Keyed α low → String → Option α
  | nil, _ => none
  | cons key _ value rest, wanted => if wanted = key then some value else rest.get? wanted

/-- The new value replaces one that stands under the same key. -/
def insertAbove {low : Option String} (key : String) (above : Above low key) (value : α) :
    Keyed α low → Keyed α low
  | nil => cons key above value nil
  | cons head headAbove other rest =>
    if before : key < head then cons key above value (cons head before other rest)
    else if after : head < key then cons head headAbove other (rest.insertAbove key after value)
    else cons head headAbove value rest

def insert (entries : Keyed α none) (key : String) (value : α) : Keyed α none :=
  entries.insertAbove key trivial value

/-- Of several entries with one key the last counts. -/
def ofList (entries : List (String × α)) : Keyed α none :=
  entries.foldl (fun made entry => made.insert entry.1 entry.2) nil

end Keyed

end ApiDrift
