import ApiDrift.Decimal.Numeral

/-!
# JSON trees

A tree holds as much of a JSON text as could be read. Where reading had to stop the tree is cut, and the cut says why; a tree without cuts is a JSON value. So whoever takes a value out of a tree meets what is wrong with it in the order of the text, be it a cut or a value of the wrong type.
-/

namespace ApiDrift

namespace Json

/-- Why reading stopped: the text ended, inside a word such as null, inside a number, inside quotes behind one half of a surrogate pair or elsewhere, or it cannot go on like this. -/
inductive Fault
  | unfinished
  | unfinishedWord
  | unfinishedNumber
  | unfinishedUnpaired
  | malformed
  deriving DecidableEq

end Json

mutual

inductive Json
  | null
  | bool (value : Bool)
  | number (numeral : Decimal.Numeral)
  | text (value : String)
  /-- A text with one half of a surrogate pair, which no string can hold. -/
  | unpaired
  | array (items : Json.Items)
  | object (members : Json.Members)
  | cut (fault : Json.Fault)

inductive Json.Items
  | done
  | cut (fault : Json.Fault)
  | cons (item : Json) (rest : Json.Items)

inductive Json.Members
  | done
  | cut (fault : Json.Fault)
  /-- A comma behind which no key could be read. -/
  | comma (fault : Json.Fault)
  /-- A member under a key that no string can hold. -/
  | nameless (value : Json) (rest : Json.Members)
  | cons (key : String) (value : Json) (rest : Json.Members)

end

namespace Json

namespace Items

def ofList (items : List Json) (tail : Items) : Items := items.foldr cons tail

def toList : Items → List Json
  | done => []
  | cut _ => []
  | cons item rest => item :: rest.toList

end Items

namespace Members

def ofList (members : List (String × Json)) (tail : Members) : Members :=
  members.foldr (fun member rest => cons member.1 member.2 rest) tail

def toList : Members → List (String × Json)
  | done => []
  | cut _ => []
  | comma _ => []
  | nameless _ rest => rest.toList
  | cons key value rest => (key, value) :: rest.toList

/-- Puts a member in front. -/
def add (key : Option String) (value : Json) (rest : Members) : Members :=
  match key with
  | some key => cons key value rest
  | none => nameless value rest

/-- Puts members in front, the last of them given first. -/
def behind (before : List (Option String × Json)) (rest : Members) : Members :=
  before.foldl (fun rest member => add member.1 member.2 rest) rest

end Members

def list (items : List Json) : Json := array (Items.ofList items .done)

def record (members : List (String × Json)) : Json := object (Members.ofList members .done)

def natural (value : Nat) : Json := number (.ofNat value)

end Json

end ApiDrift
