/-!
# TOML values and tables

A table remembers how it came about, because that decides who may still add to it. A header opens a table once; a table that only stood on the way to another header may get its own header later; dotted keys add only to tables that dotted keys have made; a table between braces is complete as it stands.
-/

namespace ApiDrift.Toml

inductive Origin
  | header
  | implied
  | dotted
  | braces
  deriving DecidableEq

/-- Numbers, dates and times are kept as they are spelled. -/
inductive Value
  | text (value : String)
  | bool (value : Bool)
  | number (spelling : String)
  | moment (spelling : String)
  | array (items : List Value)
  /-- Tables with one header each, in order. -/
  | tables (entries : List (List (String × Value)))
  | table (origin : Origin) (entries : List (String × Value))

abbrev Entries := List (String × Value)

namespace Entries

def get? (entries : Entries) (key : String) : Option Value :=
  (entries.find? (·.1 = key)).map (·.2)

/-- Puts a value under a key, where an earlier value would stand. -/
def put (entries : Entries) (key : String) (value : Value) : Entries :=
  if entries.any (·.1 = key) then
    entries.map fun entry => if entry.1 = key then (key, value) else entry
  else entries ++ [(key, value)]

/-- Adds a value under a key that is still free. -/
def add? (entries : Entries) (key : String) (value : Value) : Option Entries :=
  if entries.any (·.1 = key) then none else some (entries ++ [(key, value)])

/-- Changes the last of several tables. -/
def changeLast? (change : Entries → Option Entries) (tables : List Entries) :
    Option (List Entries) :=
  match tables.reverse with
  | [] => none
  | last :: before => (change last).map fun last => (last :: before).reverse

/-- Adds a value under a dotted key; `own` says whether the table at hand was itself made by the key. -/
def addDotted? (own : Bool) (path : List String) (key : String) (value : Value)
    (entries : Entries) : Option Entries :=
  match path with
  | [] => if own then entries.add? key value else none
  | name :: names =>
    match entries.get? name with
    | none => (addDotted? true names key value []).map fun made => entries.put name (.table .dotted made)
    | some (.table .dotted inner) =>
      (addDotted? true names key value inner).map fun made => entries.put name (.table .dotted made)
    | some (.table .implied inner) =>
      (addDotted? false names key value inner).map fun made => entries.put name (.table .implied made)
    | some (.tables tables) =>
      (changeLast? (addDotted? false names key value) tables).map fun made =>
        entries.put name (.tables made)
    | _ => none

/-- Changes the table that a header names, with the tables on the way made if they are missing. -/
def changeAt? (path : List String) (change : Entries → Option Entries) (entries : Entries) :
    Option Entries :=
  match path with
  | [] => change entries
  | name :: names =>
    match entries.get? name with
    | none => (changeAt? names change []).map fun made => entries.put name (.table .implied made)
    | some (.table .braces _) => none
    | some (.table origin inner) =>
      (changeAt? names change inner).map fun made => entries.put name (.table origin made)
    | some (.tables tables) =>
      (changeLast? (changeAt? names change) tables).map fun made => entries.put name (.tables made)
    | _ => none

/-- Opens a table under its header. -/
def open? (key : String) (entries : Entries) : Option Entries :=
  match entries.get? key with
  | none => some (entries.put key (.table .header []))
  | some (.table .implied inner) => some (entries.put key (.table .header inner))
  | _ => none

/-- Opens one more of several tables under one header. -/
def openNext? (key : String) (entries : Entries) : Option Entries :=
  match entries.get? key with
  | none => some (entries.put key (.tables [[]]))
  | some (.tables tables) => some (entries.put key (.tables (tables ++ [[]])))
  | _ => none

end Entries

end ApiDrift.Toml
