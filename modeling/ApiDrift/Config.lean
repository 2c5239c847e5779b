import ApiDrift.Json.Tree
import ApiDrift.Toml.Reading
import ApiDrift.Toml.Writing

/-!
# Configuration

A configuration lists the patterns of ignored entities, says whether a breaking change before the first stable release is released as a minor one, and may choose the format and the colours of the output. It is read from a TOML document with three sections. A section is a table, or an array of its settings in order; what a section does not set keeps its default, and settings nobody knows are passed over. A date or time in the place of a section sets nothing.
-/

namespace ApiDrift

structure Config where
  ignored : List String := []
  majorIsMinor : Bool := true
  format : Option String := none
  color : Option Bool := none
  deriving DecidableEq

namespace Config

open Toml

/-- The setting of a section, under its name or at its place. -/
def setting? (found : Value) (name : String) (place : Nat) : Option Value :=
  match found with
  | .table _ entries => Entries.get? entries name
  | .array items => items[place]?
  | .tables tables => tables[place]?.map (.table .header)
  | _ => none

/-- A section is a table or an array, if it is there at all; a date or time counts as an empty table. -/
def section? (root : Entries) (name : String) : Option Value :=
  match root.get? name with
  | none => some (.table .implied [])
  | some (.table origin entries) => some (.table origin entries)
  | some (.array items) => some (.array items)
  | some (.tables tables) => some (.tables tables)
  | some (.moment _) => some (.table .implied [])
  | _ => none

/-- Reads a setting that may be missing. -/
def reading? {α : Type} (default : α) (read : Value → Option α) : Option Value → Option α
  | none => some default
  | some value => read value

def text? : Value → Option String
  | .text value => some value
  | _ => none

def bool? : Value → Option Bool
  | .bool value => some value
  | _ => none

def texts? : Value → Option (List String)
  | .array items => items.mapM text?
  | _ => none

def ofEntries? (root : Entries) : Option Config := do
  let ignore ← section? root "ignore"
  let versioning ← section? root "versioning"
  let output ← section? root "output"
  some {
    ignored := ← reading? [] texts? (setting? ignore "entities" 0)
    majorIsMinor :=
      ← reading? true bool? (setting? versioning "initial_development_major_is_minor" 0)
    format := ← reading? none (fun value => (text? value).map some) (setting? output "format" 0)
    color := ← reading? none (fun value => (bool? value).map some) (setting? output "color" 1) }

def read? (text : String) : Option Config := (Toml.read? text).bind ofEntries?

def boolWord (value : Bool) : String := if value then "true" else "false"

/-- A line for a setting that is there. -/
def optionalLine (name : String) (value : Option String) : String :=
  match value with
  | some written => name ++ " = " ++ written ++ "\n"
  | none => ""

/-- All sections are written, even an empty one. -/
def toToml (config : Config) : String :=
  "[ignore]\nentities = " ++ Toml.listed config.ignored ++
    "\n\n[versioning]\ninitial_development_major_is_minor = " ++ boolWord config.majorIsMinor ++
    "\n\n[output]\n" ++ optionalLine "format" (config.format.map Toml.quoted) ++
    optionalLine "color" (config.color.map boolWord)

def encode (config : Config) : Json :=
  .record
    [("ignore", .record [("entities", .list (config.ignored.map .text))]),
      ("versioning", .record [("initial_development_major_is_minor", .bool config.majorIsMinor)]),
      ("output", .record
        ((config.format.map fun format => ("format", .text format)).toList ++
          (config.color.map fun color => ("color", .bool color)).toList))]

end Config

end ApiDrift
