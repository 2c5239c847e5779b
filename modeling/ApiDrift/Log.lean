import ApiDrift.Comparison
import ApiDrift.Text.Hidden
import ApiDrift.Version

/-!
# Log events

What a run tells about its progress: a level, the part of the program that speaks, a message and named fields.
-/

namespace ApiDrift.Log

inductive Level
  | error
  | warn
  | info
  | debug
  | trace
  deriving DecidableEq

namespace Level

/-- Less urgent levels are more verbose. -/
def verbosity : Level → Nat
  | error => 1
  | warn => 2
  | info => 3
  | debug => 4
  | trace => 5

def word : Level → String
  | error => "ERROR"
  | warn => "WARN"
  | info => "INFO"
  | debug => "DEBUG"
  | trace => "TRACE"

end Level

def hexDigits (number : Nat) : String :=
  String.ofList (Nat.toDigits 16 number)

/-- In a message the controls that could steer a terminal are spelled out. -/
def harmlessChar (c : Char) : String :=
  if c == '\x07' then "\\x07"
  else if c == '\x08' then "\\x08"
  else if c == '\x0c' then "\\x0c"
  else if c == '\x1b' then "\\x1b"
  else if c == '\x7f' then "\\x7f"
  else if 128 ≤ c.toNat && c.toNat < 160 then "\\u\x7b" ++ hexDigits c.toNat ++ "\x7d"
  else c.toString

def harmless (text : String) : String := String.join (text.toList.map harmlessChar)

structure Event where
  level : Level
  source : String
  message : String
  fields : List (String × String) := []
  deriving DecidableEq

namespace Event

def details (event : Event) : String :=
  String.join (harmless event.message :: event.fields.map fun field => " " ++ field.1 ++ "=" ++ field.2)

/-- The line without the part of the program that speaks. -/
def line (event : Event) : String := event.level.word ++ " " ++ event.details

def sourcedLine (event : Event) : String :=
  event.level.word ++ " " ++ event.source ++ ": " ++ event.details

end Event

/-- One character of quoted text: control characters have short names or numbers. -/
def quotedChar (c : Char) : String :=
  if c == '"' then "\\\""
  else if c == '\\' then "\\\\"
  else if c == '\n' then "\\n"
  else if c == '\r' then "\\r"
  else if c == '\t' then "\\t"
  else if c == '\x00' then "\\0"
  else if Text.isHidden c then "\\u\x7b" ++ hexDigits c.toNat ++ "\x7d"
  else c.toString

def quoted (text : String) : String :=
  "\"" ++ String.join (text.toList.map quotedChar) ++ "\""

def listed (items : List String) : String := "[" ++ String.intercalate ", " items ++ "]"

def configSource : String := "apibump::config"

def compareSource : String := "apibump::commands::compare"

def treeSource : String := "apibump_core::differ::tree"

def overloadSource : String := "apibump_core::differ::comparator"

def versionSource : String := "apibump_core::semver"

/-- The event that a step of a comparison raises; asking the policy and finding a change raise none. -/
def ofStep? : Step → Option Event
  | .ignored path => some ⟨.debug, treeSource, "ignoring entity", [("path", path)]⟩
  | .visited path kind =>
    some ⟨.trace, treeSource, "comparing entity", [("path", path), ("kind", quoted kind.word)]⟩
  | .reconciled pair =>
    some ⟨.debug, overloadSource, "reconciled overload pair",
      [("removed", toString pair.removed), ("added", toString pair.added),
        ("discarded", listed (pair.discarded.map Change.symbol))]⟩
  | .asked _ => none
  | .found _ _ => none

def ofSteps (steps : List Step) : List Event := steps.filterMap ofStep?

/-- Tells that a comparison came to its end. -/
def finished (bump : Bump) (changes : Nat) : Event :=
  ⟨.debug, treeSource, "codebase comparison finished",
    [("bump", bump.word), ("changes", toString changes)]⟩

def ignorePatterns (patterns : List String) : Event :=
  ⟨.debug, compareSource, "Ignore patterns: " ++ listed (patterns.map quoted), []⟩

/-- Tells that a configuration was passed over because of a fault in it. -/
def configFault (fault : String) : Event := ⟨.warn, configSource, fault, []⟩

/-- Tells that a breaking change is released as a minor one. -/
def lowered (previous : Version) : Event :=
  ⟨.warn, versionSource,
    "breaking changes on an initial development version, bumping minor instead of major",
    [("version", previous.text)]⟩

end ApiDrift.Log
