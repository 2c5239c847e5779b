import ApiDrift.Log
import ApiDrift.Text.Blank
import ApiDrift.Text.Letter
import ApiDrift.Text.Number
import ApiDrift.Text.Pieces

/-!
# Log filters

A filter is a list of directives. A directive sets the level for the sources whose names begin with its own name, or for all sources if it has none; it may ask for a field that an event has to have. For an event the most particular directive counts that fits it, and an event that no directive fits is not shown. Directives about spans of work are understood, but no event here lies in a span.
-/

namespace ApiDrift.Log

structure Directive where
  /-- Without a name it is about every source. -/
  source : Option String := none
  field : Option String := none
  ofSpans : Bool := false
  /-- No level at all turns the source off. -/
  level : Option Level
  deriving DecidableEq

abbrev Filter := List Directive

namespace Filter

/-! ### Reading -/

/-- A whole number of 64 bits, perhaps with a plus before it. -/
def number? (text : String) : Option Nat :=
  let digits :=
    match text.toList with
    | '+' :: rest => rest
    | rest => rest
  let value := Nat.ofDigitChars 10 digits 0
  if digits.isEmpty || !digits.all Char.isDigit || UInt64.size ≤ value then none else some value

def numbered? : Nat → Option (Option Level)
  | 0 => some none
  | 1 => some (some .error)
  | 2 => some (some .warn)
  | 3 => some (some .info)
  | 4 => some (some .debug)
  | 5 => some (some .trace)
  | _ => none

/-- A level has a number and a name, in any mixture of capitals. -/
def level? (text : String) : Option (Option Level) :=
  match number? text with
  | some number => numbered? number
  | none =>
    match text.map Char.toLower with
    | "off" => some none
    | "error" => some (some .error)
    | "warn" => some (some .warn)
    | "info" => some (some .info)
    | "debug" => some (some .debug)
    | "trace" => some (some .trace)
    | _ => none

/-- A level that was left out shows everything. -/
def levelOrAll? (text : String) : Option (Option Level) :=
  if text.isEmpty then some (some .trace) else level? text

def startsSource (c : Char) : Bool :=
  c == '-' || c == ':' || c == '_' || Text.isLetter c || Text.isNumber c

def trimmed (text : List Char) : List Char :=
  ((text.dropWhile Text.isBlank).reverse.dropWhile Text.isBlank).reverse

/-- A part of a text between two places. -/
def slice (text : List Char) (first last : Nat) : String :=
  String.ofList ((text.drop first).take (last - first))

/-- Reads the level behind brackets that end before the place given. -/
def afterSpan? (text shape : List Char) (place : Nat) (directive : Directive) : Option Directive :=
  match shape.drop place with
  | [] => some directive
  | '=' :: _ =>
    (levelOrAll? (String.ofList (text.drop (place + 1)))).map fun level =>
      { directive with level := level }
  | _ => none

/-- Reads a field between braces. One with a value is about spans. -/
def withField? (field : String) (directive : Directive) : Option Directive :=
  let name := field.toList.takeWhile (· != '=')
  if field.isEmpty then none
  else some {
    directive with
    field := some (String.ofList name)
    ofSpans := directive.ofSpans || name.length < field.length }

/-- Reads brackets with the name of a span in them, a field or both; `place` is behind the opening one. -/
def span? (text shape : List Char) (place : Nat) (source : Option String) : Option Directive :=
  let inside := shape.drop place
  let name := inside.takeWhile fun c => c != ']' && c != '\x7b'
  let last := place + name.length
  match inside.drop name.length with
  | ']' :: _ => afterSpan? text shape (last + 1) ⟨source, none, true, some .trace⟩
  | '\x7b' :: fields => do
    let field := fields.takeWhile (· != '\x7d')
    let finish := last + 1 + field.length
    let directive ←
      withField? (slice text (last + 1) finish)
        ⟨source, none, !(slice text place last).isEmpty, some .trace⟩
    match fields.drop field.length with
    | '\x7d' :: ']' :: _ => afterSpan? text shape (finish + 2) directive
    | _ => none
  | _ => none

/-- Reads a directive: a level for all sources, a source with its level, or a source of which everything is shown. Blanks around it do not count for its shape, but what it says is taken from the places in the text as it stands. -/
def directive? (text : List Char) : Option Directive :=
  let shape := trimmed text
  match shape with
  | [] => none
  | '[' :: _ => span? text shape 1 none
  | c :: _ =>
    if !startsSource c then none
    else
      let name := (shape.takeWhile fun c => c != '=' && c != '[').length
      match shape.drop name with
      | [] =>
        match level? (String.ofList text) with
        | some level => some { level := level }
        | none => some { source := some (String.ofList text), level := some .trace }
      | '=' :: _ =>
        (levelOrAll? (String.ofList (text.drop (name + 1)))).map fun level =>
          { source := some (slice text 0 name), level := level }
      | _ => span? text shape (name + 1) (some (slice text 0 name))

/-- Directives divided by commas. Where there are none, errors are shown. -/
def parse? (text : String) : Option Filter :=
  (((Text.pieces ',' text.toList).filter (!·.isEmpty)).mapM directive?).map fun directives =>
    if directives.isEmpty then [{ level := some .error }] else directives

/-! ### Use -/

def fits (directive : Directive) (event : Event) : Bool :=
  !directive.ofSpans &&
    directive.source.all (·.toList.isPrefixOf event.source.toList) &&
    directive.field.all fun field => field == "message" || event.fields.any (·.1 == field)

/-- Of two directives that fit one event the first is no less particular: it has the longer name, or asks for a field, or for a field that comes later in the alphabet. -/
def noLess (a b : Directive) : Bool :=
  let size (directive : Directive) : Nat := (directive.source.map (·.length + 1)).getD 0
  if size a = size b then
    match a.field, b.field with
    | some field, some other => other ≤ field
    | none, some _ => false
    | _, none => true
  else size b < size a

/-- The directive that counts for an event: of those that are equally particular the last one. -/
def governing? (filter : Filter) (event : Event) : Option Directive :=
  (filter.filter (fits · event)).foldl
    (fun best directive =>
      match best with
      | some chosen => if noLess directive chosen then some directive else some chosen
      | none => some directive)
    none

def admits (filter : Filter) (event : Event) : Bool :=
  match filter.governing? event with
  | some ⟨_, _, _, some level⟩ => event.level.verbosity ≤ level.verbosity
  | _ => false

/-- Warnings and errors are shown; a wish for silence wins over a wish for details. -/
def standard (verbose quiet : Bool) : Filter :=
  [{ level := some (if quiet then .error else if verbose then .debug else .warn) }]

/-- A filter from the environment is used if it can be read. -/
def chosen (environment : Option String) (verbose quiet : Bool) : Filter :=
  (environment.bind parse?).getD (standard verbose quiet)

end Filter

end ApiDrift.Log
