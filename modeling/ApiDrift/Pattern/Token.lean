import ApiDrift.Pattern.Bracket
import ApiDrift.Pattern.Part
import ApiDrift.Text.Letter
import ApiDrift.Text.Number

/-!
# Tokens of a regular expression

A regular expression is read into tokens with the flags already worked in: an atom spans or checks something, and the other tokens group, divide and repeat. A place where flags are set leaves a token too, because it cannot be repeated.
-/

namespace ApiDrift.Pattern

inductive Token
  | atom (part : Part)
  | flagged
  | groupStart (keeps : Bool)
  | groupEnd
  | bar
  | repetition (low : Nat) (high : Option Nat)

namespace Token

/-- The flags in force, those of the groups around, and the names that groups have so far. -/
structure Scan where
  flags : Flags := {}
  outer : List Flags := []
  names : List (List Char) := []

/-- What flags in parentheses end with. -/
structure FlagList where
  flags : Flags
  anySet : Bool
  opensGroup : Bool

/-- Reads flags up to a colon or a closing parenthesis. No flag may be given twice, and a hyphen turns off all flags that follow it. -/
def flagList? (flags : Flags) (given : List Char) (off dangling : Bool) :
    List Char → Option (FlagList × List Char)
  | [] => none
  | c :: rest =>
    if c == ':' || c == ')' then
      if dangling then none else some (⟨flags, off || !given.isEmpty, c == ':'⟩, rest)
    else if c == '-' then
      if off then none else flagList? flags given true true rest
    else if given.contains c then none
    else
      match flags.turn? c (!off) with
      | some flags => flagList? flags (c :: given) off false rest
      | none => none

def isNameStart (c : Char) : Bool :=
  c == '_' || Text.isLetter c

def isNameChar (c : Char) : Bool :=
  isNameStart c || Text.isNumber c || c == '.' || c == '[' || c == ']'

/-- Reads the name of a group up to the closing angle. -/
def name? (text : List Char) : Option (List Char × List Char) :=
  match text.takeWhile (· != '>'), text.dropWhile (· != '>') with
  | c :: rest, _ :: after =>
    if isNameStart c && rest.all isNameChar then some (c :: rest, after) else none
  | _, _ => none

def enter (scan : Scan) (flags : Flags) : Scan :=
  { scan with flags := flags, outer := scan.flags :: scan.outer }

def enterNamed? (scan : Scan) (text : List Char) : Option (Scan × Token × List Char) := do
  let (name, rest) ← name? text
  if scan.names.contains name then none
  else some ({ enter scan scan.flags with names := name :: scan.names }, groupStart true, rest)

/-- Reads what follows an opening parenthesis. Looking around is not supported. -/
def group? (scan : Scan) (text : List Char) : Option (Scan × Token × List Char) :=
  match scan.flags.skip text with
  | '?' :: '=' :: _ => none
  | '?' :: '!' :: _ => none
  | '?' :: '<' :: '=' :: _ => none
  | '?' :: '<' :: '!' :: _ => none
  | '?' :: 'P' :: '<' :: rest => enterNamed? scan rest
  | '?' :: '<' :: rest => enterNamed? scan rest
  | '?' :: rest => do
    let (list, rest) ← flagList? scan.flags [] false false rest
    if list.opensGroup then some (enter scan list.flags, groupStart false, rest)
    else if list.anySet then some ({ scan with flags := list.flags }, flagged, rest)
    else none
  | rest => some (enter scan scan.flags, groupStart true, rest)

/-- A number of 32 bits between blanks. -/
def count? (flags : Flags) (text : List Char) : Option Nat × List Char :=
  let (digits, rest) := flags.take Char.isDigit text.length (text.dropWhile Text.isBlank)
  let value := Nat.ofDigitChars 10 digits 0
  (if digits.isEmpty || UInt32.size ≤ value then none else some value, rest.dropWhile Text.isBlank)

/-- Whether a repetition is greedy makes no difference here. -/
def skipLazy : List Char → List Char
  | '?' :: rest => rest
  | rest => rest

/-- Reads the bounds of a repetition after its opening brace. -/
def bounds? (flags : Flags) (text : List Char) : Option (Token × List Char) :=
  match count? flags (flags.skip text) with
  | (some low, '\x7d' :: rest) => some (repetition low (some low), skipLazy (flags.skip rest))
  | (some low, ',' :: rest) =>
    match flags.skip rest with
    | '\x7d' :: rest => some (repetition low none, skipLazy (flags.skip rest))
    | rest =>
      match count? flags rest with
      | (some high, '\x7d' :: rest) =>
        if high < low then none
        else some (repetition low (some high), skipLazy (flags.skip rest))
      | _ => none
  | _ => none

def ofEscape (flags : Flags) : Escape → Part
  | .char c => .ofSet (flags.folded (.single c)) 0
  | .oneOf admitted => .ofSet admitted 0
  | .anchor condition => .ofAnchor condition

/-- Reads one token. -/
def next? (scan : Scan) (text : List Char) : Option (Scan × Token × List Char) :=
  match text with
  | [] => none
  | '(' :: rest => group? scan rest
  | ')' :: rest =>
    match scan.outer with
    | [] => none
    | flags :: outer => some ({ scan with flags := flags, outer := outer }, groupEnd, rest)
  | '|' :: rest => some (scan, bar, rest)
  | '[' :: rest =>
    (Bracket.read? scan.flags rest).map fun item =>
      (scan, atom (.ofSet item.1.admitted item.1.depth), item.2)
  | '?' :: rest => some (scan, repetition 0 (some 1), skipLazy rest)
  | '*' :: rest => some (scan, repetition 0 none, skipLazy rest)
  | '+' :: rest => some (scan, repetition 1 none, skipLazy rest)
  | '\x7b' :: rest => (bounds? scan.flags rest).map fun item => (scan, item.1, item.2)
  | '\\' :: rest =>
    (Escape.read? scan.flags rest).map fun item => (scan, atom (ofEscape scan.flags item.1), item.2)
  | '.' :: rest => scan.flags.dot?.map fun admitted => (scan, atom (.ofSet admitted 0), rest)
  | '^' :: rest => some (scan, atom (.ofAnchor scan.flags.startAnchor), rest)
  | '$' :: rest => some (scan, atom (.ofAnchor scan.flags.endAnchor), rest)
  | c :: rest => some (scan, atom (ofEscape scan.flags (.char c)), rest)

/-- Reads all tokens. Every one of them takes some of the text. -/
def all? (scan : Scan) (text : List Char) : Option (List Token) :=
  match scan.flags.skip text with
  | [] => some []
  | c :: more =>
    match next? scan (c :: more) with
    | none => none
    | some (scan, token, rest) =>
      if rest.length < text.length then (all? scan rest).map (token :: ·) else none
termination_by text.length

end Token

end ApiDrift.Pattern
