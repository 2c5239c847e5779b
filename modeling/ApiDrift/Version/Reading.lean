import ApiDrift.Text.Blank
import ApiDrift.Text.Digit
import ApiDrift.Version

/-!
# Reading versions

A version is written as three runs of digits divided by dots, and after a hyphen perhaps a label of ASCII letters, digits, dots and hyphens. Digits of any script make up a run, but only ASCII digits have a value, so a version in other digits is recognised and then refused. A version stands alone between blanks, or somewhere inside a tag.
-/

namespace ApiDrift.Version

/-- Three runs of digits, as they stand in the text. -/
structure Core where
  major : List Char
  minor : List Char
  patch : List Char

def isLabelChar (c : Char) : Bool := c.isAlphanum || c == '.' || c == '-'

/-- A run of at least one digit, as long as it can be. -/
def digitRun? (text : List Char) : Option (List Char × List Char) :=
  match text.takeWhile Text.isDigit with
  | [] => none
  | digits => some (digits, text.dropWhile Text.isDigit)

def afterDot? : List Char → Option (List Char)
  | '.' :: rest => some rest
  | _ => none

def core? (text : List Char) : Option (Core × List Char) := do
  let (major, rest) ← digitRun? text
  let (minor, rest) ← digitRun? (← afterDot? rest)
  let (patch, rest) ← digitRun? (← afterDot? rest)
  some (⟨major, minor, patch⟩, rest)

/-- The value of ASCII digits, if it fits into a word. -/
def number? (digits : List Char) : Option UInt64 :=
  if digits.all Char.isDigit then
    let value := Nat.ofDigitChars 10 digits 0
    if value < UInt64.size then some (UInt64.ofNat value) else none
  else none

def ofCore? (core : Core) (label : Option (List Char)) : Option Version := do
  some ⟨← number? core.major, ← number? core.minor, ← number? core.patch, label.map String.ofList⟩

/-- The label that makes up all that follows the numbers; nothing at all is no label. -/
def wholeLabel? : List Char → Option (Option (List Char))
  | [] => some none
  | '-' :: label => if label.isEmpty || !label.all isLabelChar then none else some (some label)
  | _ => none

/-- The longest label that follows the numbers. -/
def leadingLabel : List Char → Option (List Char)
  | '-' :: rest =>
    match rest.takeWhile isLabelChar with
    | [] => none
    | label => some label
  | _ => none

def trim (text : List Char) : List Char :=
  ((text.dropWhile Text.isBlank).reverse.dropWhile Text.isBlank).reverse

def alone? (text : List Char) : Option Version := do
  let (core, rest) ← core? text
  ofCore? core (← wholeLabel? rest)

/-- The first place where a version is written decides, even if its numbers are refused. -/
def embedded? : List Char → Option Version
  | [] => none
  | c :: rest =>
    match core? (c :: rest) with
    | some (core, after) => ofCore? core (leadingLabel after)
    | none => embedded? rest

/-- Reads a version that stands alone; blanks around it do not count. -/
def parse (text : String) : Except Failure Version :=
  match alone? (trim text.toList) with
  | some version => .ok version
  | none => .error (.invalidVersion text)

/-- Reads the first version inside a tag. -/
def guess (tag : String) : Except Failure Version :=
  match embedded? tag.toList with
  | some version => .ok version
  | none => .error (.invalidVersion tag)

end ApiDrift.Version
