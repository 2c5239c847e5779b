import ApiDrift.Decimal.Binary
import ApiDrift.Toml.Text
import ApiDrift.Toml.Value

/-!
# Numbers, dates and times in TOML

Whole numbers have 64 bits and a sign, and may be written in other bases than ten. Other numbers have a fraction, a power of ten or both. Single underscores may stand between digits. Dates and times have a fixed number of digits in each place and must be possible.
-/

namespace ApiDrift.Toml

/-! ### Numbers -/

/-- At least one digit, with the underscores between digits left out. -/
def ungrouped? (isDigit : Char → Bool) : List Char → Option (List Char)
  | [] => none
  | [c] => if isDigit c then some [c] else none
  | c :: '_' :: rest => if isDigit c then (ungrouped? isDigit rest).map (c :: ·) else none
  | c :: rest => if isDigit c then (ungrouped? isDigit rest).map (c :: ·) else none

def unsigned : List Char → Bool × List Char
  | '-' :: rest => (true, rest)
  | '+' :: rest => (false, rest)
  | rest => (false, rest)

/-- Decimal digits without a leading zero. -/
def wholeDigits? (text : List Char) : Option (List Char) :=
  match text with
  | '0' :: _ :: _ => none
  | text => ungrouped? Char.isDigit text

/-- Whole numbers lie from the negative of this bound to just below it. -/
def integerBound : Nat := Nat.pow 2 63

def isBasedInteger (isDigit : Char → Bool) (base : Nat) (text : List Char) : Bool :=
  match ungrouped? isDigit text with
  | some digits =>
    digits.foldl (fun value c => base * value + (hexValue? c).getD 0) 0 < integerBound
  | none => false

def isInteger (text : List Char) : Bool :=
  match text with
  | '0' :: 'x' :: rest => isBasedInteger (fun c => (hexValue? c).isSome) 16 rest
  | '0' :: 'o' :: rest => isBasedInteger (fun c => '0' ≤ c && c ≤ '7') 8 rest
  | '0' :: 'b' :: rest => isBasedInteger (fun c => c == '0' || c == '1') 2 rest
  | text =>
    let (negative, text) := unsigned text
    match wholeDigits? text with
    | some digits =>
      if negative then Decimal.value digits ≤ integerBound
      else Decimal.value digits < integerBound
    | none => false

def isDigitOrUnderscore (c : Char) : Bool := c.isDigit || c == '_'

/-- What follows the point or the whole part up to the end: digits and perhaps a power of ten. -/
def power? : List Char → Option (Option (Bool × List Char))
  | [] => some none
  | c :: rest =>
    if c == 'e' || c == 'E' then
      (ungrouped? Char.isDigit (unsigned rest).2).map fun digits => some ((unsigned rest).1, digits)
    else none

def numeral? (text : List Char) : Option Decimal.Numeral := do
  let (negative, text) := unsigned text
  let whole ← wholeDigits? (text.takeWhile isDigitOrUnderscore)
  match text.dropWhile isDigitOrUnderscore with
  | '.' :: rest =>
    let fraction ← ungrouped? Char.isDigit (rest.takeWhile isDigitOrUnderscore)
    let power ← power? (rest.dropWhile isDigitOrUnderscore)
    some ⟨negative, whole, some fraction, power⟩
  | [] => none
  | rest =>
    let power ← power? rest
    some ⟨negative, whole, none, power⟩

/-- A positive number may not be so large that it counts as infinite, unless it says so. -/
def isFloat (text : List Char) : Bool :=
  let name := String.ofList (unsigned text).2
  name == "inf" || name == "nan" ||
    match numeral? text with
    | some numeral => numeral.negative || !numeral.overflows
    | none => false

/-! ### Dates and times -/

/-- A number of so many digits between two bounds. -/
def bounded? (digits low high : Nat) (text : List Char) : Option (Nat × List Char) :=
  let run := text.take digits
  let value := Decimal.value run
  if run.length = digits && run.all Char.isDigit && low ≤ value && value ≤ high then
    some (value, text.drop digits)
  else none

def after? (c : Char) : List Char → Option (List Char)
  | d :: rest => if d = c then some rest else none
  | [] => none

def isLeap (year : Nat) : Bool := (year % 4 = 0 && year % 100 ≠ 0) || year % 400 = 0

def daysIn (year month : Nat) : Nat :=
  if month = 2 then if isLeap year then 29 else 28
  else if month = 4 || month = 6 || month = 9 || month = 11 then 30
  else 31

/-- Passes a date. -/
def afterDate? (text : List Char) : Option (List Char) := do
  let (year, text) ← bounded? 4 0 9999 text
  let (month, text) ← bounded? 2 1 12 (← after? '-' text)
  let (_, text) ← bounded? 2 1 (daysIn year month) (← after? '-' text)
  some text

def afterSecondFraction? : List Char → Option (List Char)
  | '.' :: c :: rest => if c.isDigit then some (rest.dropWhile Char.isDigit) else none
  | '.' :: _ => none
  | rest => some rest

/-- Passes a time of day; a minute may have a leap second. -/
def afterTime? (text : List Char) : Option (List Char) := do
  let (_, text) ← bounded? 2 0 23 text
  let (_, text) ← bounded? 2 0 59 (← after? ':' text)
  let (_, text) ← bounded? 2 0 60 (← after? ':' text)
  afterSecondFraction? text

/-- Whether all that is left is nothing or an offset from universal time. -/
def isOffset : List Char → Bool
  | [] => true
  | [c] => c == 'Z' || c == 'z'
  | c :: rest =>
    (c == '+' || c == '-') &&
      ((do
        let (_, text) ← bounded? 2 0 23 rest
        let (_, text) ← bounded? 2 0 59 (← after? ':' text)
        some text) == some [])

def isTimeWithOffset (text : List Char) : Bool := (afterTime? text).any isOffset

def isDate (text : List Char) : Bool := afterDate? text == some []

def isMoment (text : List Char) : Bool :=
  afterTime? text == some [] ||
    match afterDate? text with
    | some [] => true
    | some (c :: rest) => (c == 'T' || c == 't') && isTimeWithOffset rest
    | none => false

/-! ### All scalars but strings -/

def isScalarChar (c : Char) : Bool := isBare c || c == '+' || c == '.' || c == ':'

def ofWord? (text : List Char) : Option Value :=
  let spelling := String.ofList text
  if spelling == "true" then some (.bool true)
  else if spelling == "false" then some (.bool false)
  else if isInteger text || isFloat text then some (.number spelling)
  else if isMoment text then some (.moment spelling)
  else none

/-- Reads a scalar that is no string. A blank may stand between a date and a time. -/
def scalar? (text : List Char) : Option (Value × List Char) :=
  let word := text.takeWhile isScalarChar
  let rest := text.dropWhile isScalarChar
  let time := rest.tail.takeWhile isScalarChar
  if isDate word && rest.head? = some ' ' && isTimeWithOffset time then
    some (.moment (String.ofList (word ++ ' ' :: time)), rest.tail.dropWhile isScalarChar)
  else (ofWord? word).map fun value => (value, rest)

end ApiDrift.Toml
