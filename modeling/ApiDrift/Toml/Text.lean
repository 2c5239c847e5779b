/-!
# Characters of a TOML document

Blanks, line breaks and comments, and the four kinds of strings. A string stands between single quotes as it is, or between double quotes with escapes; three quotes of either kind open a string of several lines. A line break inside it is read as a line feed, and one right after the opening quotes is no part of it.
-/

namespace ApiDrift.Toml

/-- Reads something from the front of a text. -/
abbrev Reader (α : Type) := List Char → Option (α × List Char)

def isSpace (c : Char) : Bool := c == ' ' || c == '\t'

def skipSpaces (text : List Char) : List Char := text.dropWhile isSpace

/-- Control characters other than the tab stand nowhere in a document. -/
def isPlain (c : Char) : Bool := c == '\t' || (32 ≤ c.toNat && c.toNat ≠ 127)

def afterLineBreak? : List Char → Option (List Char)
  | '\n' :: rest => some rest
  | '\r' :: '\n' :: rest => some rest
  | _ => none

/-- A comment runs to the end of its line. -/
def skipComment : List Char → List Char
  | '#' :: rest => rest.dropWhile isPlain
  | text => text

/-- Passes what may stand behind a complete line of a document. -/
def endLine? (text : List Char) : Option (List Char) :=
  match skipComment (skipSpaces text) with
  | [] => some []
  | rest => afterLineBreak? rest

/-- Passes blanks, comments and line breaks. -/
def skipLayout (text : List Char) : List Char :=
  let rest := skipComment (skipSpaces text)
  match afterLineBreak? rest with
  | some later => if later.length < text.length then skipLayout later else rest
  | none => rest
termination_by text.length

/-! ### Strings -/

def hexValue? (c : Char) : Option Nat :=
  if c.isDigit then some (c.toNat - '0'.toNat)
  else if 'a' ≤ c && c ≤ 'f' then some (c.toNat - 'a'.toNat + 10)
  else if 'A' ≤ c && c ≤ 'F' then some (c.toNat - 'A'.toNat + 10)
  else none

/-- A character given by its number in so many hexadecimal digits. -/
def numbered? (digits : Nat) (text : List Char) : Option (List Char × List Char) := do
  if text.length < digits then none
  let number ← (text.take digits).foldlM (fun value c => (hexValue? c).map (16 * value + ·)) 0
  if number.isValidChar then some ([Char.ofNat number], text.drop digits) else none

/-- Reads an escape after its backslash. -/
def escape? : Reader (List Char)
  | 'b' :: rest => some (['\x08'], rest)
  | 't' :: rest => some (['\t'], rest)
  | 'n' :: rest => some (['\n'], rest)
  | 'f' :: rest => some (['\x0c'], rest)
  | 'r' :: rest => some (['\r'], rest)
  | '"' :: rest => some (['"'], rest)
  | '\\' :: rest => some (['\\'], rest)
  | 'u' :: rest => numbered? 4 rest
  | 'U' :: rest => numbered? 8 rest
  | _ => none

def literalUnit? : Reader (List Char)
  | c :: rest => if isPlain c then some ([c], rest) else none
  | [] => none

def escapedUnit? : Reader (List Char)
  | '\\' :: rest => escape? rest
  | text => literalUnit? text

def brokenUnit? (unit : Reader (List Char)) : Reader (List Char) := fun text =>
  match afterLineBreak? text with
  | some rest => some (['\n'], rest)
  | none => unit text

/-- A backslash at the end of a line joins the line with what follows on later lines. -/
def joinedUnit? : Reader (List Char)
  | '\\' :: rest =>
    match afterLineBreak? (skipSpaces rest) with
    | some later => some ([], skipBreaks later)
    | none => escape? rest
  | text => brokenUnit? literalUnit? text
where
  /-- Passes blanks and line breaks. -/
  skipBreaks (text : List Char) : List Char :=
    match afterLineBreak? (skipSpaces text) with
    | some later => if later.length < text.length then skipBreaks later else later
    | none => skipSpaces text
  termination_by text.length

/-- Reads a string of one line after its opening quote. -/
def shortString? (quote : Char) (unit : Reader (List Char)) (made : List Char)
    (text : List Char) : Option (String × List Char) :=
  if text.head? = some quote then some (String.ofList made, text.tail)
  else
    match unit text with
    | some (characters, later) =>
      if later.length < text.length then shortString? quote unit (made ++ characters) later
      else none
    | none => none
termination_by text.length

/-- Reads a string of several lines. Up to two quotes may stand right before the three that close it. -/
def longString? (quote : Char) (unit : Reader (List Char)) (made : List Char)
    (text : List Char) : Option (String × List Char) :=
  let run := text.takeWhile (· == quote)
  if 3 ≤ run.length then
    if run.length ≤ 5 then
      some (String.ofList (made ++ run.drop 3), text.drop run.length)
    else none
  else if run.isEmpty then
    match unit text with
    | some (characters, later) =>
      if later.length < text.length then longString? quote unit (made ++ characters) later
      else none
    | none => none
  else
    if (text.drop run.length).length < text.length then
      longString? quote unit (made ++ run) (text.drop run.length)
    else none
termination_by text.length
decreasing_by all_goals assumption

def withoutFirstBreak (text : List Char) : List Char := (afterLineBreak? text).getD text

def string? : Reader String
  | '"' :: '"' :: '"' :: rest => longString? '"' joinedUnit? [] (withoutFirstBreak rest)
  | '\'' :: '\'' :: '\'' :: rest =>
    longString? '\'' (brokenUnit? literalUnit?) [] (withoutFirstBreak rest)
  | text => line? text
where
  /-- Reads a string of one line. -/
  line? : Reader String
    | '"' :: rest => shortString? '"' escapedUnit? [] rest
    | '\'' :: rest => shortString? '\'' literalUnit? [] rest
    | _ => none

/-! ### Keys -/

def isBare (c : Char) : Bool := c.isAlphanum || c == '_' || c == '-'

def simpleKey? (text : List Char) : Option (String × List Char) :=
  match text.takeWhile isBare with
  | [] => string?.line? text
  | name => some (String.ofList name, text.dropWhile isBare)

/-- Reads names divided by dots. -/
def path? (text : List Char) : Option (List String × List Char) := do
  let (name, rest) ← simpleKey? (skipSpaces text)
  match skipSpaces rest with
  | '.' :: later =>
    if later.length < text.length then
      let (names, rest) ← path? later
      some (name :: names, rest)
    else none
  | rest => some ([name], rest)
termination_by text.length

end ApiDrift.Toml
