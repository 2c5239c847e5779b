import ApiDrift.Pattern.Flags
import ApiDrift.Pattern.NamedClass

/-!
# Escapes in a regular expression

A backslash makes punctuation stand for itself and letters stand for control characters, classes and anchors. A character may also be given by its number in hexadecimal digits.
-/

namespace ApiDrift.Pattern

inductive Escape
  | char (c : Char)
  | oneOf (admitted : CharSet)
  | anchor (condition : Anchor)

namespace Escape

def isHexDigit (c : Char) : Bool :=
  c.isDigit || ('a' ≤ c && c ≤ 'f') || ('A' ≤ c && c ≤ 'F')

def hexValue (digits : List Char) : Nat :=
  digits.foldl (fun value c =>
    16 * value + (if c.isDigit then c.toNat - '0'.toNat else c.toLower.toNat - 'a'.toNat + 10)) 0

def charOf? (code : Nat) : Option Char :=
  if code.isValidChar then some (Char.ofNat code) else none

def numberedIn? (digits : List Char) (after : List Char) : Option (Escape × List Char) := do
  some (char (← charOf? (hexValue digits)), after)

/-- The number of a character: in braces, or in exactly `width` digits. Without the wide classes two digits give a byte, and one beyond ASCII is refused. -/
def numbered? (flags : Flags) (width : Nat) (text : List Char) : Option (Escape × List Char) :=
  match flags.skip text with
  | '\x7b' :: rest =>
    match flags.take isHexDigit rest.length rest with
    | (digits, '\x7d' :: after) => if digits.isEmpty then none else numberedIn? digits after
    | _ => none
  | rest =>
    let (digits, after) := flags.take isHexDigit width rest
    if digits.length != width || (flags.ascii && width == 2 && 128 ≤ hexValue digits) then none
    else numberedIn? digits after

/-- Special borders are named in braces after the border; anything else in braces is a count. -/
def border? (flags : Flags) : List Char → Option (Escape × List Char)
  | '\x7b' :: rest =>
    let isName (c : Char) : Bool := c.isAlpha || c == '-'
    match flags.skip rest with
    | [] => none
    | c :: more =>
      if isName c then
        let (name, after) := flags.take isName rest.length (c :: more)
        let condition? : Option Anchor :=
          match String.ofList name with
          | "start" => some (.wordStart flags.words)
          | "end" => some (.wordEnd flags.words)
          | "start-half" => some (.noWordBefore flags.words)
          | "end-half" => some (.noWordAfter flags.words)
          | _ => none
        match condition?, after with
        | some condition, '\x7d' :: after => some (anchor condition, after)
        | _, _ => none
      else some (anchor (.wordBorder flags.words), '\x7b' :: rest)
  | rest => some (anchor (.wordBorder flags.words), rest)

/-- A class with a name: one letter, or a name in braces. Such classes are wide ones. -/
def named? (flags : Flags) (turned : Bool) (text : List Char) : Option (Escape × List Char) :=
  let made (item : Bool × CharSet) (rest : List Char) : Option (Escape × List Char) := do
    if flags.ascii then none
    else
      let admitted := flags.folded item.2
      some (oneOf (if item.1 != turned then .complement admitted else admitted), rest)
  match flags.skip text with
  | '\x7b' :: rest =>
    match flags.take (· != '\x7d') rest.length rest with
    | (name, '\x7d' :: rest) => do made (← NamedClass.read? name) rest
    | _ => none
  | c :: rest => do made (← (NamedClass.ofName? (NamedClass.plain [c])).map fun set => (false, set)) rest
  | [] => none

/-- Reads what follows a backslash. -/
def read? (flags : Flags) : List Char → Option (Escape × List Char)
  | [] => none
  | c :: rest =>
    match c with
    | 'x' => numbered? flags 2 rest
    | 'u' => numbered? flags 4 rest
    | 'U' => numbered? flags 8 rest
    | 'p' => named? flags false rest
    | 'P' => named? flags true rest
    | 'a' => some (char '\x07', rest)
    | 'f' => some (char '\x0c', rest)
    | 't' => some (char '\t', rest)
    | 'n' => some (char '\n', rest)
    | 'r' => some (char '\r', rest)
    | 'v' => some (char '\x0b', rest)
    | 'A' => some (anchor .textStart, rest)
    | 'z' => some (anchor .textEnd, rest)
    | 'b' => border? flags rest
    | 'B' => some (anchor (.noWordBorder flags.words), rest)
    | '<' => some (anchor (.wordStart flags.words), rest)
    | '>' => some (anchor (.wordEnd flags.words), rest)
    | _ =>
      if c.isAlphanum then (flags.letterClass? c).map fun admitted => (oneOf admitted, rest)
      else if c.toNat < 128 then some (char c, rest)
      else none

end Escape

end ApiDrift.Pattern
