import ApiDrift.Json.Tree

/-!
# Quoted text

A text stands between quotes. A quote, a backslash and the control characters are escaped inside it; any other character may be escaped too, by its number, and one beyond the first plane by a pair of surrogates. A surrogate without its partner leaves a text that no string can hold.
-/

namespace ApiDrift.Json

def hexDigit (digit : Nat) : Char := Nat.digitChar digit

/-- One character inside quotes. -/
def escaped (c : Char) : List Char :=
  match c with
  | '"' => ['\\', '"']
  | '\\' => ['\\', '\\']
  | '\x08' => ['\\', 'b']
  | '\x0c' => ['\\', 'f']
  | '\n' => ['\\', 'n']
  | '\r' => ['\\', 'r']
  | '\t' => ['\\', 't']
  | c =>
    if c.toNat < 32 then ['\\', 'u', '0', '0', hexDigit (c.toNat / 16), hexDigit (c.toNat % 16)]
    else [c]

def quoted (text : String) : List Char := '"' :: (text.toList.flatMap escaped ++ ['"'])

/-- What a letter after a backslash stands for. -/
def shortEscape? : Char → Option Char
  | '"' => some '"'
  | '\\' => some '\\'
  | '/' => some '/'
  | 'b' => some '\x08'
  | 'f' => some '\x0c'
  | 'n' => some '\n'
  | 'r' => some '\r'
  | 't' => some '\t'
  | _ => none

def hexValue? (c : Char) : Option Nat :=
  if c.isDigit then some (c.toNat - '0'.toNat)
  else if 'a' ≤ c && c ≤ 'f' then some (c.toNat - 'a'.toNat + 10)
  else if 'A' ≤ c && c ≤ 'F' then some (c.toNat - 'A'.toNat + 10)
  else none

/-- The number that four hexadecimal digits write. -/
def unit? (digits : List Char) : Option Nat :=
  digits.foldlM (fun value c => (hexValue? c).map (16 * value + ·)) 0

def isHighSurrogate (unit : Nat) : Bool := 0xD800 ≤ unit && unit < 0xDC00

def isLowSurrogate (unit : Nat) : Bool := 0xDC00 ≤ unit && unit < 0xE000

/-- What was read of a text: its characters, last first, a first half that waits for its partner, and whether every half has found its own so far. -/
structure Draft where
  characters : List Char := []
  waiting : Option Nat := none
  paired : Bool := true

namespace Draft

def push (draft : Draft) (c : Char) : Draft :=
  ⟨c :: draft.characters, none, draft.paired && draft.waiting.isNone⟩

def pushUnit (draft : Draft) (unit : Nat) : Draft :=
  match draft.waiting with
  | some high =>
    if isLowSurrogate unit then
      ⟨Char.ofNat (0x10000 + (high - 0xD800) * 0x400 + (unit - 0xDC00)) :: draft.characters, none,
        draft.paired⟩
    else ⟨draft.characters, if isHighSurrogate unit then some unit else none, false⟩
  | none =>
    if isHighSurrogate unit then { draft with waiting := some unit }
    else if isLowSurrogate unit then { draft with paired := false }
    else draft.push (Char.ofNat unit)

/-- The text at its closing quote. -/
def close (draft : Draft) : Json :=
  if draft.paired && draft.waiting.isNone then text (String.ofList draft.characters.reverse)
  else unpaired

/-- The text where it ends too early. -/
def unfinished (draft : Draft) : Json :=
  Json.cut (if draft.paired then .unfinished else .unfinishedUnpaired)

/-- The text where an escape lacks its four digits. Whether there was room for them is judged by bytes. -/
def withoutUnit (draft : Draft) (rest : List Char) : Json :=
  if (rest.take 4).foldl (fun size c => size + c.utf8Size) 0 < 4 then draft.unfinished
  else Json.cut .malformed

end Draft

/-- Reads a text after its opening quote. -/
def readText (draft : Draft) : List Char → Json × List Char
  | [] => (draft.unfinished, [])
  | '"' :: rest => (draft.close, rest)
  | '\\' :: 'u' :: a :: b :: c :: d :: rest =>
    match unit? [a, b, c, d] with
    | some unit => readText (draft.pushUnit unit) rest
    | none => (draft.withoutUnit (a :: b :: c :: d :: rest), [])
  | '\\' :: 'u' :: rest => (draft.withoutUnit rest, [])
  | ['\\'] => (draft.unfinished, [])
  | '\\' :: letter :: rest =>
    match shortEscape? letter with
    | some c => readText (draft.push c) rest
    | none => (.cut .malformed, [])
  | c :: rest =>
    if c.toNat < 32 then (.cut .malformed, [])
    else readText (draft.push c) rest

theorem length_readText (draft : Draft) (text : List Char) :
    (readText draft text).2.length ≤ text.length := by
  fun_induction readText draft text <;> simp_all <;> omega

end ApiDrift.Json
