import ApiDrift.Json.Text

/-!
# Tokens of a JSON text

A token is a bracket, a comma, a colon or a scalar value. A scalar that breaks off, and any character that starts no token, is a cut, and it is the last token.
-/

namespace ApiDrift.Json

inductive Token
  | arrayStart
  | arrayEnd
  | objectStart
  | objectEnd
  | comma
  | colon
  | scalar (value : Json)

def isSpace (c : Char) : Bool := c == ' ' || c == '\n' || c == '\t' || c == '\r'

/-- A run of at least one digit. -/
def readDigits (text : List Char) : Except Fault (List Char × List Char) :=
  match text.takeWhile Char.isDigit with
  | [] => .error (if text.isEmpty then .unfinishedNumber else .malformed)
  | digits => .ok (digits, text.dropWhile Char.isDigit)

/-- No other digit may follow a leading zero. -/
def readWhole (text : List Char) : Except Fault (List Char × List Char) :=
  match text with
  | '0' :: c :: rest => if c.isDigit then .error .malformed else .ok (['0'], c :: rest)
  | text => readDigits text

def readFraction (text : List Char) : Except Fault (Option (List Char) × List Char) :=
  match text with
  | '.' :: rest => (readDigits rest).map fun run => (some run.1, run.2)
  | text => .ok (none, text)

def readPowerSign : List Char → Bool × List Char
  | '-' :: rest => (true, rest)
  | '+' :: rest => (false, rest)
  | rest => (false, rest)

def readPower (text : List Char) : Except Fault (Option (Bool × List Char) × List Char) :=
  match text with
  | c :: rest =>
    if c == 'e' || c == 'E' then
      (readDigits (readPowerSign rest).2).map fun run =>
        (some ((readPowerSign rest).1, run.1), run.2)
    else .ok (none, c :: rest)
  | [] => .ok (none, [])

/-- Reads a number after its sign. -/
def readNumber (negative : Bool) (text : List Char) :
    Except Fault (Decimal.Numeral × List Char) := do
  let (whole, rest) ← readWhole text
  let (fraction, rest) ← readFraction rest
  let (power, rest) ← readPower rest
  return (⟨negative, whole, fraction, power⟩, rest)

/-- Reads the rest of a word of which the first letter is known. -/
def readWord (value : Json) : List Char → List Char → Json × List Char
  | [], rest => (value, rest)
  | _ :: _, [] => (.cut .unfinishedWord, [])
  | letter :: letters, c :: rest =>
    if c = letter then readWord value letters rest else (.cut .malformed, [])

def numberOrCut (read : Except Fault (Decimal.Numeral × List Char)) : Json × List Char :=
  match read with
  | .ok (numeral, rest) => (.number numeral, rest)
  | .error fault => (.cut fault, [])

/-- Reads a scalar of which the first character is given. -/
def readScalar (c : Char) (rest : List Char) : Json × List Char :=
  match c with
  | '"' => readText {} rest
  | 'n' => readWord .null ['u', 'l', 'l'] rest
  | 't' => readWord (.bool true) ['r', 'u', 'e'] rest
  | 'f' => readWord (.bool false) ['a', 'l', 's', 'e'] rest
  | '-' => numberOrCut (readNumber true rest)
  | c =>
    if c.isDigit then numberOrCut (readNumber false (c :: rest)) else (.cut .malformed, [])

/-- Reads one token; its first character is no space. -/
def Token.read (c : Char) (rest : List Char) : Token × List Char :=
  match c with
  | '[' => (arrayStart, rest)
  | ']' => (arrayEnd, rest)
  | '\x7b' => (objectStart, rest)
  | '\x7d' => (objectEnd, rest)
  | ',' => (comma, rest)
  | ':' => (colon, rest)
  | c => (scalar (readScalar c rest).1, (readScalar c rest).2)

theorem length_readDigits {text digits rest : List Char}
    (h : readDigits text = .ok (digits, rest)) : rest.length < text.length := by
  unfold readDigits at h
  split at h
  · simp at h
  · rename_i run
    simp only [Except.ok.injEq, Prod.mk.injEq] at h
    have whole := congrArg List.length (@List.takeWhile_append_dropWhile _ Char.isDigit text)
    have nonempty : (text.takeWhile Char.isDigit).length ≠ 0 := by simpa using run
    simp only [List.length_append] at whole
    rw [← h.2]
    omega

theorem length_readWhole {text digits rest : List Char}
    (h : readWhole text = .ok (digits, rest)) : rest.length < text.length := by
  unfold readWhole at h
  split at h
  · split at h
    · simp at h
    · simp only [Except.ok.injEq, Prod.mk.injEq] at h
      simp [← h.2]
  · exact length_readDigits h

theorem length_readFraction {text rest : List Char} {digits : Option (List Char)}
    (h : readFraction text = .ok (digits, rest)) : rest.length ≤ text.length := by
  unfold readFraction at h
  split at h
  · rename_i after
    cases run : readDigits after with
    | error fault => simp [run, Except.map] at h
    | ok found =>
      have shorter := @length_readDigits _ found.1 found.2 (by rw [run])
      simp only [run, Except.map, Except.ok.injEq, Prod.mk.injEq] at h
      simp only [List.length_cons, ← h.2]
      omega
  · simp only [Except.ok.injEq, Prod.mk.injEq] at h
    simp [← h.2]

theorem length_readPowerSign (text : List Char) : (readPowerSign text).2.length ≤ text.length := by
  unfold readPowerSign
  split <;> simp

theorem length_readPower {text rest : List Char} {power : Option (Bool × List Char)}
    (h : readPower text = .ok (power, rest)) : rest.length ≤ text.length := by
  unfold readPower at h
  split at h
  · rename_i c after
    split at h
    · have unsigned := length_readPowerSign after
      cases run : readDigits (readPowerSign after).2 with
      | error fault => simp [run, Except.map] at h
      | ok found =>
        have shorter := @length_readDigits _ found.1 found.2 (by rw [run])
        simp only [run, Except.map, Except.ok.injEq, Prod.mk.injEq] at h
        simp only [List.length_cons, ← h.2]
        omega
    · simp only [Except.ok.injEq, Prod.mk.injEq] at h
      simp [← h.2]
  · simp only [Except.ok.injEq, Prod.mk.injEq] at h
    simp [← h.2]

theorem length_readNumber {negative : Bool} {text rest : List Char} {numeral : Decimal.Numeral}
    (h : readNumber negative text = .ok (numeral, rest)) : rest.length < text.length := by
  simp only [readNumber, bind, Except.bind] at h
  split at h
  · simp at h
  · rename_i whole readsWhole
    split at h
    · simp at h
    · rename_i fraction readsFraction
      split at h
      · simp at h
      · rename_i power readsPower
        have first := length_readWhole readsWhole
        have second := length_readFraction readsFraction
        have third := length_readPower readsPower
        simp only [pure, Except.pure, Except.ok.injEq, Prod.mk.injEq] at h
        rw [← h.2]
        omega

theorem length_numberOrCut {read : Except Fault (Decimal.Numeral × List Char)} {length : Nat}
    (h : ∀ numeral rest, read = .ok (numeral, rest) → rest.length ≤ length) :
    (numberOrCut read).2.length ≤ length := by
  unfold numberOrCut
  split
  · exact h _ _ rfl
  · simp

theorem length_readWord (value : Json) (letters text : List Char) :
    (readWord value letters text).2.length ≤ text.length := by
  fun_induction readWord value letters text <;> simp_all
  omega

theorem length_readScalar (c : Char) (rest : List Char) :
    (readScalar c rest).2.length ≤ rest.length := by
  unfold readScalar
  split
  · exact length_readText {} rest
  · exact length_readWord ..
  · exact length_readWord ..
  · exact length_readWord ..
  · exact length_numberOrCut fun _ _ h => Nat.le_of_lt (length_readNumber h)
  · split
    · exact length_numberOrCut fun _ _ h => Nat.le_of_lt_succ (length_readNumber h)
    · simp

theorem Token.length_read (c : Char) (rest : List Char) :
    (Token.read c rest).2.length ≤ rest.length := by
  unfold Token.read
  split <;> first | exact Nat.le_refl _ | exact length_readScalar _ _

/-- All tokens of a text. -/
def Token.all : List Char → List Token
  | [] => []
  | c :: rest =>
    if isSpace c then Token.all rest
    else (Token.read c rest).1 :: Token.all (Token.read c rest).2
termination_by text => text.length
decreasing_by
  · simp
  · exact Nat.lt_succ_of_le (Token.length_read c rest)

end ApiDrift.Json
