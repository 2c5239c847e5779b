import ApiDrift.Pattern.CodeRange
import ApiDrift.Pattern.Expr
import ApiDrift.Text.Encoded

/-!
# The room that an expression takes

To be looked for, an expression is laid out as two automata over bytes, one that reads forwards and one that reads backwards. A state takes 32 bytes, a step of a state with several of them 8 more, and a way on from a fork 4 more. An expression is refused when one of its automata takes more than ten mebibytes.

A count repeats the states of what it counts. A class with characters beyond ASCII is laid out forwards as the smallest automaton for its byte sequences, and backwards as their tree. Words to choose from share their beginnings, or backwards their ends.
-/

namespace ApiDrift.Pattern

/-- What is known of the form of an expression, where it makes a difference to the room around it. -/
inductive Form
  | nothing
  | word (letters : List Char)
  | oneOf (codes : List CodeRange)
  | words (choices : List (List Char))
  | branches (count : Nat)
  | other

/-- The room of an expression in both automata, whether it may or must span nothing, and whether all it spans begins where the text begins or ends where the text ends. -/
structure Room where
  form : Form
  forward : Nat
  backward : Nat
  maySpanNothing : Bool := false
  spansNothing : Bool := false
  fromStart : Bool := false
  toEnd : Bool := false

namespace Room

def state : Nat := 32

/-- A state with steps for several ranges of bytes. -/
def wideState (steps : Nat) : Nat := state + 8 * steps

/-- A state from which some number of ways go on. -/
def fork (ways : Nat) : Nat := state + 4 * ways

def limit : Nat := 10 * 1024 * 1024

/-! ## Byte sequences -/

def sameHead (a b : List Text.ByteRange) : Bool := a.head? == b.head?

/-- All places in the tree of some sequences, each given by the sequences that go on from it. -/
def places : Nat → List (List Text.ByteRange) → List (List (List Text.ByteRange))
  | 0, _ => []
  | depth + 1, sequences =>
    if sequences.all List.isEmpty then []
    else sequences :: (sequences.splitBy sameHead).flatMap fun group =>
      places depth (group.map List.tail)

/-- The steps in the tree of some sequences. -/
def treeSteps (sequences : List (List Text.ByteRange)) : Nat :=
  (places 4 sequences).foldl (fun steps place => steps + (place.splitBy sameHead).length) 0

/-- Places with the same continuations are one state of the smallest automaton. -/
def smallest (sequences : List (List Text.ByteRange)) : Nat :=
  (places 4 sequences).eraseDups.foldl
    (fun room place => room + wideState (place.splitBy sameHead).length) state

/-! ## Words -/

/-- Divides a list of words wherever one is empty. -/
def betweenEmpty {α : Type} : List (List α) → List (List (List α))
  | [] => [[]]
  | [] :: rest => [] :: betweenEmpty rest
  | word :: rest =>
    match betweenEmpty rest with
    | [] => [[word]]
    | first :: others => (word :: first) :: others

/-- The states for one of several words that begin alike so far. A word that ends here parts those before it from those after it. -/
def wordTree : Nat → List (List UInt8) → Nat
  | 0, _ => 0
  | depth + 1, words =>
    if words.all List.isEmpty then 0
    else
      let firsts (stretch : List (List UInt8)) : List UInt8 := (stretch.filterMap List.head?).eraseDups
      let stretches := (betweenEmpty words).map fun stretch => (stretch, firsts stretch)
      let ways := (stretches.filter fun item => !item.2.isEmpty).length + (stretches.length - 1)
      stretches.foldl (fun room item =>
        item.2.foldl (fun room first =>
          room + wordTree depth
            ((item.1.filter fun word => word.head? == some first).map List.tail))
          (room + match item.2 with
            | [] => 0
            | [_] => state
            | several => wideState several.length)) (fork ways)

def bytes (letters : List Char) : List UInt8 := letters.flatMap String.utf8EncodeChar

/-! ## Expressions -/

def nothing : Room := ⟨.nothing, state, state, true, true, false, false⟩

def ofWord (letters : List Char) : Room :=
  { form := .word letters
    forward := state * (bytes letters).length
    backward := state * (bytes letters).length }

def ofCodes (codes : List CodeRange) : Room :=
  let sequences := codes.flatMap fun range => Text.encodedRange range.1 range.2
  match codes, sequences with
  | _, [] => ⟨.oneOf codes, state + wideState 0, state + wideState 0, true, false, false, false⟩
  | [(first, last)], _ =>
    if first = last then ofWord [Char.ofNat first]
    else sized codes sequences
  | _, _ => sized codes sequences
where
  sized (codes : List CodeRange) (sequences : List (List Text.ByteRange)) : Room :=
    if sequences.all fun sequence => sequence.length == 1 then
      { form := .oneOf codes
        forward := state + wideState sequences.length
        backward := state + wideState sequences.length }
    else
      { form := .oneOf codes
        forward := smallest sequences
        backward := fork sequences.length + state + state * treeSteps sequences }

def ofSet (admitted : CharSet) : Room := ofCodes admitted.codes

def ofAnchor (condition : Anchor) : Room :=
  ⟨.other, state, state, true, true, condition matches .textStart, condition matches .textEnd⟩

/-- A group that is kept leaves a state at its start and one at its end, on the way forwards. -/
def kept (room : Room) : Room := { room with form := .other, forward := room.forward + 2 * state }

def total (rooms : List Room) (room : Room → Nat) : Nat :=
  rooms.foldl (fun sum one => sum + room one) 0

/-- The condition holds of a part that is reached before any character. -/
def reaches (condition : Room → Bool) : List Room → Bool
  | [] => false
  | room :: rest => condition room || (room.spansNothing && reaches condition rest)

def letters? (room : Room) : Option (List Char) :=
  match room.form with
  | .word letters => some letters
  | _ => none

def codes? (room : Room) : Option (List CodeRange) :=
  match room.form with
  | .oneOf codes => some codes
  | _ => none

def isNothing (room : Room) : Bool := room.form matches .nothing

/-- Parts in a row. Those that can be nothing but empty take no room. -/
def inRow (parts : List Room) : Room :=
  match parts.filter fun room => !room.isNothing with
  | [] => nothing
  | [room] => room
  | rooms =>
    match rooms.mapM letters? with
    | some words => ofWord words.flatten
    | none =>
      { form := .other
        forward := total rooms forward
        backward := total rooms backward
        maySpanNothing := rooms.all maySpanNothing
        spansNothing := rooms.all spansNothing
        fromStart := reaches fromStart rooms
        toEnd := reaches toEnd rooms.reverse }

def branchCount (room : Room) : Nat :=
  match room.form with
  | .branches count => count
  | _ => 1

/-- The states of the branches of an expression, without the fork and the end around them. -/
def branchRoom (side : Room → Nat) (room : Room) : Nat :=
  match room.form with
  | .branches count => side room - fork count - state
  | _ => side room

def ofWords (choices : List (List Char)) : Room :=
  let words := choices.map bytes
  let longest := words.foldl (fun most word => max most word.length) 0
  { form := .words choices
    forward := state + wordTree longest words
    backward := state + wordTree longest (words.map List.reverse) }

/-- One of several branches. Branches of branches are branches, and characters to choose from are a class. -/
def oneOf (branches : List Room) : Room :=
  let rooms := branches.flatMap fun room =>
    match room.form with
    | .words choices => choices.map ofWord
    | _ => [room]
  match rooms with
  | [room] => room
  | _ =>
    match rooms.mapM letters?, rooms.mapM codes? with
    | some words, _ =>
      if words.all fun word => word.length == 1 then
        ofCodes (CodeRange.inOrder (words.flatten.map fun c => (c.toNat, c.toNat)))
      else ofWords words
    | _, some classes => ofCodes (CodeRange.inOrder classes.flatten)
    | none, none =>
      let count := total rooms branchCount
      { form := .branches count
        forward := fork count + state + total rooms (branchRoom forward)
        backward := fork count + state + total rooms (branchRoom backward)
        maySpanNothing := rooms.any maySpanNothing
        spansNothing := rooms.all spansNothing
        fromStart := rooms.all fromStart
        toEnd := rooms.all toEnd }

/-- The states of a repetition of something that takes the given room. -/
def copies (mayBeNothing : Bool) (low : Nat) (high : Option Nat) (room : Nat) : Nat :=
  match low, high with
  | 0, none => if mayBeNothing then room + fork 2 + fork 2 + state else room + fork 2
  | 0, some 1 => room + fork 2 + state
  | low, none => low * room + fork 2
  | low, some high =>
    if low = high then low * room
    else (if low = 0 then state else low * room) + state + (high - low) * (room + fork 2)

/-- A repetition. What spans nothing is not repeated. -/
def repeated (low : Nat) (high : Option Nat) (room : Room) : Room :=
  let most := if room.spansNothing then some (min (high.getD 1) 1) else high
  let least := if room.spansNothing then min low 1 else low
  if most = some 0 then nothing
  else if least = 1 && most = some 1 then room
  else
    { form := .other
      forward := copies room.maySpanNothing least most room.forward
      backward := copies room.maySpanNothing least most room.backward
      maySpanNothing := least = 0 || room.maySpanNothing
      spansNothing := room.spansNothing
      fromStart := least ≠ 0 && room.fromStart
      toEnd := least ≠ 0 && room.toEnd }

/-- What leads from any place of a text into an automaton; an automaton that has to begin at the end of the text needs only a state for it. -/
def lead (anchored : Bool) : Nat := if anchored then state else state + wideState 1 + fork 2

/-- Forwards the whole match is kept as a group is, and both automata have a last state. -/
def fits (room : Room) : Bool :=
  lead room.fromStart + room.kept.forward + state ≤ limit &&
    lead room.toEnd + room.backward + state ≤ limit

end Room

end ApiDrift.Pattern
