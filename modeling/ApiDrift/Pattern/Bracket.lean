import ApiDrift.Pattern.Escape

/-!
# Bracketed classes

A class in brackets lists characters, ranges, escapes, named classes and further classes. Lists can be combined by intersection, difference and symmetric difference, from the left and binding less tightly than the list itself. A closing bracket that comes first is a member, and so is a hyphen that cannot make a range.
-/

namespace ApiDrift.Pattern.Bracket

inductive Operation
  | intersection
  | difference
  | symmetricDifference

def Operation.combine : Operation → CharSet → CharSet → CharSet
  | intersection, a, b => .common a b
  | difference, a, b => .except a b
  | symmetricDifference, a, b => .oneOf a b

/-- The characters that a class admits, and how deeply things nest in it. -/
structure Class where
  admitted : CharSet
  depth : Nat

def Class.combine (flags : Flags) (operation : Operation) (left right : Class) : Class :=
  ⟨operation.combine (flags.folded left.admitted) (flags.folded right.admitted),
    max left.depth right.depth + 1⟩

/-- A class whose closing bracket has not come yet: the operation that waits for its right side, what is listed since, how many items that is, and the depth of the deepest. -/
structure Frame where
  negated : Bool
  left : Option (Operation × Class) := none
  members : CharSet := .nothing
  count : Nat := 0
  depth : Nat := 0

namespace Frame

def add (frame : Frame) (item : Class) : Frame :=
  { frame with
    members := .union frame.members item.admitted
    count := frame.count + 1
    depth := max frame.depth item.depth }

/-- Several items stand one level above each of them. -/
def value (flags : Flags) (frame : Frame) : Class :=
  let listed : Class := ⟨frame.members, if 1 < frame.count then frame.depth + 1 else frame.depth⟩
  match frame.left with
  | none => listed
  | some (operation, left) => Class.combine flags operation left listed

def operate (flags : Flags) (frame : Frame) (operation : Operation) : Frame :=
  { negated := frame.negated, left := some (operation, frame.value flags) }

def close? (flags : Flags) (frame : Frame) : Option Class := do
  let value := frame.value flags
  let admitted := flags.folded value.admitted
  some ⟨← if frame.negated then flags.excluded? admitted else some admitted, value.depth + 1⟩

end Frame

/-- Reads what follows an opening bracket up to the first ordinary member. -/
def open? (flags : Flags) (text : List Char) : Option (Frame × List Char) :=
  let text := flags.skip text
  let negated := text.head? == some '^'
  let text := if negated then text.tail else text
  match flags.take (· == '-') text.length text with
  | ([], []) => none
  | ([], ']' :: rest) =>
    if (flags.skip rest).isEmpty then none
    else some ({ negated, members := .single ']', count := 1 }, rest)
  | ([], rest) => some ({ negated }, rest)
  | (hyphens, rest) =>
    if rest.isEmpty then none
    else some ({ negated, members := .single '-', count := hyphens.length }, rest)

/-- A class named between colons, after its opening bracket, and whether it is turned round. -/
def named? : List Char → Option (Bool × CharSet × List Char)
  | ':' :: text => do
    let negated := text.head? == some '^'
    let text := if negated then text.tail else text
    match text.dropWhile (· != ':') with
    | ':' :: ']' :: rest =>
      let admitted ← Flags.namedClass? (String.ofList (text.takeWhile (· != ':')))
      some (negated, admitted, rest)
    | _ => none
  | _ => none

def member? (flags : Flags) : List Char → Option (Escape × List Char)
  | [] => none
  | '\\' :: rest => Escape.read? flags rest
  | c :: rest => some (.char c, rest)

/-- Without the wide classes only ASCII characters can be listed. -/
def listed? (flags : Flags) (first last : Char) : Option CharSet :=
  if last < first || (flags.ascii && 128 ≤ last.toNat) then none else some (.range first last)

/-- A member that stands alone. -/
def alone? (flags : Flags) : Escape → Option CharSet
  | .char c => listed? flags c c
  | .oneOf admitted => some admitted
  | .anchor _ => none

/-- The character that decides what a hyphen means. With free spacing blanks before it do not count, nor does the mark of a comment. -/
def ahead? (flags : Flags) (text : List Char) : Option Char :=
  if flags.spaced then
    match text.dropWhile Text.isBlank with
    | '#' :: rest => (rest.dropWhile Text.isBlank).head?
    | rest => rest.head?
  else text.head?

/-- Reads one member or a range of two. -/
def range? (flags : Flags) (text : List Char) : Option (CharSet × List Char) := do
  let (first, rest) ← member? flags text
  let rest := flags.skip rest
  match rest with
  | '-' :: after =>
    if (ahead? flags after).any fun c => c == ']' || c == '-' then
      some (← alone? flags first, rest)
    else
      let (last, after) ← member? flags (flags.skip after)
      match first, last with
      | .char first, .char last => some (← listed? flags first last, after)
      | _, _ => none
  | _ => some (← alone? flags first, rest)

inductive Progress
  | inside (frame : Frame) (outer : List Frame) (rest : List Char)
  | closed (value : Class) (rest : List Char)

/-- Reads one thing inside a class. -/
def step? (flags : Flags) (frame : Frame) (outer : List Frame) (text : List Char) :
    Option Progress :=
  match flags.skip text with
  | [] => none
  | '[' :: rest =>
    match named? rest with
    | some (negated, admitted, rest) => do
      let admitted := flags.folded admitted
      let admitted ← if negated then flags.excluded? admitted else some admitted
      some (.inside (frame.add ⟨admitted, 0⟩) outer rest)
    | none => (open? flags rest).map fun inner => .inside inner.1 (frame :: outer) inner.2
  | ']' :: rest => do
    let value ← frame.close? flags
    match outer with
    | [] => some (.closed value rest)
    | next :: outer => some (.inside (next.add value) outer rest)
  | '&' :: '&' :: rest => some (.inside (frame.operate flags .intersection) outer rest)
  | '-' :: '-' :: rest => some (.inside (frame.operate flags .difference) outer rest)
  | '~' :: '~' :: rest => some (.inside (frame.operate flags .symmetricDifference) outer rest)
  | text => (range? flags text).map fun item => .inside (frame.add ⟨item.1, 0⟩) outer item.2

/-- Reads on to the bracket that closes the outermost class. Every step takes some of the text. -/
def finish? (flags : Flags) (frame : Frame) (outer : List Frame) (text : List Char) :
    Option (Class × List Char) :=
  match step? flags frame outer text with
  | none => none
  | some (.closed value rest) => some (value, rest)
  | some (.inside frame outer rest) =>
    if rest.length < text.length then finish? flags frame outer rest else none
termination_by text.length

/-- Reads what follows an opening bracket. -/
def read? (flags : Flags) (text : List Char) : Option (Class × List Char) := do
  let (frame, rest) ← open? flags text
  finish? flags frame [] rest

end ApiDrift.Pattern.Bracket
