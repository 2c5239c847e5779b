import ApiDrift.Pattern.Token

/-!
# Reading regular expressions

Tokens are put together with a stack of the groups that are still open. Concatenation binds more tightly than division into branches. A repetition takes the last thing of the branch, which must be an expression.
-/

namespace ApiDrift.Pattern

/-- A group that is still open: whether it keeps what it spans, its finished branches and the parts of the last one, latest first. -/
structure Group where
  keeps : Bool := false
  branches : List Part := []
  parts : List (Option Part) := []

namespace Group

def push (group : Group) (part : Option Part) : Group :=
  { group with parts := part :: group.parts }

def branch (group : Group) : Part := Part.inRow group.parts.reverse

def divide (group : Group) : Group :=
  { group with branches := group.branch :: group.branches, parts := [] }

def body (group : Group) : Part :=
  match (group.branch :: group.branches).reverse with
  | [] => Part.nothing
  | first :: others => Part.oneOf first others

def repeatLast? (group : Group) (low : Nat) (high : Option Nat) : Option Group :=
  match group.parts with
  | some last :: parts => some { group with parts := some (last.repeated low high) :: parts }
  | _ => none

end Group

/-- The expression made of the tokens after a group that has been read so far. -/
def assemble? (group : Group) (outer : List Group) : List Token → Option Part
  | [] => if outer.isEmpty then some group.body else none
  | .atom part :: rest => assemble? (group.push (some part)) outer rest
  | .flagged :: rest => assemble? (group.push none) outer rest
  | .bar :: rest => assemble? group.divide outer rest
  | .groupStart keeps :: rest => assemble? { keeps } (group :: outer) rest
  | .groupEnd :: rest =>
    match outer with
    | [] => none
    | around :: outer => assemble? (around.push (some (group.body.group group.keeps))) outer rest
  | .repetition low high :: rest =>
    match group.repeatLast? low high with
    | some group => assemble? group outer rest
    | none => none

/-- Reads a regular expression. One that nests too deeply or takes too much room is refused. -/
def Expr.read? (text : List Char) : Option Expr := do
  let part ← assemble? {} [] (← Token.all? {} text)
  if part.depth ≤ Part.depthLimit && part.room.fits then some part.expr else none

end ApiDrift.Pattern
