import ApiDrift.Pattern.Room

/-!
# Parts of an expression

While an expression is read, each part of it is known by what it spans, by how deeply things nest in it, and by the room it takes. A class, a group, a repetition, a row of several parts and a choice of several branches each stand one level above what they hold.
-/

namespace ApiDrift.Pattern

structure Part where
  expr : Expr
  depth : Nat
  room : Room

namespace Part

def nothing : Part := ⟨.empty, 0, .nothing⟩

def ofSet (admitted : CharSet) (depth : Nat) : Part := ⟨.one admitted, depth, .ofSet admitted⟩

def ofAnchor (condition : Anchor) : Part := ⟨.anchor condition, 0, .ofAnchor condition⟩

def deepest (parts : List Part) : Nat := parts.foldl (fun most part => max most part.depth) 0

/-- A part in parentheses, which keep what it spans or only group. -/
def group (keeps : Bool) (part : Part) : Part :=
  ⟨part.expr, part.depth + 1, if keeps then part.room.kept else part.room⟩

def repeated (low : Nat) (high : Option Nat) (part : Part) : Part :=
  let expr :=
    match low, high with
    | 0, none => part.expr.star
    | 1, none => part.expr.repeated
    | 0, some 1 => part.expr.optional
    | _, _ => part.expr.counted low high
  ⟨expr, part.depth + 1, part.room.repeated low high⟩

/-- Parts in a row; `none` stands for a place where flags are set. -/
def inRow : List (Option Part) → Part
  | [] => nothing
  | [part] => part.getD nothing
  | parts =>
    let spanning := parts.filterMap id
    ⟨.seqAll (spanning.map expr), deepest spanning + 1, .inRow (spanning.map room)⟩

/-- One of several branches. -/
def oneOf (branch : Part) (others : List Part) : Part :=
  if others.isEmpty then branch
  else
    ⟨.eitherOf branch.expr (others.map expr), deepest (branch :: others) + 1,
      .oneOf ((branch :: others).map room)⟩

/-- How many levels may stand above one another. -/
def depthLimit : Nat := 250

end Part

end ApiDrift.Pattern
