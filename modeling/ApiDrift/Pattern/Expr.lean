import ApiDrift.Pattern.CharSet

/-!
# Regular expressions

A regular expression spans a stretch of a text between two positions. Anchors span nothing; whether one holds at a position depends on the characters on both sides of it. Groups leave no trace here, because only the fact of a match counts.
-/

namespace ApiDrift.Pattern

/-- The characters before and after a position, where there are any. -/
structure Gap where
  before : Option Char
  after : Option Char

inductive Anchor
  | textStart
  | textEnd
  | lineStart (returns : Bool)
  | lineEnd (returns : Bool)
  | wordStart (letters : CharSet)
  | wordEnd (letters : CharSet)
  | wordBorder (letters : CharSet)
  | noWordBorder (letters : CharSet)
  | noWordBefore (letters : CharSet)
  | noWordAfter (letters : CharSet)

namespace Anchor

/-- Where carriage returns end lines too, a return and the feed after it end one line. -/
def holds : Anchor → Gap → Bool
  | textStart, gap => gap.before.isNone
  | textEnd, gap => gap.after.isNone
  | lineStart returns, gap =>
    gap.before.isNone || gap.before == some '\n' ||
      (returns && gap.before == some '\r' && gap.after != some '\n')
  | lineEnd false, gap => gap.after.isNone || gap.after == some '\n'
  | lineEnd true, gap =>
    gap.after.isNone || gap.after == some '\r' ||
      (gap.after == some '\n' && gap.before != some '\r')
  | wordStart letters, gap => !gap.before.any letters.contains && gap.after.any letters.contains
  | wordEnd letters, gap => gap.before.any letters.contains && !gap.after.any letters.contains
  | wordBorder letters, gap => gap.before.any letters.contains != gap.after.any letters.contains
  | noWordBorder letters, gap => gap.before.any letters.contains == gap.after.any letters.contains
  | noWordBefore letters, gap => !gap.before.any letters.contains
  | noWordAfter letters, gap => !gap.after.any letters.contains

end Anchor

inductive Expr
  | empty
  | one (admitted : CharSet)
  | anchor (condition : Anchor)
  | seq (first second : Expr)
  | either (first second : Expr)
  | opt (expr : Expr)
  | many (expr : Expr)
  | times (expr : Expr) (count : Nat)
  | upTo (expr : Expr) (count : Nat)

namespace Expr

/-- Once or not at all; doing so twice over changes nothing. -/
def optional : Expr → Expr
  | opt expr => opt expr
  | expr => opt expr

/-- Once or more; nested repetitions are one repetition. -/
def repeated : Expr → Expr
  | many expr => many expr
  | opt expr => optional (repeated expr)
  | expr => many expr

def star (expr : Expr) : Expr := optional (repeated expr)

/-- A counted repetition without an upper bound goes on for as long as it can. -/
def counted (expr : Expr) (low : Nat) : Option Nat → Expr
  | none => seq (times expr low) (star expr)
  | some high => seq (times expr low) (upTo expr (high - low))

def seqAll (exprs : List Expr) : Expr := exprs.foldr seq empty

def eitherOf (expr : Expr) : List Expr → Expr
  | [] => expr
  | next :: others => either expr (eitherOf next others)

end Expr

end ApiDrift.Pattern
