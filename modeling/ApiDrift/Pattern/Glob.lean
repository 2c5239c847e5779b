/-!
# Globs

A glob describes a whole dotted path. Two stars stand for any characters on one line, a single star for any characters within one segment, and a question mark for one character of a segment. Every other character stands for itself. Stars are paired from the left.

A glob is short for a regular expression that spans the whole text.
-/

namespace ApiDrift.Pattern.Glob

inductive Piece
  | anyPath
  | anySegment
  | anyOne
  | exactly (c : Char)
  deriving DecidableEq

def pieces : List Char → List Piece
  | '*' :: '*' :: rest => .anyPath :: pieces rest
  | '*' :: rest => .anySegment :: pieces rest
  | '?' :: rest => .anyOne :: pieces rest
  | c :: rest => .exactly c :: pieces rest
  | [] => []

/-- The characters that stand for something else in a regular expression, at least in some place. -/
def special : List Char :=
  ['\\', '.', '+', '*', '?', '(', ')', '|', '[', ']', '\x7b', '\x7d', '^', '$', '#', '&', '-', '~']

/-- A character that stands for itself, as a regular expression. -/
def escaped (c : Char) : List Char := if special.contains c then ['\\', c] else [c]

def Piece.source : Piece → List Char
  | anyPath => ['.', '*']
  | anySegment => ['[', '^', '.', ']', '*']
  | anyOne => ['[', '^', '.', ']']
  | exactly c => escaped c

/-- The regular expression that a glob is short for. -/
def source (glob : List Char) : List Char :=
  '^' :: '(' :: '?' :: ':' :: ((pieces glob).flatMap Piece.source ++ [')', '$'])

end ApiDrift.Pattern.Glob
