import ApiDrift.Pattern.CharSet

/-!
# Sets of characters as ranges

Every set of characters is a list of closed ranges of code points in ascending order with room between any two. Half surrogates may lie in a range, but count for nothing.
-/

namespace ApiDrift.Pattern

abbrev CodeRange := Nat × Nat

namespace CodeRange

/-- Puts a range before those that start no earlier, and makes one range of what touches. -/
def joinBefore (range : CodeRange) : List CodeRange → List CodeRange
  | [] => [range]
  | next :: rest =>
    if next.1 ≤ range.2 + 1 then joinBefore (range.1, max range.2 next.2) rest
    else range :: joinBefore next rest

/-- The same code points in ascending order. -/
def inOrder (ranges : List CodeRange) : List CodeRange :=
  match ranges.mergeSort fun a b => a.1 ≤ b.1 with
  | [] => []
  | range :: rest => joinBefore range rest

/-- The code points from a given one on that ranges in ascending order leave out. -/
def gaps (start : Nat) : List CodeRange → List CodeRange
  | [] => if start ≤ 0x10FFFF then [(start, 0x10FFFF)] else []
  | range :: rest =>
    if start < range.1 then (start, range.1 - 1) :: gaps (range.2 + 1) rest
    else gaps (range.2 + 1) rest

def contains (ranges : List CodeRange) (code : Nat) : Bool :=
  ranges.any fun range => range.1 ≤ code && code ≤ range.2

end CodeRange

namespace CharSet

def codes : CharSet → List CodeRange
  | nothing => []
  | anything => [(0, 0x10FFFF)]
  | range first last => if first ≤ last then [(first.toNat, last.toNat)] else []
  | digit => CodeRange.inOrder Text.digitRanges
  | word => CodeRange.inOrder Text.wordRanges
  | blank => CodeRange.inOrder Text.blankRanges
  | listed ranges => CodeRange.inOrder ranges
  | union a b => CodeRange.inOrder (a.codes ++ b.codes)
  | common a b =>
    CodeRange.gaps 0 (CodeRange.inOrder (CodeRange.gaps 0 a.codes ++ CodeRange.gaps 0 b.codes))
  | except a b => CodeRange.gaps 0 (CodeRange.inOrder (CodeRange.gaps 0 a.codes ++ b.codes))
  | complement a => CodeRange.gaps 0 a.codes
  | foldCase a =>
    let codes := a.codes
    CodeRange.inOrder (codes ++ (Text.caseSiblings (CodeRange.contains codes)).map fun c => (c, c))
  | foldAscii a =>
    let codes := a.codes
    CodeRange.inOrder (codes ++ (Text.asciiSiblings (CodeRange.contains codes)).map fun c => (c, c))

end CharSet

end ApiDrift.Pattern
