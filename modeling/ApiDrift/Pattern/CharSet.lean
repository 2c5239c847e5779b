import ApiDrift.Text.Blank
import ApiDrift.Text.Digit
import ApiDrift.Text.LetterCase
import ApiDrift.Text.Word

/-!
# Sets of characters

A place in a pattern admits a set of characters. Sets are put together from ranges and named classes by the usual operations, and can be widened to all characters that differ in case only, or to those of them in ASCII.
-/

namespace ApiDrift.Pattern

inductive CharSet
  | nothing
  | anything
  | range (first last : Char)
  | digit
  | word
  | blank
  | listed (ranges : List (Nat × Nat))
  | union (a b : CharSet)
  | common (a b : CharSet)
  | except (a b : CharSet)
  | complement (a : CharSet)
  | foldCase (a : CharSet)
  | foldAscii (a : CharSet)

namespace CharSet

def single (c : Char) : CharSet := range c c

def contains : CharSet → Char → Bool
  | nothing, _ => false
  | anything, _ => true
  | range first last, c => first ≤ c && c ≤ last
  | digit, c => Text.isDigit c
  | word, c => Text.isWord c
  | blank, c => Text.isBlank c
  | listed ranges, c => Text.inRanges ranges c
  | union a b, c => a.contains c || b.contains c
  | common a b, c => a.contains c && b.contains c
  | except a b, c => a.contains c && !b.contains c
  | complement a, c => !a.contains c
  | foldCase a, c => (Text.caseVariants c).any a.contains
  | foldAscii a, c => (Text.asciiVariants c).any a.contains

/-- The characters in exactly one of two sets. -/
def oneOf (a b : CharSet) : CharSet := union (except a b) (except b a)

def ofRanges (ranges : List (Char × Char)) : CharSet :=
  ranges.foldr (fun r set => union (range r.1 r.2) set) nothing

end CharSet

end ApiDrift.Pattern
