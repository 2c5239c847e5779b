/-!
# Characters as bytes

In UTF-8 the characters of a range are exactly the texts of a few sequences of byte ranges. A range is cut where the number of bytes changes, around the half surrogates, which are no characters, and wherever later bytes would not run through all their values.
-/

namespace ApiDrift.Text

abbrev ByteRange := UInt8 × UInt8

/-- The code points of the characters that take equally many bytes. -/
def encodedBlocks : List (Nat × Nat) :=
  [(0x80, 0x7FF), (0x800, 0xD7FF), (0xE000, 0xFFFF), (0x10000, 0x10FFFF)]

/-- Cuts a range so that each piece lies within one block of every given size or is made of whole blocks of it. The sizes go up. -/
def alongBlocks : List Nat → Nat → Nat → List (Nat × Nat)
  | [], first, last => [(first, last)]
  | size :: sizes, first, last =>
    let start := if first % size = 0 then first else (first / size + 1) * size
    let stop := if last % size + 1 = size then last + 1 else last / size * size
    if first / size = last / size then [(first, last)]
    else if stop ≤ start then
      (if first < start then [(first, start - 1)] else []) ++ [(start, last)]
    else
      (if first < start then [(first, start - 1)] else []) ++
        alongBlocks sizes start (stop - 1) ++
        (if stop ≤ last then [(stop, last)] else [])

def byteRanges (first last : Nat) : List ByteRange :=
  (String.utf8EncodeChar (Char.ofNat first)).zip (String.utf8EncodeChar (Char.ofNat last))

/-- The sequences of byte ranges for a range of code points, in ascending order. -/
def encodedRange (first last : Nat) : List (List ByteRange) :=
  let within (block : Nat × Nat) : List (Nat × Nat) :=
    if max first block.1 ≤ min last block.2 then
      alongBlocks [0x40, 0x1000, 0x40000] (max first block.1) (min last block.2)
    else []
  let plain := if first ≤ 0x7F then [(first, min last 0x7F)] else []
  (plain ++ encodedBlocks.flatMap within).map fun range => byteRanges range.1 range.2

end ApiDrift.Text
