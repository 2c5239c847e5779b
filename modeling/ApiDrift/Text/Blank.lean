import ApiDrift.Text.Ranges

/-!
# White space

The characters with the property White_Space of the Unicode standard.
-/

namespace ApiDrift.Text

def blankRanges : List (Nat × Nat) :=
  [
    (0x9, 0xD), (0x20, 0x20), (0x85, 0x85), (0xA0, 0xA0), (0x1680, 0x1680),
    (0x2000, 0x200A), (0x2028, 0x2029), (0x202F, 0x202F), (0x205F, 0x205F), (0x3000, 0x3000)]

/-- White space in the sense of the Unicode standard, which is wider than the blanks of ASCII. -/
def isBlank (c : Char) : Bool := inRanges blankRanges c

end ApiDrift.Text
