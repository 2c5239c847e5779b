/-!
# Tables of characters

A property of characters is given by the closed ranges of code points that have it, in ascending order.
-/

namespace ApiDrift.Text

def inRanges (table : List (Nat × Nat)) (c : Char) : Bool :=
  table.any fun range => range.1 ≤ c.toNat && c.toNat ≤ range.2

/-- Every `step`-th code point from `first` to `last`. -/
structure Run where
  first : Nat
  last : Nat
  step : Nat

def Run.ranges (run : Run) : List (Nat × Nat) :=
  if run.step = 1 then [(run.first, run.last)]
  else
    (List.range ((run.last - run.first) / run.step + 1)).map fun index =>
      (run.first + index * run.step, run.first + index * run.step)

end ApiDrift.Text
