/-!
# Ranges of code points

Character classes of Unicode are kept as lists of closed ranges, ascending and apart. A class is then a single
membership test, and a check of the list says that the ranges do not overlap.
-/

namespace HttpRouter.Text

/-- Whether a code point lies in one of the closed ranges. -/
def inRanges (ranges : List (Nat × Nat)) (n : Nat) : Bool :=
  ranges.any fun r => r.1 ≤ n && n ≤ r.2

/-- Whether the ranges ascend and leave a gap between each other. -/
def ascending : List (Nat × Nat) → Bool
  | [] => true
  | [r] => r.1 ≤ r.2
  | r :: s :: rest => r.1 ≤ r.2 && r.2 + 1 < s.1 && ascending (s :: rest)

end HttpRouter.Text
