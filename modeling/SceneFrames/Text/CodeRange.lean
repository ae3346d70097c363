/-!
Sets of characters as inclusive ranges of code points.
-/

namespace SceneFrames.Text

/-- Inclusive ranges of code points, each by its two ends. -/
abbrev CodeRanges := List (Nat × Nat)

/-- The character's code point lies in one of the ranges. -/
def CodeRanges.has (t : CodeRanges) (c : Char) : Bool :=
  t.any fun r => r.1 ≤ c.toNat && c.toNat ≤ r.2

end SceneFrames.Text
