/-!
# Ranges of characters

A class of characters is given by the ranges of its code points, both ends included.
-/

namespace ImageConfig.Text

/-- Whether the code point of a character lies in one of the ranges. -/
def inRanges (ranges : List (Nat × Nat)) (char : Char) : Bool :=
  ranges.any fun range => range.1 ≤ char.toNat && char.toNat ≤ range.2

end ImageConfig.Text
