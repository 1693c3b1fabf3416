/-!
# Ranges of characters

A character class that no short rule describes is kept as a list of ranges of
code points, both ends included.
-/

namespace ClassAtlas
namespace Text

def inRanges (ranges : List (Nat × Nat)) (c : Char) : Bool :=
  ranges.any fun range => range.1 ≤ c.toNat && c.toNat ≤ range.2

end Text
end ClassAtlas
