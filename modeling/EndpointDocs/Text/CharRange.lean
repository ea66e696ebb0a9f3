/-!
# Ranges of characters

* `inRanges`: membership in a table of code point ranges, ends included.
-/

namespace EndpointDocs.Text

/-- Whether a character lies in one of the ranges. -/
def inRanges (ranges : List (Nat × Nat)) (c : Char) : Bool :=
  ranges.any fun r => r.1 ≤ c.toNat && c.toNat ≤ r.2

end EndpointDocs.Text
