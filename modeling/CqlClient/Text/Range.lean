/-!
# Ranges of code points
-/

namespace CqlClient.Text

def inRanges (ranges : List (Nat × Nat)) (n : Nat) : Bool :=
  ranges.any fun (low, high) => low ≤ n && n ≤ high

end CqlClient.Text
