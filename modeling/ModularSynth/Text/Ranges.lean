/-!
This module contains sets of characters that are given as ranges of code points.
-/

namespace ModularSynth
namespace Text

/-- The first and the last code point of each range, in ascending order. -/
abbrev Ranges := List (Nat × Nat)

def Ranges.contains (ranges : Ranges) (c : Char) : Bool :=
  ranges.any fun r => r.1 ≤ c.toNat && c.toNat ≤ r.2

end Text
end ModularSynth
