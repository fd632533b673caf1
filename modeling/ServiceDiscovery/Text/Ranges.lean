/-!
# Character classes by ranges

A class of characters is given by closed ranges of code points. `Ranges.covers` says whether a
character lies in one of them.
-/

namespace ServiceDiscovery.Text

/-- Closed ranges of code points. -/
abbrev Ranges := List (Nat × Nat)

namespace Ranges

/-- Whether a character lies in one of the ranges. -/
def covers (ranges : Ranges) (c : Char) : Bool :=
  ranges.any fun range => range.1 ≤ c.toNat && c.toNat ≤ range.2

end Ranges

end ServiceDiscovery.Text
