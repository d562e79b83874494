/-!
# Classes of characters as ranges of code points

A class of characters is a list of closed ranges.  Every lookup goes through `Ranges.mem`, so
a table is data only and its order does not matter.
-/

namespace CloudReconcile
namespace Text

/-- Closed ranges of code points. -/
abbrev Ranges := List (Nat × Nat)

namespace Ranges

def mem (ranges : Ranges) (c : Char) : Bool :=
  ranges.any fun (low, high) => low ≤ c.toNat && c.toNat ≤ high

end Ranges

end Text
end CloudReconcile
