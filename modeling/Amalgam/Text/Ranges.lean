/-!
# Tables of character ranges

A table lists ranges of code points, both ends included, in increasing order.
-/

namespace Amalgam.Text

def inRanges (table : List (Nat × Nat)) (c : Char) : Bool :=
  table.any fun range => range.1 ≤ c.toNat && c.toNat ≤ range.2

end Amalgam.Text
