/-
  Membership in a table of ranges

  The properties of characters are tables of disjoint closed ranges in
  increasing order.
-/

namespace EmbeddedPython.Text

/-- Whether `c` lies in one of the ranges of the table. -/
def inRanges (table : Array (Nat × Nat)) (c : Nat) : Bool :=
  table.any fun range => range.1 ≤ c && c ≤ range.2

end EmbeddedPython.Text
