/-!
# Ranges of character codes

Properties of characters are given by tables of ranges.
-/

namespace Invocation.Text

/-- The codes from `first` to `last`, both included. -/
structure Range where
  first : Nat
  last : Nat

/-- Some range of the table holds the code. -/
def Range.mem (table : List Range) (n : Nat) : Bool :=
  table.any fun r => r.first ≤ n && n ≤ r.last

end Invocation.Text
