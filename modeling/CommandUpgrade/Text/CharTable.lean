/-!
# Character tables

A class of characters beyond ASCII is a list of ranges of code points, first and last included.
-/

namespace CommandUpgrade

/-- Ranges of code points, first and last included. -/
abbrev CharTable := List (Nat × Nat)

/-- Whether a range of the table holds the character. -/
def CharTable.holds (table : CharTable) (c : Char) : Bool :=
  table.any fun (first, last) => first ≤ c.toNat && c.toNat ≤ last

end CommandUpgrade
