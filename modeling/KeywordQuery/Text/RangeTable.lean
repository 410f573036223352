/-!
# Sets of code points given by ranges

Character properties are tables of inclusive ranges of code points.

* `RangeTable.covers` — membership, and `RangeTable.covers_iff` reads it as a statement on the
  ranges.
-/

namespace KeywordQuery.Text

/-- A set of code points, written as inclusive ranges. -/
abbrev RangeTable := List (Nat × Nat)

/-- Whether the code point `n` lies in one of the ranges. -/
def RangeTable.covers (table : RangeTable) (n : Nat) : Bool :=
  table.any fun range => decide (range.1 ≤ n) && decide (n ≤ range.2)

theorem RangeTable.covers_iff {table : RangeTable} {n : Nat} :
    table.covers n = true ↔ ∃ range ∈ table, range.1 ≤ n ∧ n ≤ range.2 := by
  simp [RangeTable.covers, List.any_eq_true]

end KeywordQuery.Text
