/-!
# Character classes as ranges

A class of characters is a list of inclusive code point ranges in ascending
order. Membership looks for a range that holds the code point.
-/

set_option autoImplicit false

namespace FluentSql.Text

abbrev Ranges := List (Nat × Nat)

namespace Ranges

def holds (ranges : Ranges) (c : Char) : Bool :=
  ranges.any fun range => decide (range.1 ≤ c.toNat) && decide (c.toNat ≤ range.2)

theorem holds_iff (ranges : Ranges) (c : Char) :
    ranges.holds c = true ↔ ∃ range ∈ ranges, range.1 ≤ c.toNat ∧ c.toNat ≤ range.2 := by
  simp [holds]

theorem holds_append (xs ys : Ranges) (c : Char) :
    holds (xs ++ ys) c = (holds xs c || holds ys c) := by
  simp [holds]

end Ranges

end FluentSql.Text
