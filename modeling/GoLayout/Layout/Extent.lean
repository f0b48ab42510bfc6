/-!
# Extents

Columns of the layout are signed numbers of 32 bits: a document may start at a negative column, and the
root context stands one unit further left.  Sums stop at the bounds instead of leaving the range.
-/

namespace GoLayout.Layout

/-- The largest column. -/
def maxColumn : Int := 2147483647

/-- The smallest column. -/
def minColumn : Int := -2147483648

/-- The column nearest to a number. -/
def clamp (n : Int) : Int := max minColumn (min maxColumn n)

/-- A width as a column; too large a width counts as the largest column. -/
def ofWidth (n : Nat) : Int := min maxColumn n

theorem clamp_of_mem {n : Int} (h : minColumn ≤ n) (h' : n ≤ maxColumn) : clamp n = n := by
  unfold clamp
  omega

theorem ofWidth_nonneg (n : Nat) : 0 ≤ ofWidth n := by
  unfold ofWidth maxColumn
  omega

theorem ofWidth_of_le {n : Nat} (h : (n : Int) ≤ maxColumn) : ofWidth n = n := by
  unfold ofWidth
  omega

end GoLayout.Layout
