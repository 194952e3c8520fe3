/-!
# Sets of code points

A set of code points is given by its sorted borders: it starts at the first border, stops before the
second, starts again at the third, and so on. A code point is inside when an odd number of borders is at
or below it.
-/

namespace DocPortal.Text

/-- Membership in the set with the given sorted borders. -/
def insideBorders (borders : List Nat) (n : Nat) : Bool :=
  (borders.takeWhile (· ≤ n)).length % 2 = 1

end DocPortal.Text
