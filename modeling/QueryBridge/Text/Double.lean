/-!
# The range of doubles

A double has 53 significant bits and a largest exponent, so numbers from a certain
one on round to infinity.
-/

set_option autoImplicit false

namespace QueryBridge.Text.Double

/-- The least natural number that rounds to infinity: half a unit past the largest finite double. -/
def overflow : Nat := Nat.pow 2 1024 - Nat.pow 2 970

end QueryBridge.Text.Double
