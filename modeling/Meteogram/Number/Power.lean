/-!
# Powers

The powers of two and of ten that the forms of numbers are built on.
-/

set_option autoImplicit false

namespace Meteogram.Number

/-- A power of two. -/
def twoTo (exponent : Nat) : Nat := Nat.pow 2 exponent

/-- A power of ten. -/
def tenTo (exponent : Nat) : Nat := Nat.pow 10 exponent

end Meteogram.Number
