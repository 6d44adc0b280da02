import Mathlib

/-!
# Go integers

The 64-bit `int` of Go is modelled by the integer that it holds; sums and products wrap around.
-/

namespace NewApi

/-- The `int` that holds the last 64 bits of `x`. -/
def int64 (x : Int) : Int := x.bmod (2 ^ 64)

/-- An integer in the range of the type is held as it is. -/
lemma int64_eq {x : Int} (hmin : -2 ^ 63 ≤ x) (hmax : x < 2 ^ 63) : int64 x = x :=
  Int.bmod_eq_of_le (by omega) (by omega)

end NewApi
