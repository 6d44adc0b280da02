import Mathlib

/-!
# Integers as doubles

A double whose value is an integer is represented by that integer. Conversions, sums and
differences of integers are rounded to 53 significant bits, to the nearest and in a tie to the even
one; they stay far below the largest double, so nothing overflows. Up to `2 ^ 53` in absolute value
nothing is rounded (`ofInt_eq`).
-/

namespace NewApi.Float64

/-- The multiple of `2 ^ e` next to `n`, in a tie the even one. -/
def roundAt (e n : ℕ) : ℕ :=
  let ulp := 2 ^ e
  let q := n / ulp
  let r := n % ulp
  if 2 * r < ulp ∨ 2 * r = ulp ∧ q % 2 = 0 then q * ulp else (q + 1) * ulp

/-- Round to 53 significant bits. -/
def roundNat (n : ℕ) : ℕ := roundAt (n.size - 53) n

/-- `float64(x)` for an integer `x`. -/
def ofInt (x : ℤ) : ℤ := if 0 ≤ x then roundNat x.toNat else -roundNat (-x).toNat

def add (x y : ℤ) : ℤ := ofInt (x + y)

def sub (x y : ℤ) : ℤ := ofInt (x - y)

/-- The integers that are doubles one by one. -/
def Exact (x : ℤ) : Prop := -2 ^ 53 ≤ x ∧ x ≤ 2 ^ 53

@[simp]
lemma roundAt_zero (n : ℕ) : roundAt 0 n = n := by
  simp [roundAt, Nat.mod_one]

lemma roundNat_of_lt {n : ℕ} (h : n < 2 ^ 53) : roundNat n = n := by
  have hsize : n.size - 53 = 0 := Nat.sub_eq_zero_of_le (Nat.size_le.mpr h)
  rw [roundNat, hsize, roundAt_zero]

lemma roundNat_of_le {n : ℕ} (h : n ≤ 2 ^ 53) : roundNat n = n := by
  rcases Nat.lt_or_eq_of_le h with hlt | rfl
  · exact roundNat_of_lt hlt
  have hsize : (2 ^ 53 : ℕ).size - 53 = 1 := by rw [Nat.size_pow]
  rw [roundNat, hsize, roundAt]
  norm_num

lemma ofInt_eq {x : ℤ} (h : Exact x) : ofInt x = x := by
  obtain ⟨hlow, hhigh⟩ := h
  unfold ofInt
  split
  all_goals
    rw [roundNat_of_le (by omega)]
    omega

lemma add_eq {x y : ℤ} (h : Exact (x + y)) : add x y = x + y := ofInt_eq h

lemma sub_eq {x y : ℤ} (h : Exact (x - y)) : sub x y = x - y := ofInt_eq h

end NewApi.Float64
