import NewApi.Model.Quota
import NewApi.Utils.Binary64

/-!
# Amounts as quota

`decimal.Decimal` adds and multiplies exactly, so amounts are rationals here; expressions give
doubles. The conversions of `common/quota_math.go` round either to an integer and keep it within the
bounds of one request, or of a wallet.
-/

namespace NewApi.Common

open Binary64

open Model (maxWalletQuota)

def maxQuota : Int := 2 ^ 31 - 1

def minQuota : Int := -2 ^ 31

/-- `decimal.Round(0)`: to the nearest integer, halves away from zero. -/
def roundDecimal (d : ℚ) : Int := if 0 ≤ d then ⌊d + 1 / 2⌋ else -⌊-d + 1 / 2⌋

inductive QuotaClampKind
  | overflow
  | underflow
  | nan
deriving DecidableEq

/-- An integer within bounds, and whether it had to be clamped. The code converts the integer to a
`float64` first. That moves no integer across a bound, and none between them, since the bounds are
below `2 ^ 53`. -/
def saturateQuotaBounded (value maxQuota minQuota : Int) : Int × Option QuotaClampKind :=
  if maxQuota < value then (maxQuota, some .overflow)
  else if value < minQuota then (minQuota, some .underflow)
  else (value, none)

def saturateQuota (value : Int) : Int × Option QuotaClampKind :=
  saturateQuotaBounded value maxQuota minQuota

def quotaFromDecimalChecked (d : ℚ) : Int × Option QuotaClampKind := saturateQuota (roundDecimal d)

/-- `math.Round`, and saturation. -/
def quotaRoundChecked : Binary64 → Int × Option QuotaClampKind
  | .nan => (0, some .nan)
  | .inf false => (maxQuota, some .overflow)
  | .inf true => (minQuota, some .underflow)
  | .finite neg mag _ => saturateQuota (Binary64.units neg ((2 * mag + 2 ^ 1074) / 2 ^ 1075))

/-- A converted quota, or the clamp it needed. -/
def strictQuota : Int × Option QuotaClampKind → Except QuotaClampKind Int
  | (quota, none) => .ok quota
  | (_, some clamp) => .error clamp

def quotaRoundStrict (value : Binary64) : Except QuotaClampKind Int :=
  strictQuota (quotaRoundChecked value)

def walletQuotaFromDecimalStrict (d : ℚ) : Except QuotaClampKind Int :=
  strictQuota (saturateQuotaBounded (roundDecimal d) maxWalletQuota (-maxWalletQuota))

lemma roundDecimal_nonneg {d : ℚ} (hd : 0 ≤ d) : 0 ≤ roundDecimal d := by
  rw [roundDecimal, if_pos hd]
  apply Int.floor_nonneg.mpr
  linarith

lemma saturateQuota_nonneg {value : Int} (h : 0 ≤ value) : 0 ≤ (saturateQuota value).1 := by
  have hmax : 0 ≤ maxQuota := by decide
  unfold saturateQuota saturateQuotaBounded
  split_ifs with hover hunder
  · exact hmax
  · omega
  · exact h

/-- An amount that is not negative is not charged as a negative quota. -/
lemma quotaFromDecimalChecked_nonneg {d : ℚ} (hd : 0 ≤ d) : 0 ≤ (quotaFromDecimalChecked d).1 :=
  saturateQuota_nonneg (roundDecimal_nonneg hd)

/-- A wallet quota that is converted without a clamp is within the bound. -/
lemma walletQuota_le {d : ℚ} {quota : Int} (h : walletQuotaFromDecimalStrict d = .ok quota) :
    quota ≤ maxWalletQuota := by
  unfold walletQuotaFromDecimalStrict saturateQuotaBounded at h
  split_ifs at h with hover hunder <;> simp only [strictQuota, reduceCtorEq, Except.ok.injEq] at h
  omega

lemma quotaRoundChecked_zero (neg : Bool) (h₀ : Binary64.Representable 0) :
    quotaRoundChecked (.finite neg 0 h₀) = (0, none) := by
  have hhalf : (2 * 0 + 2 ^ 1074) / 2 ^ 1075 = 0 := by decide +kernel
  rw [quotaRoundChecked, hhalf]
  cases neg <;> decide

/-- A free group: whatever the amount, nothing is charged. -/
lemma quotaRoundChecked_mul_zero (x : Binary64) (s : Bool) (h₀ : Binary64.Representable 0) :
    (quotaRoundChecked (x.mul (.finite s 0 h₀))).1 = 0 := by
  rcases mul_zero_cases x s h₀ with hnan | ⟨neg, h, hzero⟩
  · rw [hnan, quotaRoundChecked]
  · rw [hzero, quotaRoundChecked_zero]

/-- Equal ratios give equal quotas, also if they are zeros of different signs. -/
lemma quotaRoundChecked_mul_eq {ratio ratio' : Binary64} (h : ratio.eq ratio' = true)
    (x : Binary64) : quotaRoundChecked (x.mul ratio) = quotaRoundChecked (x.mul ratio') := by
  rcases eq_cases h with rfl | ⟨s, t, h₀, rfl, rfl⟩
  · rfl
  cases x with
  | nan => rfl
  | inf neg => simp only [mul, if_true]
  | finite neg m hm =>
    obtain ⟨h₁, hs⟩ := round_zero (neg ^^ s) 1074
    obtain ⟨h₂, ht⟩ := round_zero (neg ^^ t) 1074
    simp only [mul, Nat.mul_zero, hs, ht, quotaRoundChecked_zero]

lemma quotaRoundStrict_ok {x : Binary64} {quota : Int} (h : quotaRoundStrict x = .ok quota) :
    (quotaRoundChecked x).1 = quota := by
  unfold quotaRoundStrict at h
  rcases hq : quotaRoundChecked x with ⟨q, clamp⟩
  rw [hq] at h
  cases clamp with
  | none => simpa [strictQuota] using h
  | some kind => simp [strictQuota] at h

end NewApi.Common
