import NewApi.Billingexpr.NonnegPrice
import NewApi.Service.GroupRetryTheorems

/-!
# Settlement of an expression that passed its smoke test

Before an expression is accepted, `smokeTestExpr` runs it on seven token vectors
(`setting/billing_setting/tiered_billing.go`). A text response is settled by a run on its own usage,
and nothing bounds that from below: a negative amount is paid to the user. It is not negative if the
expression is made of token counts and prices that are not (`NonnegPrice`), or if the run was among
those of the test.
-/

namespace NewApi.Service

open Common List Logged Billingexpr
open Binary64 hiding mul_comm mul_nonneg

/-! ## `smokeTestExpr` -/

def smokeVectors : List (TokenParams Binary64) :=
  [estimateParams 0 0,
    estimateParams 1000 1000,
    estimateParams 100000 100000,
    estimateParams 1000000 1000000,
    { estimateParams 300 100 with
      len := .ofInt 1000, cr := .ofInt 100, img := .ofInt 400, imgCR := .ofInt 200 },
    { estimateParams 800 50 with len := .ofInt 1000, ai := .ofInt 200, ao := .ofInt 50 },
    { estimateParams 0 0 with len := .ofInt (2 ^ 31 - 1), imgCR := .ofInt (2 ^ 31 - 1) }]

inductive SmokeError
  | usageKeys (keys : List String)
  | runFailed (vector : TokenParams Binary64) (error : String)
  | badResult (vector : TokenParams Binary64) (result : Binary64)
deriving DecidableEq

section
variable {D S : Type} (lang : ExprLang D S) (entry : CachedEntry)

/-- One run: the result must be finite and not negative. -/
def smokeRun (vector : TokenParams Binary64) (request : RequestInput D) :
    Except SmokeError Unit :=
  match (runProgram lang entry vector request).result with
  | .error e => .error (.runFailed vector e)
  | .ok result =>
    if result.isNaN ∨ result.isInf ∨ ¬ result.nonneg then .error (.badResult vector result)
    else .ok ()

/-- The keys are those of `UsedUsageKeys`, the requests those of `billingExprSmokeRequests`. -/
def smokeTestExpr (usageKeys : List String) (requests : List (RequestInput D)) :
    Except SmokeError Unit :=
  if usageKeys ≠ [] then .error (.usageKeys usageKeys)
  else smokeVectors.forM fun vector => requests.forM (smokeRun lang entry vector)

end

/-- A test that is passed has seen no negative result. -/
lemma smokeTestExpr_nonneg {D S : Type} {lang : ExprLang D S} {entry : CachedEntry}
    {usageKeys : List String} {requests : List (RequestInput D)} {vector : TokenParams Binary64}
    {request : RequestInput D} {result : Binary64}
    (h : smokeTestExpr lang entry usageKeys requests = .ok ()) (hvector : vector ∈ smokeVectors)
    (hrequest : request ∈ requests)
    (hrun : (runProgram lang entry vector request).result = .ok result) :
    result.nonneg = true := by
  unfold smokeTestExpr at h
  split_ifs at h
  have hpassed := Runs.forM_ok (Runs.forM_ok h vector hvector) request hrequest
  unfold smokeRun at hpassed
  rw [hrun] at hpassed
  dsimp only at hpassed
  split_ifs at hpassed with hbad
  simp only [not_or, not_not] at hbad
  exact hbad.2.2

/-! ## Settlement -/

lemma quotaRoundChecked_nonneg {x : Binary64} (h : NonnegOrNaN x) :
    0 ≤ (quotaRoundChecked x).1 := by
  cases x with
  | nan => exact le_refl 0
  | inf s =>
    obtain rfl := nonneg_inf.mp (h.resolve_right nofun)
    decide
  | finite s m hm =>
    rcases nonneg_finite.mp (h.resolve_right nofun) with rfl | rfl
    · exact saturateQuota_nonneg (Int.natCast_nonneg _)
    · rw [quotaRoundChecked_zero]

lemma quotaConversion_nonneg {cost quotaPerUnit : Binary64} (hcost : NonnegOrNaN cost)
    (hunit : quotaPerUnit.nonneg = true) : NonnegOrNaN (quotaConversion cost quotaPerUnit) := by
  have hmillion : million = .finite false (1000000 * 2 ^ 1074) (by decide +kernel) := by
    decide +kernel
  refine NonnegOrNaN.mul ?_ (.inl hunit)
  rcases hcost with hcost | rfl
  · rw [hmillion]
    exact .inl (div_nonneg (by positivity) hcost)
  · exact .inr rfl

lemma retryEnv_decimal_nonneg (x : Binary64) (h : NonnegOrNaN x) :
    0 ≤ retryEnv.dec.newFromFloat x := by
  cases x with
  | finite s m hm =>
    rcases nonneg_finite.mp (h.resolve_right nofun) with rfl | rfl
    · simp only [retryEnv, Bool.false_eq_true, if_false]
      positivity
    · simp [retryEnv]
  | _ => exact le_refl 0

/-- `tier("base", p * 2)` -/
def doubledPrompt : Node := tierCall (.string "base") (.binary "*" (.identifier "p") (.integer 2))

/-- A request that was retried, priced by that expression. -/
def pricedState : RelayState :=
  let s := (retryRun .one [.attempt .one none]).get (by decide +kernel)
  { s with snapshot := { s.snapshot with entry := plainEntry doubledPrompt } }

def millionTokens : Response where
  params := estimateParams 1000000 7
  imageCount := none
  kind := .text 1

/-- `cc * -1`. None of the vectors has tokens that are written to a cache. -/
def cacheRefund : Node := .binary "*" (.identifier "cc") (.integer (-1))

/-- A response that wrote a million tokens to the cache. -/
def cacheWritten : Response where
  params := { estimateParams 0 0 with cc := .ofInt 1000000 }
  imageCount := none
  kind := .text 0

end NewApi.Service
