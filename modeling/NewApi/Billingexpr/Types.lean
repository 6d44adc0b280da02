import NewApi.Utils.Binary64

/-!
# Records of expression billing

The parameters of a run and what it leaves behind besides its value, after
`pkg/billingexpr/types.go`.
-/

namespace NewApi.Billingexpr

/-- `TokenParams`, over the numbers that stand for `float64`. -/
structure TokenParams (α : Type) where
  p : α
  c : α
  len : α
  cr : α
  cc : α
  cc1h : α
  img : α
  imgCR : α
  imgO : α
  ai : α
  ao : α
deriving DecidableEq

/-- A multiplier that depends on the request, found when the expression was compiled. -/
structure RequestRuleTrace where
  cond : String
  multiplier : Binary64
  matched : Bool
deriving DecidableEq

inductive BillingUnit
  | token
  | request
deriving DecidableEq

/-- What a run reports besides its value. -/
structure TraceResult where
  imageCount : Option Int
  billingUnit : BillingUnit
  fixedPrice : Option Binary64
  matchedTier : String
  requestRules : List RequestRuleTrace
  cost : Binary64
deriving DecidableEq

end NewApi.Billingexpr
