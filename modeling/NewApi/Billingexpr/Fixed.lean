import NewApi.Billingexpr.Ast

/-!
# Checks on the expression tree

What `pkg/billingexpr` reads off the tree before a program is compiled: the probes of the request,
numeric literals and, when the expression mentions `fixed`, the shape of the price
(`pkg/billingexpr/fixed.go` and the helpers of `compile.go`).
-/

namespace NewApi.Billingexpr

/-- The condition reads the request or the time. -/
def usesRequestProbe (n : Node) : Bool :=
  n.mentions ["param", "header", "hour", "minute", "weekday", "month", "day"]

/-- The value of a numeric literal. -/
def requestRuleNumber : Node → Option Binary64
  | .integer value => some (Binary64.ofInt value)
  | .float value => some value
  | _ => none

def containsPricingMarker (n : Node) : Bool := n.mentions ["tier", "fixed"]

/-- A multiplier that a fixed price admits: a finite number that is not negative if a condition on
the request holds and `1` otherwise, or the number of images. -/
def isRequestPriceMultiplier : Node → Bool
  | .identifier value => value = "image_count"
  | .conditional _ cond exp1 exp2 =>
    usesRequestProbe cond && !containsPricingMarker cond &&
      match requestRuleNumber exp1, requestRuleNumber exp2 with
      | some multiplier, some fallback =>
        fallback.eq Binary64.one && multiplier.nonneg && !multiplier.isNaN && !multiplier.isInf
      | _, _ => false
  | _ => false

/-- The factor between dollars and the value of an expression. -/
def million : Binary64 := Binary64.ofInt 1000000

def shapeError : String :=
  "fixed pricing requires tier(name, fixed(amount)) leaves, conditional tiers and request " ++
    "multipliers; token and fixed charges cannot be combined in one leaf"

def amountError : String :=
  "fixed price must be a finite, non-negative numeric literal with a finite v1 value"

/-- The literal of a fixed price is a number that is not negative and stays finite when scaled. -/
def validAmount (n : Node) : Bool :=
  match requestRuleNumber n with
  | some amount => amount.nonneg && !amount.isNaN && !(amount.mul million).isInf
  | none => false

/-- A leaf: a tier whose price is fixed, or has no pricing function in it. -/
def validateLeaf (name price : Node) : Except String Unit :=
  if containsPricingMarker name then .error shapeError
  else
    match price.argumentsOf "fixed" with
    | some [amount] => if validAmount amount then .ok () else .error amountError
    | _ => if containsPricingMarker price then .error shapeError else .ok ()

/-- The check of an expression that mentions `fixed`. -/
def validateFixedPricingTree : Node → Except String Unit
  | .conditional _ cond exp1 exp2 =>
    if containsPricingMarker cond then .error shapeError
    else
      match validateFixedPricingTree exp1 with
      | .error e => .error e
      | .ok () => validateFixedPricingTree exp2
  | .binary operator left right =>
    if operator ≠ "*" then .error shapeError
    else if isRequestPriceMultiplier right then validateFixedPricingTree left
    else if isRequestPriceMultiplier left then validateFixedPricingTree right
    else .error shapeError
  | .call callee arguments =>
    match (Node.call callee arguments).argumentsOf "tier" with
    | some [name, price] => validateLeaf name price
    | _ => .error shapeError
  | _ => .error shapeError

end NewApi.Billingexpr
