import NewApi.Common.QuotaMath
import NewApi.Model.SubscriptionOrder

/-!
# Top-ups and redemption codes

The functions that complete an order and credit its user (`model/topup.go`), and `Redeem`
(`model/redemption.go`). Each is one transaction that locks the row of the order or of the code: it
returns the new tables, or an error and then nothing has changed.

The five gateway functions and `ManualCompleteTopUp` go through the same steps, so they share one
definition; they differ in the provider they ask for, in what they do with an order that is complete
already, and in how they compute the quota. Amounts are exact decimals; `newFromFloat` is
`decimal.NewFromFloat`.
-/

namespace NewApi.Model

open Common (walletQuotaFromDecimalStrict QuotaClampKind)

/-! ## Tables -/

def paymentProviderEpay : String := "epay"

def paymentProviderStripe : String := "stripe"

def paymentProviderCreem : String := "creem"

def paymentProviderWaffo : String := "waffo"

def paymentProviderWaffoPancake : String := "waffo_pancake"

/-- The columns of a user that a credit can write. -/
structure WalletUser where
  id : Nat
  quota : Int
  email : String
  stripeCustomer : String
deriving DecidableEq

inductive RedemptionStatus
  | enabled
  | disabled
  | used
  | other (value : Int)
deriving DecidableEq

structure Redemption where
  key : String
  status : RedemptionStatus
  quota : Int
  redeemedTime : Int
  usedUserId : Nat
  /-- `0` if the code does not expire -/
  expiredTime : Int
deriving DecidableEq

structure TopUpDB where
  users : Table WalletUser.id
  topUps : Table TopUp.tradeNo
  redemptions : Table Redemption.key

inductive TopUpError
  | noTradeNo
  | noOrderNo
  | topUpNotFound
  | orderNotFound
  | paymentMethodMismatch
  | topUpStatusInvalid
  | orderStatus
  | orderNotPending
  | invalidTopUpQuota
  | topUpQuotaLimitExceeded
  | recordNotFound
  | rechargeFailed
  | noKey
  | invalidUserId
  | invalidKey
  | codeUsed
  | codeExpired
  | redeemFailed
deriving DecidableEq

def TopUpError.text : TopUpError → String
  | .noTradeNo => "未提供支付单号"
  | .noOrderNo => "未提供订单号"
  | .topUpNotFound => "topup not found"
  | .orderNotFound => "充值订单不存在"
  | .paymentMethodMismatch => "payment method mismatch"
  | .topUpStatusInvalid => "topup status invalid"
  | .orderStatus => "充值订单状态错误"
  | .orderNotPending => "订单状态不是待支付，无法补单"
  | .invalidTopUpQuota => "invalid top-up quota"
  | .topUpQuotaLimitExceeded => "top-up quota limit exceeded"
  | .recordNotFound => "record not found"
  | .rechargeFailed => "充值失败，请稍后重试"
  | .noKey => "未提供兑换码"
  | .invalidUserId => "无效的 user id"
  | .invalidKey => "无效的兑换码"
  | .codeUsed => "该兑换码已被使用"
  | .codeExpired => "该兑换码已过期"
  | .redeemFailed => "redeem.failed"

/-! ## Credits -/

/-- The highest wallet that a credit may be added to. -/
def topUpQuotaMaxCurrent (creditedQuota : Int) : Except TopUpError Int :=
  if creditedQuota ≤ 0 ∨ maxWalletQuota < creditedQuota then .error .invalidTopUpQuota
  else .ok (maxWalletQuota - creditedQuota)

/-- Columns that are written together with the wallet. -/
structure UserUpdates where
  email : Option String
  stripeCustomer : Option String

def UserUpdates.none : UserUpdates where
  email := .none
  stripeCustomer := .none

/-- `UPDATE users SET quota = quota + ? WHERE id = ? AND quota <= ?`. -/
def creditTopUpQuota (users : Table WalletUser.id) (userId : Nat) (creditedQuota : Int)
    (updates : WalletUser → UserUpdates) : Except TopUpError (Table WalletUser.id) :=
  match topUpQuotaMaxCurrent creditedQuota with
  | .error e => .error e
  | .ok maxCurrentQuota =>
    match users.get? userId with
    | none => .error .recordNotFound
    | some user =>
      if user.quota ≤ maxCurrentQuota then
        .ok (users.save { user with
          quota := user.quota + creditedQuota
          email := (updates user).email.getD user.email
          stripeCustomer := (updates user).stripeCustomer.getD user.stripeCustomer })
      else .error .topUpQuotaLimitExceeded

/-! ## Orders -/

/-- How a function completes an order. -/
structure Completion where
  /-- the provider of the gateway; an administrator completes orders of any -/
  provider : Option String
  /-- an order that is complete already is left alone, instead of being an error -/
  repeatable : Bool
  notFound : TopUpError
  wrongStatus : TopUpError
  quota : TopUp → ℚ
  paymentMethod : TopUp → String
  updates : WalletUser → UserUpdates

/-- Who was credited, and how much. -/
structure Credited where
  userId : Nat
  quota : Int
deriving DecidableEq

/-- The transaction of a completion; nobody is credited if the order was complete already. Whether
the order is saved before or after its quota is checked makes no difference, since an error rolls
the transaction back. -/
def completeTopUp (c : Completion) (db : TopUpDB) (tradeNo : String) (now : Int) :
    Except TopUpError (Option Credited × TopUpDB) :=
  match db.topUps.get? tradeNo with
  | none => .error c.notFound
  | some topUp =>
    if c.provider.any (· ≠ topUp.paymentProvider) then .error .paymentMethodMismatch
    else if c.repeatable ∧ topUp.status = .success then .ok (none, db)
    else if topUp.status ≠ .pending then .error c.wrongStatus
    else
      match walletQuotaFromDecimalStrict (c.quota topUp) with
      | .error _ => .error .invalidTopUpQuota
      | .ok quotaToAdd =>
        if quotaToAdd ≤ 0 then .error .invalidTopUpQuota
        else
          match creditTopUpQuota db.users topUp.userId quotaToAdd c.updates with
          | .error e => .error e
          | .ok users =>
            .ok (some ⟨topUp.userId, quotaToAdd⟩, { db with
                users := users
                topUps := db.topUps.save { topUp with
                  paymentMethod := c.paymentMethod topUp
                  completeTime := now
                  status := .success } })

/-- Most gateways answer one text for every failure of the transaction. -/
def hideError {α : Type} : Except TopUpError α → Except TopUpError α
  | .error _ => .error .rechargeFailed
  | .ok a => .ok a

section
variable (newFromFloat : Float → ℚ) (quotaPerUnit : Float)

def amountQuota (topUp : TopUp) : ℚ := topUp.amount * newFromFloat quotaPerUnit

def moneyQuota (topUp : TopUp) : ℚ := newFromFloat topUp.money * newFromFloat quotaPerUnit

def epayCompletion (actualPaymentMethod : String) : Completion where
  provider := some paymentProviderEpay
  repeatable := true
  notFound := .topUpNotFound
  wrongStatus := .topUpStatusInvalid
  quota := amountQuota newFromFloat quotaPerUnit
  paymentMethod topUp :=
    if actualPaymentMethod ≠ "" ∧ topUp.paymentMethod ≠ actualPaymentMethod then actualPaymentMethod
    else topUp.paymentMethod
  updates _ := .none

def rechargeEpay (db : TopUpDB) (tradeNo actualPaymentMethod : String) (now : Int) :
    Except TopUpError (Option Credited × TopUpDB) :=
  if tradeNo = "" then .error .noTradeNo
  else completeTopUp (epayCompletion newFromFloat quotaPerUnit actualPaymentMethod) db tradeNo now

def stripeCompletion (customerId : String) : Completion where
  provider := some paymentProviderStripe
  repeatable := false
  notFound := .orderNotFound
  wrongStatus := .orderStatus
  quota := moneyQuota newFromFloat quotaPerUnit
  paymentMethod := TopUp.paymentMethod
  updates _ := { email := none, stripeCustomer := some customerId }

def recharge (db : TopUpDB) (referenceId customerId : String) (now : Int) :
    Except TopUpError (Option Credited × TopUpDB) :=
  if referenceId = "" then .error .noTradeNo
  else hideError
    (completeTopUp (stripeCompletion newFromFloat quotaPerUnit customerId) db referenceId now)

/-- Creem's amount is the quota itself. An email goes to a user that has none. -/
def creemCompletion (customerEmail : String) : Completion where
  provider := some paymentProviderCreem
  repeatable := false
  notFound := .orderNotFound
  wrongStatus := .orderStatus
  quota topUp := topUp.amount
  paymentMethod := TopUp.paymentMethod
  updates user :=
    { email := if customerEmail ≠ "" ∧ user.email = "" then some customerEmail else none
      stripeCustomer := none }

def rechargeCreem (db : TopUpDB) (referenceId customerEmail : String) (now : Int) :
    Except TopUpError (Option Credited × TopUpDB) :=
  if referenceId = "" then .error .noTradeNo
  else hideError (completeTopUp (creemCompletion customerEmail) db referenceId now)

/-- Both of Waffo's gateways. -/
def waffoCompletion (provider : String) : Completion where
  provider := some provider
  repeatable := true
  notFound := .orderNotFound
  wrongStatus := .orderStatus
  quota := amountQuota newFromFloat quotaPerUnit
  paymentMethod := TopUp.paymentMethod
  updates _ := .none

def rechargeWaffo (db : TopUpDB) (tradeNo : String) (now : Int) :
    Except TopUpError (Option Credited × TopUpDB) :=
  if tradeNo = "" then .error .noTradeNo
  else hideError
    (completeTopUp (waffoCompletion newFromFloat quotaPerUnit paymentProviderWaffo) db tradeNo now)

def rechargeWaffoPancake (db : TopUpDB) (tradeNo : String) (now : Int) :
    Except TopUpError (Option Credited × TopUpDB) :=
  if tradeNo = "" then .error .noTradeNo
  else hideError
    (completeTopUp (waffoCompletion newFromFloat quotaPerUnit paymentProviderWaffoPancake) db
      tradeNo now)

/-- An administrator completes an order. Only Stripe's orders are told apart. -/
def manualCompletion : Completion where
  provider := none
  repeatable := true
  notFound := .orderNotFound
  wrongStatus := .orderNotPending
  quota topUp :=
    if topUp.paymentProvider = paymentProviderStripe then moneyQuota newFromFloat quotaPerUnit topUp
    else amountQuota newFromFloat quotaPerUnit topUp
  paymentMethod := TopUp.paymentMethod
  updates _ := .none

def manualCompleteTopUp (db : TopUpDB) (tradeNo : String) (now : Int) :
    Except TopUpError (Option Credited × TopUpDB) :=
  if tradeNo = "" then .error .noOrderNo
  else completeTopUp (manualCompletion newFromFloat quotaPerUnit) db tradeNo now

end

/-- Close a pending order. Without an expected provider it may be anyone's. -/
def updatePendingTopUpStatus (db : TopUpDB) (tradeNo expectedPaymentProvider : String)
    (targetStatus : TopUpStatus) :
    Except TopUpError TopUpDB :=
  if tradeNo = "" then .error .noTradeNo
  else
    match db.topUps.get? tradeNo with
    | none => .error .topUpNotFound
    | some topUp =>
      if expectedPaymentProvider ≠ "" ∧ topUp.paymentProvider ≠ expectedPaymentProvider then
        .error .paymentMethodMismatch
      else if topUp.status ≠ .pending then .error .topUpStatusInvalid
      else .ok { db with topUps := db.topUps.save { topUp with status := targetStatus } }

/-! ## Codes -/

/-- The transaction of `Redeem`. -/
def redeemTx (db : TopUpDB) (key : String) (userId : Nat) (now : Int) :
    Except TopUpError (Int × TopUpDB) :=
  match db.redemptions.get? key with
  | none => .error .invalidKey
  | some redemption =>
    if redemption.status ≠ .enabled then .error .codeUsed
    else if redemption.expiredTime ≠ 0 ∧ redemption.expiredTime < now then .error .codeExpired
    else
      match creditTopUpQuota db.users userId redemption.quota fun _ => .none with
      | .error e => .error e
      | .ok users =>
        .ok (redemption.quota, { db with
            users := users
            redemptions := db.redemptions.save { redemption with
              redeemedTime := now
              status := .used
              usedUserId := userId } })

def redeem (db : TopUpDB) (key : String) (userId : Nat) (now : Int) :
    Except TopUpError (Int × TopUpDB) :=
  if key = "" then .error .noKey
  else if userId = 0 then .error .invalidUserId
  else
    match redeemTx db key userId now with
    | .error _ => .error .redeemFailed
    | .ok result => .ok result

/-! ## The system -/

inductive LedgerSource
  /-- an order, with the unit that was set when it was completed -/
  | order (tradeNo : String) (quotaPerUnit : Float)
  | code (key : String)
  /-- somebody else moved the wallet -/
  | other

/-- A movement of a wallet, and what was stored after it. -/
structure LedgerEntry where
  source : LedgerSource
  userId : Nat
  amount : Int
  walletAfter : Int

structure TopUpState where
  db : TopUpDB
  /-- the tenant's `QuotaPerUnit` -/
  quotaPerUnit : Float
  ledger : List LedgerEntry

inductive TopUpCall
  | rechargeEpay (tradeNo actualPaymentMethod : String) (now : Int)
  | recharge (referenceId customerId : String) (now : Int)
  | rechargeCreem (referenceId customerEmail : String) (now : Int)
  | rechargeWaffo (tradeNo : String) (now : Int)
  | rechargeWaffoPancake (tradeNo : String) (now : Int)
  | manualCompleteTopUp (tradeNo : String) (now : Int)
  | updatePendingTopUpStatus (tradeNo expectedPaymentProvider : String) (targetStatus : TopUpStatus)
  | redeem (key : String) (userId : Nat) (now : Int)
  /-- the operator changes the unit -/
  | setQuotaPerUnit (quotaPerUnit : Float)
  /-- charges, refunds and adjustments of a wallet -/
  | moveWallet (userId : Nat) (amount : Int)

/-- The stored wallet of a user. -/
def TopUpDB.wallet (db : TopUpDB) (userId : Nat) : Int :=
  ((db.users.get? userId).map WalletUser.quota).getD 0

/-- A transaction is over: what it credited goes to the ledger. -/
def TopUpState.record (s : TopUpState) (source : LedgerSource) (db' : TopUpDB) :
    Option Credited → TopUpState
  | none => { s with db := db' }
  | some credited =>
    { s with
      db := db'
      ledger := s.ledger ++
        [⟨source, credited.userId, credited.quota, db'.wallet credited.userId⟩] }

/-- The completion of an order, in the system. A failed one changes nothing. -/
def TopUpState.complete (s : TopUpState) (tradeNo : String) :
    Except TopUpError (Option Credited × TopUpDB) → TopUpState
  | .error _ => s
  | .ok (credited, db') => s.record (.order tradeNo s.quotaPerUnit) db' credited

def topUpStep (newFromFloat : Float → ℚ) (s : TopUpState) : TopUpCall → Option TopUpState
  | .rechargeEpay tradeNo actualPaymentMethod now =>
    some (s.complete tradeNo
      (rechargeEpay newFromFloat s.quotaPerUnit s.db tradeNo actualPaymentMethod now))
  | .recharge referenceId customerId now =>
    some (s.complete referenceId
      (recharge newFromFloat s.quotaPerUnit s.db referenceId customerId now))
  | .rechargeCreem referenceId customerEmail now =>
    some (s.complete referenceId (rechargeCreem s.db referenceId customerEmail now))
  | .rechargeWaffo tradeNo now =>
    some (s.complete tradeNo (rechargeWaffo newFromFloat s.quotaPerUnit s.db tradeNo now))
  | .rechargeWaffoPancake tradeNo now =>
    some (s.complete tradeNo (rechargeWaffoPancake newFromFloat s.quotaPerUnit s.db tradeNo now))
  | .manualCompleteTopUp tradeNo now =>
    some (s.complete tradeNo (manualCompleteTopUp newFromFloat s.quotaPerUnit s.db tradeNo now))
  | .updatePendingTopUpStatus tradeNo expectedPaymentProvider targetStatus =>
    match updatePendingTopUpStatus s.db tradeNo expectedPaymentProvider targetStatus with
    | .error _ => some s
    | .ok db' => some { s with db := db' }
  | .redeem key userId now =>
    match redeem s.db key userId now with
    | .error _ => some s
    | .ok (quota, db') => some (s.record (.code key) db' (some ⟨userId, quota⟩))
  | .setQuotaPerUnit quotaPerUnit => some { s with quotaPerUnit := quotaPerUnit }
  | .moveWallet userId amount =>
    match s.db.users.get? userId with
    | none => some s
    | some user =>
      some (s.record .other { s.db with
        users := s.db.users.save { user with quota := user.quota + amount } }
        (some ⟨userId, amount⟩))

end NewApi.Model
