import NewApi.Model.Quota
import NewApi.Model.Subscription
import NewApi.Utils.Runs

/-!
# Billing sessions

`BillingSession` pre-consumes, reserves, settles and refunds the quota of one request on two
ledgers: the token's quota, and a funding source that is either the user's wallet or one of the
user's subscriptions. The definitions follow `service/billing_session.go`, `funding_source.go` and
`image_billing.go`, with the ledgers passed explicitly: a fallible function returns its result
together with the ledgers, which an error can leave changed (a hydrated cache, a rolled-back
reservation).

The last section puts the calls on one session together as a transition system, with the detached
refund job and the background work on the stores as steps of their own.
-/

namespace NewApi.Service

open Model

/-- Everything a session charges: the user's wallet, the token and the subscription tables. -/
structure Ledger where
  user : QuotaAccount
  token : QuotaAccount
  db : SubscriptionDB

/-- What the session reads from the process: settings, the calendar, and the clock readings of
`NewBillingSession` (application time for the two checks, database time for the charge). -/
structure BillingEnv where
  mode : StoreMode
  cal : Calendar
  trustQuota : Int
  activeCheckTime : Int
  preConsumeTime : Int
  overflowCheckTime : Int

/-- A billing preference after `NormalizeBillingPreference`. -/
inductive BillingPreference
  | subscriptionFirst
  | walletFirst
  | subscriptionOnly
  | walletOnly
deriving DecidableEq

inductive BillingSource
  | wallet
  | subscription
deriving DecidableEq

/-- The fields of `RelayInfo` that billing reads or writes. -/
structure RelayInfo where
  userId : Nat
  requestId : String
  billingPreference : BillingPreference
  isPlayground : Bool
  tokenUnlimited : Bool
  forcePreConsume : Bool
  /-- `token_quota` of the request context -/
  tokenQuota : Int
  userQuota : Int
  /-- `Request` is an `*dto.ImageRequest` -/
  isImageRequest : Bool
  imageRequestCount : Int
  finalPreConsumedQuota : Int
  billingSource : Option BillingSource
  subscriptionId : Nat
  subscriptionPreConsumed : Int
  subscriptionPostDelta : Int
  subscriptionAmountTotal : Int
  subscriptionAmountUsedAfterPreConsume : Int
  subscriptionPlanId : Nat
  subscriptionPlanTitle : String
deriving DecidableEq

/-- The error codes billing returns. -/
inductive ErrorCode
  | invalidRequest
  | queryDataError
  | updateDataError
  | modelPriceError
  | insufficientUserQuota
  | preConsumeTokenQuotaFailed
deriving DecidableEq

/-! ## Funding sources -/

structure WalletFunding where
  consumed : Int
deriving DecidableEq

structure SubscriptionFunding where
  requestId : String
  userId : Nat
  amount : Int
  subscriptionId : Nat
  preConsumed : Int
  amountTotal : Int
  amountUsedAfter : Nat
  planId : Nat
  planTitle : String
deriving DecidableEq

inductive FundingSource
  | wallet (w : WalletFunding)
  | subscription (f : SubscriptionFunding)
deriving DecidableEq

def FundingSource.source : FundingSource → BillingSource
  | .wallet _ => .wallet
  | .subscription _ => .subscription

inductive FundingError
  | insufficientWalletQuota
  | quota (e : QuotaError)
  | subscription (e : SubscriptionError)
deriving DecidableEq

/-- `WalletFunding.PreConsume`. The amount replaces what was consumed before. -/
def WalletFunding.preConsume (env : BillingEnv) (w : WalletFunding) (l : Ledger) (amount : Int) :
    Except FundingError WalletFunding × Ledger :=
  if amount ≤ 0 then (.ok w, l)
  else
    match tryReserveUserQuota env.mode l.user amount with
    | .error e => (.error (.quota e), l)
    | .ok (false, a) => (.error .insufficientWalletQuota, { l with user := a })
    | .ok (true, a) => (.ok { w with consumed := amount }, { l with user := a })

/-- `SubscriptionFunding.PreConsume`. It charges its own `amount`. -/
def SubscriptionFunding.preConsume (env : BillingEnv) (f : SubscriptionFunding) (l : Ledger) :
    Except FundingError SubscriptionFunding × Ledger :=
  match preConsumeUserSubscription env.cal l.db f.requestId f.userId f.amount
      env.preConsumeTime with
  | .error e => (.error (.subscription e), l)
  | .ok (res, db) =>
    let f := { f with
      subscriptionId := res.userSubscriptionId
      preConsumed := res.preConsumed
      amountTotal := res.amountTotal
      amountUsedAfter := res.amountUsedAfter }
    let f := match getSubscriptionPlanInfoByUserSubscriptionId db res.userSubscriptionId with
      | some (planId, planTitle) => { f with planId := planId, planTitle := planTitle }
      | none => f
    (.ok f, { l with db := db })

def FundingSource.preConsume (env : BillingEnv) (l : Ledger) (amount : Int) :
    FundingSource → Except FundingError FundingSource × Ledger
  | .wallet w =>
    match w.preConsume env l amount with
    | (.ok w, l) => (.ok (.wallet w), l)
    | (.error e, l) => (.error e, l)
  | .subscription f =>
    match f.preConsume env l with
    | (.ok f, l) => (.ok (.subscription f), l)
    | (.error e, l) => (.error e, l)

/-- An update of the wallet, with its error as a funding error. -/
def updateUser (l : Ledger) : Except QuotaError QuotaAccount → Except FundingError Ledger
  | .ok a => .ok { l with user := a }
  | .error e => .error (.quota e)

/-- A subscription transaction, with its error as a funding error. -/
def updateDB (l : Ledger) : Except SubscriptionError SubscriptionDB → Except FundingError Ledger
  | .ok db => .ok { l with db := db }
  | .error e => .error (.subscription e)

/-- `Settle`: charge a positive difference, return a negative one. -/
def FundingSource.settle (env : BillingEnv) (l : Ledger) (delta : Int) :
    FundingSource → Except FundingError Ledger
  | .wallet _ =>
    if delta = 0 then .ok l
    else if 0 < delta then updateUser l (decreaseUserQuota env.mode l.user delta)
    else updateUser l (increaseUserQuota env.mode l.user (-delta))
  | .subscription f =>
    if delta = 0 then .ok l
    else updateDB l (postConsumeUserSubscriptionDelta l.db f.subscriptionId delta)

/-- Run `fn` again after an error, at most `retries` more times. -/
def refundWithRetry (fn : SubscriptionDB → Except SubscriptionError SubscriptionDB) :
    Nat → SubscriptionDB → Except SubscriptionError SubscriptionDB
  | 0, db => fn db
  | retries + 1, db =>
    match fn db with
    | .ok db => .ok db
    | .error _ => refundWithRetry fn retries db

/-- `Refund`: return what was pre-consumed. -/
def FundingSource.refund (env : BillingEnv) (l : Ledger) : FundingSource → Except FundingError Ledger
  | .wallet w =>
    if w.consumed ≤ 0 then .ok l
    else updateUser l (increaseUserQuota env.mode l.user w.consumed)
  | .subscription f =>
    if f.preConsumed ≤ 0 then .ok l
    else updateDB l (refundWithRetry (refundSubscriptionPreConsume · f.requestId) 2 l.db)

/-! ## The session -/

structure BillingSession where
  relayInfo : RelayInfo
  funding : FundingSource
  preConsumedQuota : Int
  tokenConsumed : Int
  extraReserved : Int
  trusted : Bool
  fundingSettled : Bool
  settled : Bool
  refunded : Bool
deriving DecidableEq

/-- A session as `NewBillingSession` allocates it. -/
def BillingSession.init (info : RelayInfo) (funding : FundingSource) : BillingSession where
  relayInfo := info
  funding := funding
  preConsumedQuota := 0
  tokenConsumed := 0
  extraReserved := 0
  trusted := false
  fundingSettled := false
  settled := false
  refunded := false

/-- Copy the session's state to the compatibility fields of `RelayInfo`. -/
def BillingSession.syncRelayInfo (s : BillingSession) : BillingSession :=
  let info := { s.relayInfo with
    finalPreConsumedQuota := s.preConsumedQuota
    billingSource := some s.funding.source }
  match s.funding with
  | .subscription f =>
    { s with relayInfo := { info with
        subscriptionId := f.subscriptionId
        subscriptionPreConsumed := f.preConsumed + s.extraReserved
        subscriptionPostDelta := 0
        subscriptionAmountTotal := f.amountTotal
        subscriptionAmountUsedAfterPreConsume := f.amountUsedAfter + s.extraReserved
        subscriptionPlanId := f.planId
        subscriptionPlanTitle := f.planTitle } }
  | .wallet _ => { s with relayInfo := { info with subscriptionId := 0, subscriptionPreConsumed := 0 } }

/-- The trust bypass: only wallets, and only when both balances are above the threshold. -/
def BillingSession.shouldTrust (env : BillingEnv) (s : BillingSession) : Bool :=
  if s.relayInfo.forcePreConsume then false
  else if env.trustQuota ≤ 0 then false
  else if ¬ (s.relayInfo.tokenUnlimited ∨ env.trustQuota < s.relayInfo.tokenQuota) then false
  else
    match s.funding.source with
    | .wallet => env.trustQuota < s.relayInfo.userQuota
    | .subscription => false

/-- `PreConsumeTokenQuota`: whether the token's quota was reserved. Playground requests have no
token. -/
def preConsumeTokenQuota (env : BillingEnv) (info : RelayInfo) (l : Ledger) (quota : Int) :
    Bool × Ledger :=
  if quota < 0 then (false, l)
  else if info.isPlayground then (true, l)
  else
    match tryReserveTokenQuota env.mode l.token quota info.tokenUnlimited with
    | .error _ => (false, l)
    | .ok (reserved, a) => (reserved, { l with token := a })

/-- Return `amount` to the token; an error is only logged. -/
def returnToken (env : BillingEnv) (l : Ledger) (amount : Int) : Ledger :=
  { l with token := l.token.logged (increaseTokenQuota env.mode l.token amount) }

/-- How `preConsume` reports an error of the funding source. An insufficient balance, and only
that, lets `NewBillingSession` fall back to the other source. -/
def FundingError.preConsumeCode : FundingError → ErrorCode
  | .insufficientWalletQuota => .insufficientUserQuota
  | .subscription .noActiveSubscription => .insufficientUserQuota
  | .subscription (.quotaInsufficient _) => .insufficientUserQuota
  | _ => .updateDataError

/-- The quota `preConsume` charges, after the trust bypass. -/
def BillingSession.effectiveQuota (env : BillingEnv) (s : BillingSession) (quota : Int) : Int :=
  if s.shouldTrust env then 0 else quota

/-- Step 1 of `preConsume`: the token. -/
def BillingSession.preConsumeToken (env : BillingEnv) (s : BillingSession) (l : Ledger)
    (quota : Int) : Option BillingSession × Ledger :=
  if 0 < quota then
    match preConsumeTokenQuota env s.relayInfo l quota with
    | (true, l) => (some { s with tokenConsumed := quota }, l)
    | (false, l) => (none, l)
  else (some s, l)

/-- Read the user's balance for a message, which may hydrate the hash. -/
def readUserQuota (env : BillingEnv) (l : Ledger) : Ledger :=
  match getUserQuota env.mode l.user with
  | .ok (_, a) => { l with user := a }
  | .error _ => l

/-- What `preConsume` does before it reports an error of the funding source. -/
def BillingSession.rollbackPreConsume (env : BillingEnv) (s : BillingSession) (l : Ledger)
    (e : FundingError) : Ledger :=
  let l := if 0 < s.tokenConsumed ∧ ¬ s.relayInfo.isPlayground then
      returnToken env l s.tokenConsumed
    else l
  if e = .insufficientWalletQuota then readUserQuota env l else l

/-- Step 2 of `preConsume`: the funding source. When it fails the token is rolled back. -/
def BillingSession.preConsumeFunding (env : BillingEnv) (s : BillingSession) (l : Ledger)
    (quota : Int) : Except ErrorCode BillingSession × Ledger :=
  match s.funding.preConsume env l quota with
  | (.error e, l) => (.error e.preConsumeCode, s.rollbackPreConsume env l e)
  | (.ok f, l) =>
    (.ok (BillingSession.syncRelayInfo { s with funding := f, preConsumedQuota := quota }), l)

/-- Trust check, token, funding source. -/
def BillingSession.preConsume (env : BillingEnv) (s : BillingSession) (l : Ledger) (quota : Int) :
    Except ErrorCode BillingSession × Ledger :=
  let effectiveQuota := s.effectiveQuota env quota
  let s := { s with trusted := s.shouldTrust env }
  match s.preConsumeToken env l effectiveQuota with
  | (none, l) => (.error .preConsumeTokenQuotaFailed, l)
  | (some s, l) => s.preConsumeFunding env l effectiveQuota

/-! ## `NewBillingSession` -/

def tryWallet (env : BillingEnv) (info : RelayInfo) (preConsumedQuota : Int) (l : Ledger) :
    Except ErrorCode BillingSession × Ledger :=
  match getUserQuota env.mode l.user with
  | .error _ => (.error .queryDataError, l)
  | .ok (userQuota, a) =>
    let l := { l with user := a }
    if userQuota ≤ 0 then (.error .insufficientUserQuota, l)
    else if userQuota - preConsumedQuota < 0 then (.error .insufficientUserQuota, l)
    else
      (BillingSession.init { info with userQuota := userQuota } (.wallet { consumed := 0 })).preConsume
        env l preConsumedQuota

def trySubscription (env : BillingEnv) (info : RelayInfo) (preConsumedQuota : Int) (l : Ledger) :
    Except ErrorCode BillingSession × Ledger :=
  let subConsume := if preConsumedQuota ≤ 0 then 1 else preConsumedQuota
  let funding := { requestId := info.requestId, userId := info.userId, amount := subConsume,
                   subscriptionId := 0, preConsumed := 0, amountTotal := 0, amountUsedAfter := 0,
                   planId := 0, planTitle := "" }
  (BillingSession.init info (.subscription funding)).preConsume env l subConsume

/-- Create the session by the user's preference. `UserQuota`, which a failed wallet attempt leaves
in `RelayInfo`, is read by the wallet path only. -/
def newBillingSession (env : BillingEnv) (info : RelayInfo) (preConsumedQuota : Int) (l : Ledger) :
    Except ErrorCode BillingSession × Ledger :=
  match info.billingPreference with
  | .subscriptionOnly => trySubscription env info preConsumedQuota l
  | .walletOnly => tryWallet env info preConsumedQuota l
  | .walletFirst =>
    match tryWallet env info preConsumedQuota l with
    | (.error .insufficientUserQuota, l) => trySubscription env info preConsumedQuota l
    | r => r
  | .subscriptionFirst =>
    match hasActiveUserSubscription l.db info.userId env.activeCheckTime with
    | .error _ => (.error .queryDataError, l)
    | .ok false => tryWallet env info preConsumedQuota l
    | .ok true =>
      match trySubscription env info preConsumedQuota l with
      | (.error .insufficientUserQuota, l) =>
        match userActiveSubscriptionsAllowWalletOverflow l.db info.userId env.overflowCheckTime with
        | .error _ => (.error .queryDataError, l)
        | .ok true => tryWallet env info preConsumedQuota l
        | .ok false => (.error .insufficientUserQuota, l)
      | r => r

/-! ## `Reserve` -/

/-- Whether `Reserve` treats the request as an image request. -/
def RelayInfo.imageRequest (info : RelayInfo) : Bool :=
  info.isImageRequest || 0 < info.imageRequestCount

/-- Charge the funding source for a reservation. Image requests must not run the wallet into
debt, so they go through the checked reservation of `PreConsume`. -/
def BillingSession.reserveFunding (env : BillingEnv) (s : BillingSession) (l : Ledger)
    (delta : Int) (requireAvailableQuota : Bool) : Except ErrorCode BillingSession × Ledger :=
  match s.funding with
  | .wallet w =>
    if requireAvailableQuota then
      match w.preConsume env l delta with
      | (.ok w, l) => (.ok { s with funding := .wallet w }, l)
      | (.error .insufficientWalletQuota, l) => (.error .insufficientUserQuota, l)
      | (.error _, l) => (.error .updateDataError, l)
    else
      match decreaseUserQuota env.mode l.user delta with
      | .error _ => (.error .updateDataError, l)
      | .ok a =>
        (.ok { s with funding := .wallet { w with consumed := w.consumed + delta } },
          { l with user := a })
  | .subscription f =>
    match postConsumeUserSubscriptionDelta l.db f.subscriptionId delta with
    | .error _ => (.error .insufficientUserQuota, l)
    | .ok db => (.ok s, { l with db := db })

/-- Undo `reserveFunding`; an error is only logged. -/
def BillingSession.rollbackFundingReserve (env : BillingEnv) (s : BillingSession) (l : Ledger)
    (delta : Int) : BillingSession × Ledger :=
  match s.funding with
  | .wallet w =>
    match increaseUserQuota env.mode l.user delta with
    | .error e => (s, { l with user := l.user.logged (.error e) })
    | .ok a =>
      ({ s with funding := .wallet { w with consumed := w.consumed - delta } },
        { l with user := a })
  | .subscription f =>
    match postConsumeUserSubscriptionDelta l.db f.subscriptionId (-delta) with
    | .error _ => (s, l)
    | .ok db => (s, { l with db := db })

/-- `reserveToken`: whether the token's quota was reserved. -/
def BillingSession.reserveToken (env : BillingEnv) (s : BillingSession) (l : Ledger)
    (delta : Int) : Bool × Ledger :=
  if delta ≤ 0 ∨ s.relayInfo.isPlayground then (true, l)
  else preConsumeTokenQuota env s.relayInfo l delta

/-- What a `Reserve` that charged both ledgers writes to the session. -/
def BillingSession.recordReserve (s : BillingSession) (delta : Int) : BillingSession :=
  BillingSession.syncRelayInfo { s with
    preConsumedQuota := s.preConsumedQuota + delta
    tokenConsumed := s.tokenConsumed + delta
    extraReserved := s.extraReserved + delta
    trusted := if s.relayInfo.imageRequest then false else s.trusted }

/-- Whether `Reserve` goes past its guard. -/
def BillingSession.reserves (s : BillingSession) (targetQuota : Int) : Bool :=
  ¬ (s.settled ∨ s.refunded ∨ (s.trusted ∧ ¬ s.relayInfo.imageRequest)
    ∨ targetQuota ≤ s.preConsumedQuota)

/-- Raise the reservation to `targetQuota`. -/
def BillingSession.reserve (env : BillingEnv) (s : BillingSession) (l : Ledger)
    (targetQuota : Int) : Option ErrorCode × BillingSession × Ledger :=
  if s.reserves targetQuota then
    let delta := targetQuota - s.preConsumedQuota
    match s.reserveFunding env l delta s.relayInfo.imageRequest with
    | (.error e, l) => (some e, s, l)
    | (.ok s, l) =>
      match s.reserveToken env l delta with
      | (false, l) => (some .preConsumeTokenQuotaFailed, s.rollbackFundingReserve env l delta)
      | (true, l) => (none, s.recordReserve delta, l)
  else (none, s, l)

def maxImageN : Int := 128

/-- `PrepareImageBillingForRequest` on a request that has a session. The quota is what the price
data give for `count` images, or `none` where the expression prices tokens only. -/
def BillingSession.prepareImageBillingForRequest (env : BillingEnv) (s : BillingSession)
    (l : Ledger) (count : Int) (quota : Option Int) :
    Option ErrorCode × BillingSession × Ledger :=
  if count < 1 ∨ maxImageN < count then (some .invalidRequest, s, l)
  else
    let s := { s with relayInfo := { s.relayInfo with imageRequestCount := count } }
    match quota with
    | none => (none, s, l)
    | some quota => s.reserve env l quota

/-! ## `Settle` and `Refund` -/

/-- The token's part of `Settle`. -/
def settleToken (env : BillingEnv) (l : Ledger) (delta : Int) : Except QuotaError QuotaAccount :=
  if 0 < delta then decreaseTokenQuota env.mode l.token delta
  else increaseTokenQuota env.mode l.token (-delta)

/-- Step 1 of `Settle`: the funding source, unless an earlier call has adjusted it. -/
def BillingSession.settleFunding (env : BillingEnv) (s : BillingSession) (l : Ledger)
    (delta : Int) : Except FundingError Ledger :=
  if s.fundingSettled then .ok l else s.funding.settle env l delta

/-- Steps 2 and 3 of `Settle`. An error of the token is logged and returned, and the session is
settled all the same. -/
def BillingSession.finishSettle (env : BillingEnv) (s : BillingSession) (l : Ledger) (delta : Int) :
    Option FundingError × BillingSession × Ledger :=
  let postDelta := s.relayInfo.subscriptionPostDelta +
    if s.funding.source = .subscription then delta else 0
  let s := { s with
    fundingSettled := true
    settled := true
    relayInfo := { s.relayInfo with subscriptionPostDelta := postDelta } }
  if s.relayInfo.isPlayground then (none, s, l)
  else
    let r := settleToken env l delta
    let l := { l with token := l.token.logged r }
    match r with
    | .ok _ => (none, s, l)
    | .error e => (some (.quota e), s, l)

/-- Charge what the request really cost. -/
def BillingSession.settle (env : BillingEnv) (s : BillingSession) (l : Ledger)
    (actualQuota : Int) : Option FundingError × BillingSession × Ledger :=
  if s.settled then (none, s, l)
  else
    let delta := actualQuota - s.preConsumedQuota
    if delta = 0 then (none, { s with settled := true }, l)
    else
      match s.settleFunding env l delta with
      | .error e => (some e, s, l)
      | .ok l => s.finishSettle env l delta

def BillingSession.needsRefundLocked (s : BillingSession) : Bool :=
  if s.settled ∨ s.refunded ∨ s.fundingSettled then false
  else if 0 < s.tokenConsumed then true
  else
    match s.funding with
    | .subscription f => 0 < f.preConsumed
    | .wallet _ => false

/-- One call of the refund job, with the values its closure copied. -/
inductive RefundAction
  | funding
  | extra (subscriptionId : Nat) (extraReserved : Int)
  | token (tokenConsumed : Int) (isPlayground : Bool)
deriving DecidableEq

/-- Whether `Refund` is accepted, the session after it, and the job it starts. -/
def BillingSession.refund (s : BillingSession) : BillingSession × List RefundAction :=
  if s.settled ∨ s.refunded ∨ ¬ s.needsRefundLocked then (s, [])
  else
    ({ s with refunded := true }, [.funding, .extra s.relayInfo.subscriptionId s.extraReserved,
        .token s.tokenConsumed s.relayInfo.isPlayground])

/-- Report an error of the funding source in the system log. A wallet error is a storage fault; a
subscription error leaves the tables as they are. -/
def Ledger.logged (l : Ledger) : Except FundingError Ledger → Ledger
  | .ok l => l
  | .error (.quota e) => { l with user := l.user.logged (.error e) }
  | .error _ => l

/-- One call of the refund job. The funding source is the session's own, read when it runs. -/
def RefundAction.perform (env : BillingEnv) (funding : FundingSource) (l : Ledger) :
    RefundAction → Ledger
  | .funding => l.logged (funding.refund env l)
  | .extra subscriptionId extraReserved =>
    if 0 < extraReserved ∧ funding.source = .subscription ∧ 0 < subscriptionId then
      l.logged (updateDB l (postConsumeUserSubscriptionDelta l.db subscriptionId (-extraReserved)))
    else l
  | .token tokenConsumed isPlayground =>
    if 0 < tokenConsumed ∧ ¬ isPlayground then returnToken env l tokenConsumed else l

/-! ## Runs of one session

The mutex makes each call atomic. The refund job runs on a goroutine of its own, one call at a
time, and the stores do their background work at any moment: batch flushes, and whatever happens
to the Redis hashes (asynchronous deltas, hydration, expiry, fences). -/

structure BillingState where
  session : BillingSession
  ledger : Ledger
  /-- the calls the refund job has still to make -/
  job : List RefundAction
  /-- the argument of the `Settle` call that settled the session -/
  settledWith : Option Int

inductive BillingLabel
  | reserve (targetQuota : Int)
  | prepareImage (count : Int) (quota : Option Int)
  /-- a handler overwrites `ImageRequestCount` -/
  | imageCount (count : Int)
  | settle (actualQuota : Nat)
  | refund
  | runJob
  | flush (k : QuotaKind)
  | cache (k : QuotaKind) (cached : Option QuotaRow) (fenced : Bool)

/-- The state after `NewBillingSession`. -/
def BillingState.start (s : BillingSession) (l : Ledger) : BillingState where
  session := s
  ledger := l
  job := []
  settledWith := none

/-- Change one of the two quota accounts. -/
def Ledger.updateAccount (l : Ledger) (k : QuotaKind) (f : QuotaAccount → QuotaAccount) : Ledger :=
  match k with
  | .user => { l with user := f l.user }
  | .token => { l with token := f l.token }

def billingStep (env : BillingEnv) (s : BillingState) : BillingLabel → Option BillingState
  | .reserve targetQuota =>
    let r := s.session.reserve env s.ledger targetQuota
    some { s with session := r.2.1, ledger := r.2.2 }
  | .prepareImage count quota =>
    let r := s.session.prepareImageBillingForRequest env s.ledger count quota
    some { s with session := r.2.1, ledger := r.2.2 }
  | .imageCount count =>
    some { s with session := { s.session with
      relayInfo := { s.session.relayInfo with imageRequestCount := count } } }
  | .settle actualQuota =>
    let r := s.session.settle env s.ledger actualQuota
    some { s with
      session := r.2.1
      ledger := r.2.2
      settledWith := if r.2.1.settled ∧ ¬ s.session.settled then some actualQuota
        else s.settledWith }
  | .refund =>
    let r := s.session.refund
    some { s with session := r.1, job := s.job ++ r.2 }
  | .runJob =>
    match s.job with
    | [] => none
    | action :: rest =>
      some { s with ledger := action.perform env s.session.funding s.ledger, job := rest }
  | .flush k => some { s with ledger := s.ledger.updateAccount k (batchUpdate k) }
  | .cache k cached fenced =>
    some { s with ledger := s.ledger.updateAccount k fun a =>
      { a with cached := cached, fenced := fenced } }

end NewApi.Service
