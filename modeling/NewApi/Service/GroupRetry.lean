import NewApi.Billingexpr.Run
import NewApi.Model.PricingConversion
import NewApi.Service.Realtime

/-!
# Retries across groups

A request priced by an expression may be retried in another group, with another ratio. Before each
attempt the estimate is recomputed for the selected group and the reservation raised to it
(`PrepareTieredBillingForSelectedGroup`, for images also `PrepareImageBillingForRequest`); the
response is settled at the ratio the snapshot has by then. The definitions follow
`service/tiered_settle.go`, `image_billing.go`, `billing.go`, `relay/helper/price.go` and the loop of
`controller/relay.go`.

The expression is held compiled. What differs between text and audio settlement after the
expression has run is in `Response`; realtime sessions charge on their own and are not here.
-/

namespace NewApi.Service

open Model Common
open Billingexpr (CachedEntry ExprLang RequestInput TokenParams BillingUnit runProgram
  million)

/-! ## Snapshots and prices -/

/-- The fields of `BillingSnapshot` that decide a charge. -/
structure BillingSnapshot where
  entry : CachedEntry
  groupRatio : Binary64
  estimatedPromptTokens : Int
  estimatedCompletionTokens : Int
  estimatedQuotaBeforeGroup : Binary64
  estimatedQuotaAfterGroup : Int
  estimatedImageCount : Option Int
  estimatedBillingUnit : BillingUnit
  quotaPerUnit : Binary64

/-- The fields of `PriceData` that pricing by expression sets. -/
structure TieredPriceData where
  groupRatio : Binary64
  freeModel : Bool
  quotaToPreConsume : Int

/-- What a request reads from its surroundings. -/
structure RelayEnv (D S : Type) where
  billing : BillingEnv
  lang : ExprLang D S
  dec : DecimalLibrary
  /-- `BillingRequestInput` -/
  request : RequestInput D
  quotaPerUnit : Binary64
  enableFreeModelPreConsume : Bool

/-- Prices are in dollars for a million tokens. -/
def quotaConversion (exprOutput quotaPerUnit : Binary64) : Binary64 :=
  (exprOutput.div million).mul quotaPerUnit

/-- The parameters of an estimate. -/
def estimateParams (promptTokens completionTokens : Int) : TokenParams Binary64 where
  p := .ofInt promptTokens
  c := .ofInt completionTokens
  len := .ofInt promptTokens
  cr := .zero
  cc := .zero
  cc1h := .zero
  img := .zero
  imgCR := .zero
  imgO := .zero
  ai := .zero
  ao := .zero

def defaultTieredPreConsumeMaxTokens : Int := 8192

section
variable {D S : Type} (env : RelayEnv D S)

def modelPriceHelperTiered (entry : CachedEntry) (promptTokens maxTokens : Int)
    (groupRatio : Binary64) : Except ErrorCode (BillingSnapshot × TieredPriceData) :=
  let completionTokens :=
    if maxTokens = 0 ∧ ¬ groupRatio.eq .zero then defaultTieredPreConsumeMaxTokens else maxTokens
  let out := runProgram env.lang entry (estimateParams promptTokens completionTokens) env.request
  match out.result with
  | .error _ => .error .modelPriceError
  | .ok rawCost =>
    let quotaBeforeGroup := quotaConversion rawCost env.quotaPerUnit
    match quotaRoundStrict (quotaBeforeGroup.mul groupRatio) with
    | .error _ => .error .modelPriceError
    | .ok estimate =>
      let freeModel := !env.enableFreeModelPreConsume && groupRatio.eq .zero
      let preConsumedQuota := if freeModel then 0 else estimate
      .ok ({
        entry := entry
        groupRatio := groupRatio
        estimatedPromptTokens := promptTokens
        estimatedCompletionTokens := completionTokens
        estimatedQuotaBeforeGroup := quotaBeforeGroup
        estimatedQuotaAfterGroup := preConsumedQuota
        estimatedImageCount := out.trace.imageCount
        estimatedBillingUnit := out.trace.billingUnit
        quotaPerUnit := env.quotaPerUnit
      }, {
        groupRatio := groupRatio
        freeModel := freeModel
        quotaToPreConsume := preConsumedQuota })

/-! ## The state of a request -/

structure RelayState where
  snapshot : BillingSnapshot
  priceData : TieredPriceData
  /-- the record that the session takes over once there is one -/
  info : RelayInfo
  billing : Option BillingSession
  ledger : Ledger
  /-- a channel has been used already -/
  retrying : Bool
  /-- the ratio of the group whose channel has got the request last -/
  sent : Option Binary64
  /-- billing has refused an attempt, which ends the loop -/
  refused : Bool

/-- `relayInfo` is one record, shared with the session. -/
def RelayState.relayInfo (s : RelayState) : RelayInfo :=
  match s.billing with
  | none => s.info
  | some session => session.relayInfo

/-- What the session has reserved. -/
def RelayState.reserved (s : RelayState) : Int :=
  match s.billing with
  | none => 0
  | some session => session.preConsumedQuota

/-- The session has taken the trust bypass. -/
def RelayState.trusted (s : RelayState) : Bool :=
  match s.billing with
  | none => false
  | some session => session.trusted

def RelayState.setImageRequestCount (s : RelayState) (count : Int) : RelayState :=
  { s with
    info := { s.info with imageRequestCount := count }
    billing := s.billing.map fun session =>
      { session with relayInfo := { session.relayInfo with imageRequestCount := count } } }

/-- `relayInfo.FinalPreConsumedQuota = relayInfo.Billing.GetPreConsumedQuota()`. -/
def RelayState.syncFinalPreConsumedQuota (s : RelayState) : RelayState :=
  { s with
    billing := s.billing.map fun session =>
      { session with relayInfo :=
        { session.relayInfo with finalPreConsumedQuota := session.preConsumedQuota } } }

/-- Open the session. Nothing has been clamped before settlement, so that check is left out. -/
def RelayState.preConsumeBilling (s : RelayState) (preConsumedQuota : Int) :
    Option ErrorCode × RelayState :=
  if preConsumedQuota < 0 then (some .modelPriceError, s)
  else
    match newBillingSession env.billing s.info preConsumedQuota s.ledger with
    | (.error e, ledger) => (some e, { s with ledger := ledger })
    | (.ok session, ledger) => (none, { s with billing := some session, ledger := ledger })

/-- `relayInfo.Billing.Reserve`. -/
def RelayState.reserve (s : RelayState) (session : BillingSession) (targetQuota : Int) :
    Option ErrorCode × RelayState :=
  let r := session.reserve env.billing s.ledger targetQuota
  (r.1, { s with billing := some r.2.1, ledger := r.2.2 })

/-! ## Before an attempt -/

def refreshTieredBillingGroup (snap : BillingSnapshot) (groupRatio : Binary64) :
    Except QuotaClampKind BillingSnapshot :=
  if snap.groupRatio.eq groupRatio then .ok snap
  else
    match quotaRoundStrict (snap.estimatedQuotaBeforeGroup.mul groupRatio) with
    | .error e => .error e
    | .ok estimatedQuota =>
      .ok { snap with groupRatio := groupRatio, estimatedQuotaAfterGroup := estimatedQuota }

/-- An estimate is to be covered: by a new session, or by a higher reservation. -/
def RelayState.cover (s : RelayState) (quota : Int) : Option ErrorCode × RelayState :=
  let s := { s with priceData := { s.priceData with freeModel := false } }
  match s.billing with
  | none => s.preConsumeBilling env quota
  | some session =>
    match s.reserve env session quota with
    | (some e, s) => (some e, s)
    | (none, s) => (none, s.syncFinalPreConsumedQuota)

/-- A group that is free needs no reservation. An error of an existing session is reported as a
failed update. -/
def RelayState.prepareTieredBillingForSelectedGroup (s : RelayState) :
    Option ErrorCode × RelayState :=
  match refreshTieredBillingGroup s.snapshot s.priceData.groupRatio with
  | .error _ => (some .modelPriceError, s)
  | .ok snap =>
    let s := { s with snapshot := snap }
    if snap.groupRatio.eq .zero then (none, s)
    else
      match s.billing, s.cover env snap.estimatedQuotaAfterGroup with
      | some _, (some _, s) => (some .updateDataError, s)
      | _, r => r

/-- The estimate for the images that are really sent. An expression without a quantity keeps the
estimate it has. -/
def RelayState.prepareImageBillingForRequest (s : RelayState) (count : Int) :
    Option ErrorCode × RelayState :=
  if count < 1 ∨ maxImageN < count then (some .invalidRequest, s)
  else
    let s := s.setImageRequestCount count
    let snap := s.snapshot
    if snap.estimatedImageCount = none then (none, s)
    else
      let out := runProgram env.lang snap.entry
        (estimateParams snap.estimatedPromptTokens snap.estimatedCompletionTokens)
        { env.request with imageCount := some count }
      match out.result with
      | .error _ => (some .modelPriceError, s)
      | .ok cost =>
        let beforeGroup := quotaConversion cost snap.quotaPerUnit
        match quotaRoundStrict (beforeGroup.mul s.priceData.groupRatio) with
        | .error _ => (some .modelPriceError, s)
        | .ok quota =>
          let s := { s with
            snapshot := { snap with
              estimatedImageCount := out.trace.imageCount
              estimatedQuotaBeforeGroup := beforeGroup
              estimatedQuotaAfterGroup := quota
              estimatedBillingUnit := out.trace.billingUnit
              groupRatio := s.priceData.groupRatio }
            priceData := { s.priceData with quotaToPreConsume := quota } }
          if quota = 0 ∧ s.billing = none then (none, s) else s.cover env quota

/-- `getChannel`: the first attempt has the channel that the request came with, and the prices of
its group. -/
def RelayState.getChannel (s : RelayState) (groupRatio : Binary64) : RelayState :=
  { s with
    retrying := true
    priceData := { s.priceData with
      groupRatio := if s.retrying then groupRatio else s.priceData.groupRatio } }

/-- What billing does for an attempt in a group with the given ratio. Image handlers forget the
quantity of the attempt before, and prepare the one they send. -/
def RelayState.prepareAttempt (s : RelayState) (groupRatio : Binary64) (images : Option Int) :
    Option ErrorCode × RelayState :=
  match (s.getChannel groupRatio).prepareTieredBillingForSelectedGroup env with
  | (some e, s) => (some e, s)
  | (none, s) =>
    match images with
    | none => (none, s)
    | some count => (s.setImageRequestCount 0).prepareImageBillingForRequest env count

/-! ## Settlement -/

/-- The result of a settlement that decides the charge. -/
structure TieredResult where
  billingUnit : BillingUnit
  actualQuotaBeforeGroup : Binary64
  actualQuotaAfterGroup : Int

def computeTieredQuotaWithRequest (snap : BillingSnapshot) (params : TokenParams Binary64)
    (request : RequestInput D) : Except String TieredResult :=
  let out := runProgram env.lang snap.entry params request
  match out.result with
  | .error e => .error e
  | .ok cost =>
    let quotaBeforeGroup := quotaConversion cost snap.quotaPerUnit
    .ok {
      billingUnit := out.trace.billingUnit
      actualQuotaBeforeGroup := quotaBeforeGroup
      actualQuotaAfterGroup := (quotaRoundChecked (quotaBeforeGroup.mul snap.groupRatio)).1 }

/-- What the settlement functions differ in: text adds the surcharge of tool calls, whose quota
before the group ratio is `toolQuota`; audio charges nothing without tokens. -/
inductive SettlementKind
  | text (toolQuota : ℚ)
  | audio (totalTokens : Int)

structure Response where
  params : TokenParams Binary64
  /-- `BillingImageCount`: the images the channel reports to have made -/
  imageCount : Option Int
  kind : SettlementKind

/-- The request input of a settlement. -/
def RelayState.settleInput (s : RelayState) (response : Response) : RequestInput D :=
  match response.imageCount with
  | some count => { env.request with imageCount := some count }
  | none =>
    match s.snapshot.estimatedImageCount with
    | some count => { env.request with imageCount := some count }
    | none => env.request

/-- The quota and the result, which there is none of if the expression failed: then the
reservation is kept. -/
def RelayState.tryTieredSettle (s : RelayState) (response : Response) : Int × Option TieredResult :=
  match computeTieredQuotaWithRequest env s.snapshot response.params (s.settleInput env response) with
  | .error _ =>
    let quota := s.relayInfo.finalPreConsumedQuota
    (if quota ≤ 0 then s.snapshot.estimatedQuotaAfterGroup else quota, none)
  | .ok result => (result.actualQuotaAfterGroup, some result)

def composeTieredTextQuota (snap : BillingSnapshot) (toolCallSurchargeQuota : ℚ) (tieredQuota : Int)
    (tieredResult : Option TieredResult) : Int :=
  if toolCallSurchargeQuota = 0 then tieredQuota
  else
    match tieredResult with
    | some result =>
      (quotaFromDecimalChecked (env.dec.newFromFloat result.actualQuotaBeforeGroup
        * env.dec.newFromFloat snap.groupRatio + toolCallSurchargeQuota)).1
    | none => (quotaFromDecimalChecked (tieredQuota + toolCallSurchargeQuota)).1

def isFixedPriceSettlement (snap : BillingSnapshot) : Option TieredResult → Bool
  | some result => result.billingUnit = .request
  | none => snap.estimatedBillingUnit = .request

/-- The quota that `PostTextConsumeQuota` or `PostAudioConsumeQuota` settles. -/
def RelayState.settledQuota (s : RelayState) (response : Response) : Int :=
  let settled := s.tryTieredSettle env response
  match response.kind with
  | .text toolQuota =>
    composeTieredTextQuota env s.snapshot
      (toolQuota * env.dec.newFromFloat s.priceData.groupRatio) settled.1 settled.2
  | .audio totalTokens =>
    if totalTokens = 0 ∧ ¬ isFixedPriceSettlement s.snapshot settled.2 then 0 else settled.1

/-- Settle with the session; without one the difference is charged directly. -/
def RelayState.settleBilling (s : RelayState) (actualQuota : Int) :
    Option (FundingError ⊕ ConsumeError) × RelayState :=
  match s.billing with
  | some session =>
    let r := session.settle env.billing s.ledger actualQuota
    (r.1.map .inl, { s with billing := some r.2.1, ledger := r.2.2 })
  | none =>
    let quotaDelta := actualQuota - s.info.finalPreConsumedQuota
    if quotaDelta = 0 then (none, s)
    else
      let r := postConsumeQuota env.billing s.info s.ledger quotaDelta
      (r.1.map .inr, { s with info := r.2.1, ledger := r.2.2 })

/-! ## The loop -/

inductive RelayLabel
  /-- an attempt in a group with the given ratio, for a number of images if it is for images -/
  | attempt (groupRatio : Binary64) (images : Option Int)
  | flush (k : QuotaKind)
  | cache (k : QuotaKind) (cached : Option QuotaRow) (fenced : Bool)

/-- One pass of the loop, or background work of the stores. -/
def relayStep (s : RelayState) : RelayLabel → Option RelayState
  | .attempt groupRatio images =>
    if s.refused then none
    else
      match s.prepareAttempt env groupRatio images with
      | (some _, s) => some { s with sent := none, refused := true }
      | (none, s) => some { s with sent := some s.priceData.groupRatio }
  | .flush k => some { s with ledger := s.ledger.updateAccount k (batchUpdate k) }
  | .cache k cached fenced =>
    some { s with ledger := s.ledger.updateAccount k fun a =>
      { a with cached := cached, fenced := fenced } }

/-- The state in which `Relay` enters its loop: the request is priced, and the session is opened
unless the group is free. The record of a new request has nothing pre-consumed. -/
def relayStart (info : RelayInfo) (ledger : Ledger) (entry : CachedEntry)
    (promptTokens maxTokens : Int) (groupRatio : Binary64) : Except ErrorCode RelayState :=
  match modelPriceHelperTiered env entry promptTokens maxTokens groupRatio with
  | .error e => .error e
  | .ok (snapshot, priceData) =>
    let s : RelayState := {
      snapshot := snapshot
      priceData := priceData
      info := { info with finalPreConsumedQuota := 0 }
      billing := none
      ledger := ledger
      retrying := false
      sent := none
      refused := false }
    if priceData.freeModel then .ok s
    else
      match s.preConsumeBilling env priceData.quotaToPreConsume with
      | (some e, _) => .error e
      | (none, s) => .ok s

end

end NewApi.Service
