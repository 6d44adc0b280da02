import NewApi.Common.QuotaMath
import NewApi.Service.BillingSession

/-!
# Realtime sessions

A realtime session relays websocket messages between a client and an upstream model and is billed
turn by turn: a `response.done` event ends a turn, with the usage it reports or with what was
counted locally. Each turn is charged when it ends (`PreWssConsumeQuota`), and the session's total
when the session ends (`PostWssConsumeQuota`). The definitions follow
`relay/channel/openai/relay_realtime.go` and `service/quota.go`.

Both readers and the goroutine that ends the session share the usage counters, so a session is a
transition system: a label is one message, one step of the end, or background work of the stores.
-/

namespace NewApi.Service

open Model Common

/-! ## The price of a usage -/

structure TokenDetails where
  textTokens : Int
  audioTokens : Int
deriving DecidableEq

/-- `dto.RealtimeUsage`, with the fields of its details that the relay adds up. -/
structure RealtimeUsage where
  totalTokens : Int
  inputTokens : Int
  outputTokens : Int
  cachedTokens : Int
  inputTokenDetails : TokenDetails
  outputTokenDetails : TokenDetails
deriving DecidableEq

def TokenDetails.add (d e : TokenDetails) : TokenDetails where
  textTokens := d.textTokens + e.textTokens
  audioTokens := d.audioTokens + e.audioTokens

def RealtimeUsage.zero : RealtimeUsage where
  totalTokens := 0
  inputTokens := 0
  outputTokens := 0
  cachedTokens := 0
  inputTokenDetails := { textTokens := 0, audioTokens := 0 }
  outputTokenDetails := { textTokens := 0, audioTokens := 0 }

def RealtimeUsage.add (u v : RealtimeUsage) : RealtimeUsage where
  totalTokens := u.totalTokens + v.totalTokens
  inputTokens := u.inputTokens + v.inputTokens
  outputTokens := u.outputTokens + v.outputTokens
  cachedTokens := u.cachedTokens + v.cachedTokens
  inputTokenDetails := u.inputTokenDetails.add v.inputTokenDetails
  outputTokenDetails := u.outputTokenDetails.add v.outputTokenDetails

/-- The usage of a whole session. -/
def RealtimeUsage.sum (turns : List RealtimeUsage) : RealtimeUsage :=
  turns.foldl RealtimeUsage.add .zero

/-- Tokens counted in a message, as input. -/
def RealtimeUsage.ofInput (d : TokenDetails) : RealtimeUsage :=
  { RealtimeUsage.zero with
    totalTokens := d.textTokens + d.audioTokens
    inputTokens := d.textTokens + d.audioTokens
    inputTokenDetails := d }

/-- Tokens counted in a message, as output. -/
def RealtimeUsage.ofOutput (d : TokenDetails) : RealtimeUsage :=
  { RealtimeUsage.zero with
    totalTokens := d.textTokens + d.audioTokens
    outputTokens := d.textTokens + d.audioTokens
    outputTokenDetails := d }

/-- The price settings, which do not change during a session. -/
structure RatioSettings where
  quotaPerUnit : ℚ
  completionRatio : String → ℚ
  audioRatio : String → ℚ
  audioCompletionRatio : String → ℚ
  modelRatio : String → ℚ
  groupRatio : String → ℚ
  groupGroupRatio : String → String → Option ℚ

structure QuotaInfo where
  inputDetails : TokenDetails
  outputDetails : TokenDetails
  modelName : String
  usePrice : Bool
  modelPrice : ℚ
  modelRatio : ℚ
  groupRatio : ℚ

/-- The exact amount of a usage priced by ratios. A ratio that is not zero charges at least
something. -/
def audioAmount (settings : RatioSettings) (info : QuotaInfo) : ℚ :=
  let ratio := info.groupRatio * info.modelRatio
  let audioRatio := settings.audioRatio info.modelName
  let quota := (info.inputDetails.textTokens
    + info.outputDetails.textTokens * settings.completionRatio info.modelName
    + info.inputDetails.audioTokens * audioRatio
    + info.outputDetails.audioTokens * audioRatio
      * settings.audioCompletionRatio info.modelName) * ratio
  if ratio ≠ 0 ∧ quota ≤ 0 then 1 else quota

def calculateAudioQuota (settings : RatioSettings) (info : QuotaInfo) :
    Int × Option QuotaClampKind :=
  if info.usePrice then
    quotaFromDecimalChecked (info.modelPrice * settings.quotaPerUnit * info.groupRatio)
  else quotaFromDecimalChecked (audioAmount settings info)

/-- The fields of `RelayInfo` that only the realtime relay reads. -/
structure RealtimeInfo where
  /-- `RelayInfo.UsePrice` -/
  usePrice : Bool
  originModelName : String
  upstreamModelName : String
  userGroup : String
  usingGroup : String
  /-- `auto_group` of the request context -/
  autoGroup : Option String
  /-- `PriceData`: what the price settings said when the request was accepted -/
  priceUsePrice : Bool
  priceModelPrice : ℚ
  priceModelRatio : ℚ
  priceGroupRatio : ℚ

/-- The group ratio `PreWssConsumeQuota` looks up. -/
def RealtimeInfo.actualGroupRatio (settings : RatioSettings) (ws : RealtimeInfo) : ℚ :=
  let usingGroup := ws.autoGroup.getD ws.usingGroup
  match settings.groupGroupRatio ws.userGroup usingGroup with
  | some userGroupRatio => userGroupRatio
  | none => settings.groupRatio usingGroup

/-- What a turn is priced by. -/
def RealtimeInfo.turnInfo (settings : RatioSettings) (ws : RealtimeInfo) (usage : RealtimeUsage) :
    QuotaInfo where
  inputDetails := usage.inputTokenDetails
  outputDetails := usage.outputTokenDetails
  modelName := ws.originModelName
  usePrice := ws.usePrice
  modelPrice := 0
  modelRatio := settings.modelRatio ws.originModelName
  groupRatio := ws.actualGroupRatio settings

/-- What the whole session is priced by. -/
def RealtimeInfo.totalInfo (ws : RealtimeInfo) (usage : RealtimeUsage) : QuotaInfo where
  inputDetails := usage.inputTokenDetails
  outputDetails := usage.outputTokenDetails
  modelName := ws.upstreamModelName
  usePrice := ws.priceUsePrice
  modelPrice := ws.priceModelPrice
  modelRatio := ws.priceModelRatio
  groupRatio := ws.priceGroupRatio

/-! ## Charges outside the billing session -/

inductive ConsumeError
  | subscriptionIdMissing
  | funding (e : FundingError)
  | token (e : QuotaError)
  | userQuota (e : QuotaError)
  | userQuotaNotEnough
  | tokenQuotaNotEnough
deriving DecidableEq

/-- The funding part of `PostConsumeQuota`. It goes by `RelayInfo.BillingSource`. -/
def consumeFunding (env : BillingEnv) (info : RelayInfo) (l : Ledger) (quota : Int) :
    Except ConsumeError (RelayInfo × Ledger) :=
  if info.billingSource = some .subscription then
    if info.subscriptionId = 0 then .error .subscriptionIdMissing
    else if quota = 0 then .ok (info, l)
    else
      match updateDB l (postConsumeUserSubscriptionDelta l.db info.subscriptionId quota) with
      | .error e => .error (.funding e)
      | .ok l =>
        .ok ({ info with subscriptionPostDelta := info.subscriptionPostDelta + quota }, l)
  else
    match updateUser l (if 0 < quota then decreaseUserQuota env.mode l.user quota
      else increaseUserQuota env.mode l.user (-quota)) with
    | .error e => .error (.funding e)
    | .ok l => .ok (info, l)

/-- The token part of `PostConsumeQuota`. -/
def consumeToken (env : BillingEnv) (info : RelayInfo) (l : Ledger) (quota : Int) :
    Except ConsumeError Ledger :=
  if info.isPlayground then .ok l
  else
    match settleToken env l quota with
    | .error e => .error (.token e)
    | .ok a => .ok { l with token := a }

/-- Charge `quota` to the funding source and the token. An error of the token leaves the funding
source charged. -/
def postConsumeQuota (env : BillingEnv) (info : RelayInfo) (l : Ledger) (quota : Int) :
    Option ConsumeError × RelayInfo × Ledger :=
  match consumeFunding env info l quota with
  | .error e => (some e, info, l)
  | .ok (info, l) =>
    match consumeToken env info l quota with
    | .error e => (some e, info, l)
    | .ok l => (none, info, l)

/-- `GetTokenByKey(key, false).RemainQuota`: the cached balance, hydrating a cold hash, or the
row. -/
def getTokenRemainQuota (m : StoreMode) (a : QuotaAccount) : Int × QuotaAccount :=
  if m.redisEnabled = false then (a.row.remain, a)
  else
    match a.cached with
    | some r => (r.remain, a)
    | none => (a.row.remain, cacheFillQuota a a.row)

/-- The quota of one turn. -/
def turnQuota (settings : RatioSettings) (ws : RealtimeInfo) (usage : RealtimeUsage) : Int :=
  (calculateAudioQuota settings (ws.turnInfo settings usage)).1

/-- Charge one turn. -/
def preWssConsumeQuota (env : BillingEnv) (settings : RatioSettings) (ws : RealtimeInfo)
    (info : RelayInfo) (l : Ledger) (usage : RealtimeUsage) :
    Option ConsumeError × RelayInfo × Ledger :=
  if ws.usePrice then (none, info, l)
  else
    match getUserQuota env.mode l.user with
    | .error e => (some (.userQuota e), info, l)
    | .ok (userQuota, a) =>
      let (remainQuota, b) := getTokenRemainQuota env.mode l.token
      let l := { l with user := a, token := b }
      let quota := turnQuota settings ws usage
      if userQuota < quota then (some .userQuotaNotEnough, info, l)
      else if ¬ info.tokenUnlimited ∧ remainQuota < quota then
        (some .tokenQuotaNotEnough, info, l)
      else postConsumeQuota env info l quota

/-- The quota of a whole session. Without tokens there must have been an error, and nothing is
charged. -/
def totalQuota (settings : RatioSettings) (ws : RealtimeInfo) (usage : RealtimeUsage) : Int :=
  if usage.totalTokens = 0 then 0 else (calculateAudioQuota settings (ws.totalInfo usage)).1

/-- Settle the session for its total usage. -/
def postWssConsumeQuota (env : BillingEnv) (settings : RatioSettings) (ws : RealtimeInfo)
    (s : BillingSession) (l : Ledger) (usage : RealtimeUsage) :
    Option FundingError × BillingSession × Ledger :=
  s.settle env l (totalQuota settings ws usage)

/-! ## The relay -/

/-- How far the end of a session has got. -/
inductive RealtimePhase
  | relaying
  /-- the handler has left its `select` -/
  | ending
  | usageFlushed
  | localFlushed
  | settled
deriving DecidableEq

structure RealtimeState where
  session : BillingSession
  ledger : Ledger
  usage : RealtimeUsage
  localUsage : RealtimeUsage
  sumUsage : RealtimeUsage
  phase : RealtimePhase
  /-- the goroutine that reads from the upstream is running -/
  reading : Bool
  /-- the usages that were passed to `preConsumeUsage` -/
  turns : List RealtimeUsage
  /-- the errors it returned -/
  errors : List ConsumeError
  /-- the error of the settlement -/
  settleError : Option FundingError

inductive RealtimeLabel
  /-- a message of the client, with the tokens counted in it -/
  | client (counted : TokenDetails)
  /-- a message of the upstream other than `response.done` -/
  | upstream (counted : TokenDetails)
  | responseDone (reported : RealtimeUsage)
  /-- a `response.done` event without a usage, with the tokens of the tools -/
  | responseDoneLocal (counted : TokenDetails)
  | leave
  | flushUsage
  | flushLocalUsage
  | post
  | flush (k : QuotaKind)
  | cache (k : QuotaKind) (cached : Option QuotaRow) (fenced : Bool)

/-- The state in which the handler starts. -/
def RealtimeState.start (s : BillingSession) (l : Ledger) : RealtimeState where
  session := s
  ledger := l
  usage := .zero
  localUsage := .zero
  sumUsage := .zero
  phase := .relaying
  reading := true
  turns := []
  errors := []
  settleError := none

section
variable (env : BillingEnv) (settings : RatioSettings) (ws : RealtimeInfo)

/-- Add a usage to the total and charge it. -/
def RealtimeState.preConsumeUsage (s : RealtimeState) (usage : RealtimeUsage) : RealtimeState :=
  let r := preWssConsumeQuota env settings ws s.session.relayInfo s.ledger usage
  { s with
    session := { s.session with relayInfo := r.2.1 }
    ledger := r.2.2
    sumUsage := s.sumUsage.add usage
    turns := s.turns ++ [usage]
    errors := s.errors ++ r.1.toList }

/-- `preConsumeUsage` as the reader of the upstream calls it: with an error the goroutine ends, and
the usage is not cleared. -/
def RealtimeState.finishTurn (s : RealtimeState) (usage : RealtimeUsage)
    (clear : RealtimeState → RealtimeState) : RealtimeState :=
  let s' := s.preConsumeUsage env settings ws usage
  if s'.errors.length = s.errors.length then clear s' else { s' with reading := false }

/-- The settlement at the end. -/
def RealtimeState.post (s : RealtimeState) : RealtimeState :=
  let r := postWssConsumeQuota env settings ws s.session s.ledger s.sumUsage
  { s with session := r.2.1, ledger := r.2.2, settleError := r.1, phase := .settled }

def realtimeStep (s : RealtimeState) (label : RealtimeLabel) : Option RealtimeState :=
  if s.phase = .settled then none
  else
    match label with
    | .client counted => some { s with localUsage := s.localUsage.add (.ofInput counted) }
    | .upstream counted =>
      if s.reading then some { s with localUsage := s.localUsage.add (.ofOutput counted) }
      else none
    | .responseDone reported =>
      if s.reading then
        let s := { s with usage := s.usage.add reported }
        some (s.finishTurn env settings ws s.usage fun s =>
          { s with usage := .zero, localUsage := .zero })
      else none
    | .responseDoneLocal counted =>
      if s.reading then
        let s := { s with localUsage := s.localUsage.add (.ofInput counted) }
        some (s.finishTurn env settings ws s.localUsage fun s => { s with localUsage := .zero })
      else none
    | .leave => if s.phase = .relaying then some { s with phase := .ending } else none
    | .flushUsage =>
      if s.phase = .ending then
        let s := { s with phase := .usageFlushed }
        if s.usage.totalTokens ≠ 0 then some (s.preConsumeUsage env settings ws s.usage)
        else some s
      else none
    | .flushLocalUsage =>
      if s.phase = .usageFlushed then
        let s := { s with phase := .localFlushed }
        if s.localUsage.totalTokens ≠ 0 then some (s.preConsumeUsage env settings ws s.localUsage)
        else some s
      else none
    | .post => if s.phase = .localFlushed then some (s.post env settings ws) else none
    | .flush k => some { s with ledger := s.ledger.updateAccount k (batchUpdate k) }
    | .cache k cached fenced =>
      some { s with ledger := s.ledger.updateAccount k fun a =>
        { a with cached := cached, fenced := fenced } }

end

end NewApi.Service
