import NewApi.Utils.TrimSpace
import NewApi.Service.TieredSettle

/-!
# From ratio prices to a billing expression

`PreviewModelPricingConversion` turns the ratios of a model into a token expression with the same
prices (`model/model_pricing_conversion.go`): one term for each category of tokens that has a price
of its own, while categories that cost what ordinary input costs stay in `p`.

Settings are doubles. Prices are decimals, which are added, multiplied and divided exactly here; how
a double becomes a decimal and back is left to the decimal library (`DecimalLibrary`).
-/

namespace NewApi.Model

open Billingexpr (TokenParams)
open Service (PriceVar)

/-- The conversions of the decimal library. -/
structure DecimalLibrary where
  newFromFloat : Binary64 → ℚ
  inexactFloat64 : ℚ → Binary64

/-- A double that is above zero: `!(x <= 0)` for a number. -/
def isPositive (x : Binary64) : Bool := !x.isNaN && !x.le Binary64.zero

/-- What is relied on: the double `1` is the decimal `1`, and the sign of a finite number is kept. -/
structure DecimalLibrary.Documented (dec : DecimalLibrary) : Prop where
  one : dec.newFromFloat Binary64.one = 1
  nonneg : ∀ x, Binary64.nonneg x = true → x.isInf = false → 0 ≤ dec.newFromFloat x
  positive : ∀ x, isPositive x = true → x.isInf = false → 0 < dec.newFromFloat x

/-! ## Drafts and effective prices -/

/-- `PricingValues`: the entries that ratio prices are made of. -/
structure PricingValues where
  tieredExpr : Bool
  modelPrice : Option Binary64
  modelRatio : Option Binary64
  completionRatio : Option Binary64
  cacheRatio : Option Binary64
  createCacheRatio : Option Binary64
  imageRatio : Option Binary64
  audioRatio : Option Binary64
  audioCompletionRatio : Option Binary64

/-- Numbers have to be finite and not negative; an entry may be missing. -/
def validNumber : Option Binary64 → Bool
  | none => true
  | some x => !x.isNaN && !x.isInf && x.nonneg

/-- `ValidateModelPricing` on a draft of numbers. -/
def PricingValues.valid (name : String) (values : PricingValues) : Bool :=
  decide (trimSpace name ≠ "") &&
    [values.modelPrice, values.modelRatio, values.completionRatio, values.cacheRatio,
      values.createCacheRatio, values.imageRatio, values.audioRatio,
      values.audioCompletionRatio].all validNumber

structure EffectivePricing where
  modelPrice : Option Binary64
  modelRatio : Option Binary64
  completionRatio : Binary64
  cacheRatio : Binary64
  createCacheRatio : Binary64
  imageRatio : Binary64
  audioRatio : Option Binary64
  audioCompletionRatio : Option Binary64

/-- `ValidateModelPricing` on effective prices. -/
def EffectivePricing.valid (values : EffectivePricing) : Bool :=
  [values.modelPrice, values.modelRatio, some values.completionRatio, some values.cacheRatio,
    some values.createCacheRatio, some values.imageRatio, values.audioRatio,
    values.audioCompletionRatio].all validNumber

/-- `1.25` -/
def defaultCreateCacheRatio : Binary64 := .finite false (5 * 2 ^ 1072) (by decide +kernel)

/-- `37.5` -/
def selfUseModelRatio : Binary64 := .finite false (75 * 2 ^ 1073) (by decide +kernel)

/-- `6 / 3.75`, the price of a cache write for one hour over that for five minutes. -/
def cacheCreation1hMultiplier : Binary64 :=
  .finite false (7205759403792794 * 2 ^ 1022) (by decide +kernel)

/-- What the conversion reads from the process. -/
structure ConversionEnv where
  quotaPerUnit : Binary64
  selfUseModeEnabled : Bool
  resolveCompletionRatio : String → Option Binary64 → Binary64
  defaultModelRatio : String → Option Binary64
  isImageGenerationModel : String → Bool

/-- The prices the relay uses once the draft is saved. Prices of the model and of its output are
looked up under the name that the relay matches (`matched`), which may be another entry. -/
def effectiveModelPricing (env : ConversionEnv) (name : String) (draft matched : PricingValues) :
    EffectivePricing where
  modelPrice := matched.modelPrice
  modelRatio :=
    match matched.modelRatio with
    | some ratio => some ratio
    | none => if env.selfUseModeEnabled then some selfUseModelRatio else none
  completionRatio := env.resolveCompletionRatio name matched.completionRatio
  cacheRatio := draft.cacheRatio.getD Binary64.one
  createCacheRatio := draft.createCacheRatio.getD defaultCreateCacheRatio
  imageRatio := draft.imageRatio.getD Binary64.one
  audioRatio := matched.audioRatio
  audioCompletionRatio := matched.audioCompletionRatio

/-! ## Cache writes and audio -/

inductive CacheWriteMode
  | none
  | standard
  | claudeTTL
deriving DecidableEq

/-- `strings.Contains(strings.ToLower(name), part)` for names in ASCII; outside of it two capitals,
the Kelvin sign and the dotted `I`, have lower cases in ASCII. -/
def containsFold (name part : String) : Bool :=
  decide (part.toList <:+: name.toList.map Char.toLower)

def resolveCacheWriteMode (name : String) (configured : PricingValues) : CacheWriteMode :=
  if containsFold name "claude" then .claudeTTL
  else if configured.createCacheRatio.isSome then .standard
  else .none

/-- `GetGeminiInputAudioPricePerMillionTokens`: the first prefix that matches. -/
def geminiInputAudioPrices : List (String × Binary64) :=
  [("gemini-2.5-flash-preview-native-audio", Binary64.ofInt 3),
    -- `0.50`
    ("gemini-2.5-flash-preview-lite", .finite false (2 ^ 1073) (by decide +kernel)),
    ("gemini-2.5-flash-preview", Binary64.ofInt 1),
    ("gemini-2.5-flash", Binary64.ofInt 1),
    -- `0.70`
    ("gemini-2.0-flash", .finite false (6305039478318694 * 2 ^ 1021) (by decide +kernel)),
    ("gemini-robotics-er-1.5", Binary64.ofInt 1)]

def getGeminiInputAudioPrice (name : String) : Binary64 :=
  match geminiInputAudioPrices.find? fun entry => entry.1.toList.isPrefixOf name.toList with
  | some (_, price) => price
  | none => Binary64.zero

/-- The fields of `LegacyBillingDetails` that token prices depend on. -/
structure LegacyBillingDetails where
  audioInputPrice : Option Binary64
  audioOutputPrice : Option Binary64
  audioTextBranches : Bool
  invalidAudioPrice : Bool
  conflictingAudioPrices : Bool

def LegacyBillingDetails.none : LegacyBillingDetails where
  audioInputPrice := .none
  audioOutputPrice := .none
  audioTextBranches := false
  invalidAudioPrice := false
  conflictingAudioPrices := false

section
variable (dec : DecimalLibrary) (env : ConversionEnv)

/-- The price of a million input tokens, if unit and ratio are usable. -/
def legacyInputPricePerMillion (ratio : Binary64) : Option ℚ :=
  if env.quotaPerUnit.le Binary64.zero ∨ env.quotaPerUnit.isInf ∨ env.quotaPerUnit.isNaN then none
  else if ¬ Binary64.le Binary64.zero ratio ∨ ratio.isInf ∨ ratio.isNaN then none
  else some (dec.newFromFloat ratio * 1000000 / dec.newFromFloat env.quotaPerUnit)

/-- Audio ratios next to a Gemini audio price: they conflict unless they say the same. -/
def audioPricesConflict (base : ℚ) (price : Binary64) (effective : EffectivePricing) : Bool :=
  if effective.audioRatio.isSome ∨ effective.audioCompletionRatio.isSome then
    let audioPrice := base * dec.newFromFloat (effective.audioRatio.getD Binary64.one)
    let output := dec.newFromFloat (effective.audioCompletionRatio.getD Binary64.one)
    audioPrice ≠ dec.newFromFloat price ∨
      audioPrice * output ≠ base * dec.newFromFloat effective.completionRatio
  else false

def resolveLegacyBillingDetails (name : String) (effective : EffectivePricing)
    (configured : PricingValues) : LegacyBillingDetails :=
  if effective.modelPrice.isSome then .none
  else
    match effective.modelRatio.bind (legacyInputPricePerMillion dec env) with
    | none => .none
    | some base =>
      let price := getGeminiInputAudioPrice name
      if isPositive price then
        { LegacyBillingDetails.none with
          audioInputPrice := some price
          conflictingAudioPrices := audioPricesConflict dec base price effective }
      else if effective.audioRatio.isNone ∧ effective.audioCompletionRatio.isNone then .none
      else
        let input := base * dec.newFromFloat (effective.audioRatio.getD Binary64.one)
        let inPrice := dec.inexactFloat64 input
        let outPrice := dec.inexactFloat64
          (input * dec.newFromFloat (effective.audioCompletionRatio.getD Binary64.one))
        if inPrice.isInf ∨ outPrice.isInf then
          { LegacyBillingDetails.none with invalidAudioPrice := true }
        else
          { LegacyBillingDetails.none with
            audioInputPrice := some inPrice
            audioOutputPrice := some outPrice
            audioTextBranches := !effective.cacheRatio.eq Binary64.one ||
              !effective.imageRatio.eq Binary64.one ||
              resolveCacheWriteMode name configured ≠ .none }

/-! ## Token expressions -/

/-- The variables of a generated expression. -/
inductive Lane
  | p
  | c
  | cr
  | cc
  | cc1h
  | img
  | ai
  | ao
deriving DecidableEq

def Lane.count (t : TokenParams Int) : Lane → Int
  | .p => t.p
  | .c => t.c
  | .cr => t.cr
  | .cc => t.cc
  | .cc1h => t.cc1h
  | .img => t.img
  | .ai => t.ai
  | .ao => t.ao

/-- The variable that takes a category out of `p` or `c`. -/
def Lane.priceVar : Lane → Option PriceVar
  | .p => none
  | .c => none
  | .cr => some .cr
  | .cc => some .cc
  | .cc1h => some .cc1h
  | .img => some .img
  | .ai => some .ai
  | .ao => some .ao

/-- A term `lane * price`, with the price of a million tokens. -/
structure Term where
  lane : Lane
  price : ℚ
deriving DecidableEq

/-- A generated token expression. -/
inductive TokenExpression
  /-- `tier("base", p * … + c * … + …)` -/
  | base (terms : List Term)
  /-- `(ai > 0 || ao > 0) ? tier("audio", max(len - ai, 0) * input + c * output + ai * audioInput +
  ao * audioOutput) : tier("base", …)` -/
  | branches (input output audioInput audioOutput : ℚ) (terms : List Term)
deriving DecidableEq

/-- The exact value of the terms. -/
def termsValue (t : TokenParams Int) (terms : List Term) : ℚ :=
  (terms.map fun term => (term.lane.count t : ℚ) * term.price).sum

def TokenExpression.value (t : TokenParams Int) : TokenExpression → ℚ
  | .base terms => termsValue t terms
  | .branches input output audioInput audioOutput terms =>
    if 0 < t.ai ∨ 0 < t.ao then
      (max (t.len - t.ai) 0 : Int) * input + t.c * output + t.ai * audioInput + t.ao * audioOutput
    else termsValue t terms

/-- The variables an expression references, as far as they take tokens out of `p` and `c`. -/
def TokenExpression.usedVars : TokenExpression → PriceVar → Bool
  | .base terms, v => terms.any fun term => term.lane.priceVar = some v
  | .branches _ _ _ _ terms, v =>
    v = .ai || v = .ao || terms.any fun term => term.lane.priceVar = some v

/-- The lanes of the loop: variable, ratio and an extra factor. -/
def ratioLanes (effective : EffectivePricing) : List (Lane × Binary64 × Binary64) :=
  [(.c, effective.completionRatio, Binary64.one),
    (.cr, effective.cacheRatio, Binary64.one),
    (.cc, effective.createCacheRatio, Binary64.one),
    (.cc1h, effective.createCacheRatio, cacheCreation1hMultiplier),
    (.img, effective.imageRatio, Binary64.one)]

/-- Cache reads at the price of input may stay in `p`: no other input category is taken out of it,
or input is free. -/
def mergeCacheRead (base : ℚ) (mode : CacheWriteMode) (effective : EffectivePricing)
    (details : LegacyBillingDetails) : Bool :=
  base = 0 ∨ mode = .none ∧ effective.imageRatio.eq Binary64.one ∧
    (details.audioInputPrice.isNone ∨ details.audioOutputPrice.isSome)

/-- Whether the loop writes a term for a lane. -/
def writesLane (mode : CacheWriteMode) (details : LegacyBillingDetails) (merge : Bool)
    (lane : Lane) (multiplier : Binary64) : Bool :=
  if details.audioOutputPrice.isSome ∧ ¬ details.audioTextBranches ∧ lane ≠ .c then false
  else if lane = .cc ∧ mode = .none ∨ lane = .cc1h ∧ mode ≠ .claudeTTL then false
  else if (lane = .img ∨ lane = .cr ∧ merge) ∧ multiplier.eq Binary64.one then false
  else true

/-- The terms of the audio lanes, which have prices instead of ratios. -/
def audioTerms (details : LegacyBillingDetails) : List Term :=
  [(Lane.ai, details.audioInputPrice), (Lane.ao, details.audioOutputPrice)].filterMap
    fun (lane, price) =>
      match price with
      | some price =>
        if details.audioTextBranches then none else some ⟨lane, dec.newFromFloat price⟩
      | none => none

/-- The text between the brackets of `tier("base", …)`. -/
def baseTerms (base : ℚ) (mode : CacheWriteMode) (effective : EffectivePricing)
    (details : LegacyBillingDetails) : List Term :=
  let merge := mergeCacheRead base mode effective details
  ⟨.p, base⟩ ::
    ((ratioLanes effective).filterMap fun (lane, multiplier, factor) =>
      if writesLane mode details merge lane multiplier then
        some ⟨lane, base * dec.newFromFloat multiplier * dec.newFromFloat factor⟩
      else none) ++ audioTerms dec details

/-- The token branch of the conversion. Configured audio ratios ignore cache and image ratios, so
such requests get a branch of their own where the two differ. -/
def tokenExpression (base : ℚ) (mode : CacheWriteMode) (effective : EffectivePricing)
    (details : LegacyBillingDetails) : TokenExpression :=
  match details.audioInputPrice, details.audioOutputPrice with
  | some inPrice, some outPrice =>
    let details := { details with
      audioTextBranches := details.audioTextBranches || mode ≠ .none }
    let terms := baseTerms dec base mode effective details
    if details.audioTextBranches then
      .branches base (base * dec.newFromFloat effective.completionRatio)
        (dec.newFromFloat inPrice) (dec.newFromFloat outPrice) terms
    else .base terms
  | _, _ => .base (baseTerms dec base mode effective details)

end

/-! ## `PreviewModelPricingConversion` -/

inductive UnsupportedReason
  | alreadyExpression
  | audioPricesDiffer
  | taskPricing
  | videoPricing
  | openRouterClaude
  | routingNotVerified
  | realtimePricing
  | imageMultipliersDiffer
  | noInputPrice
deriving DecidableEq

def UnsupportedReason.text : UnsupportedReason → String
  | .alreadyExpression => "This model already uses an expression."
  | .audioPricesDiffer => "Gemini and OpenAI audio prices differ for this model. Use separate " ++
      "billing model names to convert them."
  | .taskPricing => "Task pricing must be converted manually using the task usage schema."
  | .videoPricing => "Video pricing must be converted manually."
  | .openRouterClaude => "This OpenRouter Claude price derives cache-write usage from upstream " ++
      "cost and must be converted manually."
  | .routingNotVerified => "The model routing configuration could not be verified."
  | .realtimePricing => "Realtime pricing must be converted manually."
  | .imageMultipliersDiffer => "This model has different image request multipliers across " ++
      "channels. Use separate billing model names to convert them."
  | .noInputPrice => "Configure an input price before converting this model."

inductive ConversionError
  | invalidDraft
  | audioPricesNotFinite
  | invalidQuotaUnitOrRatio
deriving DecidableEq

/-- A conversion, or the reason why there is none. A fixed price is kept as the price of a request
or of an image, with the request rules of the model left out. -/
inductive Conversion
  | unsupported (reason : UnsupportedReason)
  | fixed (price : ℚ) (imageCount : Bool)
  | token (mode : CacheWriteMode) (expression : TokenExpression)
deriving DecidableEq

/-- What the conversion asks about a channel that offers the model. `upstream` is the name after
the model mapping, if that could be followed. -/
structure ConversionChannel where
  taskPlugin : Bool
  servesVideo : Bool
  enabled : Bool
  openRouter : Bool
  ali : Bool
  upstream : Option String

inductive EndpointKind
  | imageGeneration
  | openAIVideo
  | ordinary
deriving DecidableEq

/-- Where the model is routed: whether it is a task model, its channels, and the endpoints of the
matching metadata (`none` if they cannot be parsed). -/
structure ConversionRoutes where
  isTask : Bool
  channels : List ConversionChannel
  endpoints : List (Option (List EndpointKind))

/-- What the loop over the channels has found. -/
structure RouteScan where
  names : List String
  aliPromptExtend : Bool
  otherImageRoute : Bool

section
variable (dec : DecimalLibrary) (env : ConversionEnv) (name : String)

/-- A channel through which cache writes are derived from the upstream's cost. -/
def derivesCacheWrites (effective : EffectivePricing) (channel : ConversionChannel) : Bool :=
  channel.enabled && channel.openRouter && containsFold name "claude" &&
    effective.modelPrice.isNone &&
    (match env.defaultModelRatio name, effective.modelRatio with
      | some default, some ratio => ratio.eq default
      | _, _ => false) &&
    !effective.createCacheRatio.eq Binary64.one

/-- One round of the loop over the channels. -/
def scanChannel (effective : EffectivePricing) (scan : RouteScan) (channel : ConversionChannel) :
    Except UnsupportedReason RouteScan :=
  if channel.taskPlugin then .error .taskPricing
  else if channel.servesVideo then .error .videoPricing
  else if derivesCacheWrites env name effective channel then .error .openRouterClaude
  else
    match channel.upstream with
    | none => .error .routingNotVerified
    | some upstream =>
      let names := if upstream = name then scan.names else scan.names ++ [upstream]
      let zImage := channel.ali && decide ("z-image".toList <:+: upstream.toList)
      .ok {
        names := names
        aliPromptExtend := scan.aliPromptExtend || channel.enabled && zImage
        otherImageRoute := scan.otherImageRoute || channel.enabled && !zImage }

/-- One round of the loop over the metadata: whether it makes the model an image model. -/
def scanEndpoints (imageCount : Bool) :
    Option (List EndpointKind) → Except UnsupportedReason Bool
  | none => .error .routingNotVerified
  | some kinds =>
    if .openAIVideo ∈ kinds then .error .videoPricing
    else .ok (imageCount || decide (EndpointKind.imageGeneration ∈ kinds))

/-- The routes of the model, if none of them settles in a special way. -/
def scanRoutes (effective : EffectivePricing) (routes : ConversionRoutes) :
    Except UnsupportedReason (RouteScan × Bool) := do
  if routes.isTask then throw .taskPricing
  let scan ← routes.channels.foldlM (scanChannel env name effective) ⟨[name], false, false⟩
  if scan.names.any (containsFold · "realtime") then throw .realtimePricing
  let imageCount ← routes.endpoints.foldlM scanEndpoints
    (scan.names.any env.isImageGenerationModel)
  pure (scan, imageCount)

/-- The expression for a model whose routes are ordinary. -/
def convertPrices (effective : EffectivePricing) (draft : PricingValues)
    (details : LegacyBillingDetails) (scan : RouteScan) (imageCount : Bool) :
    Except ConversionError Conversion :=
  match effective.modelPrice with
  | some price =>
    if imageCount ∧ scan.aliPromptExtend ∧ scan.otherImageRoute then
      .ok (.unsupported .imageMultipliersDiffer)
    else .ok (.fixed (dec.newFromFloat price) imageCount)
  | none =>
    match effective.modelRatio with
    | none => .ok (.unsupported .noInputPrice)
    | some ratio =>
      let mode := resolveCacheWriteMode name draft
      match legacyInputPricePerMillion dec env ratio with
      | none => .error .invalidQuotaUnitOrRatio
      | some base => .ok (.token mode (tokenExpression dec base mode effective details))

def previewModelPricingConversion (routes : ConversionRoutes) (draft matched : PricingValues) :
    Except ConversionError Conversion :=
  if ¬ draft.valid name then .error .invalidDraft
  else if draft.tieredExpr then .ok (.unsupported .alreadyExpression)
  else
    let effective := effectiveModelPricing env name draft matched
    let details := resolveLegacyBillingDetails dec env name effective draft
    if ¬ effective.valid then .error .invalidDraft
    else if details.invalidAudioPrice then .error .audioPricesNotFinite
    else if details.conflictingAudioPrices then .ok (.unsupported .audioPricesDiffer)
    else
      match scanRoutes env name effective routes with
      | .error reason => .ok (.unsupported reason)
      | .ok (scan, imageCount) => convertPrices dec env name effective draft details scan imageCount

end

end NewApi.Model
