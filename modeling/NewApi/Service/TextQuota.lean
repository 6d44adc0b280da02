import NewApi.Common.QuotaMath
import NewApi.Model.PricingConversion

/-!
# Settlement by ratios

`calculateTextQuotaSummary` prices a usage report by the ratios of a model
(`service/text_quota.go`): cached, written, image and audio tokens are taken out of the prompt and
weighted by ratios of their own, what is left counts as it is, and the sum is multiplied by the
model ratio and the group ratio.
-/

namespace NewApi.Service

open Model Common

/-- The ratios of `PriceData`. -/
structure RatioPrices where
  modelRatio : Binary64
  completionRatio : Binary64
  cacheRatio : Binary64
  imageRatio : Binary64
  cacheCreationRatio : Binary64
  cacheCreation5mRatio : Binary64
  cacheCreation1hRatio : Binary64
  groupRatio : Binary64

/-- The ratios `ModelPriceHelper` reads for a model with the given prices. The price of a cache
write for one hour is a product of doubles. -/
def ratioPrices (effective : EffectivePricing) (modelRatio groupRatio : Binary64) :
    RatioPrices where
  modelRatio := modelRatio
  completionRatio := effective.completionRatio
  cacheRatio := effective.cacheRatio
  imageRatio := effective.imageRatio
  cacheCreationRatio := effective.createCacheRatio
  cacheCreation5mRatio := effective.createCacheRatio
  cacheCreation1hRatio := effective.createCacheRatio.mul cacheCreation1hMultiplier
  groupRatio := groupRatio

/-- A usage report with the fields that only settlement by ratios reads. -/
structure TextUsage extends Usage where
  usageSource : String
  /-- `usage.Cost != 0` -/
  hasCost : Bool

/-- What settlement reads from the relay. `openRouterCacheCreateTokens` is the estimate of
`CalcOpenRouterCacheCreateTokens` from the cost of the request, and `otherRatios` holds the valid
ones of `PriceData`. -/
structure TextRelay where
  billingModelName : String
  /-- the final request format is Claude's -/
  claudeFormat : Bool
  openRouter : Bool
  hasCustomModelRatio : Bool
  openRouterCacheCreateTokens : Int
  otherRatios : List ℚ
  toolCallSurchargeQuota : ℚ

/-- `usageSemanticFromUsage`. -/
def usageSemanticFromUsage (relay : TextRelay) (usage : TextUsage) : String :=
  if usage.usageSemantic ≠ "" then usage.usageSemantic
  else if relay.claudeFormat then "anthropic"
  else "openai"

def isClaudeUsageSemantic (relay : TextRelay) (usage : TextUsage) : Bool :=
  usageSemanticFromUsage relay usage = "anthropic"

/-- An OpenAI-style report without a source that carries Claude's cache counts. -/
def isLegacyClaudeDerivedOpenAIUsage (relay : TextRelay) (usage : TextUsage) : Bool :=
  !relay.claudeFormat && decide (usage.usageSource = "") && decide (usage.usageSemantic = "") &&
    (decide (0 < usage.claudeCacheCreation5mTokens) ||
      decide (0 < usage.claudeCacheCreation1hTokens))

/-- The prompt counts neither cache reads nor cache writes. -/
def cacheOutsidePrompt (relay : TextRelay) (usage : TextUsage) : Bool :=
  isClaudeUsageSemantic relay usage || isLegacyClaudeDerivedOpenAIUsage relay usage

def isOpenRouterClaudeBilling (relay : TextRelay) (usage : TextUsage) : Bool :=
  relay.openRouter && isClaudeUsageSemantic relay usage

/-- `summary.CacheCreationTokens`. OpenRouter may leave cache writes to be derived from the cost. -/
def summaryCacheCreationTokens (prices : RatioPrices) (relay : TextRelay) (usage : TextUsage) :
    Int :=
  let reported := usage.promptTokensDetails.cacheCreationTokensTotal
  let derived := relay.openRouterCacheCreateTokens
  if isOpenRouterClaudeBilling relay usage ∧ reported = 0 ∧
      ¬ prices.cacheCreationRatio.eq Binary64.one ∧ usage.hasCost ∧ ¬ relay.hasCustomModelRatio ∧
      0 ≤ derived ∧ derived ≤ usage.promptTokens - usage.promptTokensDetails.cachedTokens then
    derived
  else reported

/-- `summary.PromptTokens`. OpenRouter reports the cache within the prompt. -/
def summaryPromptTokens (prices : RatioPrices) (relay : TextRelay) (usage : TextUsage) : Int :=
  if isOpenRouterClaudeBilling relay usage then
    usage.promptTokens - usage.promptTokensDetails.cachedTokens
      - summaryCacheCreationTokens prices relay usage
  else usage.promptTokens

/-- The audio tokens that have a price of their own. -/
def pricedAudioTokens (relay : TextRelay) (usage : TextUsage) : Int :=
  if isPositive (getGeminiInputAudioPrice relay.billingModelName) then
    usage.promptTokensDetails.audioTokens
  else 0

section
variable (dec : DecimalLibrary) (prices : RatioPrices) (relay : TextRelay) (usage : TextUsage)

/-- The cache writes, weighted. Only reports in Claude's format tell the lifetimes apart. -/
def cachedCreationTokensWithRatio : ℚ :=
  let creation := summaryCacheCreationTokens prices relay usage
  if ¬ (creation ≠ 0 ∨ 0 < usage.claudeCacheCreation5mTokens
      ∨ 0 < usage.claudeCacheCreation1hTokens) then 0
  else if cacheOutsidePrompt relay usage then
    let remaining := max (creation - usage.claudeCacheCreation5mTokens
      - usage.claudeCacheCreation1hTokens) 0
    remaining * dec.newFromFloat prices.cacheCreationRatio
      + usage.claudeCacheCreation5mTokens * dec.newFromFloat prices.cacheCreation5mRatio
      + usage.claudeCacheCreation1hTokens * dec.newFromFloat prices.cacheCreation1hRatio
  else creation * dec.newFromFloat prices.cacheCreationRatio

/-- What is left of the prompt, at least zero: reports of cache writes may overlap with those of
cache reads. -/
def baseTokens : Int :=
  let cache := if cacheOutsidePrompt relay usage then 0
    else usage.promptTokensDetails.cachedTokens + summaryCacheCreationTokens prices relay usage
  clampZero (summaryPromptTokens prices relay usage - cache - usage.promptTokensDetails.imageTokens
    - pricedAudioTokens relay usage)

/-- The weighted sum of all tokens except audio that has a price of its own. -/
def weightedTokens : ℚ :=
  baseTokens prices relay usage
    + usage.promptTokensDetails.cachedTokens * dec.newFromFloat prices.cacheRatio
    + usage.promptTokensDetails.imageTokens * dec.newFromFloat prices.imageRatio
    + cachedCreationTokensWithRatio dec prices relay usage
    + usage.completionTokens * dec.newFromFloat prices.completionRatio

def audioInputQuota (quotaPerUnit : Binary64) : ℚ :=
  dec.newFromFloat (getGeminiInputAudioPrice relay.billingModelName) / 1000000
    * pricedAudioTokens relay usage * dec.newFromFloat prices.groupRatio
    * dec.newFromFloat quotaPerUnit

/-- The exact amount, before the minimum charge and rounding. -/
def textQuotaAmount (quotaPerUnit : Binary64) : ℚ :=
  let ratio := dec.newFromFloat prices.modelRatio * dec.newFromFloat prices.groupRatio
  (weightedTokens dec prices relay usage * ratio
    + audioInputQuota dec prices relay usage quotaPerUnit) * relay.otherRatios.prod
    + relay.toolCallSurchargeQuota

end

end NewApi.Service
