import NewApi.Utils.TrimSpace

/-!
# Usage reports and the billing sidecar

A provider reports usage in its own format; `dto.Usage` is the shared one. Where a report is mapped
into another format, the original is kept beside it as a `BillingUsage`, and settlement decodes that
sidecar (`CanonicalUsage`). The definitions follow `relaykit/dto/billing_usage.go` and the usage
records of `relaykit/dto`.

The payload of a sidecar has no sidecar of its own: `cloneOpenAIUsage`, `cloneClaudeUsage` and
`cloneGeminiUsageMetadata` set it to nil, and nothing reads one. A clone is the value itself.
-/

namespace NewApi.Relaykit

/-! ## Records -/

/-- Parts of the cached tokens; an unreported one is not an explicit zero. -/
structure CachedTokenDetails where
  textTokens : Option Int := none
  imageTokens : Option Int := none
  audioTokens : Option Int := none
deriving DecidableEq, Repr

structure InputTokenDetails where
  cachedTokens : Int := 0
  cachedTokensDetails : Option CachedTokenDetails := none
  cachedCreationTokens : Int := 0
  cacheWriteTokens : Int := 0
  textTokens : Int := 0
  audioTokens : Int := 0
  imageTokens : Int := 0
deriving DecidableEq, Repr

structure OutputTokenDetails where
  textTokens : Int := 0
  audioTokens : Int := 0
  imageTokens : Int := 0
  reasoningTokens : Int := 0
deriving DecidableEq, Repr

/-- `dto.Usage` without its sidecar. -/
structure UsagePayload where
  promptTokens : Int := 0
  completionTokens : Int := 0
  totalTokens : Int := 0
  promptCacheHitTokens : Int := 0
  usageSemantic : String := ""
  usageSource : String := ""
  promptTokensDetails : InputTokenDetails := {}
  completionTokenDetails : OutputTokenDetails := {}
  inputTokens : Int := 0
  outputTokens : Int := 0
  inputTokensDetails : Option InputTokenDetails := none
  claudeCacheCreation5mTokens : Int := 0
  claudeCacheCreation1hTokens : Int := 0
deriving DecidableEq, Repr

structure ClaudeCacheCreationUsage where
  ephemeral5mInputTokens : Int := 0
  ephemeral1hInputTokens : Int := 0
deriving DecidableEq, Repr

structure ClaudeServerToolUse where
  webSearchRequests : Int := 0
  webFetchRequests : Int := 0
  codeExecutionRequests : Int := 0
  toolSearchRequests : Int := 0
deriving DecidableEq, Repr

/-- `dto.ClaudeUsage` without its sidecar. -/
structure ClaudeUsagePayload where
  inputTokens : Int := 0
  cacheCreationInputTokens : Int := 0
  cacheReadInputTokens : Int := 0
  outputTokens : Int := 0
  cacheCreation : Option ClaudeCacheCreationUsage := none
  claudeCacheCreation5mTokens : Int := 0
  claudeCacheCreation1hTokens : Int := 0
  serverToolUse : Option ClaudeServerToolUse := none
deriving DecidableEq, Repr

structure GeminiPromptTokensDetails where
  modality : String
  tokenCount : Int
deriving DecidableEq, Repr

/-- `dto.GeminiUsageMetadata` without its sidecar. -/
structure GeminiUsagePayload where
  promptTokenCount : Int := 0
  toolUsePromptTokenCount : Int := 0
  candidatesTokenCount : Int := 0
  totalTokenCount : Int := 0
  thoughtsTokenCount : Int := 0
  cachedContentTokenCount : Int := 0
  promptTokensDetails : List GeminiPromptTokensDetails := []
  toolUsePromptTokensDetails : List GeminiPromptTokensDetails := []
  candidatesTokensDetails : List GeminiPromptTokensDetails := []
deriving DecidableEq, Repr

/-- The provider's report in its own format, under the names of its source and its semantic. -/
structure BillingUsage where
  source : String := ""
  semantic : String := ""
  estimated : Bool := false
  openAIUsage : Option UsagePayload := none
  claudeUsage : Option ClaudeUsagePayload := none
  geminiUsageMetadata : Option GeminiUsagePayload := none
deriving DecidableEq, Repr

structure Usage extends UsagePayload where
  billingUsage : Option BillingUsage := none
deriving DecidableEq, Repr

structure ClaudeUsage extends ClaudeUsagePayload where
  billingUsage : Option BillingUsage := none
deriving DecidableEq, Repr

structure GeminiUsageMetadata extends GeminiUsagePayload where
  billingUsage : Option BillingUsage := none
deriving DecidableEq, Repr

/-! ## Names of sources and semantics -/

def billingUsageSourceClaudeMessages : String := "claude_messages"
def billingUsageSourceGeminiChat : String := "gemini_chat"
def billingUsageSourceOAIChat : String := "oai_chat"
def billingUsageSourceOAIResponses : String := "oai_responses"

def billingUsageSemanticAnthropic : String := "anthropic"
def billingUsageSemanticGemini : String := "gemini"
def billingUsageSemanticOpenAI : String := "openai"

/-- The representative of a letter under simple case folding, for the letters that fold to ASCII:
U+017F folds to `s` and the Kelvin sign U+212A to `k`. -/
def foldLetter (c : Char) : Char :=
  if c.toNat = 0x17F then 's' else if c.toNat = 0x212A then 'k' else c.toLower

/-- `strings.EqualFold`, where one side is ASCII as every name above is. -/
def equalFold (s t : String) : Bool := s.toList.map foldLetter = t.toList.map foldLetter

/-- The upper case of a letter, for the letters whose upper case is ASCII: U+0131 is a dotless `i`
and U+017F a long `s`. -/
def upperLetter (c : Char) : Char :=
  if c.toNat = 0x131 then 'I' else if c.toNat = 0x17F then 'S' else c.toUpper

/-- `strings.ToUpper(strings.TrimSpace(modality))`. -/
def normalizeGeminiModality (modality : String) : String :=
  String.ofList ((trimSpace modality).toList.map upperLetter)

/-! ## Reports with some count -/

def CachedTokenDetails.hasTokens (d : CachedTokenDetails) : Bool :=
  d.textTokens.any (· != 0) || d.imageTokens.any (· != 0) || d.audioTokens.any (· != 0)

/-- The counts of one details record that `HasOpenAIUsageTokens` looks at. -/
def InputTokenDetails.hasTokens (d : InputTokenDetails) : Bool :=
  d.cachedTokensDetails.any (·.hasTokens) || d.cachedTokens != 0 || d.cachedCreationTokens != 0 ||
    d.cacheWriteTokens != 0 || d.textTokens != 0 || d.imageTokens != 0 || d.audioTokens != 0

def hasOpenAIUsageTokens (usage : UsagePayload) : Bool :=
  usage.promptTokens != 0 || usage.completionTokens != 0 || usage.totalTokens != 0 ||
    usage.inputTokens != 0 || usage.outputTokens != 0 || usage.promptCacheHitTokens != 0 ||
    usage.claudeCacheCreation5mTokens != 0 || usage.claudeCacheCreation1hTokens != 0 ||
    usage.promptTokensDetails.hasTokens ||
    usage.completionTokenDetails.reasoningTokens != 0 ||
    usage.completionTokenDetails.textTokens != 0 ||
    usage.completionTokenDetails.imageTokens != 0 ||
    usage.completionTokenDetails.audioTokens != 0 ||
    usage.inputTokensDetails.any (·.hasTokens)

def hasClaudeUsageTokens (usage : ClaudeUsagePayload) : Bool :=
  usage.inputTokens != 0 || usage.outputTokens != 0 || usage.cacheCreationInputTokens != 0 ||
    usage.cacheReadInputTokens != 0 || usage.claudeCacheCreation5mTokens != 0 ||
    usage.claudeCacheCreation1hTokens != 0 ||
    usage.cacheCreation.any fun c =>
      c.ephemeral5mInputTokens != 0 || c.ephemeral1hInputTokens != 0

def hasGeminiUsageMetadataTokens (metadata : GeminiUsagePayload) : Bool :=
  metadata.promptTokenCount != 0 || metadata.toolUsePromptTokenCount != 0 ||
    metadata.candidatesTokenCount != 0 || metadata.totalTokenCount != 0 ||
    metadata.thoughtsTokenCount != 0 || metadata.cachedContentTokenCount != 0 ||
    metadata.promptTokensDetails.any (·.tokenCount != 0) ||
    metadata.toolUsePromptTokensDetails.any (·.tokenCount != 0) ||
    metadata.candidatesTokensDetails.any (·.tokenCount != 0)

/-! ## New sidecars -/

def newOpenAIBillingUsage (source : String) (usage : UsagePayload) : Option BillingUsage :=
  if hasOpenAIUsageTokens usage then
    some { source, semantic := billingUsageSemanticOpenAI, openAIUsage := some usage }
  else none

def newOpenAIChatBillingUsage : UsagePayload → Option BillingUsage :=
  newOpenAIBillingUsage billingUsageSourceOAIChat

def newOpenAIResponsesBillingUsage : UsagePayload → Option BillingUsage :=
  newOpenAIBillingUsage billingUsageSourceOAIResponses

def newClaudeMessagesBillingUsage (usage : ClaudeUsagePayload) : Option BillingUsage :=
  if hasClaudeUsageTokens usage then
    some { source := billingUsageSourceClaudeMessages, semantic := billingUsageSemanticAnthropic,
           claudeUsage := some usage }
  else none

def newGeminiChatBillingUsage (metadata : GeminiUsagePayload) : Option BillingUsage :=
  if hasGeminiUsageMetadataTokens metadata then
    some { source := billingUsageSourceGeminiChat, semantic := billingUsageSemanticGemini,
           geminiUsageMetadata := some metadata }
  else none

/-! ## Decoding a sidecar -/

/-- A later positive count overwrites the current one. -/
def overlay (current incoming : Int) : Int := if incoming > 0 then incoming else current

def mergeInputTokenDetails (current incoming : InputTokenDetails) : InputTokenDetails where
  cachedTokensDetails :=
    match incoming.cachedTokensDetails with
    | none => current.cachedTokensDetails
    | some details =>
      let merged := current.cachedTokensDetails.getD {}
      some { textTokens := details.textTokens <|> merged.textTokens
             imageTokens := details.imageTokens <|> merged.imageTokens
             audioTokens := details.audioTokens <|> merged.audioTokens }
  cachedTokens := overlay current.cachedTokens incoming.cachedTokens
  cachedCreationTokens := overlay current.cachedCreationTokens incoming.cachedCreationTokens
  cacheWriteTokens := overlay current.cacheWriteTokens incoming.cacheWriteTokens
  textTokens := overlay current.textTokens incoming.textTokens
  audioTokens := overlay current.audioTokens incoming.audioTokens
  imageTokens := overlay current.imageTokens incoming.imageTokens

/-- `value`, or `fallback` where `value` is zero and `fallback` is positive. -/
def fillCount (value fallback : Int) : Int :=
  if value = 0 ∧ fallback > 0 then fallback else value

def BillingUsage.canonicalOpenAIUsage (usage : BillingUsage) (payload : UsagePayload) : Usage :=
  let details :=
    match payload.inputTokensDetails with
    | some filled => mergeInputTokenDetails filled payload.promptTokensDetails
    | none => payload.promptTokensDetails
  let promptTokens := fillCount payload.promptTokens payload.inputTokens
  let completionTokens := fillCount payload.completionTokens payload.outputTokens
  { payload with
    promptTokensDetails :=
      { details with cachedTokens := fillCount details.cachedTokens payload.promptCacheHitTokens }
    promptTokens
    completionTokens
    inputTokens := fillCount payload.inputTokens promptTokens
    outputTokens := fillCount payload.outputTokens completionTokens
    totalTokens :=
      if payload.totalTokens = 0 then promptTokens + completionTokens else payload.totalTokens
    usageSemantic := billingUsageSemanticOpenAI
    usageSource := usage.source
    billingUsage := some usage }

def ClaudeUsagePayload.getCacheCreation5mTokens (u : ClaudeUsagePayload) : Int :=
  (u.cacheCreation.map (·.ephemeral5mInputTokens)).getD 0

def ClaudeUsagePayload.getCacheCreation1hTokens (u : ClaudeUsagePayload) : Int :=
  (u.cacheCreation.map (·.ephemeral1hInputTokens)).getD 0

def BillingUsage.canonicalClaudeUsage (usage : BillingUsage) (payload : ClaudeUsagePayload) :
    Usage where
  promptTokens := payload.inputTokens
  completionTokens := payload.outputTokens
  totalTokens := payload.inputTokens + payload.outputTokens
  inputTokens :=
    payload.inputTokens + payload.cacheReadInputTokens + payload.cacheCreationInputTokens
  outputTokens := payload.outputTokens
  usageSemantic := billingUsageSemanticAnthropic
  usageSource := billingUsageSourceClaudeMessages
  billingUsage := some usage
  -- the flat fields count only in a report that never had the sub-object
  claudeCacheCreation5mTokens :=
    if payload.cacheCreation.isSome then payload.getCacheCreation5mTokens
    else payload.claudeCacheCreation5mTokens
  claudeCacheCreation1hTokens :=
    if payload.cacheCreation.isSome then payload.getCacheCreation1hTokens
    else payload.claudeCacheCreation1hTokens
  promptTokensDetails :=
    { cachedTokens := payload.cacheReadInputTokens
      cachedCreationTokens := payload.cacheCreationInputTokens }

/-- Add a count to the field of its modality, which `name` reads off the entry. -/
def addInputDetail (name : String → String) (d : InputTokenDetails)
    (detail : GeminiPromptTokensDetails) : InputTokenDetails :=
  if name detail.modality = "AUDIO" then
    { d with audioTokens := d.audioTokens + detail.tokenCount }
  else if name detail.modality = "IMAGE" then
    { d with imageTokens := d.imageTokens + detail.tokenCount }
  else if name detail.modality = "TEXT" then
    { d with textTokens := d.textTokens + detail.tokenCount }
  else d

/-- The same for the output side. -/
def addOutputDetail (name : String → String) (d : OutputTokenDetails)
    (detail : GeminiPromptTokensDetails) : OutputTokenDetails :=
  if name detail.modality = "IMAGE" then
    { d with imageTokens := d.imageTokens + detail.tokenCount }
  else if name detail.modality = "AUDIO" then
    { d with audioTokens := d.audioTokens + detail.tokenCount }
  else if name detail.modality = "TEXT" then
    { d with textTokens := d.textTokens + detail.tokenCount }
  else d

def addGeminiInputTokenDetail : InputTokenDetails → GeminiPromptTokensDetails → InputTokenDetails :=
  addInputDetail normalizeGeminiModality

/-- A prompt none of whose tokens is text or audio counts as text. -/
def textByDefault (promptTokens : Int) (d : InputTokenDetails) : InputTokenDetails :=
  if promptTokens > 0 ∧ d.textTokens = 0 ∧ d.audioTokens = 0 then
    { d with textTokens := promptTokens }
  else d

@[simp] lemma textByDefault_fields (promptTokens : Int) (d : InputTokenDetails) :
    (textByDefault promptTokens d).imageTokens = d.imageTokens ∧
      (textByDefault promptTokens d).audioTokens = d.audioTokens ∧
      (textByDefault promptTokens d).cachedTokens = d.cachedTokens ∧
      (textByDefault promptTokens d).cachedTokensDetails = d.cachedTokensDetails ∧
      (textByDefault promptTokens d).cacheWriteTokens = d.cacheWriteTokens ∧
      (textByDefault promptTokens d).cachedCreationTokens = d.cachedCreationTokens := by
  unfold textByDefault
  split_ifs <;> simp

def BillingUsage.canonicalGeminiUsage (usage : BillingUsage) (metadata : GeminiUsagePayload) :
    Usage :=
  let promptTokens := metadata.promptTokenCount + metadata.toolUsePromptTokenCount
  let completionTokens := metadata.candidatesTokenCount + metadata.thoughtsTokenCount
  let details :=
    (metadata.promptTokensDetails ++ metadata.toolUsePromptTokensDetails).foldl
      addGeminiInputTokenDetail { cachedTokens := metadata.cachedContentTokenCount }
  { promptTokens
    completionTokens :=
      if metadata.totalTokenCount = 0 then completionTokens
      else if completionTokens ≤ 0 then max (metadata.totalTokenCount - promptTokens) 0
      else completionTokens
    totalTokens :=
      if metadata.totalTokenCount = 0 then promptTokens + completionTokens
      else metadata.totalTokenCount
    usageSemantic := billingUsageSemanticGemini
    usageSource := billingUsageSourceGeminiChat
    billingUsage := some usage
    promptTokensDetails := textByDefault promptTokens details
    completionTokenDetails :=
      metadata.candidatesTokensDetails.foldl (addOutputDetail normalizeGeminiModality)
        { reasoningTokens := metadata.thoughtsTokenCount } }

/-- The sidecar's OpenAI payload, when it has some count and the sidecar is named as OpenAI's. -/
def BillingUsage.openAIPayload (usage : BillingUsage) : Option UsagePayload :=
  usage.openAIUsage.filter fun payload => hasOpenAIUsageTokens payload &&
    (equalFold (trimSpace usage.source) billingUsageSourceOAIChat ||
      equalFold (trimSpace usage.source) billingUsageSourceOAIResponses ||
      equalFold (trimSpace usage.semantic) billingUsageSemanticOpenAI)

/-- The same for Claude. -/
def BillingUsage.claudePayload (usage : BillingUsage) : Option ClaudeUsagePayload :=
  usage.claudeUsage.filter fun payload => hasClaudeUsageTokens payload &&
    (equalFold (trimSpace usage.source) billingUsageSourceClaudeMessages ||
      equalFold (trimSpace usage.semantic) billingUsageSemanticAnthropic)

/-- The same for Gemini. -/
def BillingUsage.geminiPayload (usage : BillingUsage) : Option GeminiUsagePayload :=
  usage.geminiUsageMetadata.filter fun payload => hasGeminiUsageMetadataTokens payload &&
    (equalFold (trimSpace usage.source) billingUsageSourceGeminiChat ||
      equalFold (trimSpace usage.semantic) billingUsageSemanticGemini)

/-- `CanonicalUsage`: the first of the three payloads, decoded into the shared format. -/
def BillingUsage.canonicalUsage (usage : BillingUsage) : Option Usage :=
  usage.openAIPayload.map usage.canonicalOpenAIUsage <|>
    usage.claudePayload.map usage.canonicalClaudeUsage <|>
    usage.geminiPayload.map usage.canonicalGeminiUsage

/-- Some payload of the sidecar has a count and stands under its own name. -/
def BillingUsage.decodable (usage : BillingUsage) : Bool :=
  usage.openAIPayload.isSome || usage.claudePayload.isSome || usage.geminiPayload.isSome

lemma canonicalUsage_isSome (usage : BillingUsage) :
    usage.canonicalUsage.isSome = usage.decodable := by
  simp [BillingUsage.canonicalUsage, BillingUsage.decodable, Bool.or_assoc]

/-! ## A sidecar made from a report with some count is accepted -/

lemma decodable_newOpenAI {source : String} {usage : UsagePayload}
    (h : hasOpenAIUsageTokens usage = true) :
    ∃ b, newOpenAIBillingUsage source usage = some b ∧ b.decodable = true := by
  refine ⟨_, if_pos h, ?_⟩
  have hname : equalFold (trimSpace billingUsageSemanticOpenAI) billingUsageSemanticOpenAI = true :=
    by decide +kernel
  simp [BillingUsage.decodable, BillingUsage.openAIPayload, Option.filter, h, hname]

lemma decodable_newClaude {usage : ClaudeUsagePayload} (h : hasClaudeUsageTokens usage = true) :
    ∃ b, newClaudeMessagesBillingUsage usage = some b ∧ b.decodable = true := by
  refine ⟨_, if_pos h, ?_⟩
  have hname :
      equalFold (trimSpace billingUsageSemanticAnthropic) billingUsageSemanticAnthropic = true := by
    decide +kernel
  simp [BillingUsage.decodable, BillingUsage.claudePayload, Option.filter, h, hname]

lemma decodable_newGemini {metadata : GeminiUsagePayload}
    (h : hasGeminiUsageMetadataTokens metadata = true) :
    ∃ b, newGeminiChatBillingUsage metadata = some b ∧ b.decodable = true := by
  refine ⟨_, if_pos h, ?_⟩
  have hname : equalFold (trimSpace billingUsageSemanticGemini) billingUsageSemanticGemini = true :=
    by decide +kernel
  simp [BillingUsage.decodable, BillingUsage.geminiPayload, Option.filter, h, hname]

end NewApi.Relaykit
