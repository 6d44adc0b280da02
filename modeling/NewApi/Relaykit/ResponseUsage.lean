import NewApi.Relaykit.Usage

/-!
# Usage through response conversions

A response is converted from the provider's format to the client's by one registered converter or
by two, with OpenAI Chat in the middle. Each converter returns the converted response and a usage,
and the next one reads the usage inside the converted response. The definitions follow
`relaykit/relayconvert/response_registry.go`, `text_converter_registry.go` and the usage mappings
of `relaykit/relayconvert/internal`.

Of a response only its usage is kept: the content is converted beside it, and a content that cannot
be converted makes the conversion fail and return no usage.
-/

namespace NewApi.Relaykit

/-! ## Usage mappings -/

/-- A copy of the output details, which are left at zero when no count is set. -/
def copyOutputDetails (d : OutputTokenDetails) : OutputTokenDetails :=
  if d.reasoningTokens != 0 || d.textTokens != 0 || d.audioTokens != 0 || d.imageTokens != 0 then d
  else {}

def usageFromChatUsage (src : Usage) : Usage :=
  let details := src.promptTokensDetails
  { usageSemantic := src.usageSemantic
    usageSource := src.usageSource
    billingUsage := src.billingUsage <|> newOpenAIChatBillingUsage src.toUsagePayload
    promptTokens := src.promptTokens
    inputTokens := src.promptTokens
    completionTokens := src.completionTokens
    outputTokens := src.completionTokens
    totalTokens :=
      if src.totalTokens != 0 then src.totalTokens else src.promptTokens + src.completionTokens
    -- the prompt details move to the field of the Responses format
    inputTokensDetails :=
      if details.cachedTokens != 0 || details.imageTokens != 0 || details.audioTokens != 0 ||
          details.cachedCreationTokens != 0 || details.cacheWriteTokens != 0 ||
          details.textTokens != 0 then
        some details
      else none
    completionTokenDetails := copyOutputDetails src.completionTokenDetails
    claudeCacheCreation5mTokens := src.claudeCacheCreation5mTokens
    claudeCacheCreation1hTokens := src.claudeCacheCreation1hTokens }

/-- `UsageFromResponsesUsage`; a response without usage gives an empty one. -/
def usageFromResponsesUsage : Option Usage → Usage
  | none => {}
  | some src =>
    { usageSemantic := src.usageSemantic
      usageSource := src.usageSource
      billingUsage := src.billingUsage <|> newOpenAIResponsesBillingUsage src.toUsagePayload
      promptTokens := src.inputTokens
      inputTokens := src.inputTokens
      completionTokens := src.outputTokens
      outputTokens := src.outputTokens
      totalTokens :=
        if src.totalTokens != 0 then src.totalTokens else src.inputTokens + src.outputTokens
      promptTokensDetails :=
        match src.inputTokensDetails with
        | some d => { d with cachedTokensDetails := none }
        | none => {}
      completionTokenDetails := copyOutputDetails src.completionTokenDetails
      claudeCacheCreation5mTokens := src.claudeCacheCreation5mTokens
      claudeCacheCreation1hTokens := src.claudeCacheCreation1hTokens }

/-- `NormalizeCacheCreationSplit`: what the two parts leave of the total counts as 5-minute. -/
def normalizeCacheCreationSplit (totalTokens tokens5m tokens1h : Int) : Int × Int :=
  (tokens5m + max (totalTokens - tokens5m - tokens1h) 0, tokens1h)

def cacheCreationTokensForOpenAIUsage (usage : Usage) : Int :=
  let split := usage.claudeCacheCreation5mTokens + usage.claudeCacheCreation1hTokens
  if split = 0 then usage.promptTokensDetails.cachedCreationTokens
  else if usage.promptTokensDetails.cachedCreationTokens > split then
    usage.promptTokensDetails.cachedCreationTokens
  else split

def buildOpenAIStyleUsageFromClaudeUsage (usage : Usage) : Usage :=
  let split := normalizeCacheCreationSplit usage.promptTokensDetails.cachedCreationTokens
    usage.claudeCacheCreation5mTokens usage.claudeCacheCreation1hTokens
  let cacheCreationTokens := cacheCreationTokensForOpenAIUsage usage
  let totalInputTokens :=
    usage.promptTokens + usage.promptTokensDetails.cachedTokens + cacheCreationTokens
  { usage with
    claudeCacheCreation5mTokens := split.1
    claudeCacheCreation1hTokens := split.2
    promptTokensDetails :=
      { usage.promptTokensDetails with cacheWriteTokens := cacheCreationTokens }
    promptTokens := totalInputTokens
    inputTokens := totalInputTokens
    totalTokens := totalInputTokens + usage.completionTokens
    usageSemantic := "openai"
    usageSource := "anthropic" }

def usageFromClaudeAPIUsage (usage : ClaudeUsage) : Usage :=
  buildOpenAIStyleUsageFromClaudeUsage
    { promptTokens := usage.inputTokens
      completionTokens := usage.outputTokens
      usageSemantic := "anthropic"
      usageSource := "anthropic"
      billingUsage :=
        usage.billingUsage <|> newClaudeMessagesBillingUsage usage.toClaudeUsagePayload
      promptTokensDetails :=
        { cachedTokens := usage.cacheReadInputTokens
          cachedCreationTokens := usage.cacheCreationInputTokens }
      claudeCacheCreation5mTokens := usage.getCacheCreation5mTokens
      claudeCacheCreation1hTokens := usage.getCacheCreation1hTokens }

/-- The modality of an entry as it stands: this mapping does not normalise it. -/
def usageFromGeminiMetadata (metadata : Option GeminiUsageMetadata) (fallbackPromptTokens : Int) :
    Option Usage :=
  match metadata with
  | none =>
    if fallbackPromptTokens ≤ 0 then none
    else some
      { promptTokens := fallbackPromptTokens
        promptTokensDetails := { textTokens := fallbackPromptTokens } }
  | some m =>
    let reported := m.promptTokenCount + m.toolUsePromptTokenCount
    let promptTokens :=
      if reported ≤ 0 ∧ fallbackPromptTokens > 0 then fallbackPromptTokens else reported
    let completionTokens := m.candidatesTokenCount + m.thoughtsTokenCount
    let details :=
      (m.promptTokensDetails ++ m.toolUsePromptTokensDetails).foldl (addInputDetail id)
        { cachedTokens := m.cachedContentTokenCount }
    some
      { promptTokens
        completionTokens :=
          if m.totalTokenCount > 0 ∧ completionTokens ≤ 0 then m.totalTokenCount - promptTokens
          else completionTokens
        totalTokens := m.totalTokenCount
        billingUsage := m.billingUsage <|> newGeminiChatBillingUsage m.toGeminiUsagePayload
        promptTokensDetails := textByDefault promptTokens details
        completionTokenDetails :=
          m.candidatesTokensDetails.foldl (addOutputDetail id)
            { reasoningTokens := m.thoughtsTokenCount } }

/-- Cache writes stand in one of two fields; a negative count is none. -/
def InputTokenDetails.cacheCreationTokensTotal (d : InputTokenDetails) : Int :=
  let total := max d.cacheWriteTokens d.cachedCreationTokens
  if total < 0 then 0 else total

/-- `claude.UsageFromOpenAI`: the usage inside a converted Claude response. -/
def claudeUsageFromOpenAI (usage : Usage) : ClaudeUsage :=
  let native := usage.billingUsage.bind fun b =>
    if b.source = billingUsageSourceClaudeMessages ∨ b.semantic = billingUsageSemanticAnthropic
    then b.claudeUsage else none
  match native with
  | some payload => { toClaudeUsagePayload := payload, billingUsage := usage.billingUsage }
  | none =>
    let split := normalizeCacheCreationSplit usage.promptTokensDetails.cachedCreationTokens
      usage.claudeCacheCreation5mTokens usage.claudeCacheCreation1hTokens
    let cacheCreationTokens := usage.promptTokensDetails.cacheCreationTokensTotal
    { inputTokens :=
        if usage.usageSemantic = billingUsageSemanticAnthropic then usage.promptTokens
        else max (usage.promptTokens - usage.promptTokensDetails.cachedTokens -
          cacheCreationTokens) 0
      outputTokens := usage.completionTokens
      cacheCreationInputTokens := cacheCreationTokens
      cacheReadInputTokens := usage.promptTokensDetails.cachedTokens
      cacheCreation :=
        if split.1 > 0 ∨ split.2 > 0 then
          some { ephemeral5mInputTokens := split.1, ephemeral1hInputTokens := split.2 }
        else none
      billingUsage := usage.billingUsage <|> newOpenAIChatBillingUsage usage.toUsagePayload }

/-- The usage metadata of `ResponseOpenAI2Gemini`. -/
def geminiMetadataFromOpenAI (usage : Usage) : GeminiUsageMetadata :=
  let native := usage.billingUsage.bind fun b =>
    if b.source = billingUsageSourceGeminiChat ∨ b.semantic = billingUsageSemanticGemini
    then b.geminiUsageMetadata else none
  match native with
  | some payload => { toGeminiUsagePayload := payload, billingUsage := usage.billingUsage }
  | none =>
    { promptTokenCount := usage.promptTokens
      candidatesTokenCount := usage.completionTokens
      totalTokenCount :=
        if usage.totalTokens = 0 then usage.promptTokens + usage.completionTokens
        else usage.totalTokens
      billingUsage := usage.billingUsage <|> newOpenAIChatBillingUsage usage.toUsagePayload }

/-! ## Responses and converters -/

inductive RelayFormat
  | openAI
  | openAIResponses
  | claude
  | gemini
deriving DecidableEq, Repr

/-- A complete response, of which only the usage is kept. -/
inductive Response
  | chat (usage : Usage)
  | responses (usage : Option Usage)
  | claude (usage messageUsage : Option ClaudeUsage)
  | gemini (hasUsageMetadata : Bool) (usageMetadata : GeminiUsageMetadata)
deriving DecidableEq, Repr

/-- `inferResponseRelayFormat`. -/
def Response.format : Response → RelayFormat
  | .chat _ => .openAI
  | .responses _ => .openAIResponses
  | .claude _ _ => .claude
  | .gemini _ _ => .gemini

def usageFromClaudeResponse (usage messageUsage : Option ClaudeUsage) : Option Usage :=
  (usage <|> messageUsage).map usageFromClaudeAPIUsage

/-- `GetUsageMetadata`. -/
def getUsageMetadata (hasUsageMetadata : Bool) (usageMetadata : GeminiUsageMetadata) :
    Option GeminiUsageMetadata :=
  if hasUsageMetadata || hasGeminiUsageMetadataTokens usageMetadata.toGeminiUsagePayload then
    some usageMetadata
  else none

/-- `canonicalUsageFromResponse`: the usage of a response in the client's own format. -/
def canonicalUsageFromResponse : Response → Option Usage
  | .chat usage => some (usageFromChatUsage usage)
  | .responses usage => some (usageFromResponsesUsage usage)
  | .claude usage messageUsage => usageFromClaudeResponse usage messageUsage
  | .gemini has metadata => usageFromGeminiMetadata (getUsageMetadata has metadata) 0

/-- The converters that are registered with a function of their own. -/
inductive DirectConverter
  | claudeMessagesToOpenAIChat
  | openAIChatToClaudeMessages
  | geminiContentToOpenAIChat
  | openAIChatToGeminiContent
  | openAIChatToOpenAIResponses
  | openAIResponsesToOpenAIChat
  | openAIResponsesToClaudeMessages
deriving DecidableEq, Repr

/-- `builtinTextConverters`, response side: the steps of each registered route. -/
def responseRoute : RelayFormat → RelayFormat → Option (List DirectConverter)
  | .claude, .openAI => some [.claudeMessagesToOpenAIChat]
  | .openAI, .claude => some [.openAIChatToClaudeMessages]
  | .gemini, .openAI => some [.geminiContentToOpenAIChat]
  | .openAI, .gemini => some [.openAIChatToGeminiContent]
  | .openAI, .openAIResponses => some [.openAIChatToOpenAIResponses]
  | .openAIResponses, .openAI => some [.openAIResponsesToOpenAIChat]
  | .claude, .gemini => some [.claudeMessagesToOpenAIChat, .openAIChatToGeminiContent]
  | .claude, .openAIResponses => some [.claudeMessagesToOpenAIChat, .openAIChatToOpenAIResponses]
  | .gemini, .claude => some [.geminiContentToOpenAIChat, .openAIChatToClaudeMessages]
  | .gemini, .openAIResponses => some [.geminiContentToOpenAIChat, .openAIChatToOpenAIResponses]
  | .openAIResponses, .claude => some [.openAIResponsesToClaudeMessages]
  | .openAIResponses, .gemini => some [.openAIResponsesToOpenAIChat, .openAIChatToGeminiContent]
  | .openAI, .openAI => none
  | .openAIResponses, .openAIResponses => none
  | .claude, .claude => none
  | .gemini, .gemini => none

/-- One converter: `none` on a response of another format, else the converted response and the
returned usage, if the response has one. `estimate` is the relay's own count of the prompt. -/
def executeResponseStep (estimate : Int) (converter : DirectConverter) (response : Response) :
    Option (Response × Option Usage) :=
  match converter, response with
  | .claudeMessagesToOpenAIChat, .claude usage messageUsage =>
    let mapped := usageFromClaudeResponse usage messageUsage
    some (.chat (mapped.getD {}), mapped)
  | .openAIChatToClaudeMessages, .chat usage =>
    some (.claude (some (claudeUsageFromOpenAI usage)) none, some (usageFromChatUsage usage))
  | .geminiContentToOpenAIChat, .gemini has metadata =>
    let mapped := usageFromGeminiMetadata (getUsageMetadata has metadata) estimate
    some (.chat (mapped.getD {}), mapped)
  | .openAIChatToGeminiContent, .chat usage =>
    some (.gemini true (geminiMetadataFromOpenAI usage), some (usageFromChatUsage usage))
  | .openAIChatToOpenAIResponses, .chat usage =>
    let mapped := usageFromChatUsage usage
    some (.responses (some mapped), some mapped)
  | .openAIResponsesToOpenAIChat, .responses usage =>
    let mapped := usageFromResponsesUsage usage
    some (.chat mapped, some mapped)
  | .openAIResponsesToClaudeMessages, .responses usage =>
    let mapped := usageFromResponsesUsage usage
    some (.claude (some (claudeUsageFromOpenAI mapped)) none, some mapped)
  | _, _ => none

/-- The converters of a route one after the other; the usage of the last one is returned. -/
def executeResponseSteps (estimate : Int) :
    List DirectConverter → Response → Option Usage → Option (Response × Option Usage)
  | [], current, usage => some (current, usage)
  | converter :: rest, current, _ =>
    match executeResponseStep estimate converter current with
    | none => none
    | some (value, usage) => executeResponseSteps estimate rest value usage

/-- `ConvertResponse`: `none` for an error, else the response and the usage for the client. -/
def convertResponse (estimate : Int) (target : RelayFormat) (response : Response) :
    Option (Response × Option Usage) :=
  if response.format = target then some (response, canonicalUsageFromResponse response)
  else
    match responseRoute response.format target with
    | none => none
    | some steps => executeResponseSteps estimate steps response none

end NewApi.Relaykit
