import NewApi.Relaykit.ResponseUsage

/-!
# Settlement and the client's format

`effectiveBillingUsage` settles on the sidecar of a usage when it can be decoded and on the usage
itself when it cannot. Every conversion keeps the sidecar of a report, or makes one from it, so what
is billed is what the provider reported, whatever the client speaks. A sidecar that arrives with the
report and cannot be decoded is kept too. The definitions follow `service/billing_usage.go`.
-/

namespace NewApi.Service

open Relaykit Option

/-- `effectiveBillingUsage`. -/
def effectiveBillingUsage (usage : Relaykit.Usage) : Relaykit.Usage :=
  (usage.billingUsage.bind (·.canonicalUsage)).getD usage

/-- The counts that are priced, and the semantic under which they are. -/
@[ext]
structure BilledCounts where
  input : Int
  output : Int
  cacheRead : Int
  cacheReadDetails : Option Relaykit.CachedTokenDetails
  cacheWrite : Int
  cacheWrite5m : Int
  cacheWrite1h : Int
  inputImage : Int
  inputAudio : Int
  outputImage : Int
  outputAudio : Int
  usageSemantic : String
deriving DecidableEq, Repr

def billedCounts (usage : Relaykit.Usage) : BilledCounts where
  input := usage.promptTokens
  output := usage.completionTokens
  cacheRead := usage.promptTokensDetails.cachedTokens
  cacheReadDetails := usage.promptTokensDetails.cachedTokensDetails
  cacheWrite := usage.promptTokensDetails.cacheCreationTokensTotal
  cacheWrite5m := usage.claudeCacheCreation5mTokens
  cacheWrite1h := usage.claudeCacheCreation1hTokens
  inputImage := usage.promptTokensDetails.imageTokens
  inputAudio := usage.promptTokensDetails.audioTokens
  outputImage := usage.completionTokenDetails.imageTokens
  outputAudio := usage.completionTokenDetails.audioTokens
  usageSemantic := usage.usageSemantic

/-! ## Reports -/

/-- The report of a Claude response: its own usage, else that of its message. -/
def claudeReport (usage messageUsage : Option ClaudeUsage) : Option ClaudeUsage :=
  usage <|> messageUsage

/-- The sidecar that the report brings with it. -/
def reportSidecar : Response → Option BillingUsage
  | .chat usage => usage.billingUsage
  | .responses usage => usage.bind (·.billingUsage)
  | .claude usage messageUsage => (claudeReport usage messageUsage).bind (·.billingUsage)
  | .gemini _ metadata => metadata.billingUsage

def ClaudeServerToolUse.hasRequests (u : Relaykit.ClaudeServerToolUse) : Bool :=
  u.webSearchRequests != 0 || u.webFetchRequests != 0 || u.codeExecutionRequests != 0 ||
    u.toolSearchRequests != 0

/-- The response carries a report with at least one count that is not zero. -/
def hasCount : Response → Bool
  | .chat usage => hasOpenAIUsageTokens usage.toUsagePayload
  | .responses usage => usage.any fun u => hasOpenAIUsageTokens u.toUsagePayload
  | .claude usage messageUsage => (claudeReport usage messageUsage).any fun u =>
      hasClaudeUsageTokens u.toClaudeUsagePayload ||
        u.serverToolUse.any ClaudeServerToolUse.hasRequests
  | .gemini _ metadata => hasGeminiUsageMetadataTokens metadata.toGeminiUsagePayload

/-- The tokens of one modality, as the entries spell it. -/
def modalityTotal (modality : String) (details : List GeminiPromptTokensDetails) : Int :=
  ((details.filter (·.modality = modality)).map (·.tokenCount)).sum

/-- No prompt detail of the usage is billed. -/
def NoPromptDetails (d : Relaykit.InputTokenDetails) : Prop :=
  d.cachedTokens = 0 ∧ d.cachedTokensDetails = none ∧ d.cacheCreationTokensTotal = 0 ∧
    d.imageTokens = 0 ∧ d.audioTokens = 0

/-- What the report must say for the converted usage itself to bill as the provider's does. A
conversion in two steps loses the prompt details, and one from Gemini fills in a prompt that was not
counted with the relay's own `estimate`. -/
def TopLevelKept (estimate : Int) (target : RelayFormat) : Response → Prop
  | .chat _ => True
  | .responses usage => target = .gemini → ∀ d, usage.bind (·.inputTokensDetails) = some d →
      d.cachedTokens = 0 ∧ d.cacheWriteTokens ≤ 0 ∧ d.cachedCreationTokens ≤ 0 ∧
        d.imageTokens = 0 ∧ d.audioTokens = 0
  | .claude usage messageUsage => target = .gemini ∨ target = .openAIResponses →
      ∀ u, claudeReport usage messageUsage = some u →
        u.cacheReadInputTokens = 0 ∧ u.cacheCreationInputTokens ≤ 0 ∧
          u.getCacheCreation5mTokens + u.getCacheCreation1hTokens ≤ 0
  | .gemini _ m => target ≠ .gemini →
      (0 < m.promptTokenCount + m.toolUsePromptTokenCount ∨ estimate ≤ 0) ∧
      (target ≠ .openAI → m.cachedContentTokenCount = 0 ∧
        modalityTotal "IMAGE" (m.promptTokensDetails ++ m.toolUsePromptTokensDetails) = 0 ∧
        modalityTotal "AUDIO" (m.promptTokensDetails ++ m.toolUsePromptTokensDetails) = 0)

/-! ## What settlement takes -/

section
variable {u v : Relaykit.Usage} {b : BillingUsage}

lemma effectiveBillingUsage_of_decodable (hb : u.billingUsage = some b) (hd : b.decodable = true) :
    b.canonicalUsage = some (effectiveBillingUsage u) := by
  rw [← canonicalUsage_isSome, isSome_iff_exists] at hd
  obtain ⟨canonical, hc⟩ := hd
  simp [effectiveBillingUsage, hb, hc]

lemma effectiveBillingUsage_of_not_decodable (hb : u.billingUsage = some b)
    (hd : b.decodable = false) : effectiveBillingUsage u = u := by
  rw [← canonicalUsage_isSome, isSome_eq_false_iff, isNone_iff_eq_none] at hd
  simp [effectiveBillingUsage, hb, hd]

/-- Two usages with one sidecar settle alike when it is decoded, and as they are when it is not. -/
lemma billed_effective_eq_iff (hu : u.billingUsage = some b) (hv : v.billingUsage = some b) :
    billedCounts (effectiveBillingUsage u) = billedCounts (effectiveBillingUsage v) ↔
      b.decodable = true ∨ billedCounts u = billedCounts v := by
  cases hd : b.decodable with
  | true =>
    have := (effectiveBillingUsage_of_decodable hu hd).symm.trans
      (effectiveBillingUsage_of_decodable hv hd)
    simp [Option.some.inj this]
  | false =>
    rw [effectiveBillingUsage_of_not_decodable hu hd, effectiveBillingUsage_of_not_decodable hv hd]
    simp

end

/-! ## The usage mappings -/

lemma copyOutputDetails_eq (d : Relaykit.OutputTokenDetails) : copyOutputDetails d = d := by
  unfold copyOutputDetails
  split_ifs with h
  · rfl
  · cases d
    simp_all

/-- The second step of a conversion keeps every count but the prompt details. -/
lemma billedCounts_usageFromChatUsage (u : Relaykit.Usage) :
    billedCounts (usageFromChatUsage u) =
      { billedCounts u with
        cacheRead := 0, cacheReadDetails := none, cacheWrite := 0, inputImage := 0,
        inputAudio := 0 } := by
  simp [billedCounts, usageFromChatUsage, copyOutputDetails_eq,
    Relaykit.InputTokenDetails.cacheCreationTokensTotal]

variable {u : Relaykit.Usage}

lemma billingUsage_usageFromChatUsage {b : BillingUsage}
    (hb : u.billingUsage = some b) : (usageFromChatUsage u).billingUsage = some b := by
  simp [usageFromChatUsage, hb]

lemma billed_second_step_eq_iff (u : Relaykit.Usage) :
    billedCounts (usageFromChatUsage u) = billedCounts u ↔
      NoPromptDetails u.promptTokensDetails := by
  rw [billedCounts_usageFromChatUsage, BilledCounts.ext_iff]
  simp only [billedCounts, NoPromptDetails]
  constructor
  · rintro ⟨-, -, h1, h2, h3, -, -, h4, h5, -⟩
    exact ⟨h1.symm, h2.symm, h3.symm, h4.symm, h5.symm⟩
  · rintro ⟨h1, h2, h3, h4, h5⟩
    simp [h1, h2, h3, h4, h5]

lemma cacheCreationTokensTotal_eq_zero_iff (d : Relaykit.InputTokenDetails) :
    d.cacheCreationTokensTotal = 0 ↔ d.cacheWriteTokens ≤ 0 ∧ d.cachedCreationTokens ≤ 0 := by
  unfold Relaykit.InputTokenDetails.cacheCreationTokensTotal
  dsimp only
  split_ifs <;> omega

lemma noPromptDetails_responses_iff (src : Relaykit.Usage) :
    NoPromptDetails (usageFromResponsesUsage (some src)).promptTokensDetails ↔
      ∀ d, src.inputTokensDetails = some d →
        d.cachedTokens = 0 ∧ d.cacheWriteTokens ≤ 0 ∧ d.cachedCreationTokens ≤ 0 ∧
          d.imageTokens = 0 ∧ d.audioTokens = 0 := by
  unfold NoPromptDetails
  rw [cacheCreationTokensTotal_eq_zero_iff]
  cases h : src.inputTokensDetails with
  | none => simp [usageFromResponsesUsage, h]
  | some d => simp [usageFromResponsesUsage, h, and_assoc]

lemma noPromptDetails_claude_iff (u : ClaudeUsage) :
    NoPromptDetails (usageFromClaudeAPIUsage u).promptTokensDetails ↔
      u.cacheReadInputTokens = 0 ∧ u.cacheCreationInputTokens ≤ 0 ∧
        u.getCacheCreation5mTokens + u.getCacheCreation1hTokens ≤ 0 := by
  unfold NoPromptDetails
  rw [cacheCreationTokensTotal_eq_zero_iff]
  -- the cache writes are the larger of the total and the sum of its parts
  have hwrite : (usageFromClaudeAPIUsage u).promptTokensDetails.cacheWriteTokens ≤ 0 ∧
      u.cacheCreationInputTokens ≤ 0 ↔ u.cacheCreationInputTokens ≤ 0 ∧
        u.getCacheCreation5mTokens + u.getCacheCreation1hTokens ≤ 0 := by
    simp only [usageFromClaudeAPIUsage, buildOpenAIStyleUsageFromClaudeUsage,
      cacheCreationTokensForOpenAIUsage]
    split_ifs <;> omega
  rw [← hwrite]
  simp [usageFromClaudeAPIUsage, buildOpenAIStyleUsageFromClaudeUsage]

/-- The entries of a modality are added to its field; the counts of the cache stay. -/
lemma foldl_addInputDetail (l : List GeminiPromptTokensDetails) (d : Relaykit.InputTokenDetails) :
    ∃ text, l.foldl (addInputDetail id) d = { d with
      textTokens := text
      imageTokens := d.imageTokens + modalityTotal "IMAGE" l
      audioTokens := d.audioTokens + modalityTotal "AUDIO" l } := by
  induction l generalizing d with
  | nil => exact ⟨d.textTokens, by simp [modalityTotal]⟩
  | cons entry l ih =>
    rw [List.foldl_cons]
    obtain ⟨text, htext⟩ := ih (addInputDetail id d entry)
    refine ⟨text, ?_⟩
    rw [htext]
    by_cases ha : entry.modality = "AUDIO"
    · simp [addInputDetail, modalityTotal, ha, Int.add_assoc]
    by_cases hi : entry.modality = "IMAGE"
    · simp [addInputDetail, modalityTotal, hi, Int.add_assoc]
    by_cases ht : entry.modality = "TEXT"
    · simp [addInputDetail, modalityTotal, ht]
    · simp [addInputDetail, modalityTotal, ha, hi, ht]

/-- The prompt of a Gemini report, or the estimate where it is not counted. -/
def geminiPrompt (estimate : Int) (m : GeminiUsageMetadata) : Int :=
  if m.promptTokenCount + m.toolUsePromptTokenCount ≤ 0 ∧ estimate > 0 then estimate
  else m.promptTokenCount + m.toolUsePromptTokenCount

/-- The mapping of a Gemini report: its sidecar, and what of it is billed. -/
lemma usageFromGeminiMetadata_spec (estimate : Int) (m : GeminiUsageMetadata) :
    ∃ u, usageFromGeminiMetadata (some m) estimate = some u ∧
      u.billingUsage = (m.billingUsage <|> newGeminiChatBillingUsage m.toGeminiUsagePayload) ∧
      billedCounts u =
        { input := geminiPrompt estimate m
          output :=
            if m.totalTokenCount > 0 ∧ m.candidatesTokenCount + m.thoughtsTokenCount ≤ 0 then
              m.totalTokenCount - geminiPrompt estimate m
            else m.candidatesTokenCount + m.thoughtsTokenCount
          cacheRead := m.cachedContentTokenCount
          cacheReadDetails := none
          cacheWrite := 0
          cacheWrite5m := 0
          cacheWrite1h := 0
          inputImage :=
            modalityTotal "IMAGE" (m.promptTokensDetails ++ m.toolUsePromptTokensDetails)
          inputAudio :=
            modalityTotal "AUDIO" (m.promptTokensDetails ++ m.toolUsePromptTokensDetails)
          outputImage := (m.candidatesTokensDetails.foldl (addOutputDetail id)
            { reasoningTokens := m.thoughtsTokenCount }).imageTokens
          outputAudio := (m.candidatesTokensDetails.foldl (addOutputDetail id)
            { reasoningTokens := m.thoughtsTokenCount }).audioTokens
          usageSemantic := "" } := by
  refine ⟨_, rfl, rfl, ?_⟩
  obtain ⟨text, hfold⟩ :=
    foldl_addInputDetail (m.promptTokensDetails ++ m.toolUsePromptTokensDetails)
      { cachedTokens := m.cachedContentTokenCount }
  simp only [billedCounts, textByDefault_fields, hfold,
    Relaykit.InputTokenDetails.cacheCreationTokensTotal, geminiPrompt]
  simp

/-! ## Every route -/

/-- The usage that is returned for a report, through any route to a client. -/
def returnedUsage (estimate : Int) (target : RelayFormat) (r : Response) : Option Relaykit.Usage :=
  (convertResponse estimate target r).bind (·.2)

lemma returnedUsage_responses (estimate : Int) (target : RelayFormat) (u : Option Relaykit.Usage) :
    returnedUsage estimate target (.responses u) =
      if target = .gemini then some (usageFromChatUsage (usageFromResponsesUsage u))
      else some (usageFromResponsesUsage u) := by
  cases target <;> rfl

lemma returnedUsage_claude {usage messageUsage : Option ClaudeUsage} {u : ClaudeUsage}
    (hmap : usageFromClaudeResponse usage messageUsage = some (usageFromClaudeAPIUsage u))
    (estimate : Int) (target : RelayFormat) :
    returnedUsage estimate target (.claude usage messageUsage) =
      if target = .gemini ∨ target = .openAIResponses then
        some (usageFromChatUsage (usageFromClaudeAPIUsage u))
      else some (usageFromClaudeAPIUsage u) := by
  cases target <;>
    simp [returnedUsage, convertResponse, Response.format, responseRoute, executeResponseSteps,
      executeResponseStep, canonicalUsageFromResponse, hmap]

lemma returnedUsage_gemini {has : Bool} {m : GeminiUsageMetadata}
    (h : hasGeminiUsageMetadataTokens m.toGeminiUsagePayload = true) {estimate : Int}
    {target : RelayFormat} (htarget : target ≠ .gemini)
    (hu : usageFromGeminiMetadata (some m) estimate = some u) :
    returnedUsage estimate target (.gemini has m) =
      if target = .openAI then some u else some (usageFromChatUsage u) := by
  have hm : getUsageMetadata has m = some m := by simp [getUsageMetadata, h]
  cases target <;>
    simp [returnedUsage, convertResponse, Response.format, responseRoute, executeResponseSteps,
      executeResponseStep, hm, hu] at htarget ⊢

/-- The sidecar that came with the report can be decoded, if there is one. -/
def SidecarDecodable (r : Response) : Prop :=
  ∀ b, reportSidecar r = some b → b.decodable = true

/-- The client is billed as the provider's own usage is. -/
def BilledAsReported (estimate : Int) (target : RelayFormat) (r : Response) : Prop :=
  ∃ own usage, canonicalUsageFromResponse r = some own ∧
    returnedUsage estimate target r = some usage ∧
    billedCounts (effectiveBillingUsage usage) = billedCounts (effectiveBillingUsage own)

lemma billed_second_step_of_sidecar {b : BillingUsage}
    (hu : u.billingUsage = some b) :
    billedCounts (effectiveBillingUsage (usageFromChatUsage u)) =
        billedCounts (effectiveBillingUsage u) ↔
      b.decodable = true ∨ NoPromptDetails u.promptTokensDetails := by
  rw [billed_effective_eq_iff (billingUsage_usageFromChatUsage hu) hu, billed_second_step_eq_iff]

/-- A second step over a usage whose sidecar came with the report or was made from it. -/
lemma billed_second_step_iff {brought made : Option BillingUsage}
    (hu : u.billingUsage = (brought <|> made)) (hmade : ∃ b, made = some b ∧ b.decodable = true) :
    billedCounts (effectiveBillingUsage (usageFromChatUsage u)) =
        billedCounts (effectiveBillingUsage u) ↔
      (∀ b, brought = some b → b.decodable = true) ∨ NoPromptDetails u.promptTokensDetails := by
  cases brought with
  | none =>
    obtain ⟨b, rfl, hd⟩ := hmade
    have hu : u.billingUsage = some b := hu
    rw [billed_second_step_of_sidecar hu]
    simp [hd]
  | some b =>
    rw [billed_second_step_of_sidecar hu]
    simp

lemma billedAsReported_responses_iff {u : Option Relaykit.Usage} (h : hasCount (.responses u) = true)
    (estimate : Int) (target : RelayFormat) :
    BilledAsReported estimate target (.responses u) ↔
      SidecarDecodable (.responses u) ∨ TopLevelKept estimate target (.responses u) := by
  cases u with
  | none => exact absurd h (by simp [hasCount])
  | some src =>
    have hcount : hasOpenAIUsageTokens src.toUsagePayload = true := by simpa [hasCount] using h
    unfold BilledAsReported
    rw [returnedUsage_responses]
    by_cases htarget : target = .gemini
    · have hstep := billed_second_step_iff (u := usageFromResponsesUsage (some src)) rfl
        (decodable_newOpenAI hcount)
      simp [canonicalUsageFromResponse, htarget, hstep, noPromptDetails_responses_iff,
        SidecarDecodable, reportSidecar, TopLevelKept]
    · simp [canonicalUsageFromResponse, htarget, TopLevelKept]

/-- A Claude report that counts only tool requests: all its token counts are zero. -/
lemma claude_zero_of_no_tokens {u : ClaudeUsage}
    (h : hasClaudeUsageTokens u.toClaudeUsagePayload = false) (hb : u.billingUsage = none) :
    usageFromClaudeAPIUsage u = { usageSemantic := "openai", usageSource := "anthropic" } := by
  have hnew : newClaudeMessagesBillingUsage u.toClaudeUsagePayload = none := by
    simp [newClaudeMessagesBillingUsage, h]
  simp only [hasClaudeUsageTokens, Bool.or_eq_false_iff, bne_eq_false_iff_eq] at h
  obtain ⟨⟨⟨⟨⟨⟨h1, h2⟩, h3⟩, h4⟩, -⟩, -⟩, h7⟩ := h
  have hparts : u.getCacheCreation5mTokens = 0 ∧ u.getCacheCreation1hTokens = 0 := by
    unfold ClaudeUsagePayload.getCacheCreation5mTokens ClaudeUsagePayload.getCacheCreation1hTokens
    cases hc : u.cacheCreation with
    | none => simp
    | some c =>
      rw [hc] at h7
      simpa using h7
  simp [usageFromClaudeAPIUsage, buildOpenAIStyleUsageFromClaudeUsage, normalizeCacheCreationSplit,
    cacheCreationTokensForOpenAIUsage, h1, h2, h3, h4, hparts, hb, hnew]

lemma billedAsReported_claude_iff {usage messageUsage : Option ClaudeUsage}
    (h : hasCount (.claude usage messageUsage) = true) (estimate : Int) (target : RelayFormat) :
    BilledAsReported estimate target (.claude usage messageUsage) ↔
      SidecarDecodable (.claude usage messageUsage) ∨
        TopLevelKept estimate target (.claude usage messageUsage) := by
  cases hu : claudeReport usage messageUsage with
  | none =>
    rw [hasCount, hu] at h
    exact absurd h (by simp)
  | some u =>
    have hown : canonicalUsageFromResponse (.claude usage messageUsage) =
        some (usageFromClaudeAPIUsage u) := by
      show (claudeReport usage messageUsage).map usageFromClaudeAPIUsage = _
      rw [hu, map_some]
    unfold BilledAsReported
    rw [returnedUsage_claude hown]
    by_cases htarget : target = .gemini ∨ target = .openAIResponses
    · cases hcount : hasClaudeUsageTokens u.toClaudeUsagePayload with
      | true =>
        have hstep := billed_second_step_iff (u := usageFromClaudeAPIUsage u) rfl
          (decodable_newClaude hcount)
        simp [hown, htarget, hstep, noPromptDetails_claude_iff, SidecarDecodable, reportSidecar,
          TopLevelKept, hu]
      | false =>
        cases hb : u.billingUsage with
        | none =>
          -- nothing is counted, so the conversion has nothing to make a sidecar from
          have hzero := claude_zero_of_no_tokens hcount hb
          have heq : billedCounts (effectiveBillingUsage (usageFromChatUsage
              (usageFromClaudeAPIUsage u))) =
              billedCounts (effectiveBillingUsage (usageFromClaudeAPIUsage u)) := by
            rw [hzero]
            decide
          simp [hown, htarget, heq, SidecarDecodable, reportSidecar, hu, hb]
        | some b =>
          have hstep := billed_second_step_of_sidecar (u := usageFromClaudeAPIUsage u) (b := b)
            (by simp [usageFromClaudeAPIUsage, buildOpenAIStyleUsageFromClaudeUsage, hb])
          simp [hown, htarget, hstep, noPromptDetails_claude_iff, SidecarDecodable, reportSidecar,
            TopLevelKept, hu, hb]
    · simp [hown, htarget, TopLevelKept]

lemma geminiPrompt_eq_iff (estimate : Int) (m : GeminiUsageMetadata) :
    geminiPrompt estimate m = geminiPrompt 0 m ↔
      0 < m.promptTokenCount + m.toolUsePromptTokenCount ∨ estimate ≤ 0 := by
  unfold geminiPrompt
  split_ifs <;> omega

lemma billedAsReported_gemini_iff {has : Bool} {m : GeminiUsageMetadata}
    (h : hasCount (.gemini has m) = true) (estimate : Int) (target : RelayFormat) :
    BilledAsReported estimate target (.gemini has m) ↔
      SidecarDecodable (.gemini has m) ∨ TopLevelKept estimate target (.gemini has m) := by
  have hcount : hasGeminiUsageMetadataTokens m.toGeminiUsagePayload = true := h
  obtain ⟨own, hown, hownSide, hownBilled⟩ := usageFromGeminiMetadata_spec 0 m
  obtain ⟨u, hu, huSide, huBilled⟩ := usageFromGeminiMetadata_spec estimate m
  have hcanonical : canonicalUsageFromResponse (.gemini has m) = some own := by
    simp [canonicalUsageFromResponse, getUsageMetadata, hcount, hown]
  unfold BilledAsReported
  by_cases htarget : target = .gemini
  · subst htarget
    simp [hcanonical, returnedUsage, convertResponse, Response.format, TopLevelKept]
  -- both usages carry one sidecar: the report's or the one made from it
  obtain ⟨b, hb, hdecodable⟩ : ∃ b, (m.billingUsage <|>
      newGeminiChatBillingUsage m.toGeminiUsagePayload) = some b ∧
      (SidecarDecodable (.gemini has m) ↔ b.decodable = true) := by
    cases hm : m.billingUsage with
    | none =>
      obtain ⟨b, hb, hd⟩ := decodable_newGemini hcount
      exact ⟨b, by simpa using hb, by simp [SidecarDecodable, reportSidecar, hm, hd]⟩
    | some b => exact ⟨b, rfl, by simp [SidecarDecodable, reportSidecar, hm]⟩
  rw [hb] at hownSide huSide
  rw [returnedUsage_gemini hcount htarget hu]
  by_cases hchat : target = .openAI
  · have hbilled : billedCounts u = billedCounts own ↔
        0 < m.promptTokenCount + m.toolUsePromptTokenCount ∨ estimate ≤ 0 := by
      rw [← geminiPrompt_eq_iff, huBilled, hownBilled, BilledCounts.ext_iff]
      simp +contextual
    simp [hcanonical, hchat, billed_effective_eq_iff huSide hownSide, hbilled, hdecodable,
      TopLevelKept]
  have hbilled : billedCounts (usageFromChatUsage u) = billedCounts own ↔
      (0 < m.promptTokenCount + m.toolUsePromptTokenCount ∨ estimate ≤ 0) ∧
      m.cachedContentTokenCount = 0 ∧
      modalityTotal "IMAGE" (m.promptTokensDetails ++ m.toolUsePromptTokensDetails) = 0 ∧
      modalityTotal "AUDIO" (m.promptTokensDetails ++ m.toolUsePromptTokensDetails) = 0 := by
    rw [← geminiPrompt_eq_iff, billedCounts_usageFromChatUsage, huBilled, hownBilled,
      BilledCounts.ext_iff]
    simp +contextual [eq_comm]
  simp [hcanonical, hchat, htarget,
    billed_effective_eq_iff (billingUsage_usageFromChatUsage huSide) hownSide, hbilled,
    hdecodable, TopLevelKept]

/-- For every report with some count and every registered route to a client, in one step or in two,
the usage that the conversion returns settles in every billed count and in its semantic as the
provider's own usage does, exactly when the report brings no sidecar, or one that can be decoded, or
the usage itself survives the route. -/
theorem settlement_as_reported_iff (estimate : Int) (target : RelayFormat) (r : Response)
    (h : hasCount r = true) :
    BilledAsReported estimate target r ↔ SidecarDecodable r ∨ TopLevelKept estimate target r := by
  cases r with
  | chat u =>
    -- every route from Chat is one step of one mapping
    have hreturned : returnedUsage estimate target (.chat u) = some (usageFromChatUsage u) := by
      cases target <;> rfl
    simp [BilledAsReported, hreturned, canonicalUsageFromResponse, TopLevelKept]
  | responses u => exact billedAsReported_responses_iff h estimate target
  | claude usage messageUsage => exact billedAsReported_claude_iff h estimate target
  | gemini has m => exact billedAsReported_gemini_iff h estimate target

/-- A Claude report with cache writes of both kinds, sent to a Gemini client in two steps. -/
theorem settlement_as_reported_claude_cached :
    BilledAsReported 0 .gemini
      (.claude (some { inputTokens := 10, cacheReadInputTokens := 3, cacheCreationInputTokens := 7,
                       outputTokens := 5,
                       cacheCreation := some { ephemeral5mInputTokens := 4,
                                               ephemeral1hInputTokens := 3 } }) none) :=
  (settlement_as_reported_iff 0 .gemini _ (by decide)).mpr
    (.inl fun _ hb => absurd hb (some_ne_none _).symm)

/-- A Responses report whose sidecar holds an empty payload. -/
def cachedBehindEmptySidecar : Response :=
  .responses (some { inputTokens := 100, outputTokens := 10, totalTokens := 110
                     inputTokensDetails := some { cachedTokens := 40 }
                     billingUsage := some { source := "oai_responses", semantic := "openai",
                                            openAIUsage := some {} } })

/-- The tokens a usage is billed for as read from the cache. -/
def billedCacheRead (usage : Relaykit.Usage) : Int :=
  (billedCounts (effectiveBillingUsage usage)).cacheRead

/-- A Chat client is billed for 40 tokens read from the cache, as the provider's own usage says. For
a Gemini client the second step has moved the count away, and none is billed. -/
theorem cache_read_lost_in_two_steps :
    hasCount cachedBehindEmptySidecar = true ∧
    (canonicalUsageFromResponse cachedBehindEmptySidecar).map billedCacheRead = some 40 ∧
    (returnedUsage 0 .openAI cachedBehindEmptySidecar).map billedCacheRead = some 40 ∧
    (returnedUsage 0 .gemini cachedBehindEmptySidecar).map billedCacheRead = some 0 ∧
    ¬ BilledAsReported 0 .gemini cachedBehindEmptySidecar := by
  have hown : (canonicalUsageFromResponse cachedBehindEmptySidecar).map billedCacheRead =
      some 40 := by decide +kernel
  have hgemini : (returnedUsage 0 .gemini cachedBehindEmptySidecar).map billedCacheRead =
      some 0 := by decide +kernel
  refine ⟨by decide, hown, by decide +kernel, hgemini, ?_⟩
  rintro ⟨own, usage, ho, hu, heq⟩
  rw [ho, map_some] at hown
  rw [hu, map_some] at hgemini
  have : billedCacheRead usage = billedCacheRead own := congrArg BilledCounts.cacheRead heq
  rw [Option.some.inj hown, Option.some.inj hgemini] at this
  exact absurd this (by decide)

end NewApi.Service
