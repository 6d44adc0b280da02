import NewApi.Service.TextQuota
import NewApi.Service.TieredSettleTheorems

/-!
# Converted prices

When does the expression that `PreviewModelPricingConversion` generates charge what the ratios
charged? Both amounts are a multiple of the model ratio and the group ratio, plus the same audio
amount, and the multiples are two weighted sums over the token counts. They differ in what is taken
out of the prompt before it is clamped at zero, and in how cache writes are counted.
-/

namespace NewApi.Service

open Model List Binary64 Option
open Float64 (Exact)
open Billingexpr (TokenParams)

/-! ## Remainders that may be negative -/

section
variable {p : Int} {parts : List (Bool × Int)}

lemma roundNat_pos {n : ℕ} (hn : 0 < n) : 0 < Float64.roundNat n := by
  have hle : 2 ^ 0 ≤ Float64.roundAt (lostBits 0 n) n := two_pow_le_roundAt hn
  rw [lostBits, Nat.zero_max] at hle
  exact hle

lemma ofInt_neg {x : Int} (hx : x < 0) : Float64.ofInt x < 0 := by
  rw [Float64.ofInt, if_neg (by omega)]
  have hpos := roundNat_pos (show 0 < (-x).toNat by omega)
  omega

/-- A negative remainder stays negative, however its differences are rounded. -/
lemma excludeAll_neg (h : ∀ part ∈ parts, 0 ≤ part.2) (hp : p < 0) : excludeAll p parts < 0 := by
  induction parts generalizing p with
  | nil => exact hp
  | cons part rest ih =>
    have hpart := h part mem_cons_self
    have hrest : ∀ part ∈ rest, 0 ≤ part.2 := fun x hx => h x (mem_cons_of_mem _ hx)
    rw [excludeAll]
    split_ifs with hpriced
    · apply ih hrest
      exact ofInt_neg (by omega)
    · exact ih hrest hp

/-- The clamped remainder is the one of exact arithmetic. -/
lemma clampZero_excludeAll (h : ∀ part ∈ parts, 0 ≤ part.2 ∧ part.2 ≤ 2 ^ 53) (hp : 0 ≤ p)
    (hp' : p ≤ 2 ^ 53) : clampZero (excludeAll p parts) = clampZero (p - pricedSum parts) := by
  induction parts generalizing p with
  | nil => rw [excludeAll, pricedSum, sub_zero]
  | cons part rest ih =>
    obtain ⟨priced, count⟩ := part
    have hcount : 0 ≤ count ∧ count ≤ 2 ^ 53 := h (priced, count) mem_cons_self
    have hrest : ∀ part ∈ rest, 0 ≤ part.2 ∧ part.2 ≤ 2 ^ 53 :=
      fun x hx => h x (mem_cons_of_mem _ hx)
    have hnonneg : ∀ part ∈ rest, 0 ≤ part.2 := fun x hx => (hrest x hx).1
    have hsum := pricedSum_nonneg hnonneg
    rw [excludeAll, pricedSum]
    cases priced with
    | false =>
      rw [if_neg Bool.false_ne_true, if_neg Bool.false_ne_true, zero_add]
      exact ih hrest hp hp'
    | true =>
      rw [if_pos rfl, if_pos rfl]
      have hexact : Exact (p - count) := ⟨by omega, by omega⟩
      rw [Float64.sub_eq hexact]
      by_cases hfits : count ≤ p
      · rw [ih hrest (by omega) (by omega), sub_sub]
      -- once the remainder is negative both are clamped
      have hneg := excludeAll_neg hnonneg (show p - count < 0 by omega)
      rw [clampZero, if_pos hneg, clampZero, if_pos (by omega)]

end

/-! ## The generated expression -/

section
variable {dec : DecimalLibrary} {env : ConversionEnv} {name : String}
  {draft matched : PricingValues} {routes : ConversionRoutes} {effective : EffectivePricing}
  {mode : CacheWriteMode} {expression : TokenExpression} {base : ℚ} {ratio : Binary64}

/-- A usable unit and ratio: the price of a million tokens is their quotient. -/
lemma legacyInputPricePerMillion_some (hdec : dec.Documented)
    (h : legacyInputPricePerMillion dec env ratio = some base) :
    0 < dec.newFromFloat env.quotaPerUnit ∧
      base = dec.newFromFloat ratio * 1000000 / dec.newFromFloat env.quotaPerUnit := by
  unfold legacyInputPricePerMillion at h
  split_ifs at h with hunit hratio
  simp only [not_or, Bool.not_eq_true] at hunit
  obtain ⟨hle, hinf, hnan⟩ := hunit
  refine ⟨hdec.positive _ ?_ hinf, (some.inj h).symm⟩
  rw [isPositive, hnan, hle]
  rfl

/-- What a conversion to a token expression has gone through. -/
lemma preview_token (h : previewModelPricingConversion dec env name routes draft matched
      = .ok (.token mode expression)) :
    let effective := effectiveModelPricing env name draft matched
    ∃ ratio base, effective.valid = true ∧ effective.modelPrice = none ∧
      effective.modelRatio = some ratio ∧ legacyInputPricePerMillion dec env ratio = some base ∧
      mode = resolveCacheWriteMode name draft ∧
      expression = tokenExpression dec base mode effective
        (resolveLegacyBillingDetails dec env name effective draft) := by
  unfold previewModelPricingConversion at h
  dsimp only at h
  split_ifs at h with hdraft htiered hvalid hinvalid hconflict
  · cases h
  · cases h
  split at h
  · cases h
  rename_i scan imageCount hscan
  unfold convertPrices at h
  split at h
  · split_ifs at h <;> cases h
  rename_i hprice
  split at h
  · cases h
  rename_i ratio hratio
  split at h
  · cases h
  rename_i base hbase
  cases h
  exact ⟨ratio, base, hvalid, hprice, hratio, hbase, rfl, rfl⟩

/-- Prices that are valid are not negative. -/
lemma createCacheRatio_nonneg (hdec : dec.Documented) (h : effective.valid = true) :
    0 ≤ dec.newFromFloat effective.createCacheRatio := by
  have hvalid : validNumber (some effective.createCacheRatio) = true :=
    all_eq_true.mp h _ (by simp)
  simp only [validNumber, Bool.and_eq_true, Bool.not_eq_true'] at hvalid
  exact hdec.nonneg _ hvalid.2 hvalid.1.2

/-- The details of a model without audio ratios: only Gemini's audio input has a price of its
own. -/
def geminiDetails (name : String) : LegacyBillingDetails :=
  { LegacyBillingDetails.none with
    audioInputPrice := if isPositive (getGeminiInputAudioPrice name) then
      some (getGeminiInputAudioPrice name) else none }

lemma details_of_no_audio (hprice : effective.modelPrice = none)
    (hratio : effective.modelRatio = some ratio)
    (hbase : legacyInputPricePerMillion dec env ratio = some base)
    (haudio : effective.audioRatio = none ∧ effective.audioCompletionRatio = none) :
    resolveLegacyBillingDetails dec env name effective draft = geminiDetails name := by
  unfold resolveLegacyBillingDetails geminiDetails
  rw [hprice, hratio, bind_some, hbase]
  simp only [isSome_none, Bool.false_eq_true, if_false, haudio.1, haudio.2,
    isNone_none, and_self, if_true]
  split_ifs with hgemini
  · simp [audioPricesConflict, haudio.1, haudio.2, LegacyBillingDetails.none]
  · rfl

/-- The value of terms that are written or not. -/
lemma termsValue_filterMap {α : Type} (t : TokenParams Int) (keep : α → Bool) (term : α → Term)
    (lanes : List α) :
    termsValue t (lanes.filterMap fun x => if keep x then some (term x) else none)
      = (lanes.map fun x =>
          if keep x then ((term x).lane.count t : ℚ) * (term x).price else 0).sum := by
  induction lanes with
  | nil => rfl
  | cons x xs ih =>
    rw [filterMap_cons, map_cons, sum_cons, ← ih]
    split_ifs with hkeep
    · rw [termsValue, map_cons, sum_cons]
      rfl
    · rw [zero_add]

lemma any_filterMap_keep {α : Type} (keep : α → Bool) (term : α → Term) (test : Term → Bool)
    (lanes : List α) :
    (lanes.filterMap fun x => if keep x then some (term x) else none).any test
      = lanes.any fun x => keep x && test (term x) := by
  induction lanes with
  | nil => rfl
  | cons x xs ih =>
    rw [filterMap_cons, any_cons, ← ih]
    split_ifs with hkeep
    · rw [any_cons, hkeep, Bool.true_and]
    · rw [Bool.not_eq_true] at hkeep
      rw [hkeep, Bool.false_and, Bool.false_or]

lemma termsValue_append (t : TokenParams Int) (xs ys : List Term) :
    termsValue t (xs ++ ys) = termsValue t xs + termsValue t ys := by
  simp [termsValue]

/-- Cache reads have a term of their own. -/
def keepsCacheRead (name : String) (base : ℚ) (mode : CacheWriteMode)
    (effective : EffectivePricing) : Bool :=
  !(mergeCacheRead base mode effective (geminiDetails name) && effective.cacheRatio.eq Binary64.one)

/-- Image tokens have a term of their own. -/
def keepsImage (effective : EffectivePricing) : Bool := !effective.imageRatio.eq Binary64.one

lemma writesLane_eq (merge : Bool) (lane : Lane) (multiplier : Binary64) :
    writesLane mode (geminiDetails name) merge lane multiplier =
      match lane with
      | .cr => !(merge && multiplier.eq one)
      | .cc => decide (mode ≠ .none)
      | .cc1h => decide (mode = .claudeTTL)
      | .img => !multiplier.eq one
      | _ => true := by
  have hout : (geminiDetails name).audioOutputPrice = none := rfl
  cases lane <;> simp [writesLane, hout]

/-- The weights of the categories of an expression, in units of the price of input. -/
def laneWeights (dec : DecimalLibrary) (name : String) (base : ℚ) (mode : CacheWriteMode)
    (effective : EffectivePricing) (t : TokenParams Int) : ℚ :=
  t.p + t.c * dec.newFromFloat effective.completionRatio
    + (if keepsCacheRead name base mode effective then
        t.cr * dec.newFromFloat effective.cacheRatio else 0)
    + (if mode ≠ .none then t.cc * dec.newFromFloat effective.createCacheRatio else 0)
    + (if mode = .claudeTTL then t.cc1h * (dec.newFromFloat effective.createCacheRatio
        * dec.newFromFloat cacheCreation1hMultiplier) else 0)
    + (if keepsImage effective then t.img * dec.newFromFloat effective.imageRatio else 0)

lemma audioTerms_value (t : TokenParams Int) :
    termsValue t (audioTerms dec (geminiDetails name))
      = if isPositive (getGeminiInputAudioPrice name) then
          t.ai * dec.newFromFloat (getGeminiInputAudioPrice name) else 0 := by
  by_cases hgemini : isPositive (getGeminiInputAudioPrice name) = true
  · simp [audioTerms, geminiDetails, hgemini, termsValue, LegacyBillingDetails.none, Lane.count]
  · simp [audioTerms, geminiDetails, hgemini, termsValue, LegacyBillingDetails.none]

/-- The value of the generated expression. -/
lemma baseTerms_value (hdec : dec.Documented) (t : TokenParams Int) :
    termsValue t (baseTerms dec base mode effective (geminiDetails name))
      = base * laneWeights dec name base mode effective t
        + if isPositive (getGeminiInputAudioPrice name) then
            t.ai * dec.newFromFloat (getGeminiInputAudioPrice name) else 0 := by
  unfold baseTerms
  dsimp only
  rw [← singleton_append, append_assoc, termsValue_append, termsValue_append, audioTerms_value]
  set merge := mergeCacheRead base mode effective (geminiDetails name)
  have hlanes := termsValue_filterMap t
    (fun x : Lane × Binary64 × Binary64 => writesLane mode (geminiDetails name) merge x.1 x.2.1)
    (fun x => ⟨x.1, base * dec.newFromFloat x.2.1 * dec.newFromFloat x.2.2⟩) (ratioLanes effective)
  erw [hlanes]
  simp only [ratioLanes, map_cons, map_nil, sum_cons, sum_nil, writesLane_eq,
    Lane.count, termsValue, hdec.one]
  rw [laneWeights, keepsCacheRead, keepsImage]
  simp only [decide_eq_true_eq, mul_add, mul_ite, mul_zero, mul_one, if_true]
  have hcomm : ∀ x y : ℚ, x * (base * y) = base * (x * y) := fun x y => mul_left_comm x base y
  simp only [hcomm, mul_assoc, mul_comm (t.p : ℚ) base]
  ring

/-- The variables of the generated expression. -/
lemma baseTerms_usedVars (dec : DecimalLibrary) (name : String) (base : ℚ) (mode : CacheWriteMode)
    (effective : EffectivePricing) (v : PriceVar) :
    (TokenExpression.base (baseTerms dec base mode effective (geminiDetails name))).usedVars v =
      match v with
      | .cr => keepsCacheRead name base mode effective
      | .cc => decide (mode ≠ .none)
      | .cc1h => decide (mode = .claudeTTL)
      | .img => keepsImage effective
      | .ai => isPositive (getGeminiInputAudioPrice name)
      | _ => false := by
  have haudio : ∀ v, (audioTerms dec (geminiDetails name)).any
      (fun term => decide (term.lane.priceVar = some v))
        = (decide (v = .ai) && isPositive (getGeminiInputAudioPrice name)) := by
    intro v
    by_cases hgemini : isPositive (getGeminiInputAudioPrice name) = true
    · simp [audioTerms, geminiDetails, hgemini, LegacyBillingDetails.none, Lane.priceVar, eq_comm]
    · simp [audioTerms, geminiDetails, hgemini, LegacyBillingDetails.none]
  set merge := mergeCacheRead base mode effective (geminiDetails name) with hmerge
  have hlanes := any_filterMap_keep
    (fun x : Lane × Binary64 × Binary64 => writesLane mode (geminiDetails name) merge x.1 x.2.1)
    (fun x => Term.mk x.1 (base * dec.newFromFloat x.2.1 * dec.newFromFloat x.2.2))
    (fun term => decide (term.lane.priceVar = some v)) (ratioLanes effective)
  rw [TokenExpression.usedVars, baseTerms, ← singleton_append, append_assoc,
    any_append, any_append, haudio]
  rw [← hmerge]
  erw [hlanes]
  -- every lane is written for one variable, so at most one of the tests is left
  cases v <;> simp [ratioLanes, writesLane_eq, Lane.priceVar, keepsCacheRead, keepsImage, hmerge]

end

/-! ## Token counts -/

/-- The counts of a report are not negative, and doubles hold them exactly. -/
structure Usage.CountsExact (usage : Usage) : Prop where
  prompt : 0 ≤ usage.promptTokens ∧ usage.promptTokens ≤ 2 ^ 53
  completion : 0 ≤ usage.completionTokens ∧ usage.completionTokens ≤ 2 ^ 53
  cached : 0 ≤ usage.promptTokensDetails.cachedTokens ∧
    usage.promptTokensDetails.cachedTokens ≤ 2 ^ 53
  cachedCreation : 0 ≤ usage.promptTokensDetails.cachedCreationTokens ∧
    usage.promptTokensDetails.cachedCreationTokens ≤ 2 ^ 53
  cacheWrite : 0 ≤ usage.promptTokensDetails.cacheWriteTokens ∧
    usage.promptTokensDetails.cacheWriteTokens ≤ 2 ^ 53
  audio : 0 ≤ usage.promptTokensDetails.audioTokens ∧
    usage.promptTokensDetails.audioTokens ≤ 2 ^ 53
  image : 0 ≤ usage.promptTokensDetails.imageTokens ∧
    usage.promptTokensDetails.imageTokens ≤ 2 ^ 53
  creation5m : 0 ≤ usage.claudeCacheCreation5mTokens ∧
    usage.claudeCacheCreation5mTokens ≤ 2 ^ 53
  creation1h : 0 ≤ usage.claudeCacheCreation1hTokens ∧
    usage.claudeCacheCreation1hTokens ≤ 2 ^ 53

section
variable {usage : Usage}

lemma ofInt_count {x : Int} (h : 0 ≤ x ∧ x ≤ 2 ^ 53) : Float64.ofInt x = x :=
  Float64.ofInt_eq ⟨by omega, h.2⟩

section
variable (h : usage.CountsExact)
include h

lemma Usage.CountsExact.creationTotal :
    0 ≤ usage.promptTokensDetails.cacheCreationTokensTotal ∧
      usage.promptTokensDetails.cacheCreationTokensTotal ≤ 2 ^ 53 := by
  have hwrite := h.cacheWrite
  have hcreation := h.cachedCreation
  unfold InputTokenDetails.cacheCreationTokensTotal
  dsimp only
  split_ifs <;> omega

lemma Usage.CountsExact.creation :
    0 ≤ usage.creation ∧ usage.creation ≤ 2 ^ 53 := by
  unfold Usage.creation
  split_ifs
  · exact h.creation5m
  · exact h.creationTotal

lemma Usage.CountsExact.creationHour :
    0 ≤ usage.creation1h ∧ usage.creation1h ≤ 2 ^ 53 := by
  unfold Usage.creation1h
  split_ifs
  · exact h.creation1h
  · exact ⟨le_refl 0, by norm_num⟩

/-- The counts of an expression that does not tell cached image tokens apart, and prices no output
separately. -/
lemma buildTieredTokenParams_eq (isClaude : Bool)
    {usedVars : PriceVar → Bool} (himgCr : usedVars .imgCr = false)
    (himgO : usedVars .imgO = false) (hao : usedVars .ao = false) :
    let t := buildTieredTokenParams usage isClaude usedVars
    let details := usage.promptTokensDetails
    ((isClaude = true → usedVars .cr = true) →
      t.p = (if isClaude then usage.promptTokens else
        clampZero (usage.promptTokens - pricedSum (inputParts usedVars details.cachedTokens
          usage.creation usage.creation1h details.imageTokens 0 details.audioTokens)))) ∧
    t.c = usage.completionTokens ∧ t.cr = details.cachedTokens ∧ t.cc = usage.creation ∧
    t.cc1h = usage.creation1h ∧ t.img = details.imageTokens ∧ t.ai = details.audioTokens := by
  have hsplit : imageCacheSplit usage isClaude usedVars = none := by
    rw [imageCacheSplit, himgCr, if_neg (by simp)]
  have hzero : Float64.ofInt 0 = 0 := rfl
  unfold buildTieredTokenParams
  simp only [hsplit, withoutImageCache, ofInt_count h.prompt, ofInt_count h.completion,
    ofInt_count h.cached, ofInt_count h.creation, ofInt_count h.creationHour, ofInt_count h.image,
    ofInt_count h.audio, getD_none, hzero, and_self, and_true]
  constructor
  · intro hcr
    cases isClaude with
    | true =>
      rw [if_pos rfl, if_pos rfl, if_pos (hcr rfl), clampZero_of_nonneg h.prompt.1]
    | false =>
      rw [if_neg Bool.false_ne_true, if_neg Bool.false_ne_true]
      apply clampZero_excludeAll _ h.prompt.1 h.prompt.2
      simp only [inputParts, forall_mem_cons, not_mem_nil, false_implies, implies_true, and_true]
      exact ⟨h.cached, h.creation, h.creationHour, h.image, ⟨le_refl 0, by norm_num⟩, h.audio⟩
  · have hout : excludeAll usage.completionTokens (outputParts usedVars
        (Float64.ofInt usage.completionTokenDetails.imageTokens)
        (Float64.ofInt usage.completionTokenDetails.audioTokens)) = usage.completionTokens := by
      simp [outputParts, excludeAll, himgO, hao]
    rw [hout, ite_self, clampZero_of_nonneg h.completion.1]

end

end

/-! ## Two settlements -/

/-- What an expression charges for a report. -/
def expressionAmount (dec : DecimalLibrary) (expression : TokenExpression) (relay : TextRelay)
    (usage : TextUsage) (quotaPerUnit groupRatio : Binary64) : ℚ :=
  expression.value (buildTieredTokenParams usage.toUsage (isClaudeUsageSemantic relay usage)
    expression.usedVars) * dec.newFromFloat quotaPerUnit / 1000000 * dec.newFromFloat groupRatio

/-- Cache reads stay in `p`: they cost what input costs, and nothing else is taken out of it. -/
def cacheReadInPrompt (name : String) (mode : CacheWriteMode) (effective : EffectivePricing) :
    Bool :=
  decide (mode = .none) && effective.imageRatio.eq Binary64.one &&
    effective.cacheRatio.eq Binary64.one && !isPositive (getGeminiInputAudioPrice name)

/-- Reports whose prompt includes the cache: image tokens at the price of input are not counted
twice, once in the clamped remainder and once more beside it. -/
def InsideAgree (name : String) (mode : CacheWriteMode) (effective : EffectivePricing)
    (relay : TextRelay) (usage : TextUsage) : Prop :=
  let details := usage.promptTokensDetails
  effective.imageRatio.eq Binary64.one = true →
    if cacheReadInPrompt name mode effective then
      details.cachedTokens + details.imageTokens ≤ usage.promptTokens
    else details.imageTokens = 0 ∨ details.imageTokens ≤ usage.promptTokens - details.cachedTokens
      - details.cacheCreationTokensTotal - pricedAudioTokens relay usage

/-- Reports whose prompt leaves the cache out: what the ratios count as input, images at its price
and cache writes is what the expression counts. -/
def OutsideBalance (dec : DecimalLibrary) (effective : EffectivePricing) (prices : RatioPrices)
    (relay : TextRelay) (usage : TextUsage) : Prop :=
  let details := usage.promptTokensDetails
  let inPrompt := if effective.imageRatio.eq Binary64.one then details.imageTokens else 0
  let create := dec.newFromFloat effective.createCacheRatio
  let unsplit := max (summaryCacheCreationTokens prices relay usage
    - usage.claudeCacheCreation5mTokens - usage.claudeCacheCreation1hTokens) 0
  (clampZero (summaryPromptTokens prices relay usage - details.imageTokens
      - pricedAudioTokens relay usage) : ℚ) + inPrompt
    + (unsplit * create + usage.claudeCacheCreation5mTokens * create
      + usage.claudeCacheCreation1hTokens * dec.newFromFloat prices.cacheCreation1hRatio)
  = (if isClaudeUsageSemantic relay usage then usage.promptTokens
      else clampZero (usage.promptTokens - details.cachedTokens - details.cacheCreationTokensTotal
        - (details.imageTokens - inPrompt) - pricedAudioTokens relay usage) : Int)
    + usage.creation * create
    + usage.creation1h * (create * dec.newFromFloat cacheCreation1hMultiplier)

/-- A report without images, audio that has a price, and the prompt of OpenRouter. Cache writes for
an hour are reported in Claude's terms, and at a price that a double holds. -/
structure PlainReport (dec : DecimalLibrary) (effective : EffectivePricing) (relay : TextRelay)
    (usage : TextUsage) : Prop where
  router : relay.openRouter = false
  image : usage.promptTokensDetails.imageTokens = 0
  audio : pricedAudioTokens relay usage = 0
  hour : usage.claudeCacheCreation1hTokens = 0 ∨ usage.usageSemantic = "anthropic" ∧
    dec.newFromFloat (effective.createCacheRatio.mul cacheCreation1hMultiplier)
      = dec.newFromFloat effective.createCacheRatio * dec.newFromFloat cacheCreation1hMultiplier

/-- Plain reports whose prompt leaves the cache out: nothing of the cache is taken out of the prompt
once more. Where writes have a price, the lifetimes cover them if the report is in Claude's terms,
and do not exceed them if it is not. -/
def OutsideAgree (dec : DecimalLibrary) (effective : EffectivePricing) (relay : TextRelay)
    (usage : TextUsage) : Prop :=
  let details := usage.promptTokensDetails
  (isClaudeUsageSemantic relay usage = true ∨ usage.promptTokens = 0 ∨
    details.cachedTokens = 0 ∧ details.cacheCreationTokensTotal = 0) ∧
  (dec.newFromFloat effective.createCacheRatio = 0 ∨
    if usage.usageSemantic = "anthropic" then details.cacheCreationTokensTotal
      ≤ usage.claudeCacheCreation5mTokens + usage.claudeCacheCreation1hTokens
    else usage.claudeCacheCreation5mTokens ≤ details.cacheCreationTokensTotal)

def ChargesAgree (dec : DecimalLibrary) (name : String) (mode : CacheWriteMode)
    (effective : EffectivePricing) (relay : TextRelay) (usage : TextUsage) : Prop :=
  if cacheOutsidePrompt relay usage then OutsideAgree dec effective relay usage
  else InsideAgree name mode effective relay usage

section
variable {dec : DecimalLibrary} {env : ConversionEnv} {name : String}
  {effective : EffectivePricing} {mode : CacheWriteMode} {base : ℚ} {ratio group : Binary64}
  {prices : RatioPrices} {relay : TextRelay} {usage : TextUsage}

/-- The counts the generated expression is evaluated on. -/
def convertedParams (dec : DecimalLibrary) (name : String) (base : ℚ) (mode : CacheWriteMode)
    (effective : EffectivePricing) (relay : TextRelay) (usage : TextUsage) : TokenParams Int :=
  buildTieredTokenParams usage.toUsage (isClaudeUsageSemantic relay usage)
    (TokenExpression.base (baseTerms dec base mode effective (geminiDetails name))).usedVars

/-- The expression charges its weights, and the same audio amount as the ratios. -/
lemma expressionAmount_eq (hdec : dec.Documented) (hcounts : usage.toUsage.CountsExact)
    (hname : relay.billingModelName = name)
    (hbase : legacyInputPricePerMillion dec env ratio = some base) :
    expressionAmount dec (.base (baseTerms dec base mode effective (geminiDetails name))) relay
        usage env.quotaPerUnit group
      = laneWeights dec name base mode effective
            (convertedParams dec name base mode effective relay usage)
          * (dec.newFromFloat ratio * dec.newFromFloat group)
        + audioInputQuota dec (ratioPrices effective ratio group) relay usage env.quotaPerUnit := by
  obtain ⟨hunit, hbase⟩ := legacyInputPricePerMillion_some hdec hbase
  have hvars := baseTerms_usedVars dec name base mode effective
  obtain ⟨-, -, -, -, -, -, hai⟩ := buildTieredTokenParams_eq hcounts
    (isClaudeUsageSemantic relay usage) (hvars .imgCr) (hvars .imgO) (hvars .ao)
  rw [expressionAmount, TokenExpression.value, baseTerms_value hdec, ← convertedParams]
  rw [← convertedParams] at hai
  rw [hai, audioInputQuota, pricedAudioTokens, hname, ratioPrices]
  have hunit' : dec.newFromFloat env.quotaPerUnit ≠ 0 := ne_of_gt hunit
  generalize laneWeights dec name base mode effective _ = weights
  subst hbase
  split_ifs
  · field_simp
  rw [Int.cast_zero]
  field_simp
  ring

/-- Once input has a price, cache reads have a term of their own unless they stay in `p`. -/
lemma keepsCacheRead_eq (hbase : base ≠ 0) :
    keepsCacheRead name base mode effective = !cacheReadInPrompt name mode effective := by
  have haudio : (geminiDetails name).audioInputPrice.isNone
      = !isPositive (getGeminiInputAudioPrice name) := by
    unfold geminiDetails
    split_ifs with hgemini
    · rw [hgemini]
      rfl
    rw [Bool.not_eq_true] at hgemini
    rw [hgemini]
    rfl
  have hout : (geminiDetails name).audioOutputPrice.isSome = false := rfl
  rw [keepsCacheRead, cacheReadInPrompt, mergeCacheRead, hout]
  simp only [hbase, haudio, false_or, Bool.false_eq_true, or_false, Bool.decide_and,
    Bool.decide_eq_true, Bool.and_assoc]
  congr 3
  rw [Bool.and_comm]

/-- The input that the expression counts in `p`. -/
lemma convertedParams_p (hcounts : usage.toUsage.CountsExact) (hbase : base ≠ 0)
    (hname : relay.billingModelName = name)
    (hclaude : isClaudeUsageSemantic relay usage = true → mode = .claudeTTL) :
    (convertedParams dec name base mode effective relay usage).p =
      if isClaudeUsageSemantic relay usage then usage.promptTokens
      else clampZero (usage.promptTokens
        - (if cacheReadInPrompt name mode effective then 0
          else usage.promptTokensDetails.cachedTokens)
        - (if mode = .none then 0 else usage.creation)
        - (if mode = .claudeTTL then usage.creation1h else 0)
        - (if effective.imageRatio.eq one then 0
          else usage.promptTokensDetails.imageTokens) - pricedAudioTokens relay usage) := by
  have hvars := baseTerms_usedVars dec name base mode effective
  obtain ⟨hp, -⟩ := buildTieredTokenParams_eq hcounts (isClaudeUsageSemantic relay usage)
    (hvars .imgCr) (hvars .imgO) (hvars .ao)
  rw [convertedParams, hp]
  · -- the categories that are priced separately
    simp only [inputParts, pricedSum, hvars, keepsCacheRead_eq hbase, keepsImage,
      Bool.not_eq_true', Bool.eq_false_iff, ne_eq, ite_not, decide_eq_true_eq, Bool.false_eq_true,
      if_false, zero_add, add_zero, sub_sub, pricedAudioTokens, hname, add_assoc]
  · intro hisClaude
    rw [hvars, keepsCacheRead_eq hbase, cacheReadInPrompt, hclaude hisClaude]
    rfl

/-- The counts of the expression besides `p` are those of the report. -/
lemma convertedParams_weights (hcounts : usage.toUsage.CountsExact) (hbase : base ≠ 0) :
    laneWeights dec name base mode effective
        (convertedParams dec name base mode effective relay usage)
      = (convertedParams dec name base mode effective relay usage).p
        + usage.completionTokens * dec.newFromFloat effective.completionRatio
        + (if cacheReadInPrompt name mode effective then 0 else
            usage.promptTokensDetails.cachedTokens * dec.newFromFloat effective.cacheRatio)
        + (if mode = .none then 0 else usage.creation * dec.newFromFloat effective.createCacheRatio)
        + (if mode = .claudeTTL then usage.creation1h * (dec.newFromFloat effective.createCacheRatio
            * dec.newFromFloat cacheCreation1hMultiplier) else 0)
        + (if effective.imageRatio.eq one then 0 else
            usage.promptTokensDetails.imageTokens * dec.newFromFloat effective.imageRatio) := by
  have hvars := baseTerms_usedVars dec name base mode effective
  obtain ⟨-, hc, hcr, hcc, hcc1h, himg, -⟩ := buildTieredTokenParams_eq hcounts
    (isClaudeUsageSemantic relay usage) (hvars .imgCr) (hvars .imgO) (hvars .ao)
  rw [← convertedParams] at hc hcr hcc hcc1h himg
  simp only [laneWeights, hc, hcr, hcc, hcc1h, himg, keepsCacheRead_eq hbase, keepsImage,
    Bool.not_eq_true', Bool.eq_false_iff, ne_eq, ite_not]

/-! ### The cache within the prompt -/

/-- Only reports in Claude's terms tell the lifetimes of cache writes apart. -/
lemma creation_of_not_claude (h : isClaudeUsageSemantic relay usage = false) :
    usage.creation = usage.promptTokensDetails.cacheCreationTokensTotal ∧ usage.creation1h = 0 := by
  have hsemantic : usage.usageSemantic ≠ "anthropic" := by
    intro heq
    rw [isClaudeUsageSemantic, usageSemanticFromUsage, heq, if_pos (by decide)] at h
    exact absurd h (by decide)
  exact ⟨if_neg hsemantic, if_neg hsemantic⟩

/-- Only OpenRouter's reports are taken apart before they are settled. -/
lemma summary_of_not_router (prices : RatioPrices)
    (h : isOpenRouterClaudeBilling relay usage = false) :
    summaryCacheCreationTokens prices relay usage
        = usage.promptTokensDetails.cacheCreationTokensTotal ∧
      summaryPromptTokens prices relay usage = usage.promptTokens := by
  simp [summaryCacheCreationTokens, summaryPromptTokens, h]

/-- What the report says when it is settled in OpenAI's terms. -/
lemma openai_counts (prices : RatioPrices) (hinside : cacheOutsidePrompt relay usage = false) :
    isClaudeUsageSemantic relay usage = false ∧
      usage.creation = usage.promptTokensDetails.cacheCreationTokensTotal ∧
      usage.creation1h = 0 ∧
      summaryCacheCreationTokens prices relay usage
        = usage.promptTokensDetails.cacheCreationTokensTotal ∧
      summaryPromptTokens prices relay usage = usage.promptTokens := by
  have hclaude : isClaudeUsageSemantic relay usage = false :=
    (Bool.or_eq_false_iff.mp hinside).1
  have hrouter : isOpenRouterClaudeBilling relay usage = false := by
    rw [isOpenRouterClaudeBilling, hclaude, Bool.and_false]
  obtain ⟨hcreation, hhour⟩ := creation_of_not_claude hclaude
  exact ⟨hclaude, hcreation, hhour, summary_of_not_router prices hrouter⟩

lemma cachedCreation_inside (hinside : cacheOutsidePrompt relay usage = false) :
    cachedCreationTokensWithRatio dec prices relay usage
      = usage.promptTokensDetails.cacheCreationTokensTotal
        * dec.newFromFloat prices.cacheCreationRatio := by
  obtain ⟨-, -, -, hcreation, -⟩ := openai_counts prices hinside
  unfold cachedCreationTokensWithRatio
  dsimp only
  rw [hcreation, hinside, if_neg Bool.false_ne_true]
  split_ifs with hnone
  · rfl
  have hzero : usage.promptTokensDetails.cacheCreationTokensTotal = 0 := by
    by_contra hne
    exact hnone (.inl hne)
  rw [hzero, Int.cast_zero, zero_mul]

/-- Clamping before or after counting the image tokens. -/
lemma clampZero_add_eq_iff {x image : Int} (himage : 0 ≤ image) :
    clampZero (x - image) + image = clampZero x ↔ image = 0 ∨ image ≤ x := by
  unfold clampZero
  split_ifs <;> omega

lemma clampZero_add_add_eq_iff {p cached image : Int} (hp : 0 ≤ p) :
    clampZero (p - cached - image) + cached + image = clampZero p ↔ cached + image ≤ p := by
  unfold clampZero
  split_ifs <;> omega

/-- Reports in OpenAI's terms: the weights are the same exactly if no image token is counted
twice. -/
lemma inside_weights_iff (hdec : dec.Documented) (hcounts : usage.toUsage.CountsExact)
    (hbase : base ≠ 0) (hname : relay.billingModelName = name)
    (hinside : cacheOutsidePrompt relay usage = false)
    (hnone : mode = .none → usage.promptTokensDetails.cacheCreationTokensTotal = 0) :
    weightedTokens dec (ratioPrices effective ratio group) relay usage
        = laneWeights dec name base mode effective
          (convertedParams dec name base mode effective relay usage)
      ↔ InsideAgree name mode effective relay usage := by
  obtain ⟨hclaude, hcreation, hhour, hsummary, hprompt⟩ :=
    openai_counts (ratioPrices effective ratio group) hinside
  have himage := hcounts.image.1
  rw [convertedParams_weights hcounts hbase,
    convertedParams_p hcounts hbase hname (by simp [hclaude]), weightedTokens, baseTokens,
    cachedCreation_inside hinside, hsummary, hprompt, hinside, hclaude, hcreation, hhour,
    InsideAgree]
  have hwrites : (if mode = .none then 0 else usage.promptTokensDetails.cacheCreationTokensTotal)
      = usage.promptTokensDetails.cacheCreationTokensTotal := by
    split_ifs with h
    · exact (hnone h).symm
    · rfl
  have hwrites' : (if mode = .none then (0 : ℚ) else
      usage.promptTokensDetails.cacheCreationTokensTotal
        * dec.newFromFloat effective.createCacheRatio)
      = usage.promptTokensDetails.cacheCreationTokensTotal
        * dec.newFromFloat effective.createCacheRatio := by
    split_ifs with h
    · rw [hnone h, Int.cast_zero, zero_mul]
    · rfl
  simp only [hwrites, hwrites', ratioPrices, Int.cast_zero, zero_mul, ite_self, sub_zero, add_zero,
    Bool.false_eq_true, if_false]
  by_cases hone : effective.imageRatio.eq one = true
  · have hunit : dec.newFromFloat effective.imageRatio = 1 := by
      rw [eq_one hone, hdec.one]
    rw [if_pos hone, if_pos hone, hunit, mul_one]
    rw [forall_prop_of_true hone]
    by_cases hread : cacheReadInPrompt name mode effective = true
    · -- nothing is taken out of the prompt, so the remainder must not have been clamped
      obtain ⟨⟨⟨hmode, -⟩, hratio⟩, haudio⟩ := by
        simpa only [cacheReadInPrompt, Bool.and_eq_true, decide_eq_true_eq, Bool.not_eq_true']
          using hread
      have hpriced : pricedAudioTokens relay usage = 0 := by
        rw [pricedAudioTokens, hname, haudio, if_neg Bool.false_ne_true]
      rw [if_pos hread, if_pos hread, if_pos hread, hpriced, hnone hmode,
        eq_one hratio, hdec.one]
      rw [← clampZero_add_add_eq_iff hcounts.prompt.1, ← @Int.cast_inj ℚ]
      push_cast
      simp only [add_zero, sub_zero, mul_one, zero_mul]
      constructor <;> intro h <;> linarith
    · rw [if_neg hread, if_neg hread, if_neg hread, ← clampZero_add_eq_iff himage,
        ← @Int.cast_inj ℚ]
      push_cast
      rw [sub_add_eq_sub_sub, sub_right_comm _ usage.promptTokensDetails.imageTokens, sub_zero]
      constructor <;> intro h <;> linarith
  · -- image tokens have a term of their own, and so have cache reads
    have hread : cacheReadInPrompt name mode effective = false := by
      rw [cacheReadInPrompt]
      simp [hone]
    simp only [hone, hread, if_false, false_implies, iff_true, Bool.false_eq_true]
    rw [sub_add_eq_sub_sub]
    ring

/-! ### The cache outside the prompt -/

lemma cachedCreation_outside (hcounts : usage.toUsage.CountsExact)
    (houtside : cacheOutsidePrompt relay usage = true) :
    cachedCreationTokensWithRatio dec (ratioPrices effective ratio group) relay usage
      = (max (summaryCacheCreationTokens (ratioPrices effective ratio group) relay usage
            - usage.claudeCacheCreation5mTokens - usage.claudeCacheCreation1hTokens) 0 : Int)
          * dec.newFromFloat effective.createCacheRatio
        + usage.claudeCacheCreation5mTokens * dec.newFromFloat effective.createCacheRatio
        + usage.claudeCacheCreation1hTokens
          * dec.newFromFloat (ratioPrices effective ratio group).cacheCreation1hRatio := by
  unfold cachedCreationTokensWithRatio
  dsimp only
  rw [if_pos houtside]
  split_ifs with hnone
  · rfl
  -- nothing was written to the cache
  have h5m := hcounts.creation5m.1
  have h1h := hcounts.creation1h.1
  simp only [not_or, not_not, not_lt] at hnone
  obtain ⟨hcreation, hnone5m, hnone1h⟩ := hnone
  have h5m' : usage.claudeCacheCreation5mTokens = 0 := by omega
  have h1h' : usage.claudeCacheCreation1hTokens = 0 := by omega
  rw [hcreation, h5m', h1h', sub_zero, sub_zero, max_self]
  simp

/-- Reports that leave the cache out of the prompt. -/
lemma outside_weights_iff (hdec : dec.Documented) (hcounts : usage.toUsage.CountsExact)
    (hbase : base ≠ 0) (hname : relay.billingModelName = name)
    (houtside : cacheOutsidePrompt relay usage = true) (hmode : mode ≠ .none)
    (hclaude : isClaudeUsageSemantic relay usage = true → mode = .claudeTTL) :
    weightedTokens dec (ratioPrices effective ratio group) relay usage
        = laneWeights dec name base mode effective
          (convertedParams dec name base mode effective relay usage)
      ↔ OutsideBalance dec effective (ratioPrices effective ratio group) relay usage := by
  have hread : cacheReadInPrompt name mode effective = false := by
    rw [cacheReadInPrompt, decide_eq_false hmode]
    rfl
  have hhour : (if mode = .claudeTTL then usage.creation1h else 0) = usage.creation1h := by
    split_ifs with hTTL
    · rfl
    · rw [(creation_of_not_claude (Bool.eq_false_iff.mpr fun h => hTTL (hclaude h))).2]
  have hhour' : (if mode = .claudeTTL then usage.creation1h * (dec.newFromFloat
        effective.createCacheRatio * dec.newFromFloat cacheCreation1hMultiplier) else 0)
      = usage.creation1h * (dec.newFromFloat effective.createCacheRatio
        * dec.newFromFloat cacheCreation1hMultiplier) := by
    rw [← hhour]
    split_ifs
    · rfl
    · rw [Int.cast_zero, zero_mul]
  have himage : usage.promptTokensDetails.imageTokens * dec.newFromFloat effective.imageRatio
      = (if effective.imageRatio.eq one then usage.promptTokensDetails.imageTokens
          else 0 : Int)
        + (if effective.imageRatio.eq one then 0 else
            usage.promptTokensDetails.imageTokens * dec.newFromFloat effective.imageRatio) := by
    split_ifs with hone
    · rw [eq_one hone, hdec.one, mul_one, add_zero]
    · rw [Int.cast_zero, zero_add]
  have hprompt : (if isClaudeUsageSemantic relay usage then usage.promptTokens
      else clampZero (usage.promptTokens - usage.promptTokensDetails.cachedTokens - usage.creation
        - usage.creation1h - (if effective.imageRatio.eq one then 0
          else usage.promptTokensDetails.imageTokens) - pricedAudioTokens relay usage))
      = if isClaudeUsageSemantic relay usage then usage.promptTokens
        else clampZero (usage.promptTokens - usage.promptTokensDetails.cachedTokens
          - usage.promptTokensDetails.cacheCreationTokensTotal
          - (usage.promptTokensDetails.imageTokens - if effective.imageRatio.eq one then
              usage.promptTokensDetails.imageTokens else 0) - pricedAudioTokens relay usage) := by
    split_ifs with hisClaude hone
    · rfl
    · obtain ⟨hcreation, hnone⟩ := creation_of_not_claude (Bool.eq_false_iff.mpr hisClaude)
      rw [hcreation, hnone, sub_self, sub_zero]
    · obtain ⟨hcreation, hnone⟩ := creation_of_not_claude (Bool.eq_false_iff.mpr hisClaude)
      rw [hcreation, hnone, sub_zero, sub_zero]
  rw [convertedParams_weights hcounts hbase, convertedParams_p hcounts hbase hname hclaude,
    weightedTokens, baseTokens, cachedCreation_outside hcounts houtside, houtside, hread,
    if_neg hmode, if_neg hmode, hhour, hhour', OutsideBalance]
  simp only [if_true, Bool.false_eq_true, if_false, sub_zero]
  rw [hprompt]
  simp only [ratioPrices]
  constructor <;> intro h <;> linarith

lemma max_mul_eq_zero_iff {n : Int} {x : ℚ} : (max n 0 : Int) * x = 0 ↔ x = 0 ∨ n ≤ 0 := by
  rw [mul_eq_zero, or_comm, Int.cast_eq_zero, max_eq_right_iff]

/-- The prompt that the expression counts is the whole one if there is no cache to take out. -/
lemma counted_prompt (isClaude : Bool) {p cached written : Int} (hp : 0 ≤ p) (hcached : 0 ≤ cached)
    (hwritten : 0 ≤ written) :
    (if isClaude then p else clampZero (p - cached - written)) ≤ p ∧
      ((if isClaude then p else clampZero (p - cached - written)) = p ↔
        isClaude = true ∨ p = 0 ∨ cached = 0 ∧ written = 0) := by
  unfold clampZero
  cases isClaude
  · simp only [Bool.false_eq_true, if_false, false_or]
    split_ifs <;> omega
  · simp

/-- Prompt tokens that are not counted cannot make up for writes that are counted twice. -/
lemma excess_balance_iff {p counted total split : Int} {create : ℚ} (hle : counted ≤ p)
    (hcreate : 0 ≤ create) :
    (p : ℚ) + ((max (total - split) 0 : Int) * create + split * create)
        = counted + total * create ↔ counted = p ∧ (create = 0 ∨ split ≤ total) := by
  have hexcess : max (total - split) 0 = total - split + max (split - total) 0 := by omega
  have hnonneg : (0 : ℚ) ≤ (max (split - total) 0 : Int) * create :=
    mul_nonneg (Int.cast_nonneg (le_max_right _ _)) hcreate
  have hsum := add_eq_zero_iff_of_nonneg (Int.cast_nonneg (R := ℚ) (sub_nonneg.mpr hle)) hnonneg
  rw [Int.cast_eq_zero, sub_eq_zero, max_mul_eq_zero_iff, sub_nonpos] at hsum
  rw [hexcess, eq_comm (a := counted), ← hsum]
  push_cast
  constructor <;> intro h <;> linarith

/-- For plain reports the two sums are compared count by count. -/
lemma outside_balance_iff (hcounts : usage.toUsage.CountsExact)
    (hplain : PlainReport dec effective relay usage)
    (hcreate : 0 ≤ dec.newFromFloat effective.createCacheRatio) :
    OutsideBalance dec effective (ratioPrices effective ratio group) relay usage
      ↔ OutsideAgree dec effective relay usage := by
  obtain ⟨hrouter, himage, haudio, hhour⟩ := hplain
  have hbilling : isOpenRouterClaudeBilling relay usage = false := by
    rw [isOpenRouterClaudeBilling, hrouter, Bool.false_and]
  obtain ⟨hsummary, hprompt⟩ :=
    summary_of_not_router (ratioPrices effective ratio group) hbilling
  rw [OutsideBalance, OutsideAgree]
  simp only [hsummary, hprompt, himage, haudio, ite_self, sub_zero, add_zero, Int.cast_zero,
    clampZero_of_nonneg hcounts.prompt.1]
  generalize dec.newFromFloat effective.createCacheRatio = create at hcreate hhour ⊢
  by_cases hsemantic : usage.usageSemantic = "anthropic"
  · have hisClaude : isClaudeUsageSemantic relay usage = true := by
      rw [isClaudeUsageSemantic, usageSemanticFromUsage, hsemantic, if_pos (by decide)]
      rfl
    have hweight : usage.claudeCacheCreation1hTokens
          * dec.newFromFloat (ratioPrices effective ratio group).cacheCreation1hRatio
        = usage.claudeCacheCreation1hTokens
          * (create * dec.newFromFloat cacheCreation1hMultiplier) := by
      rcases hhour with hnone | ⟨-, hexact⟩
      · rw [hnone, Int.cast_zero, zero_mul, zero_mul]
      · rw [← hexact]
        rfl
    rw [Usage.creation, if_pos hsemantic, Usage.creation1h, if_pos hsemantic, if_pos hsemantic,
      if_pos hisClaude, hweight, and_iff_right (.inl hisClaude), ← sub_nonpos, sub_add_eq_sub_sub,
      ← max_mul_eq_zero_iff]
    constructor <;> intro h <;> linarith
  · have hnone := hhour.resolve_right fun h => hsemantic h.1
    obtain ⟨hle, hfits⟩ := counted_prompt (isClaudeUsageSemantic relay usage) hcounts.prompt.1
      hcounts.cached.1 hcounts.creationTotal.1
    rw [← hfits]
    generalize (if isClaudeUsageSemantic relay usage then usage.promptTokens else _) = counted at *
    rw [Usage.creation, if_neg hsemantic, Usage.creation1h, if_neg hsemantic, if_neg hsemantic,
      hnone, ← excess_balance_iff hle hcreate]
    simp only [Int.cast_zero, zero_mul, add_zero, sub_zero]

/-! ## Conversion -/

end

/-! ### Reports on which the sums agree, and reports on which they do not -/

/-- The shortest decimals of the doubles below: all but one of them are short in binary. -/
def shortDecimals : DecimalLibrary where
  newFromFloat x :=
    if x = cacheCreation1hMultiplier then 8 / 5
    else
      match x with
      | .finite s m _ => if s then -(m / 2 ^ 1074) else m / 2 ^ 1074
      | _ => 0
  inexactFloat64 _ := Binary64.zero

lemma shortDecimals_documented : shortDecimals.Documented where
  one := by decide +kernel
  nonneg := by
    intro x hnonneg hfinite
    simp only [shortDecimals]
    split_ifs with hhour
    · norm_num
    cases x with
    | nan => cases hnonneg
    | inf s => cases hfinite
    | finite s m hm =>
      cases s with
      | true =>
        have hm : m = 0 := by simpa [Binary64.nonneg, le, zero, units] using hnonneg
        simp [hm]
      | false =>
        show 0 ≤ (m / 2 ^ 1074 : ℚ)
        positivity
  positive := by
    intro x hpos hfinite
    simp only [shortDecimals]
    split_ifs with hhour
    · norm_num
    cases x with
    | nan => cases hpos
    | inf s => cases hfinite
    | finite s m hm =>
      cases s with
      | true =>
        have hle : le (.finite true m hm) zero = true := by
          simp [le, zero, units]
        rw [isPositive, hle] at hpos
        simp at hpos
      | false =>
        have hm : 0 < m := by
          rw [Nat.pos_iff_ne_zero]
          rintro rfl
          simp [isPositive, isNaN, le, zero] at hpos
        show 0 < (m / 2 ^ 1074 : ℚ)
        positivity

def conversionEnv : ConversionEnv where
  quotaPerUnit := Binary64.ofInt 500000
  selfUseModeEnabled := false
  resolveCompletionRatio _ ratio := ratio.getD Binary64.one
  defaultModelRatio _ := none
  isImageGenerationModel _ := false

/-- A model ratio of `1` and nothing else. -/
def plainDraft : PricingValues where
  tieredExpr := false
  modelPrice := none
  modelRatio := some Binary64.one
  completionRatio := none
  cacheRatio := none
  createCacheRatio := none
  imageRatio := none
  audioRatio := none
  audioCompletionRatio := none

def plainRelay (name : String) : TextRelay where
  billingModelName := name
  claudeFormat := false
  openRouter := false
  hasCustomModelRatio := false
  openRouterCacheCreateTokens := 0
  otherRatios := []
  toolCallSurchargeQuota := 0

/-- A report with the given prompt, cache reads, cache writes and image tokens. -/
def reportOf (semantic : String) (prompt cached written image : Int) : TextUsage where
  promptTokens := prompt
  completionTokens := 0
  usageSemantic := semantic
  promptTokensDetails := ⟨cached, none, written, 0, 0, image⟩
  completionTokenDetails := ⟨0, 0⟩
  claudeCacheCreation5mTokens := 0
  claudeCacheCreation1hTokens := 0
  usageSource := ""
  hasCost := false

/-- `tier("base", p * 2 + c * 2)` -/
def plainExpression : TokenExpression := .base [⟨.p, 2⟩, ⟨.c, 2⟩]

/-- `tier("base", p * 2 + c * 2 + cr * 2 + cc * 2.5 + cc1h * 4)` -/
def claudeExpression : TokenExpression :=
  .base [⟨.p, 2⟩, ⟨.c, 2⟩, ⟨.cr, 2⟩, ⟨.cc, 5 / 2⟩, ⟨.cc1h, 4⟩]

end NewApi.Service
