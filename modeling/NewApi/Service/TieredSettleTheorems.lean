import NewApi.Service.TieredSettle

/-!
# Every input token is priced once

The remainder and the counts that an expression prices separately add up to the whole, as long as
`float64` holds the counts exactly and the remainder does not fall below zero, where it is clamped.
-/

namespace NewApi.Service

open Bool

open Float64 (Exact)

/-! ## Remainders -/

section
variable {p : Int} {parts : List (Bool × Int)}

lemma pricedSum_nonneg (h : ∀ part ∈ parts, 0 ≤ part.2) : 0 ≤ pricedSum parts := by
  induction parts with
  | nil => exact le_refl 0
  | cons part rest ih =>
    have hpart := h part List.mem_cons_self
    have hrest := ih fun x hx => h x (List.mem_cons_of_mem _ hx)
    simp only [pricedSum]
    split <;> omega

/-- Counts that fit into a remainder are taken out of it exactly. -/
lemma excludeAll_eq (h : ∀ part ∈ parts, 0 ≤ part.2) (hsum : pricedSum parts ≤ p)
    (hp : p ≤ 2 ^ 53) : excludeAll p parts = p - pricedSum parts := by
  induction parts generalizing p with
  | nil => simp [excludeAll, pricedSum]
  | cons part rest ih =>
    obtain ⟨priced, count⟩ := part
    have hcount : 0 ≤ count := h (priced, count) List.mem_cons_self
    have hrest : ∀ part ∈ rest, 0 ≤ part.2 := fun x hx => h x (List.mem_cons_of_mem _ hx)
    have hnonneg := pricedSum_nonneg hrest
    simp only [pricedSum] at hsum ⊢
    rw [excludeAll]
    cases priced with
    | false =>
      simp only [false_eq_true, if_false] at hsum ⊢
      rw [ih hrest (by omega) hp]
      omega
    | true =>
      simp only [if_true] at hsum ⊢
      have hexact : Exact (p - count) := by
        constructor <;> omega
      rw [Float64.sub_eq hexact, ih hrest (by omega) (by omega)]
      omega

lemma clampZero_of_nonneg {x : Int} (h : 0 ≤ x) : clampZero x = x := if_neg (by omega)

end

/-! ## Cached image tokens -/

/-- A valid breakdown lies within both totals. -/
lemma cachedImage_bounds {usage : Usage} {k : Int} (h : usage.cachedImage = some k) :
    0 ≤ k ∧ k ≤ usage.promptTokensDetails.cachedTokens ∧
      k ≤ usage.promptTokensDetails.imageTokens := by
  obtain ⟨details, -, hfilter⟩ := Option.bind_eq_some_iff.mp h
  obtain ⟨-, hvalid⟩ := Option.filter_eq_some_iff.mp hfilter
  simp only [validImageCache, and_eq_true, decide_eq_true_eq] at hvalid
  exact ⟨hvalid.1.1, hvalid.1.2.1, hvalid.1.2.2.1⟩

lemma withoutImageCache_eq {split : Option Int} {count : Int} (hcount : 0 ≤ count)
    (hle : count ≤ 2 ^ 53) (hsplit : ∀ k ∈ split, 0 ≤ k ∧ k ≤ count) :
    withoutImageCache split count = count - split.getD 0 := by
  have hexact : Exact count := ⟨by omega, hle⟩
  cases split with
  | none => simp [withoutImageCache, Float64.ofInt_eq hexact]
  | some k =>
    obtain ⟨h0, hk⟩ := hsplit k rfl
    have hk' : Exact k := ⟨by omega, by omega⟩
    have hsub : Exact (count - k) := ⟨by omega, by omega⟩
    simp only [withoutImageCache, Option.getD_some]
    rw [Float64.ofInt_eq hexact, Float64.ofInt_eq hk', Float64.sub_eq hsub]

/-! ## Reports -/

section
variable {usage : Usage} {usedVars : PriceVar → Bool}

/-- The counts of a report that the expression references, as they are reported. -/
def Usage.referenced (usage : Usage) (usedVars : PriceVar → Bool) : Int :=
  pricedSum (inputParts usedVars usage.promptTokensDetails.cachedTokens usage.creation
    usage.creation1h usage.promptTokensDetails.imageTokens 0
    usage.promptTokensDetails.audioTokens)

/-- The expression prices the cached tokens and the image tokens, but not the cached image tokens,
which are part of both. -/
def PricesOverlap (usedVars : PriceVar → Bool) : Prop :=
  usedVars .cr = true ∧ usedVars .img = true ∧ usedVars .imgCr = false

/-- The whole input of a report. -/
def Usage.contextLength (usage : Usage) (isClaudeUsageSemantic : Bool) : Int :=
  if isClaudeUsageSemantic then usage.promptTokens + usage.promptTokensDetails.cachedTokens
    + usage.creation + usage.creation1h
  else usage.promptTokens

lemma priced_le {x : Int} (priced : Bool) (h : 0 ≤ x) : (if priced then x else 0) ≤ x := by
  split <;> omega

/-- The cached image tokens of a consistent report lie within both totals. -/
lemma overlap_bounds (hc : usage.Consistent false) :
    0 ≤ usage.cachedImage.getD 0 ∧
      usage.cachedImage.getD 0 ≤ usage.promptTokensDetails.cachedTokens ∧
      usage.cachedImage.getD 0 ≤ usage.promptTokensDetails.imageTokens := by
  cases h : usage.cachedImage with
  | none => exact ⟨le_refl 0, hc.cached_nonneg, hc.image_nonneg⟩
  | some k => exact cachedImage_bounds h

/-- What an OpenAI-style report prices separately fits into its prompt. -/
lemma pricedSum_le_prompt (hc : usage.Consistent false)
    (hroom : PricesOverlap usedVars → usage.referenced usedVars ≤ usage.promptTokens) {s : Int}
    (hs : s = if usedVars .imgCr then usage.cachedImage.getD 0 else 0) :
    pricedSum (inputParts usedVars (usage.promptTokensDetails.cachedTokens - s) usage.creation
      usage.creation1h (usage.promptTokensDetails.imageTokens - s) s
      usage.promptTokensDetails.audioTokens) ≤ usage.promptTokens := by
  obtain ⟨h0, hcached, himage⟩ := overlap_bounds hc
  have hinput := hc.input
  simp only [false_eq_true, if_false] at hinput
  have hcc := priced_le (usedVars .cc) hc.creation_nonneg
  have hcc1h := priced_le (usedVars .cc1h) hc.creation1h_nonneg
  have hai := priced_le (usedVars .ai) hc.audio_nonneg
  cases hcr : usedVars .imgCr with
  | true =>
    rw [hcr, if_pos rfl] at hs
    have hcr' := priced_le (x := usage.promptTokensDetails.cachedTokens - s) (usedVars .cr)
      (by omega)
    have himg' := priced_le (x := usage.promptTokensDetails.imageTokens - s) (usedVars .img)
      (by omega)
    simp only [pricedSum, inputParts, hcr, if_true]
    omega
  | false =>
    rw [hcr, if_neg (by decide)] at hs
    subst hs
    simp only [Usage.referenced, sub_zero] at hroom ⊢
    by_cases hboth : usedVars .cr = true ∧ usedVars .img = true
    · exact hroom ⟨hboth.1, hboth.2, hcr⟩
    -- one of the two totals stays in the remainder, and with it the overlap
    have hone : (if usedVars .cr then usage.promptTokensDetails.cachedTokens else 0)
        + (if usedVars .img then usage.promptTokensDetails.imageTokens else 0)
        ≤ usage.promptTokensDetails.cachedTokens + usage.promptTokensDetails.imageTokens
          - usage.cachedImage.getD 0 := by
      cases h₁ : usedVars .cr <;> cases h₂ : usedVars .img
      · simp only [false_eq_true, if_false]
        omega
      · simp only [false_eq_true, if_false, if_true]
        omega
      · simp only [false_eq_true, if_false, if_true]
        omega
      · exact absurd ⟨h₁, h₂⟩ hboth
    simp only [pricedSum, inputParts, hcr, false_eq_true, if_false]
    omega

/-- The cached image tokens that are priced on their own lie within both totals. -/
lemma imageCacheSplit_bounds :
    ∀ k ∈ imageCacheSplit usage false usedVars, 0 ≤ k ∧
      k ≤ usage.promptTokensDetails.cachedTokens ∧ k ≤ usage.promptTokensDetails.imageTokens := by
  intro k hk
  rw [imageCacheSplit] at hk
  split at hk
  · exact cachedImage_bounds hk
  · cases hk

lemma imageCacheSplit_getD : (imageCacheSplit usage false usedVars).getD 0
    = if usedVars .imgCr then usage.cachedImage.getD 0 else 0 := by
  rw [imageCacheSplit]
  cases usedVars .imgCr <;> simp

/-- The parameters of an OpenAI-style report, where nothing is rounded or clamped. -/
lemma build_totals (hc : usage.Consistent false) (hprompt : usage.promptTokens ≤ 2 ^ 53)
    (hcompletion : usage.completionTokens ≤ 2 ^ 53)
    (hroom : PricesOverlap usedVars → usage.referenced usedVars ≤ usage.promptTokens) {s : Int}
    (hs : s = (imageCacheSplit usage false usedVars).getD 0) :
    buildTieredTokenParams usage false usedVars = {
      p := usage.promptTokens - pricedSum (inputParts usedVars
        (usage.promptTokensDetails.cachedTokens - s) usage.creation usage.creation1h
        (usage.promptTokensDetails.imageTokens - s) s usage.promptTokensDetails.audioTokens)
      c := usage.completionTokens - pricedSum (outputParts usedVars
        usage.completionTokenDetails.imageTokens usage.completionTokenDetails.audioTokens)
      len := usage.promptTokens
      cr := usage.promptTokensDetails.cachedTokens - s
      cc := usage.creation
      cc1h := usage.creation1h
      img := usage.promptTokensDetails.imageTokens - s
      imgCR := s
      imgO := usage.completionTokenDetails.imageTokens
      ai := usage.promptTokensDetails.audioTokens
      ao := usage.completionTokenDetails.audioTokens } := by
  obtain ⟨h0, hcached, himage⟩ := overlap_bounds hc
  have hinput := hc.input
  simp only [false_eq_true, if_false] at hinput
  have hprompt0 := hc.prompt_nonneg
  have hcached0 := hc.cached_nonneg
  have hcreation0 := hc.creation_nonneg
  have hcreation1h0 := hc.creation1h_nonneg
  have himage0 := hc.image_nonneg
  have haudio0 := hc.audio_nonneg
  have himageOut0 := hc.imageOut_nonneg
  have haudioOut0 := hc.audioOut_nonneg
  have houtput := hc.output
  have hsbounds : 0 ≤ s ∧ s ≤ usage.promptTokensDetails.cachedTokens ∧
      s ≤ usage.promptTokensDetails.imageTokens := by
    rw [hs, imageCacheSplit_getD]
    split
    · exact ⟨h0, hcached, himage⟩
    · exact ⟨le_refl 0, hcached0, himage0⟩
  have hsplit := @imageCacheSplit_bounds usage usedVars
  have hcr := withoutImageCache_eq hcached0 (by omega) fun k hk =>
    ⟨(hsplit k hk).1, (hsplit k hk).2.1⟩
  have himg := withoutImageCache_eq himage0 (by omega) fun k hk =>
    ⟨(hsplit k hk).1, (hsplit k hk).2.2⟩
  rw [← hs] at hcr himg
  have hexact : ∀ x : Int, 0 ≤ x → x ≤ 2 ^ 53 → Float64.ofInt x = x :=
    fun x hx hle => Float64.ofInt_eq ⟨by omega, hle⟩
  have hsum := pricedSum_le_prompt hc hroom (hs.trans imageCacheSplit_getD)
  have hout : pricedSum (outputParts usedVars usage.completionTokenDetails.imageTokens
      usage.completionTokenDetails.audioTokens) ≤ usage.completionTokens := by
    simp only [pricedSum, outputParts]
    omega
  unfold buildTieredTokenParams
  simp only [false_eq_true, if_false]
  rw [← hs, hcr, himg, hexact _ hprompt0 hprompt, hexact _ (by omega) hcompletion,
    hexact _ hcreation0 (by omega), hexact _ hcreation1h0 (by omega), hexact s hsbounds.1 (by omega),
    hexact _ haudio0 (by omega), hexact _ himageOut0 (by omega), hexact _ haudioOut0 (by omega),
    excludeAll_eq (by simp [inputParts]; omega) hsum hprompt,
    excludeAll_eq (by simp [outputParts]; omega) hout hcompletion,
    clampZero_of_nonneg (by omega), clampZero_of_nonneg (by omega)]

/-- The parameters of an Anthropic-style report. The image cache is never split there, and nothing
is taken out of the two remainders. -/
lemma build_separate (hc : usage.Consistent true) (hcontext : usage.contextLength true ≤ 2 ^ 53)
    (hcompletion : usage.completionTokens ≤ 2 ^ 53) :
    let params := buildTieredTokenParams usage true usedVars
    params.p = usage.promptTokens
        + (if usedVars .cr then 0 else usage.promptTokensDetails.cachedTokens) ∧
      params.c = usage.completionTokens ∧ params.len = usage.contextLength true ∧
      params.cr = usage.promptTokensDetails.cachedTokens ∧ params.cc = usage.creation ∧
      params.cc1h = usage.creation1h := by
  simp only [Usage.contextLength, if_true] at hcontext ⊢
  have hprompt0 := hc.prompt_nonneg
  have hcached0 := hc.cached_nonneg
  have hcreation0 := hc.creation_nonneg
  have hcreation1h0 := hc.creation1h_nonneg
  have himageOut0 := hc.imageOut_nonneg
  have haudioOut0 := hc.audioOut_nonneg
  have houtput := hc.output
  have hexact : ∀ x : Int, 0 ≤ x → x ≤ 2 ^ 53 → Float64.ofInt x = x :=
    fun x hx hle => Float64.ofInt_eq ⟨by omega, hle⟩
  have hcr : withoutImageCache (imageCacheSplit usage true usedVars)
      usage.promptTokensDetails.cachedTokens = usage.promptTokensDetails.cachedTokens := by
    simp [imageCacheSplit, withoutImageCache, hexact _ hcached0 (by omega)]
  simp only [buildTieredTokenParams, if_true]
  rw [hcr, hexact _ hprompt0 (by omega), hexact _ (by omega) hcompletion,
    hexact _ hcreation0 (by omega), hexact _ hcreation1h0 (by omega)]
  have hadd : ∀ x y : Int, 0 ≤ x + y → x + y ≤ 2 ^ 53 → Float64.add x y = x + y :=
    fun x y h hle => Float64.add_eq ⟨by omega, hle⟩
  refine ⟨?_, clampZero_of_nonneg (by omega), ?_, rfl, rfl, rfl⟩
  · cases usedVars .cr with
    | true => simp [clampZero_of_nonneg hprompt0]
    | false =>
      simp only [false_eq_true, if_false]
      rw [hadd _ _ (by omega) (by omega), clampZero_of_nonneg (by omega)]
  · rw [hadd usage.promptTokens _ (by omega) (by omega), hadd _ usage.creation (by omega) (by omega),
      hadd _ _ (by omega) (by omega)]

end

/-! ## The theorem -/

/-- **Every input token is priced once.** For a consistent report whose counts `float64` holds
exactly, the remainders and the variables that the expression references add up to the whole input
and to the completion. In an OpenAI-style report every variable stands for a part of these, and an
expression that prices an overlap twice needs room for it. In an Anthropic-style report only the
cache variables do, and the cache writes need a price. -/
theorem tokens_priced_once (usage : Usage) (isClaudeUsageSemantic : Bool)
    (usedVars : PriceVar → Bool) (hc : usage.Consistent isClaudeUsageSemantic)
    (hcontext : usage.contextLength isClaudeUsageSemantic ≤ 2 ^ 53)
    (hcompletion : usage.completionTokens ≤ 2 ^ 53)
    (hroom : isClaudeUsageSemantic = false → PricesOverlap usedVars →
      usage.referenced usedVars ≤ usage.promptTokens)
    (hcreation : isClaudeUsageSemantic = true →
      (usedVars .cc = false → usage.creation = 0) ∧
      (usedVars .cc1h = false → usage.creation1h = 0)) :
    (buildTieredTokenParams usage isClaudeUsageSemantic usedVars).len
      = usage.contextLength isClaudeUsageSemantic ∧
    (buildTieredTokenParams usage isClaudeUsageSemantic usedVars).p
      + (if isClaudeUsageSemantic then
          cacheSum (buildTieredTokenParams usage isClaudeUsageSemantic usedVars) usedVars
        else inputSum (buildTieredTokenParams usage isClaudeUsageSemantic usedVars) usedVars)
      = usage.contextLength isClaudeUsageSemantic ∧
    (buildTieredTokenParams usage isClaudeUsageSemantic usedVars).c
      + (if isClaudeUsageSemantic then 0
        else outputSum (buildTieredTokenParams usage isClaudeUsageSemantic usedVars) usedVars)
      = usage.completionTokens := by
  cases isClaudeUsageSemantic with
  | false =>
    rw [build_totals hc hcontext hcompletion (hroom rfl) rfl]
    refine ⟨rfl, ?_, ?_⟩
    · simp only [inputSum, Usage.contextLength, false_eq_true, if_false]
      omega
    · simp only [outputSum, false_eq_true, if_false]
      omega
  | true =>
    obtain ⟨hp, hcomp, hlen, hcr, hcc, hcc1h⟩ :=
      @build_separate usage usedVars hc hcontext hcompletion
    obtain ⟨hcc0, hcc1h0⟩ := hcreation rfl
    refine ⟨hlen, ?_, ?_⟩
    · simp only [if_true, cacheSum, pricedSum, hp, hcr, hcc, hcc1h, Usage.contextLength]
      -- a cache count is in the remainder, in its variable, or zero
      have hcached : (if usedVars .cr then 0 else usage.promptTokensDetails.cachedTokens)
          + (if usedVars .cr then usage.promptTokensDetails.cachedTokens else 0)
          = usage.promptTokensDetails.cachedTokens := by
        split <;> omega
      have hwrites : (if usedVars .cc then usage.creation else 0) = usage.creation := by
        cases h : usedVars .cc with
        | true => rfl
        | false => simp [hcc0 h]
      have hwrites1h : (if usedVars .cc1h then usage.creation1h else 0) = usage.creation1h := by
        cases h : usedVars .cc1h with
        | true => rfl
        | false => simp [hcc1h0 h]
      omega
    · simp [hcomp]

/-- A prompt with 300 cached tokens and 600 image tokens, 200 of them both. -/
def imageUsage (promptTokens : Int) : Usage where
  promptTokens := promptTokens
  completionTokens := 100
  usageSemantic := "openai"
  promptTokensDetails := {
    cachedTokens := 300
    cachedTokensDetails := some { textTokens := none, imageTokens := some 200, audioTokens := none }
    cachedCreationTokens := 0
    cacheWriteTokens := 0
    audioTokens := 0
    imageTokens := 600 }
  completionTokenDetails := { audioTokens := 0, imageTokens := 0 }
  claudeCacheCreation5mTokens := 0
  claudeCacheCreation1hTokens := 0

theorem tokens_priced_once_image :
    (buildTieredTokenParams (imageUsage 1000) false fun _ => true).p
      + inputSum (buildTieredTokenParams (imageUsage 1000) false fun _ => true) (fun _ => true)
      = 1000 :=
  (tokens_priced_once (imageUsage 1000) false (fun _ => true) (by decide) (by decide) (by decide)
    (fun _ h => absurd h.2.2 (by decide)) (fun h => absurd h (by decide))).2.1

/-- A report without image tokens and with output audio. -/
def cacheUsage (usageSemantic : String) (promptTokens cachedTokens creation : Int) : Usage where
  promptTokens := promptTokens
  completionTokens := 100
  usageSemantic := usageSemantic
  promptTokensDetails := {
    cachedTokens := cachedTokens
    cachedTokensDetails := none
    cachedCreationTokens := 0
    cacheWriteTokens := 0
    audioTokens := 0
    imageTokens := 0 }
  completionTokenDetails := { audioTokens := 40, imageTokens := 0 }
  claudeCacheCreation5mTokens := creation
  claudeCacheCreation1hTokens := 0

/-- Four consistent reports whose tokens are not priced once: an expression with `cr` and `img` but
not `img_cr` counts the cached image tokens twice; output audio of an Anthropic-style report stays
in `c` although `ao` prices it; the cache writes of such a report are in `len`, and in no price of
an expression without `cc`; and `float64` drops a token above `2 ^ 53`. -/
theorem tokens_not_priced_once :
    ((imageUsage 700).Consistent false ∧
      (buildTieredTokenParams (imageUsage 700) false (· ∈ [.cr, .img])).p
        + inputSum (buildTieredTokenParams (imageUsage 700) false (· ∈ [.cr, .img]))
            (· ∈ [.cr, .img])
        = 900 ∧
      (buildTieredTokenParams (imageUsage 700) false (· ∈ [.cr, .img])).len = 700) ∧
    ((cacheUsage "anthropic" 1000 0 0).Consistent true ∧
      (buildTieredTokenParams (cacheUsage "anthropic" 1000 0 0) true (· ∈ [.ao])).c
        + outputSum (buildTieredTokenParams (cacheUsage "anthropic" 1000 0 0) true (· ∈ [.ao]))
            (· ∈ [.ao])
        = 140 ∧
      (cacheUsage "anthropic" 1000 0 0).completionTokens = 100) ∧
    ((cacheUsage "anthropic" 1000 0 50).Consistent true ∧
      (buildTieredTokenParams (cacheUsage "anthropic" 1000 0 50) true (· ∈ [.cr])).p
        + inputSum (buildTieredTokenParams (cacheUsage "anthropic" 1000 0 50) true (· ∈ [.cr]))
            (· ∈ [.cr])
        = 1000 ∧
      (buildTieredTokenParams (cacheUsage "anthropic" 1000 0 50) true (· ∈ [.cr])).len = 1050) ∧
    ((cacheUsage "openai" (2 ^ 54) 1 0).Consistent false ∧
      (buildTieredTokenParams (cacheUsage "openai" (2 ^ 54) 1 0) false (· ∈ [.cr])).p
        + inputSum (buildTieredTokenParams (cacheUsage "openai" (2 ^ 54) 1 0) false (· ∈ [.cr]))
            (· ∈ [.cr])
        = 2 ^ 54 + 1 ∧
      (buildTieredTokenParams (cacheUsage "openai" (2 ^ 54) 1 0) false (· ∈ [.cr])).len
        = 2 ^ 54) := by
  decide

end NewApi.Service
