import NewApi.Billingexpr.Types

/-!
# Token counts for expression pricing

`BuildTieredTokenParams` turns a usage report into the variables of a billing expression. What the
expression prices separately (cache, image and audio counts, each with a variable of its own) is
taken out of the remainders `p` and `c`; `len` is the whole input. The definitions follow
`service/tiered_settle.go` and the usage records of `relaykit/dto`.

Token counts are converted to `float64`, and all of them have integer values.
-/

namespace NewApi.Service

open Billingexpr (TokenParams)

/-! ## Usage reports -/

/-- Parts of the cached tokens; an unreported one is not an explicit zero. -/
structure CachedTokenDetails where
  textTokens : Option Int
  imageTokens : Option Int
  audioTokens : Option Int

structure InputTokenDetails where
  cachedTokens : Int
  cachedTokensDetails : Option CachedTokenDetails
  cachedCreationTokens : Int
  cacheWriteTokens : Int
  audioTokens : Int
  imageTokens : Int

structure OutputTokenDetails where
  audioTokens : Int
  imageTokens : Int

/-- The fields of `dto.Usage` that pricing by expression reads. -/
structure Usage where
  promptTokens : Int
  completionTokens : Int
  usageSemantic : String
  promptTokensDetails : InputTokenDetails
  completionTokenDetails : OutputTokenDetails
  claudeCacheCreation5mTokens : Int
  claudeCacheCreation1hTokens : Int

/-- Two fields report cache writes; the larger one counts, and a negative one as zero. -/
def InputTokenDetails.cacheCreationTokensTotal (d : InputTokenDetails) : Int :=
  let total := max d.cacheWriteTokens d.cachedCreationTokens
  if total < 0 then 0 else total

/-- The variables with a price of their own. -/
inductive PriceVar
  | cr
  | cc
  | cc1h
  | img
  | imgCr
  | ai
  | imgO
  | ao
deriving DecidableEq

/-! ## `BuildTieredTokenParams` -/

/-- The loop over the other parts of the cached tokens: each fits into what the ones before it have
left. -/
def partsFit (remaining : Int) : List (Option Int) → Bool
  | [] => true
  | none :: rest => partsFit remaining rest
  | some count :: rest =>
    if count < 0 ∨ remaining < count then false else partsFit (remaining - count) rest

/-- The report can be read as cached image tokens that are part of both totals. -/
def validImageCache (usage : Usage) (details : CachedTokenDetails) (cachedImage : Int) : Bool :=
  let cached := usage.promptTokensDetails.cachedTokens
  let image := usage.promptTokensDetails.imageTokens
  decide (0 ≤ cachedImage ∧ cachedImage ≤ cached ∧ cachedImage ≤ image ∧
    cached ≤ usage.promptTokens ∧ image ≤ usage.promptTokens - (cached - cachedImage)) &&
  partsFit (cached - cachedImage) [details.textTokens, details.audioTokens]

/-- The cached image tokens of a report with a valid breakdown. -/
def Usage.cachedImage (usage : Usage) : Option Int :=
  usage.promptTokensDetails.cachedTokensDetails.bind fun details =>
    details.imageTokens.filter (validImageCache usage details)

/-- Cache writes with the 5-minute lifetime, or all of them. -/
def Usage.creation (usage : Usage) : Int :=
  if usage.usageSemantic = "anthropic" then usage.claudeCacheCreation5mTokens
  else usage.promptTokensDetails.cacheCreationTokensTotal

def Usage.creation1h (usage : Usage) : Int :=
  if usage.usageSemantic = "anthropic" then usage.claudeCacheCreation1hTokens else 0

/-- Take the counts that are priced separately out of a remainder, one after the other. -/
def excludeAll (p : Int) : List (Bool × Int) → Int
  | [] => p
  | (priced, count) :: rest => excludeAll (if priced then Float64.sub p count else p) rest

/-- The input counts with a variable of their own, in the order of the source. -/
def inputParts (usedVars : PriceVar → Bool) (cr cc cc1h img imgCR ai : Int) : List (Bool × Int) :=
  [(usedVars .cr, cr), (usedVars .cc, cc), (usedVars .cc1h, cc1h), (usedVars .img, img),
    (usedVars .imgCr, imgCR), (usedVars .ai, ai)]

def outputParts (usedVars : PriceVar → Bool) (imgO ao : Int) : List (Bool × Int) :=
  [(usedVars .imgO, imgO), (usedVars .ao, ao)]

/-- The cached image tokens that are priced on their own. -/
def imageCacheSplit (usage : Usage) (isClaudeUsageSemantic : Bool)
    (usedVars : PriceVar → Bool) : Option Int :=
  if usedVars .imgCr ∧ ¬ isClaudeUsageSemantic then usage.cachedImage else none

/-- A count with the cached image tokens taken out of it. -/
def withoutImageCache (split : Option Int) (count : Int) : Int :=
  match split with
  | some cachedImage => Float64.sub (Float64.ofInt count) (Float64.ofInt cachedImage)
  | none => Float64.ofInt count

def clampZero (x : Int) : Int := if x < 0 then 0 else x

def buildTieredTokenParams (usage : Usage) (isClaudeUsageSemantic : Bool)
    (usedVars : PriceVar → Bool) : TokenParams Int :=
  let split := imageCacheSplit usage isClaudeUsageSemantic usedVars
  let p := Float64.ofInt usage.promptTokens
  let c := Float64.ofInt usage.completionTokens
  let cr := withoutImageCache split usage.promptTokensDetails.cachedTokens
  let cc5m := Float64.ofInt usage.creation
  let cc1h := Float64.ofInt usage.creation1h
  let img := withoutImageCache split usage.promptTokensDetails.imageTokens
  let imgCR := Float64.ofInt (split.getD 0)
  let ai := Float64.ofInt usage.promptTokensDetails.audioTokens
  let imgO := Float64.ofInt usage.completionTokenDetails.imageTokens
  let ao := Float64.ofInt usage.completionTokenDetails.audioTokens
  { p := clampZero <|
      if isClaudeUsageSemantic then if usedVars .cr then p else Float64.add p cr
      else excludeAll p (inputParts usedVars cr cc5m cc1h img imgCR ai)
    c := clampZero <|
      if isClaudeUsageSemantic then c else excludeAll c (outputParts usedVars imgO ao)
    len :=
      if isClaudeUsageSemantic then
        Float64.add (Float64.add (Float64.add p cr) cc5m) cc1h
      else p
    cr := cr
    cc := cc5m
    cc1h := cc1h
    img := img
    imgCR := imgCR
    imgO := imgO
    ai := ai
    ao := ao }

/-! ## What the counts mean -/

/-- The sum of the counts that are priced separately. -/
def pricedSum : List (Bool × Int) → Int
  | [] => 0
  | (priced, count) :: rest => (if priced then count else 0) + pricedSum rest

/-- The values of the input variables that the expression references. -/
def inputSum (t : TokenParams Int) (usedVars : PriceVar → Bool) : Int :=
  pricedSum (inputParts usedVars t.cr t.cc t.cc1h t.img t.imgCR t.ai)

/-- Those of the cache variables alone. -/
def cacheSum (t : TokenParams Int) (usedVars : PriceVar → Bool) : Int :=
  pricedSum [(usedVars .cr, t.cr), (usedVars .cc, t.cc), (usedVars .cc1h, t.cc1h)]

def outputSum (t : TokenParams Int) (usedVars : PriceVar → Bool) : Int :=
  pricedSum (outputParts usedVars t.imgO t.ao)

/-- A consistent report: no count is negative, and the parts are parts of the totals. The prompt of
an OpenAI-style report holds every input count, with the cached image tokens in both the cached and
the image tokens; that of an Anthropic-style report holds no cache counts. -/
@[mk_iff]
structure Usage.Consistent (usage : Usage) (isClaudeUsageSemantic : Bool) : Prop where
  prompt_nonneg : 0 ≤ usage.promptTokens
  cached_nonneg : 0 ≤ usage.promptTokensDetails.cachedTokens
  creation_nonneg : 0 ≤ usage.creation
  creation1h_nonneg : 0 ≤ usage.creation1h
  image_nonneg : 0 ≤ usage.promptTokensDetails.imageTokens
  audio_nonneg : 0 ≤ usage.promptTokensDetails.audioTokens
  imageOut_nonneg : 0 ≤ usage.completionTokenDetails.imageTokens
  audioOut_nonneg : 0 ≤ usage.completionTokenDetails.audioTokens
  input : if isClaudeUsageSemantic then
      usage.promptTokensDetails.imageTokens + usage.promptTokensDetails.audioTokens
        ≤ usage.promptTokens
    else usage.promptTokensDetails.cachedTokens + usage.creation + usage.creation1h
        + usage.promptTokensDetails.imageTokens + usage.promptTokensDetails.audioTokens
        - usage.cachedImage.getD 0 ≤ usage.promptTokens
  output : usage.completionTokenDetails.imageTokens + usage.completionTokenDetails.audioTokens
    ≤ usage.completionTokens

instance (usage : Usage) (isClaudeUsageSemantic : Bool) :
    Decidable (usage.Consistent isClaudeUsageSemantic) :=
  decidable_of_iff' _ (Usage.consistent_iff usage isClaudeUsageSemantic)

end NewApi.Service
