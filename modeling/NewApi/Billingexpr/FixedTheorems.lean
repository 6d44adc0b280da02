import NewApi.Billingexpr.FixedExecution

/-!
# One pricing leaf in each run of a fixed-price expression

A run of an accepted expression that calls `fixed` has come to one leaf of the tree. It has called
`fixed` with the literal of that leaf and `tier` with the scaled amount, each once, and it returns
the scaled amount times the factors around the leaf, which is not negative.
-/

namespace NewApi.Billingexpr

open List Node
open Binary64 (mulAll)

/-! ## Prices of the fixed leaves -/

namespace Node

/-- The factors that a multiplier can give. -/
def factors (count : Binary64) : Node → List Binary64
  | .conditional _ _ exp1 _ => Binary64.one :: (requestRuleNumber exp1).toList
  | _ => [count]

/-- The scaled amount of a leaf with a fixed price. -/
def leafPrice (n : Node) : List Binary64 :=
  match n.argumentsOf "tier" with
  | some [_, price] =>
    match price.argumentsOf "fixed" with
    | some [literal] => ((requestRuleNumber literal).map fun amount => amount.mul million).toList
    | _ => []
  | _ => []

/-- Every value that a fixed leaf can give, whatever the request rules select. -/
def fixedPrices (count : Binary64) : Node → List Binary64
  | .conditional _ _ exp1 exp2 => exp1.fixedPrices count ++ exp2.fixedPrices count
  | .binary _ left right =>
    if isRequestPriceMultiplier right then
      (left.fixedPrices count).flatMap fun x => (right.factors count).map x.mul
    else (right.fixedPrices count).flatMap fun x => (left.factors count).map x.mul
  | .call callee arguments => (Node.call callee arguments).leafPrice
  | _ => []

end Node

variable {amount : Binary64} {n : Node} {factors : List Binary64} {leaf : Leaf}

section
variable {D : Type} {value : Node → Except String (Value D)} {print : Node → String}
  {count : Binary64} {p : Patcher} {name price : Node}

lemma Factor.mem_factors {m : Node} {factor : Binary64}
    (h : Factor value print count p m factor) : factor ∈ m.factors count := by
  cases h with
  | imageCount => exact mem_singleton_self _
  | selected hcond hliteral => simp [factors, hliteral]
  | skipped hcond => exact mem_cons_self

lemma leafPrice_fixed {literal : Node} (h : requestRuleNumber literal = some amount) :
    (tierCall name (fixedCall literal)).leafPrice = [amount.mul million] := by
  simp [leafPrice, tierCall, fixedCall, argumentsOf, h]

lemma leafPrice_token (h : containsPricingMarker price = false) :
    (tierCall name price).leafPrice = [] := by
  rcases hargs : price.argumentsOf "fixed" with - | arguments
  · have htier : (tierCall name price).argumentsOf "tier" = some [name, price] := rfl
    simp only [leafPrice, htier, hargs]
  -- a call of `fixed` mentions it
  rw [argumentsOf_eq_some hargs, containsPricingMarker, mentions_call] at h
  simp at h

/-- The price of the executed leaf, times its factors, is one of the prices of the tree. -/
lemma Executes.mem_fixedPrices (h : Executes value print count p n (.fixed amount) factors) :
    mulAll (amount.mul million) factors ∈ n.fixedPrices count := by
  generalize hleaf : Leaf.fixed amount = leaf at h
  induction h with
  | condTrue hcond h ih => exact mem_append_left _ (ih hleaf)
  | condFalse hcond h ih => exact mem_append_right _ (ih hleaf)
  | mulRight hright hfactor h ih =>
    rw [mulAll_append, fixedPrices, if_pos hright]
    exact mem_flatMap.mpr ⟨_, ih hleaf, mem_map_of_mem hfactor.mem_factors⟩
  | mulLeft hskip hfactor h ih =>
    rw [mulAll_append, fixedPrices, if_neg (by simp [hskip])]
    exact mem_flatMap.mpr ⟨_, ih hleaf, mem_map_of_mem hfactor.mem_factors⟩
  | fixed hliteral =>
    cases hleaf
    rw [tierCall, fixedPrices]
    change _ ∈ (tierCall _ (fixedCall _)).leafPrice
    rw [leafPrice_fixed hliteral]
    exact mem_singleton_self _
  | token hprice => cases hleaf

lemma containsPricingMarker_fixedCall {literal : Node} :
    containsPricingMarker (fixedCall literal) = true := by
  simp [containsPricingMarker, fixedCall]

lemma tierCall_inj {name' price' : Node}
    (h : tierCall name price = tierCall name' price') : name = name' ∧ price = price' := by
  simpa [tierCall] using h

/-- The leaf that a tier is. -/
lemma Executes.of_tierCall (h : Executes value print count p (tierCall name price) leaf factors) :
    (∃ literal amount, price = fixedCall literal ∧ requestRuleNumber literal = some amount ∧
      leaf = .fixed amount) ∨ containsPricingMarker price = false ∧ leaf = .token := by
  generalize hn : tierCall name price = n at h
  cases h with
  | fixed hliteral => exact Or.inl ⟨_, _, (tierCall_inj hn).2, hliteral, rfl⟩
  | token hprice => exact Or.inr ⟨(tierCall_inj hn).2 ▸ hprice, rfl⟩
  | _ => cases hn

/-- An accepted literal is finite and not negative. -/
lemma Executes.valid_amount
    (h : Executes value print count p n (.fixed amount) factors) (hn : Priced n) :
    amount.nonneg = true ∧ (amount.mul million).isInf = false := by
  generalize hleaf : Leaf.fixed amount = leaf at h
  induction h with
  | condTrue hcond h ih =>
    cases hn with
    | conditional _ h1 _ => exact ih h1 hleaf
  | condFalse hcond h ih =>
    cases hn with
    | conditional _ _ h2 => exact ih h2 hleaf
  | mulRight hright hfactor h ih =>
    cases hn with
    | mulRight _ hleft => exact ih hleft hleaf
    | mulLeft hskip _ _ => exact absurd (hskip.symm.trans hright) (by decide)
  | mulLeft hskip hfactor h ih =>
    cases hn with
    | mulRight hright _ => exact absurd (hskip.symm.trans hright) (by decide)
    | mulLeft _ _ hright => exact ih hright hleaf
  | fixed hliteral =>
    cases hleaf
    generalize hm : tierCall _ (fixedCall _) = m at hn
    cases hn with
    | fixed _ hliteral' hnonneg hfinite =>
      have hcall := (tierCall_inj hm).2
      simp only [fixedCall, call.injEq, List.cons.injEq, and_true, true_and] at hcall
      rw [hcall, hliteral'] at hliteral
      cases hliteral
      exact ⟨hnonneg, hfinite⟩
    | token _ hprice =>
      rw [← (tierCall_inj hm).2, containsPricingMarker_fixedCall] at hprice
      cases hprice
    | _ => cases hm
  | token hprice => cases hleaf

/-- A run comes to one leaf. -/
lemma Executes.leaf_unique {leaf' : Leaf} {factors' : List Binary64}
    (h : Executes value print count p n leaf factors)
    (h' : Executes value print count p n leaf' factors') : leaf = leaf' := by
  induction h generalizing factors' with
  | condTrue hcond h ih =>
    cases h' with
    | condTrue _ h' => exact ih h'
    | condFalse hcond' _ => exact absurd (hcond.symm.trans hcond') (by simp)
  | condFalse hcond h ih =>
    cases h' with
    | condTrue hcond' _ => exact absurd (hcond.symm.trans hcond') (by simp)
    | condFalse _ h' => exact ih h'
  | mulRight hright hfactor h ih =>
    cases h' with
    | mulRight _ _ h' => exact ih h'
    | mulLeft hskip _ _ => exact absurd (hskip.symm.trans hright) (by decide)
  | mulLeft hskip hfactor h ih =>
    cases h' with
    | mulRight hright _ _ => exact absurd (hskip.symm.trans hright) (by decide)
    | mulLeft _ _ h' => exact ih h'
  | fixed hliteral =>
    rcases h'.of_tierCall with ⟨literal', amount', hcall, hliteral', rfl⟩ | ⟨hprice, -⟩
    · simp only [fixedCall, call.injEq, List.cons.injEq, and_true, true_and] at hcall
      rw [hcall, hliteral'] at hliteral
      rw [Option.some.inj hliteral]
    · rw [containsPricingMarker_fixedCall] at hprice
      cases hprice
  | token hprice =>
    rcases h'.of_tierCall with ⟨literal', amount', rfl, -, -⟩ | ⟨-, rfl⟩
    · rw [containsPricingMarker_fixedCall] at hprice
      cases hprice
    · rfl

/-! ## Signs -/

lemma nonneg_one : Binary64.one.nonneg = true := by decide +kernel

lemma factors_nonneg {m : Node} (hm : isRequestPriceMultiplier m = true)
    (hcount : count.nonneg = true) : ∀ x ∈ m.factors count, x.nonneg = true := by
  rcases multiplier_cases hm with
    rfl | ⟨ternary, cond, exp1, exp2, multiplier, rfl, -, hliteral, -, hnonneg⟩
  · intro x hx
    rwa [mem_singleton.mp hx]
  intro x hx
  rw [factors, hliteral] at hx
  rcases mem_cons.mp hx with rfl | hx
  · exact nonneg_one
  · rwa [mem_singleton.mp hx]

/-- The products of a list of prices and the factors of a multiplier. -/
lemma flatMap_nonneg {prices : List Binary64} (hprices : ∀ x ∈ prices, x.nonneg = true ∨ x = .nan)
    (hfactors : ∀ x ∈ factors, x.nonneg = true) :
    ∀ x ∈ prices.flatMap (fun x => factors.map x.mul), x.nonneg = true ∨ x = .nan := by
  intro y hy
  obtain ⟨x, hx, hy⟩ := mem_flatMap.mp hy
  obtain ⟨factor, hfactor, rfl⟩ := mem_map.mp hy
  rcases hprices x hx with hnonneg | rfl
  · exact Binary64.mul_nonneg hnonneg (hfactors factor hfactor)
  · exact Or.inr (Binary64.nan_mul factor)

/-- A price that is a number is not negative. -/
lemma fixedPrices_nonneg (hn : Priced n) (hcount : count.nonneg = true) :
    ∀ x ∈ n.fixedPrices count, x.nonneg = true ∨ x = .nan := by
  induction hn with
  | conditional hcond h1 h2 ih1 ih2 =>
    intro x hx
    rcases mem_append.mp hx with hx | hx
    · exact ih1 x hx
    · exact ih2 x hx
  | mulRight hright hleft ih =>
    rw [fixedPrices, if_pos hright]
    exact flatMap_nonneg ih (factors_nonneg hright hcount)
  | mulLeft hskip hleft hright ih =>
    rw [fixedPrices, if_neg (by simp [hskip])]
    exact flatMap_nonneg ih (factors_nonneg hleft hcount)
  | fixed hname hliteral hnonneg hfinite =>
    intro x hx
    change x ∈ (tierCall _ (fixedCall _)).leafPrice at hx
    rw [leafPrice_fixed hliteral, mem_singleton] at hx
    rw [hx]
    exact Binary64.mul_nonneg hnonneg (Binary64.nonneg_ofInt (by decide))
  | token hname hprice =>
    intro x hx
    change x ∈ (tierCall _ _).leafPrice at hx
    rw [leafPrice_token hprice] at hx
    cases hx

end

/-! ## The billing unit -/

lemma record_unit (trace : TraceResult) (event : Event) :
    (trace.record event).billingUnit = .request ↔
      trace.billingUnit = .request ∨ ∃ amount, event = .fixed amount := by
  cases event with
  | tier name cost | fixed amount => simp [TraceResult.record]
  | rule index =>
    rw [TraceResult.record]
    split <;> simp

/-- The unit of a run says whether `fixed` has been called. -/
lemma foldl_record_unit (trace : TraceResult) (calls : List Event) :
    (calls.foldl TraceResult.record trace).billingUnit = .request ↔
      trace.billingUnit = .request ∨ ∃ amount, .fixed amount ∈ calls := by
  induction calls generalizing trace with
  | nil => simp
  | cons event calls ih =>
    rw [foldl_cons, ih, record_unit, or_assoc]
    simp only [mem_cons, exists_or, eq_comm]

/-! ## The theorem -/

/-- What a run of a fixed-price expression does, for the leaves `E` that it can come to. -/
structure PricedOnce (E : Leaf → List Binary64 → Prop) (run : Run) : Prop where
  /-- Each callback is called at most once, `fixed` first. -/
  calls : ∀ amount, .fixed amount ∈ run.calls →
    ∃ name, pricing run.calls <+: [.fixed amount, .tier name (amount.mul million)]
  /-- A run with a result has called both, and the result is the price times the factors. -/
  result : ∀ amount v, .fixed amount ∈ run.calls → run.result = .ok v →
    ∃ name factors, E (.fixed amount) factors ∧
      pricing run.calls = [.fixed amount, .tier name (amount.mul million)] ∧
      v = mulAll (amount.mul million) factors ∧ amount.nonneg = true ∧
      (amount.mul million).isInf = false ∧ v.nonneg = true
  unit : ∀ v, run.result = .ok v →
    (run.trace.billingUnit = .request ↔ ∃ amount factors, E (.fixed amount) factors)

section
variable {D S : Type} {clean : List String → D → Prop} {lang : ExprLang D S}
  (hlang : lang.Lawful clean) {compiler : ExprCompiler} {tree : Node} {entry : CachedEntry}
  (hentry : compileEntry compiler tree = .ok entry) (hname : tree.pricesByName = true)
  {params : TokenParams Binary64} {request : RequestInput D} (hrequest : request.Clean clean)
  {calls : List Event}

/-- What compilation keeps of the tree. -/
lemma compileEntry_ok (h : compileEntry compiler tree = .ok entry) :
    entry.prog = (Patcher.walk compiler.print ⟨[], ""⟩ tree).1 ∧
      (tree.mentions ["fixed"] = true → validateFixedPricingTree tree = .ok ()) := by
  obtain ⟨hvalid, -, program, -, hentry⟩ := compileEntry_inv h
  refine ⟨by rw [hentry], fun hfixed => ?_⟩
  rwa [checkFixedPricing, if_pos hfixed] at hvalid

/-- A run whose image count is in range is the evaluation of the program. -/
structure Evaluates (lang : ExprLang D S) (entry : CachedEntry) (params : TokenParams Binary64)
    (request : RequestInput D) : Prop where
  count : 1 ≤ entry.imageCount request
  calls : (runProgram lang entry params request).calls = (entry.execute lang params request).log
  result : (runProgram lang entry params request).result
    = runResult (entry.execute lang params request).result
  unit : (runProgram lang entry params request).trace.billingUnit = .request ↔
    ∃ amount, .fixed amount ∈ (entry.execute lang params request).log

lemma runProgram_cases :
    ((runProgram lang entry params request).calls = [] ∧
      ∃ e, (runProgram lang entry params request).result = .error e) ∨
    Evaluates lang entry params request := by
  by_cases hrange : entry.usedVars "image_count" ∧
      (entry.imageCount request < 1 ∨ maxImageN < entry.imageCount request)
  · exact Or.inl (runProgram_out hrange)
  right
  have hrun := runProgram.eq_1 lang entry params request
  simp only [if_neg hrange] at hrun
  constructor
  · by_contra hcount
    rw [not_and_or, not_or] at hrange
    rcases hrange with hunused | ⟨hlow, -⟩
    · rw [CachedEntry.imageCount, if_neg hunused] at hcount
      omega
    · omega
  · exact (runProgram_in hrange).1
  · exact (runProgram_in hrange).2
  · rw [hrun]
    simp only
    rw [foldl_record_unit]
    simp

lemma Executes.mentions_fixed {value : Node → Except String (Value D)} {print : Node → String}
    {count : Binary64} {p : Patcher} (h : Executes value print count p n (.fixed amount) factors) :
    n.mentions ["fixed"] = true := by
  generalize hleaf : Leaf.fixed amount = leaf at h
  induction h with
  | condTrue hcond h ih | condFalse hcond h ih | mulRight hright hfactor h ih => simp [ih hleaf]
  | mulLeft hskip hfactor h ih => simp [ih hleaf]
  | fixed hliteral => simp [tierCall, fixedCall]
  | token hprice => cases hleaf

lemma fixed_mem_pricing : .fixed amount ∈ pricing calls ↔ .fixed amount ∈ calls := by
  simp [pricing, Event.isCallOf]

/-- A call of `fixed` in the calls of a leaf is that of its amount. -/
lemma Charged.eq_of_mem {cost : Binary64}
    (h : Charged leaf cost calls) (hmem : .fixed amount ∈ calls) :
    ∃ name, leaf = .fixed amount ∧ cost = amount.mul million ∧
      calls = [.fixed amount, .tier name (amount.mul million)] := by
  cases h with
  | fixed amount' name =>
    simp only [mem_cons, Event.fixed.injEq, reduceCtorEq, not_mem_nil, or_false] at hmem
    subst hmem
    exact ⟨name, rfl, rfl, rfl⟩
  | token name cost => simp at hmem

/-- The executed leaf has a fixed price if and only if `fixed` has been called. -/
lemma Charged.fixed_iff {cost : Binary64} (h : Charged leaf cost calls) :
    (∃ amount, .fixed amount ∈ calls) ↔ ∃ amount, leaf = .fixed amount := by
  cases h with
  | fixed amount name | token name cost => simp

include hlang hentry hname hrequest in
lemma prices_execute (hfixed : tree.mentions ["fixed"] = true) :
    Prices (Comes lang params (entry.imageCount request) request.answer compiler.print ⟨[], ""⟩ tree)
      (entry.execute lang params request) := by
  obtain ⟨hprog, hvalid⟩ := compileEntry_ok hentry
  rw [CachedEntry.execute, hprog]
  exact prices_of_priced hlang hrequest (priced_of_validate (hvalid hfixed)) hname

end

/-- **A run of a fixed-price expression has one pricing leaf.** For an accepted expression that
reaches the pricing callbacks by their names only, and every request for which no fixed price of
the tree is infinity times zero. -/
theorem fixed_priced_once {D S : Type} (clean : List String → D → Prop) (lang : ExprLang D S)
    (hlang : lang.Lawful clean) (compiler : ExprCompiler) (tree : Node) (entry : CachedEntry)
    (hentry : compileEntry compiler tree = .ok entry) (hname : tree.pricesByName = true)
    (params : TokenParams Binary64) (request : RequestInput D) (hrequest : request.Clean clean)
    (hnumber : Binary64.nan ∉ tree.fixedPrices (Binary64.ofInt (entry.imageCount request))) :
    PricedOnce
      (Comes lang params (entry.imageCount request) request.answer compiler.print ⟨[], ""⟩ tree)
      (runProgram lang entry params request) := by
  rcases @runProgram_cases D S lang entry params request with ⟨hcalls, e, herror⟩ | hrun
  · -- the image count is refused before the program runs
    constructor
    · intro amount hmem
      rw [hcalls] at hmem
      cases hmem
    · intro amount v hmem
      rw [hcalls] at hmem
      cases hmem
    · intro v hv
      rw [herror] at hv
      cases hv
  cases hfixed : tree.mentions ["fixed"] with
  | false =>
    have hnone : ∀ amount, .fixed amount ∉ (entry.execute lang params request).log := by
      intro amount hmem
      have hquiet := @evalRoot_quiet tree D S clean lang hlang params (entry.imageCount request)
        request.answer hrequest compiler.print ⟨[], ""⟩ ["fixed"] (by simp)
        ⟨hfixed, reachedByName_mono (by simp) hname⟩
      rw [CachedEntry.execute, (compileEntry_ok hentry).1] at hmem
      have hcall := hquiet.1 _ hmem
      simp [Event.isCallOf] at hcall
    constructor
    · intro amount hmem
      rw [hrun.calls] at hmem
      exact absurd hmem (hnone amount)
    · intro amount v hmem
      rw [hrun.calls] at hmem
      exact absurd hmem (hnone amount)
    · intro v hv
      rw [hrun.unit]
      constructor
      · rintro ⟨amount, hmem⟩
        exact absurd hmem (hnone amount)
      · rintro ⟨amount, factors, hleaf⟩
        rw [hleaf.mentions_fixed] at hfixed
        cases hfixed
  | true =>
    have hpriced : Priced tree := priced_of_validate ((compileEntry_ok hentry).2 hfixed)
    obtain ⟨hreturned, hbegun⟩ := prices_execute hlang hentry hname hrequest hfixed
    have hresult : ∀ v, (runProgram lang entry params request).result = .ok v →
        ∃ leaf factors cost, Comes lang params (entry.imageCount request) request.answer
          compiler.print ⟨[], ""⟩ tree leaf factors ∧
          Charged leaf cost (pricing (entry.execute lang params request).log) ∧
          v = mulAll cost factors := by
      intro v hv
      rw [hrun.result] at hv
      rcases hr : (entry.execute lang params request).result with e | w
      · rw [hr] at hv
        cases hv
      obtain ⟨leaf, factors, cost, hleaf, hcharged, rfl⟩ := hreturned w hr
      rw [hr] at hv
      exact ⟨leaf, factors, cost, hleaf, hcharged, (Except.ok.inj hv).symm⟩
    constructor
    · intro amount hmem
      rw [hrun.calls] at hmem ⊢
      obtain ⟨leaf, cost, calls, hcharged, hpre⟩ := hbegun
      obtain ⟨name, -, -, rfl⟩ := hcharged.eq_of_mem (hpre.subset (fixed_mem_pricing.mpr hmem))
      exact ⟨name, hpre⟩
    · intro amount v hmem hv
      rw [hrun.calls] at hmem ⊢
      obtain ⟨leaf, factors, cost, hleaf, hcharged, rfl⟩ := hresult v hv
      obtain ⟨name, rfl, rfl, hcalls⟩ := hcharged.eq_of_mem (fixed_mem_pricing.mpr hmem)
      have hprice := hleaf.mem_fixedPrices
      have hsign := fixedPrices_nonneg hpriced
        (Binary64.nonneg_ofInt (le_trans (by decide) hrun.count)) _ hprice
      have hnonneg := hsign.resolve_right fun hnan => hnumber (hnan ▸ hprice)
      obtain ⟨hamount, hfinite⟩ := hleaf.valid_amount hpriced
      exact ⟨name, factors, hleaf, hcalls, rfl, hamount, hfinite, hnonneg⟩
    · intro v hv
      obtain ⟨leaf, factors, cost, hleaf, hcharged, rfl⟩ := hresult v hv
      have hcalls : (∃ amount, .fixed amount ∈ (entry.execute lang params request).log) ↔
          ∃ amount, leaf = .fixed amount :=
        (exists_congr fun amount => fixed_mem_pricing.symm).trans hcharged.fixed_iff
      rw [hrun.unit, hcalls]
      constructor
      · rintro ⟨amount, rfl⟩
        exact ⟨amount, factors, hleaf⟩
      · rintro ⟨amount, factors', hleaf'⟩
        exact ⟨amount, hleaf.leaf_unique hleaf'⟩

/-! ## Concrete expressions -/

/-- The comparisons and literals that the expressions below use. -/
def plainLang : ExprLang Empty Unit where
  start := ()
  lookup _ _ := none
  binary operator left right scope := do
    let x ← left scope
    let y ← right scope
    Logged.lift <|
      match operator, x, y with
      | "<=", .float x, .int y => .ok (.bool (x.le (Binary64.ofInt y)))
      | "==", .bool x, .bool y => .ok (.bool (x == y))
      | _, _, _ => .error "invalid operation"
  operate kind _ _ :=
    match kind with
    | .bool value => pure (.bool value)
    | _ => Logged.fail "invalid operation"
  fetch _ _ _ := .error "invalid operation"
  multiply _ _ := .error "invalid operation"

lemma plainLang_lawful : plainLang.Lawful fun _ value => value.elim where
  start _ := rfl
  binary names operator left right hleft hright scope hscope := by
    apply (hleft scope hscope).bind
    intro x hx
    apply (hright scope hscope).bind
    intro y hy
    apply Logged.ensures_lift
    intro v hv
    split at hv <;> cases hv
    · trivial
    · trivial
  operate names kind children hchildren scope hscope := by
    change QuietRun _ _ (match kind with
      | .bool value => pure (.bool value)
      | _ => Logged.fail "invalid operation")
    split
    · exact Logged.ensures_pure trivial
    · exact Logged.ensures_fail
  fetch names optional base key v hbase hkey h := by cases h
  multiply names x y v hx hy h := by cases h

/-- A compiler that accepts every tree and leaves it as it is. -/
def plainCompiler : ExprCompiler where
  compile := .ok
  print _ := ""

/-- The entry of a tree that the compiler accepts. -/
def plainEntry (tree : Node) : CachedEntry where
  prog := (Patcher.walk plainCompiler.print ⟨[], ""⟩ tree).1
  usedVars := extractUsedVars (Patcher.walk plainCompiler.print ⟨[], ""⟩ tree).1
  requestRules := (Patcher.walk plainCompiler.print ⟨[], ""⟩ tree).2.requestRules
  fixedPricing := tree.mentions ["fixed"]

lemma compileEntry_plain {tree : Node} (hvalid : checkFixedPricing tree = .ok ())
    (hname : (Patcher.walk plainCompiler.print ⟨[], ""⟩ tree).2.restrictedIdentifier = "") :
    compileEntry plainCompiler tree = .ok (plainEntry tree) := by
  simp only [compileEntry, hvalid, hname]
  rfl

/-- A request with `"fast": true` in its body and no number of images. -/
def fastRequest : RequestInput Empty where
  imageCount := none
  answer function arguments :=
    match function, arguments with
    | .param, [.string "fast"] => .ok (.bool true)
    | _, _ => .ok .nil

lemma fastRequest_clean : fastRequest.Clean fun _ value => value.elim := by
  intro names function arguments v h
  simp only [fastRequest] at h
  split at h <;> cases h
  · trivial
  · trivial

def noTokens : TokenParams Binary64 :=
  ⟨.zero, .zero, .zero, .zero, .zero, .zero, .zero, .zero, .zero, .zero, .zero⟩

lemma half_representable : Binary64.Representable (2 ^ 1073) := by decide +kernel

def half : Binary64 := .finite false (2 ^ 1073) half_representable

/-- `param("fast") == true ? multiplier : 1`. -/
def fastRule (multiplier : Node) : Node :=
  .conditional true
    (.binary "==" (.call (.identifier "param") [.string "fast"]) (.other (.bool true) []))
    multiplier (.integer 1)

/-- A fixed price for short requests and a token price for long ones, doubled for fast ones. -/
def shortOrLong : Node :=
  .binary "*"
    (.conditional true (.binary "<=" (.identifier "len") (.integer 32000))
      (tierCall (.string "short") (fixedCall (.float half)))
      (tierCall (.string "long") (.binary "*" (.identifier "p") (.integer 2))))
    (fastRule (.integer 2))

theorem fixed_priced_once_fast :
    .fixed half ∈ (runProgram plainLang (plainEntry shortOrLong) noTokens fastRequest).calls ∧
      PricedOnce
        (Comes plainLang noTokens ((plainEntry shortOrLong).imageCount fastRequest)
          fastRequest.answer plainCompiler.print ⟨[], ""⟩ shortOrLong)
        (runProgram plainLang (plainEntry shortOrLong) noTokens fastRequest) :=
  ⟨by decide +kernel, fixed_priced_once _ plainLang plainLang_lawful plainCompiler shortOrLong
      (plainEntry shortOrLong) (compileEntry_plain (by decide +kernel) (by decide +kernel))
      (by decide +kernel) noTokens fastRequest fastRequest_clean (by decide +kernel)⟩

/-- `$env.fixed(amount)`. -/
def envFixed (amount : Binary64) : Node :=
  .call (.member false (.identifier "$env") (.string "fixed")) [.float amount]

/-- The product of two prices that are fetched from the environment. -/
def twoPrices : Node := .binary "*" (envFixed half) (envFixed half)

/-- A price so large that a large multiplier makes it infinite, with a multiplier of zero. -/
def hugePrice : Node :=
  .binary "*"
    (.binary "*" (tierCall (.string "huge") (fixedCall (.float (Binary64.ofInt (2 ^ 1000)))))
      (fastRule (.float (Binary64.ofInt (2 ^ 100)))))
    (fastRule (.integer 0))

/-- Two accepted expressions without one pricing leaf: the product of two prices fetched from the
environment calls `fixed` twice and `tier` not at all, and the huge price is not a number. -/
theorem fixed_called_twice :
    (compileEntry plainCompiler twoPrices = .ok (plainEntry twoPrices) ∧
      (runProgram plainLang (plainEntry twoPrices) noTokens fastRequest).calls
        = [.fixed half, .fixed half] ∧
      (runProgram plainLang (plainEntry twoPrices) noTokens fastRequest).result
        = .ok (Binary64.ofInt (500000 * 500000))) ∧
    (compileEntry plainCompiler hugePrice = .ok (plainEntry hugePrice) ∧
      .fixed (Binary64.ofInt (2 ^ 1000))
        ∈ (runProgram plainLang (plainEntry hugePrice) noTokens fastRequest).calls ∧
      (runProgram plainLang (plainEntry hugePrice) noTokens fastRequest).result = .ok .nan) :=
  ⟨⟨compileEntry_plain (by decide +kernel) (by decide +kernel), by decide +kernel,
      by decide +kernel⟩,
    compileEntry_plain (by decide +kernel) (by decide +kernel), by decide +kernel,
    by decide +kernel⟩

end NewApi.Billingexpr
