import NewApi.Billingexpr.Reach

/-!
# Execution of fixed-price expressions

An expression that mentions `fixed` is accepted when its tree is made of conditionals, request
multipliers and `tier` leaves (`Priced`). A run of it follows the conditions to one leaf and
collects the multipliers on the way (`Executes`). If the pricing callbacks are reached by their
names only, the run calls `tier` once, for that leaf, and `fixed` once before it if the leaf has a
fixed price (`Charged`), and its value is the price times the multipliers (`prices_of_priced`).
-/

namespace NewApi.Billingexpr

open List Bool Node Logged
open Binary64 (mulAll)

/-! ## The accepted shape -/

def tierCall (name price : Node) : Node := .call (.identifier "tier") [name, price]

def fixedCall (literal : Node) : Node := .call (.identifier "fixed") [literal]

/-- What the check of a fixed-price expression accepts, with a case for each way to accept. -/
inductive Priced : Node → Prop
  | conditional {ternary : Bool} {cond exp1 exp2 : Node}
    (hcond : containsPricingMarker cond = false) (h1 : Priced exp1) (h2 : Priced exp2) :
    Priced (.conditional ternary cond exp1 exp2)
  | mulRight {left right : Node} (hright : isRequestPriceMultiplier right = true)
    (hleft : Priced left) : Priced (.binary "*" left right)
  | mulLeft {left right : Node} (hskip : isRequestPriceMultiplier right = false)
    (hleft : isRequestPriceMultiplier left = true) (hright : Priced right) :
    Priced (.binary "*" left right)
  | fixed {name literal : Node} {amount : Binary64} (hname : containsPricingMarker name = false)
    (hliteral : requestRuleNumber literal = some amount) (hnonneg : amount.nonneg = true)
    (hfinite : (amount.mul million).isInf = false) : Priced (tierCall name (fixedCall literal))
  | token {name price : Node} (hname : containsPricingMarker name = false)
    (hprice : containsPricingMarker price = false) : Priced (tierCall name price)

variable {name price n literal : Node} {amount : Binary64}

lemma priced_of_validateLeaf (h : validateLeaf name price = .ok ()) :
    Priced (tierCall name price) := by
  unfold validateLeaf at h
  split at h
  · cases h
  rename_i hname
  rw [not_eq_true] at hname
  split at h
  · rename_i amount hprice
    rw [argumentsOf_eq_some hprice]
    split at h
    · rename_i hvalid
      unfold validAmount at hvalid
      split at hvalid
      · rename_i x hx
        simp only [and_eq_true, not_eq_true'] at hvalid
        exact .fixed hname hx hvalid.1.1 hvalid.2
      · cases hvalid
    · cases h
  · split at h
    · cases h
    · rename_i hmarker
      exact .token hname (eq_false_iff.mpr hmarker)

lemma priced_of_validate (h : validateFixedPricingTree n = .ok ()) : Priced n := by
  induction n with rw [validateFixedPricingTree] at h
  | conditional ternary cond exp1 exp2 _ ih1 ih2 =>
    split at h
    · cases h
    rename_i hcond
    split at h
    · cases h
    · rename_i h1
      exact .conditional (eq_false_iff.mpr hcond) (ih1 h1) (ih2 h)
  | binary operator left right ihl ihr =>
    split at h
    · cases h
    rename_i hop
    rw [not_not.mp hop]
    split at h
    · rename_i hright
      exact .mulRight hright (ihl h)
    rename_i hright
    split at h
    · rename_i hleft
      exact .mulLeft (eq_false_iff.mpr hright) hleft (ihr h)
    · cases h
  | call callee arguments _ _ =>
    split at h
    · rename_i name price hargs
      rw [argumentsOf_eq_some hargs]
      exact priced_of_validateLeaf h
    · cases h
  | identifier value | integer value | float value | string value | other kind children _ => cases h
  | member optional node property _ _ => cases h

/-! ## The executed leaf -/

inductive Leaf
  | fixed (amount : Binary64)
  | token

section
variable {D S : Type} (value : Node → Except String (Value D)) (print : Node → String)
  (count : Binary64)

/-- The factor that a multiplier gives: the number of images, or the literal if the condition of the
rule holds in the program, whose own rules are traced. -/
inductive Factor (p : Patcher) : Node → Binary64 → Prop
  | imageCount : Factor p (.identifier "image_count") count
  | selected {ternary : Bool} {cond exp1 exp2 : Node} {multiplier : Binary64}
    (hcond : value (p.walk print cond).1 = .ok (.bool true))
    (hliteral : requestRuleNumber exp1 = some multiplier) :
    Factor p (.conditional ternary cond exp1 exp2) multiplier
  | skipped {ternary : Bool} {cond exp1 exp2 : Node}
    (hcond : value (p.walk print cond).1 = .ok (.bool false)) :
    Factor p (.conditional ternary cond exp1 exp2) Binary64.one

/-- The leaf that a run comes to and the factors around it, from the inside out. -/
inductive Executes : Patcher → Node → Leaf → List Binary64 → Prop
  | condTrue {p : Patcher} {ternary : Bool} {cond exp1 exp2 : Node} {leaf : Leaf}
    {factors : List Binary64} (hcond : value (p.walk print cond).1 = .ok (.bool true))
    (h : Executes (p.walk print cond).2 exp1 leaf factors) :
    Executes p (.conditional ternary cond exp1 exp2) leaf factors
  | condFalse {p : Patcher} {ternary : Bool} {cond exp1 exp2 : Node} {leaf : Leaf}
    {factors : List Binary64} (hcond : value (p.walk print cond).1 = .ok (.bool false))
    (h : Executes ((p.walk print cond).2.walk print exp1).2 exp2 leaf factors) :
    Executes p (.conditional ternary cond exp1 exp2) leaf factors
  | mulRight {p : Patcher} {left right : Node} {leaf : Leaf} {factors : List Binary64}
    {factor : Binary64} (hright : isRequestPriceMultiplier right = true)
    (hfactor : Factor value print count (p.walk print left).2 right factor)
    (h : Executes p left leaf factors) :
    Executes p (.binary "*" left right) leaf (factors ++ [factor])
  | mulLeft {p : Patcher} {left right : Node} {leaf : Leaf} {factors : List Binary64}
    {factor : Binary64} (hskip : isRequestPriceMultiplier right = false)
    (hfactor : Factor value print count p left factor)
    (h : Executes (p.walk print left).2 right leaf factors) :
    Executes p (.binary "*" left right) leaf (factors ++ [factor])
  | fixed {p : Patcher} {name literal : Node} {amount : Binary64}
    (hliteral : requestRuleNumber literal = some amount) :
    Executes p (tierCall name (fixedCall literal)) (.fixed amount) []
  | token {p : Patcher} {name price : Node} (hprice : containsPricingMarker price = false) :
    Executes p (tierCall name price) .token []

end

/-- The pricing calls of a run that comes to a leaf, and its price. -/
inductive Charged : Leaf → Binary64 → List Event → Prop
  | fixed (amount : Binary64) (name : String) :
    Charged (.fixed amount) (amount.mul million)
      [.fixed amount, .tier name (amount.mul million)]
  | token (name : String) (cost : Binary64) : Charged .token cost [.tier name cost]

/-- The calls of the two pricing callbacks. -/
def pricing (calls : List Event) : List Event := calls.filter (Event.isCallOf ["tier", "fixed"])

/-! ## Traced programs -/

section
variable {print : Node → String} {p : Patcher}

lemma walk_tierCall :
    (p.walk print (tierCall name price)).1
      = tierCall (p.walk print name).1 ((p.walk print name).2.walk print price).1 := rfl

lemma walk_fixedCall (h : requestRuleNumber literal = some amount) :
    (p.walk print (fixedCall literal)).1 = fixedCall literal := by
  have hwalk : (p.walk print (fixedCall literal)).1 = fixedCall (p.walk print literal).1 := rfl
  rw [hwalk, walk_literal h]

lemma walk_conditional {ternary : Bool} {cond exp1 exp2 : Node} (h1 : Priced exp1) :
    (p.walk print (.conditional ternary cond exp1 exp2)).1
      = .conditional ternary (p.walk print cond).1 ((p.walk print cond).2.walk print exp1).1
        (((p.walk print cond).2.walk print exp1).2.walk print exp2).1 := by
  rw [Patcher.walk]
  rcases visit_cases _ with hvisit | ⟨c, a, b, multiplier, hnode, hliteral, -⟩
  · exact hvisit
  · -- a part with a price is no literal
    rw [← (conditional.inj hnode).2.2.1, requestRuleNumber_walk] at hliteral
    cases h1 <;> cases hliteral

end

/-! ## Runs that price -/

section
variable {D S : Type} {x : Logged Event (Value D)} {m : Node}

/-- The pricing calls are those of a leaf that satisfies `E` with the factors around it, or a first
part of such calls if the evaluation fails; the value is the price times the factors. -/
structure Prices (E : Leaf → List Binary64 → Prop) (x : Logged Event (Value D)) : Prop where
  returned : ∀ v, x.result = .ok v → ∃ leaf factors cost,
    E leaf factors ∧ Charged leaf cost (pricing x.log) ∧ v = .float (mulAll cost factors)
  begun : ∃ leaf cost calls, Charged leaf cost calls ∧ pricing x.log <+: calls

lemma pricing_append (a b : List Event) : pricing (a ++ b) = pricing a ++ pricing b :=
  filter_append ..

lemma pricing_of_quiet {calls : List Event}
    (h : ∀ event ∈ calls, event.isCallOf ["tier", "fixed"] = false) :
    pricing calls = [] :=
  filter_eq_nil_iff.mpr fun event hevent => by simp [h event hevent]

variable {E E' : Leaf → List Binary64 → Prop}

/-- Nothing has been priced yet. -/
lemma prices_error {log : List Event} {e : String} (h : pricing log = []) :
    Prices E (⟨log, .error e⟩ : Logged Event (Value D)) := by
  refine ⟨fun v hv => (by cases hv), .token, Binary64.zero, _, .token "" Binary64.zero, ?_⟩
  change pricing log <+: _
  rw [h]
  exact nil_prefix

/-- What comes before the price calls no pricing callback. -/
lemma prices_quiet_bind {clean : List String → D → Prop}
    {f : Value D → Logged Event (Value D)} (hx : QuietRun clean ["tier", "fixed"] x)
    (hf : ∀ v, x.result = .ok v → Prices E (f v)) : Prices E (x >>= f) := by
  have hlog : pricing x.log = [] := pricing_of_quiet hx.1
  rcases hr : x.result with e | v
  · rw [bind_error hr]
    exact prices_error hlog
  obtain ⟨hreturned, hbegun⟩ := hf v hr
  rw [bind_ok hr]
  constructor
  · intro w hw
    rw [pricing_append, hlog]
    exact hreturned w hw
  · rw [pricing_append, hlog]
    exact hbegun

lemma Prices.mono (hx : Prices E x)
    (h : ∀ leaf factors, E leaf factors → E' leaf factors) : Prices E' x := by
  refine ⟨fun v hv => ?_, hx.begun⟩
  obtain ⟨leaf, factors, cost, hE, hcharged, hvalue⟩ := hx.returned v hv
  exact ⟨leaf, factors, cost, h leaf factors hE, hcharged, hvalue⟩

/-- What comes after the price calls no pricing callback, and it only changes the factors. -/
lemma Prices.bind {f : Value D → Logged Event (Value D)} (hx : Prices E x)
    (hquiet : ∀ v, ∀ event ∈ (f v).log, event.isCallOf ["tier", "fixed"] = false)
    (hvalue : ∀ leaf factors cost w, E leaf factors →
      (f (.float (mulAll cost factors))).result = .ok w →
      ∃ factors', E' leaf factors' ∧ w = .float (mulAll cost factors')) :
    Prices E' (x >>= f) := by
  obtain ⟨hreturned, leaf, cost, calls, hcharged, hprefix⟩ := hx
  rcases hr : x.result with e | v
  · rw [bind_error hr]
    exact ⟨fun v hv => (by cases hv), leaf, cost, calls, hcharged, hprefix⟩
  rw [bind_ok hr]
  have hlog : pricing (x.log ++ (f v).log) = pricing x.log := by
    rw [pricing_append, pricing_of_quiet (hquiet v), append_nil]
  constructor
  · intro w hw
    rw [hlog]
    obtain ⟨leaf, factors, cost, hE, hcharged, rfl⟩ := hreturned v hr
    obtain ⟨factors', hE', rfl⟩ := hvalue leaf factors cost w hE hw
    exact ⟨leaf, factors', cost, hE', hcharged, rfl⟩
  · rw [hlog]
    exact ⟨leaf, cost, calls, hcharged, hprefix⟩

/-! ## Evaluation at the root -/

variable {clean : List String → D → Prop} {lang : ExprLang D S} (hlang : lang.Lawful clean)
  {params : TokenParams Binary64} {imageCount : Int}
  {answer : HostFunction → List (Value D) → Except String (Value D)}
  (hanswer : ∀ names function arguments v, answer function arguments = .ok v →
    v.Clean clean names)
  {print : Node → String} {p : Patcher}

/-- The evaluation of a node outside of any scope. -/
def evalRoot (lang : ExprLang D S) (params : TokenParams Binary64) (imageCount : Int)
    (answer : HostFunction → List (Value D) → Except String (Value D)) (n : Node) :
    Logged Event (Value D) :=
  eval lang (environment params imageCount) answer n lang.start

include hlang hanswer in
lemma evalRoot_quiet {names : List String}
    (hnames : "_trace" ∉ names ∧ "_trace_int" ∉ names) (hn : n.Quiet names) :
    QuietRun clean names (evalRoot lang params imageCount answer (p.walk print n).1) := by
  apply eval_quiet (hanswer names) hlang (fun name v => clean_environment)
    (walk_quiet hnames hn)
  intro name v h
  rw [hlang.start] at h
  cases h

lemma pricingNames : "_trace" ∉ ["tier", "fixed"] ∧ "_trace_int" ∉ ["tier", "fixed"] := by
  simp

include hlang in
lemma evalRoot_identifier {name : String} (hname : name ≠ "$env") :
    evalRoot lang params imageCount answer (.identifier name)
      = pure (((environment params imageCount).lookup name).getD .nil) := by
  rw [evalRoot, eval, resolve, hlang.start, if_neg hname]

lemma evalRoot_literal {x : Binary64} (h : requestRuleNumber n = some x) :
    ∃ v, evalRoot lang params imageCount answer n = pure v ∧ v.number = some x := by
  cases n with
  | integer value => exact ⟨.int value, rfl, h⟩
  | float value => exact ⟨.float value, rfl, h⟩
  | _ => cases h

lemma evalRoot_conditional {ternary : Bool} {cond exp1 exp2 : Node} :
    evalRoot lang params imageCount answer (.conditional ternary cond exp1 exp2)
      = evalRoot lang params imageCount answer cond >>= fun condition =>
        match condition with
        | .bool true => evalRoot lang params imageCount answer exp1
        | .bool false => evalRoot lang params imageCount answer exp2
        | _ => fail "the condition is not a boolean" := by
  rw [evalRoot, eval]
  rfl

lemma evalRoot_mul {left right : Node} :
    evalRoot lang params imageCount answer (.binary "*" left right)
      = evalRoot lang params imageCount answer left >>= fun x =>
        evalRoot lang params imageCount answer right >>= fun y =>
          lift (multiply lang x y) := by
  rw [evalRoot, eval, if_pos rfl]
  rfl

include hlang in
/-- A call of a function of the environment by its name. -/
lemma evalRoot_function {name : String} {arguments : List Node} {function : Value D}
    (hname : name ≠ "$env") (h : (environment params imageCount).lookup name = some function) :
    evalRoot lang params imageCount answer (.call (.identifier name) arguments)
      = collect (arguments.map (evalRoot lang params imageCount answer)) >>= fun values =>
        callValue answer function values := by
  have hfunction : evalRoot lang params imageCount answer (.identifier name) = pure function := by
    rw [evalRoot_identifier hlang hname, h]
    rfl
  rw [evalRoot, eval, evalList_eq, map_map]
  show (_ >>= fun values => evalRoot lang params imageCount answer (.identifier name) >>= _) = _
  rw [hfunction]
  rfl

include hlang in
lemma evalRoot_tierCall :
    evalRoot lang params imageCount answer (tierCall name price)
      = evalRoot lang params imageCount answer name >>= fun x =>
        evalRoot lang params imageCount answer price >>= fun y => callTier [x, y] := by
  rw [tierCall, evalRoot_function hlang (by decide) rfl]
  simp [collect, callValue]

include hlang in
lemma evalRoot_fixedCall (h : requestRuleNumber literal = some amount) :
    evalRoot lang params imageCount answer (fixedCall literal)
      = Logged.tell (.fixed amount) >>= fun _ => pure (.float (amount.mul million)) := by
  obtain ⟨v, heval, hv⟩ := @evalRoot_literal literal D S lang params imageCount answer amount h
  rw [fixedCall, evalRoot_function hlang (by decide) rfl]
  simp [collect, callValue, callFixed, heval, hv]

/-! ## Multipliers -/

lemma multiplier_cases (h : isRequestPriceMultiplier m = true) :
    m = .identifier "image_count" ∨
      ∃ ternary cond exp1 exp2 multiplier, m = .conditional ternary cond exp1 exp2 ∧
        containsPricingMarker cond = false ∧ requestRuleNumber exp1 = some multiplier ∧
        requestRuleNumber exp2 = some Binary64.one ∧ multiplier.nonneg = true := by
  unfold isRequestPriceMultiplier at h
  split at h
  · left
    rw [of_decide_eq_true h]
  · rename_i ternary cond exp1 exp2
    rw [and_eq_true, and_eq_true, not_eq_true'] at h
    obtain ⟨⟨-, hcond⟩, h⟩ := h
    split at h
    · rename_i multiplier fallback hmultiplier hfallback
      simp only [and_eq_true, not_eq_true'] at h
      rw [Binary64.eq_one h.1.1.1] at hfallback
      exact Or.inr ⟨ternary, cond, exp1, exp2, multiplier, rfl, hcond, hmultiplier, hfallback,
        h.1.1.2⟩
    · cases h
  · cases h

lemma quiet_literal {names : List String} {x : Binary64}
    (h : requestRuleNumber n = some x) : n.Quiet names := by
  cases n with
  | integer value => exact quiet_integer
  | float value => exact quiet_float
  | _ => cases h

lemma multiplier_quiet (h : isRequestPriceMultiplier m = true)
    (hname : m.pricesByName = true) : m.Quiet ["tier", "fixed"] := by
  refine ⟨?_, hname⟩
  rcases multiplier_cases h with
    rfl | ⟨ternary, cond, exp1, exp2, multiplier, rfl, hcond, hexp1, hexp2, -⟩
  · decide
  · rw [mentions_conditional, or_eq_false_iff, or_eq_false_iff]
    exact ⟨⟨hcond, (quiet_literal hexp1).1⟩, (quiet_literal hexp2).1⟩

section
variable {ternary : Bool} {cond exp1 exp2 : Node} {multiplier : Binary64} {w : Value D}

/-- A request rule that is not traced selects one of two literals. -/
lemma conditional_value (h1 : requestRuleNumber exp1 = some multiplier)
    (h2 : requestRuleNumber exp2 = some Binary64.one)
    (h : (evalRoot lang params imageCount answer (.conditional ternary cond exp1 exp2)).result
      = .ok w) :
    ∃ matched, (evalRoot lang params imageCount answer cond).result = .ok (.bool matched) ∧
      w.number = some (if matched then multiplier else Binary64.one) := by
  obtain ⟨v1, heval1, hv1⟩ := @evalRoot_literal _ D S lang params imageCount answer _ h1
  obtain ⟨v2, heval2, hv2⟩ := @evalRoot_literal _ D S lang params imageCount answer _ h2
  rw [evalRoot_conditional, heval1, heval2] at h
  obtain ⟨condition, hcond, h⟩ := of_bind_ok h
  split at h <;> cases h
  · exact ⟨true, hcond, hv1⟩
  · exact ⟨false, hcond, hv2⟩

include hlang in
lemma evalRoot_trace {name : String} {function v : Value D} {index : Int}
    (hname : name ≠ "$env") (hfunction : (environment params imageCount).lookup name = some function)
    (hliteral : evalRoot lang params imageCount answer literal = pure v) :
    evalRoot lang params imageCount answer
        (.call (.identifier name) [.integer index, cond, literal])
      = evalRoot lang params imageCount answer cond >>= fun condition =>
        callValue answer function [.int index, condition, v] := by
  have hindex : evalRoot lang params imageCount answer (.integer index) = pure (.int index) := rfl
  rw [evalRoot_function hlang hname hfunction]
  simp [collect, hindex, hliteral]

include hlang in
/-- A traced rule selects the same two numbers. -/
lemma traceCall_value {ruleIndex : Nat} (h1 : requestRuleNumber exp1 = some multiplier)
    (h : (evalRoot lang params imageCount answer
      (traceCall ruleIndex cond exp1 exp2 multiplier)).result = .ok w) :
    ∃ matched, (evalRoot lang params imageCount answer cond).result = .ok (.bool matched) ∧
      w.number = some (if matched then multiplier else Binary64.one) := by
  unfold traceCall at h
  split at h
  · rw [evalRoot_trace hlang (by decide) rfl rfl] at h
    obtain ⟨condition, hcond, h⟩ := of_bind_ok h
    cases condition with
    | bool matched =>
      refine ⟨matched, hcond, ?_⟩
      cases matched with
      | true =>
        cases h
        exact h1
      | false =>
        cases h
        exact congrArg some Binary64.ofInt_one
    | _ => cases h
  · rw [evalRoot_trace hlang (by decide) rfl rfl] at h
    obtain ⟨condition, hcond, h⟩ := of_bind_ok h
    cases condition with
    | bool matched =>
      refine ⟨matched, hcond, ?_⟩
      cases matched with
      | true | false =>
        cases h
        rfl
    | _ => cases h

end

include hlang in
/-- The value of a multiplier in the program is its factor. -/
lemma multiplier_value {w : Value D} (hm : isRequestPriceMultiplier m = true)
    (h : (evalRoot lang params imageCount answer (p.walk print m).1).result = .ok w) :
    ∃ factor, Factor (fun n => (evalRoot lang params imageCount answer n).result) print
      (Binary64.ofInt imageCount) p m factor ∧ w.number = some factor := by
  rcases multiplier_cases hm with
    rfl | ⟨ternary, cond, exp1, exp2, multiplier, rfl, hcond, h1, h2, -⟩
  · have hwalk : (p.walk print (.identifier "image_count")).1 = .identifier "image_count" := rfl
    rw [hwalk, evalRoot_identifier hlang (by decide)] at h
    cases h
    exact ⟨_, .imageCount, rfl⟩
  have hrule : ∃ matched, (evalRoot lang params imageCount answer (p.walk print cond).1).result
      = .ok (.bool matched) ∧ w.number = some (if matched then multiplier else Binary64.one) := by
    simp only [Patcher.walk, walk_literal h1, walk_literal h2] at h
    rcases @visit_cases print (p.walk print cond).2
      (.conditional ternary (p.walk print cond).1 exp1 exp2) with
      hvisit | ⟨c, a, b, multiplier', hnode, hliteral, hvisit⟩
    · rw [hvisit] at h
      exact conditional_value h1 h2 h
    obtain ⟨-, rfl, rfl, rfl⟩ := conditional.inj hnode
    rw [h1] at hliteral
    rw [hvisit, ← Option.some.inj hliteral] at h
    exact traceCall_value hlang h1 h
  obtain ⟨matched, hmatched, hw⟩ := hrule
  cases matched with
  | true => exact ⟨multiplier, .selected hmatched h1, hw⟩
  | false => exact ⟨Binary64.one, .skipped hmatched, hw⟩

/-! ## One leaf -/

lemma mulAll_append (x : Binary64) (factors : List Binary64) (factor : Binary64) :
    mulAll x (factors ++ [factor]) = (mulAll x factors).mul factor := by
  simp [mulAll]

/-- A number times the value of a multiplier, on either side. -/
lemma multiply_factor {x factor : Binary64} {w : Value D} (hw : w.number = some factor) :
    multiply lang (.float x) w = .ok (.float (x.mul factor)) ∧
      multiply lang w (.float x) = .ok (.float (x.mul factor)) := by
  cases w with
  | int value =>
    have hfactor : Binary64.ofInt value = factor := Option.some.inj hw
    rw [multiply, multiply, hfactor, Binary64.mul_comm factor x]
    exact ⟨rfl, rfl⟩
  | float value =>
    have hfactor : value = factor := Option.some.inj hw
    rw [multiply, multiply, hfactor, Binary64.mul_comm factor x]
    exact ⟨rfl, rfl⟩
  | _ => cases hw

/-- The leaf that a node of the program comes to. -/
def Comes (lang : ExprLang D S) (params : TokenParams Binary64) (imageCount : Int)
    (answer : HostFunction → List (Value D) → Except String (Value D)) (print : Node → String) :
    Patcher → Node → Leaf → List Binary64 → Prop :=
  Executes (fun n => (evalRoot lang params imageCount answer n).result) print
    (Binary64.ofInt imageCount)

include hlang hanswer in
lemma prices_fixedLeaf (hname : name.Quiet ["tier", "fixed"])
    (hliteral : requestRuleNumber literal = some amount) :
    Prices (Comes lang params imageCount answer print p (tierCall name (fixedCall literal)))
      (evalRoot lang params imageCount answer
        (p.walk print (tierCall name (fixedCall literal))).1) := by
  rw [walk_tierCall, walk_fixedCall hliteral, evalRoot_tierCall hlang,
    evalRoot_fixedCall hlang hliteral]
  apply prices_quiet_bind (evalRoot_quiet hlang hanswer pricingNames hname)
  intro x hx
  cases x with
  | string s =>
    change Prices _ (⟨[.fixed amount, .tier s (amount.mul million)],
      .ok (.float (amount.mul million))⟩ : Logged Event (Value D))
    constructor
    · rintro v ⟨⟩
      exact ⟨.fixed amount, [], _, .fixed hliteral, .fixed amount s, rfl⟩
    · exact ⟨.fixed amount, _, _, .fixed amount s, prefix_rfl⟩
  | _ =>
    -- the name is not a string: the amount has been recorded, and the call of the tier fails
    change Prices _ (⟨[.fixed amount], .error "invalid arguments"⟩ : Logged Event (Value D))
    constructor
    · rintro v ⟨⟩
    · exact ⟨.fixed amount, _, _, .fixed amount "", [.tier "" (amount.mul million)], rfl⟩

include hlang hanswer in
lemma prices_tokenLeaf (hname : name.Quiet ["tier", "fixed"])
    (hprice : price.Quiet ["tier", "fixed"]) :
    Prices (Comes lang params imageCount answer print p (tierCall name price))
      (evalRoot lang params imageCount answer (p.walk print (tierCall name price)).1) := by
  rw [walk_tierCall, evalRoot_tierCall hlang]
  apply prices_quiet_bind (evalRoot_quiet hlang hanswer pricingNames hname)
  intro x hx
  apply prices_quiet_bind (evalRoot_quiet hlang hanswer pricingNames hprice)
  intro y hy
  unfold callTier
  split
  · rename_i s y hargs
    split
    · rename_i cost hcost
      change Prices _ (⟨[.tier s cost], .ok (.float cost)⟩ : Logged Event (Value D))
      constructor
      · rintro v ⟨⟩
        exact ⟨.token, [], cost, .token hprice.1, .token s cost, rfl⟩
      · exact ⟨.token, cost, _, .token s cost, prefix_rfl⟩
    · exact prices_error rfl
  · exact prices_error rfl

include hlang hanswer in
/-- **A run of an accepted expression prices one leaf.** -/
theorem prices_of_priced (hn : Priced n) (hname : n.pricesByName = true) :
    Prices (Comes lang params imageCount answer print p n)
      (evalRoot lang params imageCount answer (p.walk print n).1) := by
  induction hn generalizing p with
  | conditional hcond h1 h2 ih1 ih2 =>
    rename_i ternary cond exp1 exp2
    simp only [pricesByName, reachedByName, and_eq_true] at hname
    rw [walk_conditional h1, evalRoot_conditional]
    apply prices_quiet_bind (evalRoot_quiet hlang hanswer pricingNames ⟨hcond, hname.1.1⟩)
    intro condition hcondition
    split
    · exact (ih1 hname.1.2).mono fun leaf factors => .condTrue hcondition
    · exact (ih2 hname.2).mono fun leaf factors => .condFalse hcondition
    · exact prices_error rfl
  | mulRight hright hleft ih =>
    rename_i left right
    simp only [pricesByName, reachedByName, and_eq_true] at hname
    rw [walk_binary, evalRoot_mul]
    have hquiet := @evalRoot_quiet _ _ _ _ _ hlang params imageCount _ hanswer print
      (p.walk print left).2 _ pricingNames (multiplier_quiet hright hname.2)
    apply (ih hname.1).bind
    · intro v
      have hproduct : Logged.Ensures
          (fun event : Event => event.isCallOf ["tier", "fixed"] = false) (fun _ => True)
          (evalRoot lang params imageCount answer ((p.walk print left).2.walk print right).1
            >>= fun y => lift (multiply lang v y)) :=
        hquiet.bind fun y _ => ensures_lift fun _ _ => trivial
      exact hproduct.1
    · intro leaf factors cost w hleaf hw
      obtain ⟨y, hy, hw⟩ := of_bind_ok hw
      obtain ⟨factor, hfactor, hnumber⟩ := multiplier_value hlang hright hy
      rw [lift, (multiply_factor hnumber).1] at hw
      refine ⟨factors ++ [factor], .mulRight hright hfactor hleaf, ?_⟩
      rw [mulAll_append, ← Except.ok.inj hw]
  | mulLeft hskip hleft hright ih =>
    rename_i left right
    simp only [pricesByName, reachedByName, and_eq_true] at hname
    rw [walk_binary, evalRoot_mul]
    apply prices_quiet_bind (evalRoot_quiet hlang hanswer pricingNames (multiplier_quiet hleft hname.1))
    intro x hx
    obtain ⟨factor, hfactor, hnumber⟩ := multiplier_value hlang hleft hx
    apply (ih hname.2).bind
    · exact fun v event hevent => absurd hevent not_mem_nil
    · intro leaf factors cost w hleaf hw
      rw [lift, (multiply_factor hnumber).2] at hw
      refine ⟨factors ++ [factor], .mulLeft hskip hfactor hleaf, ?_⟩
      rw [mulAll_append, ← Except.ok.inj hw]
  | fixed hmarker hliteral hnonneg hfinite =>
    rename_i name literal amount
    simp only [tierCall, fixedCall, pricesByName, reachedByName, reachedByNameList,
      and_eq_true] at hname
    exact prices_fixedLeaf hlang hanswer ⟨hmarker, hname.2.1⟩ hliteral
  | token hmarker hprice =>
    rename_i name price
    simp only [tierCall, pricesByName, reachedByName, reachedByNameList,
      and_eq_true] at hname
    exact prices_tokenLeaf hlang hanswer ⟨hmarker, hname.2.1⟩ ⟨hprice, hname.2.2.1⟩

end

end NewApi.Billingexpr
