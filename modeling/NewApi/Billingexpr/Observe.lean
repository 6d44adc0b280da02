import NewApi.Billingexpr.Agree

/-!
# Request rules in the expression as it was written

The request rules of a tree are counted in the order in which the patcher meets them. `observe`
evaluates the tree as it was written and reports rule `i` when its condition is true; apart from
these reports it does what `eval` does (`eval_observe`).
-/

namespace NewApi.Billingexpr

open Node

open Logged (tell fail lift Relates)

/-! ## Rules of a tree -/

namespace Node

/-- `<request-probe condition> ? <numeric literal> : 1`. -/
def isRequestRule : Node → Bool
  | .conditional ternary cond exp1 exp2 =>
    ternary && usesRequestProbe cond && (requestRuleNumber exp1).isSome &&
      (requestRuleNumber exp2).any (Binary64.eq · Binary64.one)
  | _ => false

mutual

/-- The number of request rules in a tree. -/
def ruleCount : Node → ℕ
  | .identifier _ => 0
  | .integer _ => 0
  | .float _ => 0
  | .string _ => 0
  | .binary _ left right => left.ruleCount + right.ruleCount
  | .member _ node property => node.ruleCount + property.ruleCount
  | .call callee arguments => callee.ruleCount + ruleCountList arguments
  | .conditional ternary cond exp1 exp2 =>
    cond.ruleCount + exp1.ruleCount + exp2.ruleCount +
      if (conditional ternary cond exp1 exp2).isRequestRule then 1 else 0
  | .other _ children => ruleCountList children

def ruleCountList : List Node → ℕ
  | [] => 0
  | n :: ns => n.ruleCount + ruleCountList ns

end

/-- The parts of a request rule. -/
lemma isRequestRule_iff {ternary : Bool} {cond exp1 exp2 : Node} :
    (conditional ternary cond exp1 exp2).isRequestRule = true ↔
      ternary = true ∧ usesRequestProbe cond = true ∧
        (∃ multiplier, requestRuleNumber exp1 = some multiplier) ∧
        ∃ fallback, requestRuleNumber exp2 = some fallback ∧ fallback.eq Binary64.one = true := by
  simp only [isRequestRule, Bool.and_eq_true, Option.isSome_iff_exists, Option.any_eq_true]
  tauto

lemma ruleCount_literal {n : Node} {x : Binary64} (h : requestRuleNumber n = some x) :
    n.ruleCount = 0 := by
  cases n <;> first | rfl | cases h

end Node

def Event.isRule : Event → Bool
  | .rule _ => true
  | _ => false

/-! ## Evaluation with reports -/

section
variable {D S : Type} (lang : ExprLang D S) (env : List (String × Value D))
  (answer : HostFunction → List (Value D) → Except String (Value D))

mutual

/-- The evaluation of a tree whose first request rule is rule `first`. The only reports of rules are
those of the conditionals of the tree. -/
def observe (first : ℕ) : Node → S → Logged Event (Value D)
  | .identifier value, scope => pure (resolve lang env scope value)
  | .integer value, _ => pure (.int value)
  | .float value, _ => pure (.float value)
  | .string value, _ => pure (.string value)
  | .binary operator left right, scope =>
    if operator = "*" then do
      let x ← observe first left scope
      let y ← observe (first + left.ruleCount) right scope
      lift (multiply lang x y)
    else
      lang.binary operator (observe first left) (observe (first + left.ruleCount) right) scope
  | .member optional node property, scope => do
    let base ← observe first node scope
    let key ← observe (first + node.ruleCount) property scope
    lift (fetchMember lang env optional base key)
  | .call callee arguments, scope => do
    let values ← Logged.collect ((observeList (first + callee.ruleCount) arguments).map (· scope))
    let function ← observe first callee scope
    (callValue answer function values).only fun event => !event.isRule
  | .conditional ternary cond exp1 exp2, scope => do
    let condition ← observe first cond scope
    match condition with
    | .bool true =>
      if (Node.conditional ternary cond exp1 exp2).isRequestRule then do
        tell (.rule (first + cond.ruleCount : ℕ))
        observe (first + cond.ruleCount) exp1 scope
      else observe (first + cond.ruleCount) exp1 scope
    | .bool false => observe (first + cond.ruleCount + exp1.ruleCount) exp2 scope
    | _ => fail "the condition is not a boolean"
  | .other kind children, scope => lang.operate kind (observeList first children) scope

def observeList (first : ℕ) : List Node → List (S → Logged Event (Value D))
  | [] => []
  | n :: ns => observe first n :: observeList (first + n.ruleCount) ns

end

end

/-! ## Observation changes nothing else -/

section
variable {D S : Type} {clean : List String → D → Prop} {names : List String}
  {lang : ExprLang D S} (hlang : lang.Lawful clean) (hparam : lang.Parametric clean)
  {env : List (String × Value D)}
  (henv : ∀ name v, name ∉ names → env.lookup name = some v → v.Clean clean names)
  {answer : HostFunction → List (Value D) → Except String (Value D)}
  (hanswer : ∀ function arguments v, answer function arguments = .ok v → v.Clean clean names)

/-- The reports of rules left aside. -/
def Event.notRule (event : Event) : Bool := !event.isRule

/-- Two lists of evaluations that agree one by one. -/
lemma forall₂_observeList {R : Comp D S → Comp D S → Prop} {first : ℕ} {ns : List Node}
    (h : ∀ n ∈ ns, ∀ i, R (eval lang env answer n) (observe lang env answer i n)) :
    List.Forall₂ R (ns.map (eval lang env answer)) (observeList lang env answer first ns) := by
  induction ns generalizing first with
  | nil => exact .nil
  | cons n ns ih =>
    exact .cons (h n List.mem_cons_self first) (ih fun m hm => h m (List.mem_cons_of_mem n hm))

include hlang hparam henv hanswer in
/-- **Observed or not, a tree gives the same value** and makes the same calls, reports aside. -/
theorem eval_observe {n : Node} (hn : n.Quiet names) {first : ℕ} :
    AgreeIn lang clean names Event.notRule (eval lang env answer n)
      (observe lang env answer first n) := by
  induction n generalizing first with
  | identifier value =>
    intro scope hscope
    obtain ⟨hmention, hname⟩ := quiet_identifier.mp hn
    rw [eval, observe]
    exact Logged.relates_pure ⟨rfl, resolve_clean henv hscope hmention hname⟩
  | integer value | float value => exact fun scope hscope => Logged.relates_pure ⟨rfl, trivial⟩
  | string value => exact fun scope hscope => Logged.relates_pure ⟨rfl, trivial⟩
  | binary operator left right ihl ihr =>
    obtain ⟨hl, hr⟩ := quiet_binary.mp hn
    intro scope hscope
    rw [eval, observe]
    split
    · apply (ihl hl scope hscope).bind
      intro x x' hx
      apply (ihr hr scope hscope).bind
      intro y y' hy
      exact Logged.relates_lift (multiply_same hlang hx hy)
    · exact hparam.binary names _ operator _ _ _ _ (ihl hl) (ihr hr) scope hscope
  | member optional node property ihn ihp =>
    obtain ⟨hbase, hp⟩ := quiet_member hn
    intro scope hscope
    rcases hbase with hbase | ⟨hisEnv, hkey⟩
    · rw [eval, observe]
      apply (ihn hbase scope hscope).bind
      intro base base' hsame
      apply (ihp hp scope hscope).bind
      intro key key' hkey
      exact Logged.relates_lift (fetchMember_same hlang hsame hkey)
    obtain ⟨key, rfl, hsafe⟩ := isSafeKey_iff.mp hkey
    rw [isEnv_iff.mp hisEnv, eval, eval, eval, observe, observe, observe]
    exact Logged.relates_lift (fetchMember_env_same hlang (fun _ _ => rfl) henv hscope hsafe)
  | call callee arguments ihc iha =>
    obtain ⟨hc, ha⟩ := quiet_call.mp hn
    intro scope hscope
    rw [eval, observe, evalList_eq]
    have hagree : List.Forall₂ (AgreeIn lang clean names Event.notRule)
        (arguments.map (eval lang env answer))
        (observeList lang env answer (first + callee.ruleCount) arguments) :=
      forall₂_observeList fun m hm i => iha m hm (ha m hm)
    have hargs : List.Forall₂ (Relates Event.notRule (Value.Same clean names))
        ((arguments.map (eval lang env answer)).map (· scope))
        ((observeList lang env answer (first + callee.ruleCount) arguments).map (· scope)) :=
      List.forall₂_map_left_iff.mpr
        (List.forall₂_map_right_iff.mpr (hagree.imp fun c c' h => h scope hscope))
    apply (Logged.relates_collect hargs).bind
    intro values values' hvalues
    apply (ihc hc scope hscope).bind
    intro function function' hfunction
    rw [← hfunction.1, ← Value.Same.eq_of_forall₂ hvalues]
    have hquiet := @callValue_quiet D names clean answer hanswer values function hfunction.2
    exact Logged.relates_only (fun _ _ hkeep => hkeep) fun v hv => ⟨rfl, hquiet.2 v hv⟩
  | conditional ternary cond exp1 exp2 ihc ih1 ih2 =>
    obtain ⟨hc, h1, h2⟩ := quiet_conditional.mp hn
    intro scope hscope
    rw [eval, observe]
    apply (ihc hc scope hscope).bind
    intro condition condition' hcondition
    obtain ⟨rfl, -⟩ := hcondition
    cases condition with
    | bool value =>
      cases value with
      | true =>
        dsimp only
        split
        · exact (ih1 h1 scope hscope).tell_right rfl
        · exact ih1 h1 scope hscope
      | false => exact ih2 h2 scope hscope
    | _ => exact Logged.relates_fail
  | other kind children ih =>
    intro scope hscope
    rw [eval, observe, evalList_eq]
    refine hparam.operate names _ kind _ _ (forall₂_observeList fun m hm i => ?_) scope hscope
    exact ih m hm (quiet_other.mp hn m hm)

end

end NewApi.Billingexpr
