import NewApi.Billingexpr.Types
import NewApi.Billingexpr.Fixed

/-!
# Compilation

`compileEntryFromCacheByHash` without its cache: the check of fixed prices on the tree as it was
parsed, and the program with a trace call in place of every request rule
(`pkg/billingexpr/compile.go`). The compiler of the expression language itself is a parameter.
-/

namespace NewApi.Billingexpr

/-! ## Request rules -/

/-- `requestRulePatcher`: the rules found so far and a reserved name that was used. -/
structure Patcher where
  requestRules : List RequestRuleTrace
  restrictedIdentifier : String

/-- The call that replaces a request rule. It keeps integers where both branches are integers. -/
def traceCall (ruleIndex : Nat) (cond exp1 exp2 : Node) (multiplier : Binary64) : Node :=
  match exp1, exp2 with
  | .integer _, .integer _ =>
    .call (.identifier "_trace_int") [.integer ruleIndex, cond, exp1]
  | _, _ => .call (.identifier "_trace") [.integer ruleIndex, cond, .float multiplier]

section
variable (print : Node → String)

/-- `Visit`, on a node whose children have been visited. -/
def Patcher.visit (p : Patcher) : Node → Node × Patcher
  | .identifier value =>
    (.identifier value,
      if value = "_trace" ∨ value = "_trace_int" then { p with restrictedIdentifier := value }
      else p)
  | .conditional ternary cond exp1 exp2 =>
    if ternary && usesRequestProbe cond then
      match requestRuleNumber exp1, requestRuleNumber exp2 with
      | some multiplier, some fallback =>
        if fallback.eq Binary64.one then
          (traceCall p.requestRules.length cond exp1 exp2 multiplier, { p with
              requestRules := p.requestRules ++ [⟨print cond, multiplier, false⟩] })
        else (.conditional ternary cond exp1 exp2, p)
      | _, _ => (.conditional ternary cond exp1 exp2, p)
    else (.conditional ternary cond exp1 exp2, p)
  | node => (node, p)

mutual

/-- `ast.Walk`: children first, from left to right. -/
def Patcher.walk (p : Patcher) : Node → Node × Patcher
  | .identifier value => p.visit print (.identifier value)
  | .integer value => p.visit print (.integer value)
  | .float value => p.visit print (.float value)
  | .string value => p.visit print (.string value)
  | .binary operator left right =>
    let l := p.walk left
    let r := l.2.walk right
    r.2.visit print (.binary operator l.1 r.1)
  | .member optional node property =>
    let n := p.walk node
    let k := n.2.walk property
    k.2.visit print (.member optional n.1 k.1)
  | .call callee arguments =>
    let f := p.walk callee
    let args := f.2.walkList arguments
    args.2.visit print (.call f.1 args.1)
  | .conditional ternary cond exp1 exp2 =>
    let c := p.walk cond
    let a := c.2.walk exp1
    let b := a.2.walk exp2
    b.2.visit print (.conditional ternary c.1 a.1 b.1)
  | .other kind children =>
    let cs := p.walkList children
    cs.2.visit print (.other kind cs.1)

def Patcher.walkList (p : Patcher) : List Node → List Node × Patcher
  | [] => ([], p)
  | n :: ns =>
    let m := p.walk n
    let ms := m.2.walkList ns
    (m.1 :: ms.1, ms.2)

end

section
variable {print : Node → String} {p : Patcher}

lemma walk_binary {operator : String} {left right : Node} :
    p.walk print (.binary operator left right)
      = (.binary operator (p.walk print left).1 ((p.walk print left).2.walk print right).1,
        ((p.walk print left).2.walk print right).2) := rfl

lemma walk_member {optional : Bool} {node property : Node} :
    p.walk print (.member optional node property)
      = (.member optional (p.walk print node).1 ((p.walk print node).2.walk print property).1,
        ((p.walk print node).2.walk print property).2) := rfl

lemma walk_call {callee : Node} {arguments : List Node} :
    p.walk print (.call callee arguments)
      = (.call (p.walk print callee).1 ((p.walk print callee).2.walkList print arguments).1,
        ((p.walk print callee).2.walkList print arguments).2) := rfl

lemma walk_other {kind : NodeKind} {children : List Node} :
    p.walk print (.other kind children)
      = (.other kind (p.walkList print children).1, (p.walkList print children).2) := rfl

/-- A visit replaces a request rule, and nothing else. -/
lemma visit_cases (n : Node) :
    (p.visit print n).1 = n ∨
      ∃ cond exp1 exp2 multiplier, n = .conditional true cond exp1 exp2 ∧
        requestRuleNumber exp1 = some multiplier ∧
        (p.visit print n).1 = traceCall p.requestRules.length cond exp1 exp2 multiplier := by
  unfold Patcher.visit
  split
  · exact Or.inl rfl
  · split
    · rename_i ternary cond exp1 exp2 hrule
      split
      · rename_i multiplier fallback hmultiplier hfallback
        split
        · rw [Bool.and_eq_true] at hrule
          obtain ⟨rfl, -⟩ := hrule
          exact Or.inr ⟨cond, exp1, exp2, multiplier, rfl, hmultiplier, rfl⟩
        · exact Or.inl rfl
      · exact Or.inl rfl
    · exact Or.inl rfl
  · exact Or.inl rfl

lemma mem_walkList {ns : List Node} {m : Node} (h : m ∈ (p.walkList print ns).1) :
    ∃ n ∈ ns, ∃ q : Patcher, m = (q.walk print n).1 := by
  induction ns generalizing p with
  | nil => cases h
  | cons n ns ih =>
    rw [Patcher.walkList] at h
    rcases List.mem_cons.mp h with rfl | h
    · exact ⟨n, List.mem_cons_self, p, rfl⟩
    · obtain ⟨n', hn', q, hq⟩ := ih h
      exact ⟨n', List.mem_cons_of_mem n hn', q, hq⟩

lemma walk_literal {n : Node} {x : Binary64} (h : requestRuleNumber n = some x) :
    p.walk print n = (n, p) := by
  cases n <;> first | rfl | cases h

lemma requestRuleNumber_visit {n : Node} (h : requestRuleNumber n = none) :
    requestRuleNumber (p.visit print n).1 = none := by
  rcases @visit_cases print p n with hvisit | ⟨cond, exp1, exp2, multiplier, -, -, hvisit⟩
  · rw [hvisit, h]
  rw [hvisit]
  unfold traceCall
  split <;> rfl

/-- The patcher keeps literals and makes none. -/
lemma requestRuleNumber_walk {n : Node} :
    requestRuleNumber (p.walk print n).1 = requestRuleNumber n := by
  cases n with
  | identifier value => exact requestRuleNumber_visit rfl
  | conditional ternary cond exp1 exp2 =>
    rw [Patcher.walk]
    exact requestRuleNumber_visit rfl
  | _ => rfl

end

end

/-! ## Entries -/

/-- The parts of `cachedEntry` that a run reads. -/
structure CachedEntry where
  prog : Node
  usedVars : String → Bool
  requestRules : List RequestRuleTrace
  fixedPricing : Bool

/-- The expression language at compile time. -/
structure ExprCompiler where
  /-- Type check and optimisation of the tree that is going to run; the optimised tree. -/
  compile : Node → Except String Node
  print : Node → String

/-- The names in a program, without those that the patcher has put there. -/
def extractUsedVars (program : Node) (name : String) : Bool :=
  name ≠ "_trace" && name ≠ "_trace_int" && program.mentions [name]

/-- The check of fixed prices, for an expression that mentions `fixed`. -/
def checkFixedPricing (tree : Node) : Except String Unit :=
  if tree.mentions ["fixed"] then validateFixedPricingTree tree else .ok ()

def compileEntry (lang : ExprCompiler) (tree : Node) : Except String CachedEntry :=
  match checkFixedPricing tree with
  | .error e => .error ("expr compile error: " ++ e)
  | .ok () =>
    let patched := Patcher.walk lang.print ⟨[], ""⟩ tree
    if patched.2.restrictedIdentifier ≠ "" then
      .error ("expr compile error: identifier \"" ++ patched.2.restrictedIdentifier ++
        "\" is reserved for internal use")
    else
      match lang.compile patched.1 with
      | .error e => .error ("expr compile error: " ++ e)
      | .ok program =>
        .ok {
          prog := patched.1
          usedVars := extractUsedVars program
          requestRules := patched.2.requestRules
          fixedPricing := tree.mentions ["fixed"] }

/-- What a compiled entry has passed, and what it holds. -/
lemma compileEntry_inv {compiler : ExprCompiler} {tree : Node} {entry : CachedEntry}
    (h : compileEntry compiler tree = .ok entry) :
    checkFixedPricing tree = .ok () ∧
      (Patcher.walk compiler.print ⟨[], ""⟩ tree).2.restrictedIdentifier = "" ∧
      ∃ program, compiler.compile (Patcher.walk compiler.print ⟨[], ""⟩ tree).1 = .ok program ∧
        entry = {
          prog := (Patcher.walk compiler.print ⟨[], ""⟩ tree).1
          usedVars := extractUsedVars program
          requestRules := (Patcher.walk compiler.print ⟨[], ""⟩ tree).2.requestRules
          fixedPricing := tree.mentions ["fixed"] } := by
  unfold compileEntry at h
  simp only at h
  split at h
  · cases h
  rename_i hvalid
  split at h
  · cases h
  rename_i hname
  split at h
  · cases h
  · rename_i program hprogram
    exact ⟨hvalid, not_not.mp hname, program, hprogram, (Except.ok.inj h).symm⟩

end NewApi.Billingexpr
