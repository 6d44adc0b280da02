import NewApi.Billingexpr.FixedExecution
import NewApi.Billingexpr.Observe

/-!
# The traced program

The program that runs has a call of a trace callback in place of each request rule. It does what
the observed tree does: the same calls, the same reports of rules, and values that are the same as
numbers (`walk_observe`).

A rule with an integer and a float literal gives a double in the program, whatever it gives in the
tree. Such a rule may stand where only its number counts: at the root, beside a double in a product,
in the branches of a conditional that stands there (`Keeps`).
-/

namespace NewApi.Billingexpr

open List Node Patcher Binary64
open Logged (Relates SameEnd tell)

/-! ## What the patcher makes of a tree -/

variable {n : Node} {x : Binary64}

section
variable {print : Node → String} {p : Patcher}

variable {ternary : Bool} {cond exp1 exp2 : Node}

lemma visit_rule
    (h : (conditional ternary cond exp1 exp2).isRequestRule = true) :
    ∃ multiplier, requestRuleNumber exp1 = some multiplier ∧
      p.visit print (.conditional ternary cond exp1 exp2)
        = (traceCall p.requestRules.length cond exp1 exp2 multiplier,
          { p with requestRules := p.requestRules ++ [⟨print cond, multiplier, false⟩] }) := by
  obtain ⟨hternary, hprobe, ⟨multiplier, h1⟩, fallback, h2, hone⟩ := isRequestRule_iff.mp h
  refine ⟨multiplier, h1, ?_⟩
  rw [visit, hternary, hprobe, h1, h2]
  simp [hone]

lemma visit_plain
    (h : (conditional ternary cond exp1 exp2).isRequestRule = false) :
    p.visit print (.conditional ternary cond exp1 exp2)
      = (.conditional ternary cond exp1 exp2, p) := by
  rw [visit]
  split
  · rename_i hprobe
    rw [Bool.and_eq_true] at hprobe
    split
    · rename_i multiplier fallback h1 h2
      split
      · rename_i hone
        have hrule : (conditional ternary cond exp1 exp2).isRequestRule = true :=
          isRequestRule_iff.mpr ⟨hprobe.1, hprobe.2, ⟨multiplier, h1⟩, fallback, h2, hone⟩
        exact absurd hrule (by simp [h])
      · rfl
    · rfl
  · rfl

lemma literal_mentions {names : List String}
    (h : requestRuleNumber n = some x) : n.mentions names = false :=
  (quiet_literal h).1

section
variable {names : List String} (hnames : "_trace" ∉ names ∧ "_trace_int" ∉ names)

include hnames in
lemma visit_conditional_mentions {ternary : Bool} {cond exp1 exp2 : Node} :
    (p.visit print (.conditional ternary cond exp1 exp2)).1.mentions names
      = (conditional ternary cond exp1 exp2).mentions names := by
  rcases hrule : (conditional ternary cond exp1 exp2).isRequestRule with - | -
  · rw [visit_plain hrule]
  obtain ⟨multiplier, h1, hvisit⟩ := visit_rule hrule
  obtain ⟨-, -, -, fallback, h2, -⟩ := isRequestRule_iff.mp hrule
  rw [hvisit, mentions_conditional, literal_mentions h1, literal_mentions h2, Bool.or_false,
    Bool.or_false]
  unfold traceCall
  split
  · simp [hnames.2]
  · simp [hnames.1]

include hnames in
/-- The program mentions the names of the tree, and the trace callbacks. -/
lemma walk_mentions : (p.walk print n).1.mentions names = n.mentions names := by
  have hlist : ∀ {ns : List Node} {p : Patcher},
      (∀ n ∈ ns, ∀ p : Patcher, (p.walk print n).1.mentions names = n.mentions names) →
      (p.walkList print ns).1.any (mentions names) = ns.any (mentions names) := by
    intro ns
    induction ns with
    | nil => exact fun _ => rfl
    | cons n ns ih =>
      intro p h
      rw [walkList, any_cons, any_cons, h n mem_cons_self,
        ih fun m hm => h m (mem_cons_of_mem n hm)]
  induction n generalizing p with
  | identifier value | integer value | float value | string value => rfl
  | binary operator left right ihl ihr =>
    rw [walk_binary, mentions_binary, mentions_binary, ihl, ihr]
  | member optional node property ihn ihp =>
    rw [walk_member, mentions_member, mentions_member, ihn, ihp]
  | call callee arguments ihc iha =>
    rw [walk_call, mentions_call, mentions_call, ihc, hlist fun m hm q => iha m hm]
  | conditional ternary cond exp1 exp2 ihc ih1 ih2 =>
    rw [walk, visit_conditional_mentions hnames, mentions_conditional,
      mentions_conditional, ihc, ih1, ih2]
  | other kind children ih =>
    rw [walk_other, mentions_other, mentions_other, hlist fun m hm q => ih m hm]

end

lemma isRequestRule_walk {q r : Patcher} :
    (conditional ternary (p.walk print cond).1 (q.walk print exp1).1
        (r.walk print exp2).1).isRequestRule
      = (conditional ternary cond exp1 exp2).isRequestRule := by
  have hprobe : usesRequestProbe (p.walk print cond).1 = usesRequestProbe cond :=
    walk_mentions (by decide)
  simp only [isRequestRule, hprobe, requestRuleNumber_walk]

lemma walk_rule
    (h : (conditional ternary cond exp1 exp2).isRequestRule = true) :
    ∃ multiplier, requestRuleNumber exp1 = some multiplier ∧
      p.walk print (.conditional ternary cond exp1 exp2)
        = (traceCall (p.walk print cond).2.requestRules.length (p.walk print cond).1 exp1 exp2
            multiplier,
          { (p.walk print cond).2 with
            requestRules := (p.walk print cond).2.requestRules ++
              [⟨print (p.walk print cond).1, multiplier, false⟩] }) := by
  obtain ⟨-, -, ⟨multiplier, h1⟩, fallback, h2, -⟩ := isRequestRule_iff.mp h
  have hrule : (conditional ternary (p.walk print cond).1 exp1 exp2).isRequestRule = true := by
    rw [← h, ← @isRequestRule_walk print p ternary cond exp1 exp2 p p, walk_literal h1,
      walk_literal h2]
  obtain ⟨multiplier', h1', hvisit⟩ := @visit_rule print (p.walk print cond).2 _ _ _ _ hrule
  refine ⟨multiplier', h1', ?_⟩
  rw [walk, walk_literal h1, walk_literal h2]
  exact hvisit

lemma walk_plain
    (h : (conditional ternary cond exp1 exp2).isRequestRule = false) :
    p.walk print (.conditional ternary cond exp1 exp2)
      = (.conditional ternary (p.walk print cond).1 ((p.walk print cond).2.walk print exp1).1
          (((p.walk print cond).2.walk print exp1).2.walk print exp2).1,
        (((p.walk print cond).2.walk print exp1).2.walk print exp2).2) := by
  rw [walk]
  apply visit_plain
  rw [isRequestRule_walk, h]

/-- The patcher finds the request rules of the tree. -/
lemma walk_length :
    (p.walk print n).2.requestRules.length = p.requestRules.length + n.ruleCount := by
  have hlist : ∀ {ns : List Node} {p : Patcher},
      (∀ n ∈ ns, ∀ p : Patcher, (p.walk print n).2.requestRules.length
        = p.requestRules.length + n.ruleCount) →
      (p.walkList print ns).2.requestRules.length
        = p.requestRules.length + ruleCountList ns := by
    intro ns
    induction ns with
    | nil => exact fun _ => rfl
    | cons n ns ih =>
      intro p h
      rw [walkList, ruleCountList, ih fun m hm => h m (mem_cons_of_mem n hm),
        h n mem_cons_self, Nat.add_assoc]
  induction n generalizing p with
  | identifier value =>
    rw [walk, visit, ruleCount]
    split <;> rfl
  | integer value | float value | string value => rfl
  | binary operator left right ihl ihr =>
    rw [walk_binary, ruleCount, ihr, ihl, Nat.add_assoc]
  | member optional node property ihn ihp =>
    rw [walk_member, ruleCount, ihp, ihn, Nat.add_assoc]
  | call callee arguments ihc iha =>
    rw [walk_call, ruleCount, hlist fun m hm q => iha m hm, ihc, Nat.add_assoc]
  | conditional ternary cond exp1 exp2 ihc ih1 ih2 =>
    rcases hrule : (conditional ternary cond exp1 exp2).isRequestRule with - | -
    · rw [walk_plain hrule, ruleCount, hrule, ih2, ih1, ihc]
      simp only [Bool.false_eq_true, if_false]
      omega
    obtain ⟨multiplier, h1, hwalk⟩ := @walk_rule print p _ _ _ _ hrule
    obtain ⟨-, -, -, fallback, h2, -⟩ := isRequestRule_iff.mp hrule
    rw [hwalk, ruleCount, hrule, length_append, ihc, ruleCount_literal h1,
      ruleCount_literal h2]
    simp only [if_true, length_singleton]
    omega
  | other kind children ih => rw [walk_other, ruleCount, hlist fun m hm q => ih m hm]

end

/-! ## Where the type of a value counts -/

/-- How the value of a part of the tree compares with its value in the program: it is the same, it
is the same number, or both are the same double. -/
inductive Mode
  | exact
  | number
  | double
deriving DecidableEq

/-- The variables of the environment, which are doubles. -/
def doubleVariables : List String :=
  ["image_count", "p", "c", "len", "cr", "cc", "cc1h", "img", "img_cr", "img_o", "ai", "ao"]

/-- Two integer or two float literals. -/
def sameKind : Node → Node → Bool
  | .integer _, .integer _ => true
  | .float _, .float _ => true
  | _, _ => false

/-- A request rule with an integer and a float literal stands only where its number counts and not
its type: at the root, beside a double in a product, or in a branch of a conditional there. What is
made of it is a double, which is an operand of arithmetic again or the price of a tier. -/
inductive Keeps : Mode → Node → Prop
  | identifier {value : String} : Keeps .exact (.identifier value)
  | integer {value : Int} : Keeps .exact (.integer value)
  | float {value : Binary64} : Keeps .exact (.float value)
  | string {value : String} : Keeps .exact (.string value)
  | binary {operator : String} {left right : Node} :
    Keeps .exact left → Keeps .exact right → Keeps .exact (.binary operator left right)
  | member {optional : Bool} {node property : Node} :
    Keeps .exact node → Keeps .exact property → Keeps .exact (.member optional node property)
  | call {callee : Node} {arguments : List Node} :
    Keeps .exact callee → (∀ n ∈ arguments, Keeps .exact n) → Keeps .exact (.call callee arguments)
  | tier {mode : Mode} {name price : Node} :
    mode ≠ .number → Keeps .exact name → Keeps .double price → Keeps mode (tierCall name price)
  | conditional {mode : Mode} {ternary : Bool} {cond exp1 exp2 : Node} :
    ((Node.conditional ternary cond exp1 exp2).isRequestRule = true → mode = .exact →
      sameKind exp1 exp2 = true) →
    Keeps .exact cond → Keeps mode exp1 → Keeps mode exp2 →
    Keeps mode (.conditional ternary cond exp1 exp2)
  | other {kind : NodeKind} {children : List Node} :
    (∀ n ∈ children, Keeps .exact n) → Keeps .exact (.other kind children)
  | doubleVariable {value : String} : value ∈ doubleVariables → Keeps .double (.identifier value)
  | doubleLiteral {value : Binary64} : Keeps .double (.float value)
  | doubleTier {name price : Node} :
    Keeps .exact name → Keeps .exact price → Keeps .double (tierCall name price)
  | doubleFixed {amount : Node} : Keeps .exact amount → Keeps .double (fixedCall amount)
  | mulLeft {left right : Node} :
    Keeps .double left → Keeps .number right → Keeps .double (.binary "*" left right)
  | mulRight {left right : Node} :
    Keeps .number left → Keeps .double right → Keeps .double (.binary "*" left right)
  | arithmetic {operator : String} {left right : Node} : operator ∈ ["+", "-", "/"] →
    Keeps .double left → Keeps .double right → Keeps .double (.binary operator left right)
  | arithmeticLeft {operator : String} {left : Node} {value : Int} : operator ∈ ["+", "-", "/"] →
    Keeps .double left → Keeps .double (.binary operator left (.integer value))
  | arithmeticRight {operator : String} {value : Int} {right : Node} : operator ∈ ["+", "-", "/"] →
    Keeps .double right → Keeps .double (.binary operator (.integer value) right)
  | ofExact {n : Node} : Keeps .exact n → Keeps .number n
  | ofDouble {n : Node} : Keeps .double n → Keeps .number n

/-! ## Related evaluations -/

def traceNames : List String := ["_trace", "_trace_int"]

section
variable {D S : Type} {mode : Mode}

def Mode.Rel (clean : List String → D → Prop) : Mode → Value D → Value D → Prop
  | .exact, v, w => Value.Same clean traceNames v w
  | .number, v, w => Value.Same clean traceNames v w ∨ ∃ x, v.number = some x ∧ w.number = some x
  | .double, v, w => ∃ x, v = .float x ∧ w = .float x

/-- The same calls and reports, and values in the relation of the mode. -/
def RelateIn (lang : ExprLang D S) (clean : List String → D → Prop) (mode : Mode)
    (c c' : Comp D S) : Prop :=
  ∀ scope, CleanScope lang clean traceNames scope →
    Relates (fun _ => true) (mode.Rel clean) (c scope) (c' scope)

/-- Local variables do not hide the environment, and arithmetic beside a double gives a double. -/
structure ExprLang.Arithmetic (lang : ExprLang D S) (clean : List String → D → Prop) : Prop where
  lookup : ∀ scope name params imageCount v,
    (environment params imageCount : List (String × Value D)).lookup name = some v →
    lang.lookup scope name = none
  left : ∀ operator ∈ ["+", "-", "/"], ∀ left left' right right',
    RelateIn lang clean .double left left' → RelateIn lang clean .exact right right' →
    RelateIn lang clean .double (lang.binary operator left right)
      (lang.binary operator left' right')
  right : ∀ operator ∈ ["+", "-", "/"], ∀ left left' right right',
    RelateIn lang clean .exact left left' → RelateIn lang clean .double right right' →
    RelateIn lang clean .double (lang.binary operator left right)
      (lang.binary operator left' right')
  multiply : ∀ x v w, lang.multiply (.float x) v = .ok w ∨ lang.multiply v (.float x) = .ok w →
    ∃ y, w = .float y

section
variable {clean : List String → D → Prop} {v w : Value D}

lemma Mode.Rel.exact_of_double (h : Mode.double.Rel clean v w) : Mode.exact.Rel clean v w := by
  obtain ⟨x, rfl, rfl⟩ := h
  exact ⟨rfl, trivial⟩

lemma Mode.Rel.number_of_exact (h : Mode.exact.Rel clean v w) : Mode.number.Rel clean v w :=
  Or.inl h

/-- In every mode but the last, a double is a double. -/
lemma Mode.Rel.of_double (h : Mode.double.Rel clean v w) : mode.Rel clean v w := by
  cases mode with
  | exact => exact h.exact_of_double
  | number => exact h.exact_of_double.number_of_exact
  | double => exact h

lemma Mode.Rel.number_eq (h : mode.Rel clean v w) : v.number = w.number := by
  cases mode with
  | exact => rw [h.1]
  | number =>
    rcases h with h | ⟨x, hv, hw⟩
    · rw [h.1]
    · rw [hv, hw]
  | double =>
    obtain ⟨x, rfl, rfl⟩ := h
    rfl

variable {lang : ExprLang D S}

lemma multiply_notNumber (h : v.number = none) :
    multiply lang (.float x) v = lang.multiply (.float x) v ∧
      multiply lang v (.float x) = lang.multiply v (.float x) := by
  cases v with
  | int value | float value => cases h
  | _ => exact ⟨rfl, rfl⟩

variable (harith : lang.Arithmetic clean)

include harith in
/-- A product with a double, on either side. -/
lemma multiply_double (h : Mode.number.Rel clean v w) :
    SameEnd (Mode.double.Rel clean) (multiply lang (.float x) v) (multiply lang (.float x) w) ∧
      SameEnd (Mode.double.Rel clean) (multiply lang v (.float x)) (multiply lang w (.float x)) := by
  rcases hv : v.number with - | y
  · -- not a number: both sides have the same operand, which the language multiplies
    have heq : v = w := by
      rcases h with h | ⟨y, hy, -⟩
      · exact h.1
      · rw [hv] at hy
        cases hy
    subst heq
    have hfloat : ∀ r : Except String (Value D), (∀ u, r = .ok u → ∃ y, u = .float y) →
        SameEnd (Mode.double.Rel clean) r r := by
      intro r hr
      rcases r with e | u
      · exact .error
      · obtain ⟨y, rfl⟩ := hr u rfl
        exact .ok ⟨y, rfl, rfl⟩
    rw [(multiply_notNumber hv).1, (multiply_notNumber hv).2]
    exact ⟨hfloat _ fun u hu => harith.multiply x v u (Or.inl hu),
      hfloat _ fun u hu => harith.multiply x v u (Or.inr hu)⟩
  · have hw : w.number = some y := by rw [← h.number_eq, hv]
    rw [(multiply_factor hv).1, (multiply_factor hv).2, (multiply_factor hw).1,
      (multiply_factor hw).2]
    exact ⟨.ok ⟨_, rfl, rfl⟩, .ok ⟨_, rfl, rfl⟩⟩

end

/-! ## Calls of the environment -/

section
variable {clean : List String → D → Prop} {lang : ExprLang D S} (harith : lang.Arithmetic clean)
  {params : TokenParams Binary64} {imageCount : Int} {env : List (String × Value D)}
  {answer : HostFunction → List (Value D) → Except String (Value D)} {scope : S} {first : ℕ}
  {name : String} {function v1 v2 : Value D} {index : Int}

include harith in
lemma resolve_entry {v : Value D} (hname : name ≠ "$env")
    (h : (environment params imageCount).lookup name = some v) :
    resolve lang (environment params imageCount) scope name = v := by
  rw [resolve, harith.lookup scope name params imageCount v h, h]
  simp [hname]

lemma eval_function {arguments : List Node} (h : resolve lang env scope name = function) :
    eval lang env answer (.call (.identifier name) arguments) scope
      = Logged.collect ((evalList lang env answer arguments).map (· scope))
        >>= callValue answer function := by
  rw [eval, eval, h]
  rfl

lemma observe_function {arguments : List Node} (h : resolve lang env scope name = function) :
    observe lang env answer first (.call (.identifier name) arguments) scope
      = Logged.collect ((observeList lang env answer first arguments).map (· scope))
        >>= fun values => (callValue answer function values).only fun event => !event.isRule := by
  rw [observe, observe, h]
  rfl

/-- What a call of something else than a trace callback reports is no rule. -/
lemma callValue_notRule {values : List (Value D)} (hfunction : function.Clean clean traceNames) :
    ∀ event ∈ (callValue answer function values).log, event.isRule = false := by
  have hnil : ∀ event ∈ ([] : List Event), event.isRule = false :=
    fun event hevent => absurd hevent not_mem_nil
  unfold callValue
  split
  · unfold callTier
    split
    · split
      · exact fun event hevent => eq_of_mem_singleton hevent ▸ rfl
      · exact hnil
    · exact hnil
  · unfold callFixed
    split
    · split
      · exact fun event hevent => eq_of_mem_singleton hevent ▸ rfl
      · exact hnil
    · exact hnil
  · exact absurd hfunction (by simp [Value.Clean, Callback.name, traceNames])
  · exact absurd hfunction (by simp [Value.Clean, Callback.name, traceNames])
  · exact hnil
  · exact hnil

lemma callValue_only (hanswer : ∀ function arguments v, answer function arguments = .ok v →
      v.Clean clean traceNames) {values : List (Value D)}
    (hfunction : function.Clean clean traceNames) :
    Relates (fun _ => true) (Value.Same clean traceNames) (callValue answer function values)
      ((callValue answer function values).only fun event => !event.isRule) := by
  apply Logged.relates_only
  · intro event hevent _
    rw [callValue_notRule hfunction event hevent]
    rfl
  · intro v hv
    exact ⟨rfl, (callValue_quiet hanswer hfunction).2 v hv⟩

/-! ## Traced rules -/

lemma eval_trace {v : Value D} {cond literal : Node} (h : resolve lang env scope name = function)
    (hliteral : eval lang env answer literal scope = pure v) :
    eval lang env answer (.call (.identifier name) [.integer index, cond, literal]) scope
      = eval lang env answer cond scope >>= fun condition =>
        callValue answer function [.int index, condition, v] := by
  rw [eval_function h]
  simp [evalList, Logged.collect, hliteral, eval]

/-- An observed rule reports and selects a literal. -/
lemma observe_rule {ternary : Bool} {cond exp1 exp2 : Node}
    (hrule : (conditional ternary cond exp1 exp2).isRequestRule = true)
    (h1 : ∀ i, observe lang env answer i exp1 scope = pure v1)
    (h2 : ∀ i, observe lang env answer i exp2 scope = pure v2) :
    observe lang env answer first (.conditional ternary cond exp1 exp2) scope
      = observe lang env answer first cond scope >>= fun condition =>
        match condition with
        | .bool true => do
          tell (.rule (first + cond.ruleCount : ℕ))
          pure v1
        | .bool false => pure v2
        | _ => Logged.fail "the condition is not a boolean" := by
  rw [observe, hrule, if_pos rfl]
  refine bind_congr fun condition => ?_
  cases condition with
  | bool value =>
    cases value with
    | true => exact bind_congr fun _ => h1 _
    | false => exact h2 _
  | _ => rfl

lemma Keeps.not_double_integer {value : Int} : ¬Keeps .double (.integer value) := nofun

section
variable {ternary : Bool} {cond cond' exp1 exp2 : Node} {multiplier : Binary64}
  (hrule : (Node.conditional ternary cond exp1 exp2).isRequestRule = true)
  (hcond : Relates (fun _ => true) (Mode.exact.Rel clean)
    (eval lang env answer cond' scope) (observe lang env answer first cond scope))
  (htrace : resolve lang env scope "_trace" = .callback .trace)

include hrule hcond htrace in
/-- A rule that is traced as a double. -/
lemma trace_observe {R : Value D → Value D → Prop}
    (hv1 : ∀ i, observe lang env answer i exp1 scope = pure v1)
    (hv2 : ∀ i, observe lang env answer i exp2 scope = pure v2)
    (h1 : R (.float multiplier) v1) (h2 : R (.float one) v2) :
    Relates (fun _ => true) R
      (eval lang env answer (.call (.identifier "_trace")
        [.integer (first + cond.ruleCount : ℕ), cond', .float multiplier]) scope)
      (observe lang env answer first (.conditional ternary cond exp1 exp2) scope) := by
  rw [eval_trace htrace rfl, observe_rule hrule hv1 hv2]
  apply hcond.bind
  intro condition condition' hcondition
  rw [← hcondition.1]
  cases condition with
  | bool matched =>
    cases matched with
    | true => exact ⟨rfl, .ok h1⟩
    | false => exact ⟨rfl, .ok h2⟩
  | _ => exact ⟨rfl, .error⟩

include hrule hcond htrace in
/-- **A traced rule gives the number of its literal**, and a value of the same type where the mode
asks for it. -/
lemma traceCall_observe (htraceInt : resolve lang env scope "_trace_int" = .callback .traceInt)
    (hmultiplier : requestRuleNumber exp1 = some multiplier)
    (hkind : mode = .exact → sameKind exp1 exp2 = true) (h1 : Keeps mode exp1)
    (h2 : Keeps mode exp2) :
    Relates (fun _ => true) (mode.Rel clean) (eval lang env answer
        (traceCall (first + cond.ruleCount) cond' exp1 exp2 multiplier) scope)
      (observe lang env answer first (.conditional ternary cond exp1 exp2) scope) := by
  obtain ⟨-, -, -, fallback, hfallback, hone⟩ := isRequestRule_iff.mp hrule
  rw [eq_one hone] at hfallback
  cases exp1 with
  | integer m =>
    cases exp2 with
    | integer k =>
      -- both literals are integers: the callback keeps them
      have hk : k = 1 := ofInt_eq_one (Option.some.inj hfallback)
      suffices hmode : ∀ v v', Mode.exact.Rel clean v v' → mode.Rel clean v v' by
        refine Relates.mono ?_ hmode
        rw [traceCall, eval_trace htraceInt rfl,
          observe_rule hrule (fun _ => rfl) (fun _ => rfl)]
        apply hcond.bind
        intro condition condition' hcondition
        rw [← hcondition.1]
        cases condition with
        | bool matched =>
          cases matched with
          | true => exact ⟨rfl, .ok ⟨rfl, trivial⟩⟩
          | false => exact ⟨rfl, .ok ⟨by rw [hk], trivial⟩⟩
        | _ => exact ⟨rfl, .error⟩
      cases mode with
      | exact => exact fun _ _ h => h
      | number => exact fun _ _ => Mode.Rel.number_of_exact
      | double => exact absurd h1 Keeps.not_double_integer
    | float y =>
      -- one literal of each kind: the callback keeps only the numbers
      cases mode with
      | exact => exact absurd (hkind rfl) Bool.false_ne_true
      | number =>
        exact trace_observe hrule hcond htrace (fun _ => rfl) (fun _ => rfl)
          (Or.inr ⟨multiplier, rfl, hmultiplier⟩) (Or.inr ⟨one, rfl, hfallback⟩)
      | double => exact absurd h1 Keeps.not_double_integer
    | _ => cases hfallback
  | float x =>
    cases exp2 with
    | integer k =>
      cases mode with
      | exact => exact absurd (hkind rfl) Bool.false_ne_true
      | number =>
        exact trace_observe hrule hcond htrace (fun _ => rfl) (fun _ => rfl)
          (Or.inr ⟨multiplier, rfl, hmultiplier⟩) (Or.inr ⟨one, rfl, hfallback⟩)
      | double => exact absurd h2 Keeps.not_double_integer
    | float y =>
      have hx : x = multiplier := Option.some.inj hmultiplier
      have hy : y = one := Option.some.inj hfallback
      exact trace_observe hrule hcond htrace (fun _ => rfl) (fun _ => rfl)
        (Mode.Rel.of_double ⟨multiplier, rfl, by rw [hx]⟩)
        (Mode.Rel.of_double ⟨one, rfl, by rw [hy]⟩)
    | _ => cases hfallback
  | _ => cases hmultiplier

end

end

/-! ## The program does what the tree does -/

section
variable {clean : List String → D → Prop} {lang : ExprLang D S} (hlang : lang.Lawful clean)
  (hparam : lang.Parametric clean) (harith : lang.Arithmetic clean)
  {params : TokenParams Binary64} {imageCount : Int}
  {answer : HostFunction → List (Value D) → Except String (Value D)}
  (hanswer : ∀ function arguments v, answer function arguments = .ok v → v.Clean clean traceNames)
  {print : Node → String}

lemma RelateIn.number_of_exact {c c' : Comp D S} (h : RelateIn lang clean .exact c c') :
    RelateIn lang clean .number c c' :=
  fun scope hscope => (h scope hscope).mono fun _ _ => Mode.Rel.number_of_exact

lemma RelateIn.of_double {c c' : Comp D S} (h : RelateIn lang clean .double c c') :
    RelateIn lang clean mode c c' :=
  fun scope hscope => (h scope hscope).mono fun _ _ => Mode.Rel.of_double

lemma forall₂_walkList {env : List (String × Value D)} {R : Comp D S → Comp D S → Prop}
    {ns : List Node} {p : Patcher}
    (h : ∀ n ∈ ns, ∀ p : Patcher, R (eval lang env answer (p.walk print n).1)
      (observe lang env answer p.requestRules.length n)) :
    List.Forall₂ R ((p.walkList print ns).1.map (eval lang env answer))
      (observeList lang env answer p.requestRules.length ns) := by
  induction ns generalizing p with
  | nil => exact .nil
  | cons n ns ih =>
    refine .cons (h n mem_cons_self p) ?_
    rw [← @walk_length n print p]
    exact ih fun m hm => h m (mem_cons_of_mem n hm)

include harith in
/-- The variables of the environment are doubles. -/
lemma resolve_double {scope : S} {value : String} (h : value ∈ doubleVariables) :
    ∃ x, resolve lang (environment params imageCount) scope value = .float x := by
  have hentry : ∃ x, (environment params imageCount : List (String × Value D)).lookup value
      = some (.float x) := by
    simp only [doubleVariables, mem_cons, not_mem_nil, or_false] at h
    rcases h with rfl | rfl | rfl | rfl | rfl | rfl | rfl | rfl | rfl | rfl | rfl | rfl <;>
      exact ⟨_, rfl⟩
  obtain ⟨x, hx⟩ := hentry
  refine ⟨x, resolve_entry harith ?_ hx⟩
  rintro rfl
  simp [doubleVariables] at h

lemma arithmetic_ne_mul {operator : String} (h : operator ∈ ["+", "-", "/"]) : operator ≠ "*" := by
  rintro rfl
  simp at h

lemma quiet_tierCall {names : List String} {name price : Node}
    (h : (tierCall name price).Quiet names) : name.Quiet names ∧ price.Quiet names := by
  have hargs := (quiet_call.mp h).2
  exact ⟨hargs name (by simp), hargs price (by simp)⟩

/-- A tier with related name and price. -/
lemma tierCall_observe {env : List (String × Value D)} {name price : Node} {p : Patcher}
    (htier : ∀ scope, resolve lang env scope "tier" = .callback .tier)
    (hname : RelateIn lang clean .exact
      (eval lang env answer (p.walk print name).1)
      (observe lang env answer p.requestRules.length name))
    (hprice : RelateIn lang clean mode
      (eval lang env answer ((p.walk print name).2.walk print price).1)
      (observe lang env answer (p.walk print name).2.requestRules.length price)) :
    RelateIn lang clean .double
      (eval lang env answer (p.walk print (tierCall name price)).1)
      (observe lang env answer p.requestRules.length (tierCall name price)) := by
  intro scope hscope
  rw [walk_tierCall, tierCall, tierCall, eval_function (htier scope), observe_function (htier scope)]
  simp only [evalList, observeList, map_cons, map_nil, Logged.collect, bind_assoc,
    pure_bind]
  rw [← @walk_length name print p]
  apply (hname scope hscope).bind
  intro v v' hv
  apply (hprice scope hscope).bind
  intro w w' hw
  obtain rfl := hv.1
  cases v with
  | string s =>
    show Relates _ _ (callTier [.string s, w]) ((callTier [.string s, w']).only _)
    rw [callTier, callTier, ← hw.number_eq]
    split
    · exact ⟨rfl, .ok ⟨_, rfl, rfl⟩⟩
    · exact ⟨rfl, .error⟩
  | _ => exact ⟨rfl, .error⟩

include hlang hparam harith hanswer in
/-- **The traced program does what the observed tree does.** -/
theorem walk_observe (hkeeps : Keeps mode n) (hn : n.Quiet traceNames) {p : Patcher} :
    RelateIn lang clean mode
      (eval lang (environment params imageCount) answer (p.walk print n).1)
      (observe lang (environment params imageCount) answer p.requestRules.length n) := by
  induction hkeeps generalizing p with
  | @identifier value =>
    intro scope hscope
    obtain ⟨hmention, hname⟩ := quiet_identifier.mp hn
    rw [walk, visit, eval, observe]
    exact Logged.relates_pure ⟨rfl, resolve_clean (fun _ _ => clean_environment)
      hscope hmention hname⟩
  | integer | float | string => exact fun scope hscope => Logged.relates_pure ⟨rfl, trivial⟩
  | @binary operator left right _ _ ihl ihr =>
    obtain ⟨hl, hr⟩ := quiet_binary.mp hn
    intro scope hscope
    rw [walk_binary, eval, observe, ← @walk_length left print p]
    split
    · apply (ihl hl scope hscope).bind
      intro x x' hx
      apply (ihr hr scope hscope).bind
      intro y y' hy
      exact Logged.relates_lift (multiply_same hlang hx hy)
    · exact hparam.binary traceNames _ operator _ _ _ _ (ihl hl) (ihr hr) scope hscope
  | @member optional node property _ _ ihn ihp =>
    obtain ⟨hbase, hp⟩ := quiet_member hn
    intro scope hscope
    rcases hbase with hbase | ⟨hisEnv, hkey⟩
    · rw [walk_member, eval, observe, ← @walk_length node print p]
      apply (ihn hbase scope hscope).bind
      intro base base' hsame
      apply (ihp hp scope hscope).bind
      intro key key' hkey
      exact Logged.relates_lift (fetchMember_same hlang hsame hkey)
    -- the environment and a literal name are left as they are
    obtain ⟨key, rfl, hsafe⟩ := isSafeKey_iff.mp hkey
    have hwalk : (p.walk print (.member optional (.identifier "$env") (.string key))).1
        = .member optional (.identifier "$env") (.string key) := rfl
    rw [isEnv_iff.mp hisEnv, hwalk, eval, eval, eval, observe, observe, observe]
    exact Logged.relates_lift (fetchMember_env_same hlang (fun _ _ => rfl)
      (fun _ _ => clean_environment) hscope hsafe)
  | @call callee arguments _ _ ihc iha =>
    obtain ⟨hc, ha⟩ := quiet_call.mp hn
    intro scope hscope
    rw [walk_call, eval, observe, evalList_eq, ← @walk_length callee print p]
    have hagree := @forall₂_walkList D S lang answer print (environment params imageCount)
      (RelateIn lang clean .exact) arguments (p.walk print callee).2
      fun m hm q => iha m hm (ha m hm)
    have hargs := List.forall₂_map_left_iff.mpr
      (List.forall₂_map_right_iff.mpr (hagree.imp fun c c' h => h scope hscope))
    apply (Logged.relates_collect hargs).bind
    intro values values' hvalues
    apply (ihc hc scope hscope).bind
    intro function function' hfunction
    rw [← hfunction.1, ← Value.Same.eq_of_forall₂ hvalues]
    exact callValue_only hanswer hfunction.2
  | @tier mode name price hmode _ _ ihname ihprice =>
    obtain ⟨hname, hprice⟩ := quiet_tierCall hn
    exact (tierCall_observe (fun _ => resolve_entry harith (by decide) rfl) (ihname hname)
      (ihprice hprice)).of_double
  | @conditional mode ternary cond exp1 exp2 hkind _ h1 h2 ihc ih1 ih2 =>
    obtain ⟨hc, hq1, hq2⟩ := quiet_conditional.mp hn
    intro scope hscope
    rcases hrule : (conditional ternary cond exp1 exp2).isRequestRule with - | -
    · rw [walk_plain hrule, eval, observe, hrule, ← @walk_length cond print p,
        ← @walk_length exp1 print _]
      apply (ihc hc scope hscope).bind
      intro condition condition' hcondition
      rw [← hcondition.1]
      cases condition with
      | bool value =>
        cases value with
        | true => exact ih1 hq1 scope hscope
        | false => exact ih2 hq2 scope hscope
      | _ => exact Logged.relates_fail
    · obtain ⟨multiplier, hmultiplier, hwalk⟩ := @walk_rule print p _ _ _ _ hrule
      rw [hwalk, walk_length]
      exact traceCall_observe hrule (ihc hc scope hscope) (resolve_entry harith (by decide) rfl)
        (resolve_entry harith (by decide) rfl) hmultiplier (hkind hrule) h1 h2
  | @other kind children _ ih =>
    intro scope hscope
    rw [walk_other, eval, observe, evalList_eq]
    refine hparam.operate traceNames _ kind _ _ (forall₂_walkList fun m hm q => ?_) scope hscope
    exact ih m hm (quiet_other.mp hn m hm)
  | @doubleVariable value hvalue =>
    intro scope hscope
    obtain ⟨x, hx⟩ := @resolve_double D S clean lang harith params imageCount scope value hvalue
    rw [walk, visit, eval, observe, hx]
    exact Logged.relates_pure ⟨x, rfl, rfl⟩
  | @doubleLiteral value => exact fun scope hscope => Logged.relates_pure ⟨value, rfl, rfl⟩
  | @doubleTier name price _ _ ihname ihprice =>
    obtain ⟨hname, hprice⟩ := quiet_tierCall hn
    exact tierCall_observe (fun _ => resolve_entry harith (by decide) rfl) (ihname hname)
      (ihprice hprice)
  | @doubleFixed amount _ ih =>
    have hamount := (quiet_call.mp hn).2 amount (by simp)
    intro scope hscope
    have hwalk : (p.walk print (fixedCall amount)).1 = fixedCall (p.walk print amount).1 := rfl
    rw [hwalk, fixedCall, fixedCall, eval_function (resolve_entry harith (by decide) rfl),
      observe_function (resolve_entry harith (by decide) rfl)]
    simp only [evalList, observeList, map_cons, map_nil, Logged.collect, bind_assoc,
      pure_bind]
    apply (ih hamount scope hscope).bind
    intro v v' hv
    show Relates _ _ (callFixed [v]) ((callFixed [v']).only _)
    rw [callFixed, callFixed, ← hv.number_eq]
    split
    · exact ⟨rfl, .ok ⟨_, rfl, rfl⟩⟩
    · exact ⟨rfl, .error⟩
  | @mulLeft left right _ _ ihl ihr =>
    obtain ⟨hl, hr⟩ := quiet_binary.mp hn
    intro scope hscope
    rw [walk_binary, eval, observe, ← @walk_length left print p, if_pos rfl, if_pos rfl]
    apply (ihl hl scope hscope).bind
    rintro x x' ⟨z, rfl, rfl⟩
    apply (ihr hr scope hscope).bind
    intro y y' hy
    exact Logged.relates_lift (multiply_double harith hy).1
  | @mulRight left right _ _ ihl ihr =>
    obtain ⟨hl, hr⟩ := quiet_binary.mp hn
    intro scope hscope
    rw [walk_binary, eval, observe, ← @walk_length left print p, if_pos rfl, if_pos rfl]
    apply (ihl hl scope hscope).bind
    intro x x' hx
    apply (ihr hr scope hscope).bind
    rintro y y' ⟨z, rfl, rfl⟩
    exact Logged.relates_lift (multiply_double harith hx).2
  | @arithmetic operator left right hoperator _ _ ihl ihr =>
    obtain ⟨hl, hr⟩ := quiet_binary.mp hn
    have hmul := arithmetic_ne_mul hoperator
    intro scope hscope
    rw [walk_binary, eval, observe, ← @walk_length left print p, if_neg hmul, if_neg hmul]
    exact harith.left operator hoperator _ _ _ _ (ihl hl) (ihr hr).of_double scope hscope
  | @arithmeticLeft operator left value hoperator _ ihl =>
    obtain ⟨hl, -⟩ := quiet_binary.mp hn
    have hmul := arithmetic_ne_mul hoperator
    intro scope hscope
    rw [walk_binary, eval, observe, if_neg hmul, if_neg hmul]
    refine harith.left operator hoperator _ _ _ _ (ihl hl) ?_ scope hscope
    exact fun scope hscope => Logged.relates_pure ⟨rfl, trivial⟩
  | @arithmeticRight operator value right hoperator _ ihr =>
    obtain ⟨-, hr⟩ := quiet_binary.mp hn
    have hmul := arithmetic_ne_mul hoperator
    intro scope hscope
    rw [walk_binary, eval, observe, if_neg hmul, if_neg hmul]
    refine harith.right operator hoperator _ _ _ _ ?_ (ihr hr) scope hscope
    exact fun scope hscope => Logged.relates_pure ⟨rfl, trivial⟩
  | ofExact _ ih => exact (ih hn).number_of_exact
  | ofDouble _ ih => exact (ih hn).of_double

end

end

end NewApi.Billingexpr
