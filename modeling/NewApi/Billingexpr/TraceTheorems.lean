import NewApi.Billingexpr.FixedTheorems
import NewApi.Billingexpr.TraceProgram

/-!
# Tracing keeps the meaning of an expression

The program with traced request rules gives the number that the expression gives, or fails when it
fails, and it marks rule `i` when the condition of the `i`-th rule has been evaluated to true. Runs
of one entry have their own copies of the rules, so they do not mark each other's.
-/

namespace NewApi.Billingexpr

open List Patcher TraceResult
open Logged (SameEnd)

/-! ## The patcher -/

section
variable {print : Node → String} {p : Patcher}

/-- An invariant of the visits is one of the walk. -/
lemma walk_invariant {I : Patcher → Prop}
    (hvisit : ∀ (q : Patcher) (m : Node), I q → I (q.visit print m).2) {n : Node} (hp : I p) :
    I (p.walk print n).2 := by
  have hlist : ∀ {ns : List Node} {p : Patcher}, I p →
      (∀ n ∈ ns, ∀ p : Patcher, I p → I (p.walk print n).2) → I (p.walkList print ns).2 := by
    intro ns
    induction ns with
    | nil => exact fun hp _ => hp
    | cons n ns ih =>
      intro p hp h
      rw [walkList]
      exact ih (h n mem_cons_self p hp) fun m hm => h m (mem_cons_of_mem n hm)
  induction n generalizing p with
  | identifier value => exact hvisit p _ hp
  | integer value | float value | string value => exact hp
  | binary operator left right ihl ihr => exact ihr (ihl hp)
  | member optional node property ihn ihp => exact ihp (ihn hp)
  | call callee arguments ihc iha => exact hlist (ihc hp) fun m hm q => iha m hm
  | conditional ternary cond exp1 exp2 ihc ih1 ih2 =>
    rw [walk]
    exact hvisit _ _ (ih2 (ih1 (ihc hp)))
  | other kind children ih => exact hlist hp fun m hm q => ih m hm

/-- The rules of an entry are not marked. -/
lemma walk_unmatched {n : Node} (hp : ∀ rule ∈ p.requestRules, rule.matched = false) :
    ∀ rule ∈ (p.walk print n).2.requestRules, rule.matched = false := by
  refine @walk_invariant print p (fun q => ∀ rule ∈ q.requestRules, rule.matched = false) ?_ n hp
  intro q m hq
  cases m with
  | identifier value =>
    rw [visit]
    split <;> exact hq
  | conditional ternary cond exp1 exp2 =>
    rcases hrule : (Node.conditional ternary cond exp1 exp2).isRequestRule with - | -
    · rw [visit_plain hrule]
      exact hq
    obtain ⟨multiplier, -, hvisit⟩ := @visit_rule print q _ _ _ _ hrule
    rw [hvisit]
    intro rule hmem
    rcases mem_append.mp hmem with hold | hnew
    · exact hq rule hold
    · rw [mem_singleton.mp hnew]
  | _ => exact hq

/-- A tree without the reserved names is not rejected for one. -/
lemma walk_unrestricted {n : Node} (hn : n.mentions traceNames = false) :
    (p.walk print n).2.restrictedIdentifier = p.restrictedIdentifier := by
  have hlist : ∀ {ns : List Node} {p : Patcher},
      (∀ n ∈ ns, ∀ p : Patcher, (p.walk print n).2.restrictedIdentifier = p.restrictedIdentifier) →
      (p.walkList print ns).2.restrictedIdentifier = p.restrictedIdentifier := by
    intro ns
    induction ns with
    | nil => exact fun _ => rfl
    | cons n ns ih =>
      intro p h
      rw [walkList, ih fun m hm => h m (mem_cons_of_mem n hm), h n mem_cons_self]
  induction n generalizing p with
  | identifier value =>
    have hvalue : ¬(value = "_trace" ∨ value = "_trace_int") := by
      simpa [traceNames] using hn
    rw [walk, visit, if_neg hvalue]
  | integer value | float value | string value => rfl
  | binary operator left right ihl ihr =>
    rw [Node.mentions_binary, Bool.or_eq_false_iff] at hn
    rw [walk_binary, ihr hn.2, ihl hn.1]
  | member optional node property ihn ihp =>
    rw [Node.mentions_member, Bool.or_eq_false_iff] at hn
    rw [walk_member, ihp hn.2, ihn hn.1]
  | call callee arguments ihc iha =>
    rw [Node.mentions_call, Bool.or_eq_false_iff, any_eq_false] at hn
    rw [walk_call, hlist fun m hm q => iha m hm (by simpa using hn.2 m hm), ihc hn.1]
  | conditional ternary cond exp1 exp2 ihc ih1 ih2 =>
    rw [Node.mentions_conditional, Bool.or_eq_false_iff, Bool.or_eq_false_iff] at hn
    rcases hrule : (Node.conditional ternary cond exp1 exp2).isRequestRule with - | -
    · rw [walk_plain hrule, ih2 hn.2, ih1 hn.1.2, ihc hn.1.1]
    · obtain ⟨multiplier, -, hwalk⟩ := @walk_rule print p _ _ _ _ hrule
      rw [hwalk, ihc hn.1.1]
  | other kind children ih =>
    rw [Node.mentions_other, any_eq_false] at hn
    rw [walk_other, hlist fun m hm q => ih m hm (by simpa using hn m hm)]

end

/-! ## Marks -/

lemma record_rules (trace : TraceResult) (event : Event) (i : ℕ) :
    (trace.record event).requestRules[i]?
      = trace.requestRules[i]?.map fun rule =>
        { rule with matched := rule.matched || event = .rule i } := by
  cases event with
  | tier name value | fixed amount => simp [record]
  | rule index =>
    rw [record]
    split
    · rename_i hindex
      obtain ⟨k, rfl⟩ := Int.eq_ofNat_of_zero_le hindex
      rw [List.getElem?_modify]
      by_cases hk : k = i
      · subst hk
        simp
      · simp [hk]
    rename_i hindex
    have hne : Event.rule index ≠ .rule i := by
      rintro ⟨⟩
      omega
    simp [hne]

/-- After the calls of a run, the rules that were reported are marked. -/
lemma foldl_record_rules (trace : TraceResult) (calls : List Event) (i : ℕ) :
    (calls.foldl record trace).requestRules[i]?
      = trace.requestRules[i]?.map fun rule =>
        { rule with matched := rule.matched || decide (.rule i ∈ calls) } := by
  induction calls generalizing trace with
  | nil => simp
  | cons event calls ih =>
    rw [foldl_cons, ih, record_rules, Option.map_map]
    congr 1
    funext rule
    simp [Bool.or_assoc, eq_comm]

/-! ## Concurrent runs -/

section
variable {D S : Type}

/-- The trace of a run before its first call. -/
def CachedEntry.newTrace (entry : CachedEntry) (request : RequestInput D) : TraceResult where
  imageCount :=
    if entry.usedVars "image_count" ∧ 1 ≤ entry.imageCount request ∧
        entry.imageCount request ≤ maxImageN then some (entry.imageCount request)
    else none
  billingUnit := .token
  fixedPrice := none
  matchedTier := ""
  requestRules := entry.requestRules
  cost := Binary64.zero

/-- What runs of one entry do to their traces: a run starts with a copy of the rules of the entry,
and its callbacks write to its own trace. -/
inductive TraceStep (D : Type)
  | start (run : ℕ) (request : RequestInput D)
  | call (run : ℕ) (event : Event)

def TraceStep.run : TraceStep D → ℕ
  | .start run _ => run
  | .call run _ => run

def TraceStep.apply (entry : CachedEntry) (traces : ℕ → Option TraceResult) :
    TraceStep D → ℕ → Option TraceResult
  | .start run request => Function.update traces run (some (entry.newTrace request))
  | .call run event => Function.update traces run ((traces run).map (·.record event))

/-- The traces after the steps, from no runs. -/
def tracesAfter (entry : CachedEntry) (steps : List (TraceStep D)) : ℕ → Option TraceResult :=
  steps.foldl (TraceStep.apply entry) fun _ => none

variable {entry : CachedEntry} {traces : ℕ → Option TraceResult} {run : ℕ}

/-- A step leaves the traces of the other runs alone. -/
lemma apply_other {step : TraceStep D} (h : step.run ≠ run) :
    step.apply entry traces run = traces run := by
  cases step with
  | start other request | call other event => exact Function.update_of_ne (Ne.symm h) _ _

/-- The steps of a run after its start. -/
lemma foldl_apply_calls {steps : List (TraceStep D)} {calls : List Event} {trace : TraceResult}
    (h : steps.filter (fun step => step.run = run) = calls.map (.call run))
    (htrace : traces run = some trace) :
    steps.foldl (TraceStep.apply entry) traces run = some (calls.foldl record trace) := by
  induction steps generalizing traces calls trace with
  | nil =>
    rw [filter_nil, eq_comm, map_eq_nil_iff] at h
    rw [h]
    exact htrace
  | cons step steps ih =>
    rw [foldl_cons]
    by_cases hrun : step.run = run
    · rw [filter_cons_of_pos (by simpa using hrun)] at h
      cases calls with
      | nil => cases h
      | cons event calls =>
        rw [map_cons, List.cons.injEq] at h
        have hstep : step.apply entry traces run = some (trace.record event) := by
          rw [h.1, TraceStep.apply, Function.update_self, htrace]
          rfl
        show _ = some (calls.foldl record (trace.record event))
        exact ih h.2 hstep
    · rw [filter_cons_of_neg (by simpa using hrun)] at h
      exact ih h (by rw [apply_other hrun, htrace])

/-- However the runs are interleaved, a run ends with the trace of its own calls. -/
lemma tracesAfter_own {steps : List (TraceStep D)} {calls : List Event} {request : RequestInput D}
    (h : steps.filter (fun step => step.run = run) = .start run request :: calls.map (.call run)) :
    tracesAfter entry steps run = some (calls.foldl record (entry.newTrace request)) := by
  have hgeneral : ∀ traces : ℕ → Option TraceResult,
      steps.foldl (TraceStep.apply entry) traces run
        = some (calls.foldl record (entry.newTrace request)) := by
    induction steps with
    | nil => cases h
    | cons step steps ih =>
      intro traces
      rw [foldl_cons]
      by_cases hrun : step.run = run
      · rw [filter_cons_of_pos (by simpa using hrun), List.cons.injEq] at h
        refine foldl_apply_calls h.2 ?_
        rw [h.1, TraceStep.apply, Function.update_self]
      · rw [filter_cons_of_neg (by simpa using hrun)] at h
        exact ih h _
  exact hgeneral _

/-! ## The theorem -/

/-- `compileEntry` without the patcher. -/
def compileUntraced (compiler : ExprCompiler) (tree : Node) : Except String Node :=
  match checkFixedPricing tree with
  | .error e => .error ("expr compile error: " ++ e)
  | .ok () =>
    match compiler.compile tree with
    | .error e => .error ("expr compile error: " ++ e)
    | .ok program => .ok program

/-- The type checker gives a trace call the type of the rule that it replaces, and it accepts a
double where only the number of a rule counts. -/
def ExprCompiler.AcceptsTraces (compiler : ExprCompiler) : Prop :=
  ∀ tree, Keeps .number tree →
    ((∃ program, compiler.compile (Patcher.walk compiler.print ⟨[], ""⟩ tree).1 = .ok program) ↔
      ∃ program, compiler.compile tree = .ok program)

/-- What the rules of the expression report in a run. -/
def CachedEntry.reports (entry : CachedEntry) (lang : ExprLang D S) (tree : Node)
    (params : TokenParams Binary64) (request : RequestInput D) : List Event :=
  if entry.usedVars "image_count" ∧
      (entry.imageCount request < 1 ∨ maxImageN < entry.imageCount request) then []
  else
    (observe lang (environment params (entry.imageCount request)) request.answer 0 tree
      lang.start).log

/-- A run of the traced program, compared with one of the expression as it was written. -/
structure TracedRun (lang : ExprLang D S) (tree : Node) (entry : CachedEntry)
    (params : TokenParams Binary64) (request : RequestInput D) : Prop where
  /-- The same number, or both fail. -/
  result : SameEnd (· = ·) (runProgram lang entry params request).result
    (runProgram lang { entry with prog := tree } params request).result
  rules : (runProgram lang entry params request).trace.requestRules.length = tree.ruleCount
  /-- Rule `i` is marked if its condition has been evaluated to true. -/
  matched : ∀ (i : ℕ) rule,
    (runProgram lang entry params request).trace.requestRules[i]? = some rule →
    (rule.matched = true ↔ .rule i ∈ entry.reports lang tree params request)
  /-- Whatever other runs of the entry do meanwhile. -/
  own : ∀ (steps : List (TraceStep D)) (run : ℕ),
    steps.filter (fun step => step.run = run)
      = .start run request :: (runProgram lang entry params request).calls.map (.call run) →
    tracesAfter entry steps run = some (runProgram lang entry params request).trace

end

section
variable {D S : Type} {clean : List String → D → Prop} {lang : ExprLang D S}
  {entry : CachedEntry} {params : TokenParams Binary64} {request : RequestInput D}

lemma runProgram_trace :
    (runProgram lang entry params request).trace
      = (runProgram lang entry params request).calls.foldl record
        (entry.newTrace request) := by
  rw [runProgram]
  split <;> rfl

/-- Results that are the same number are the same result of a run. -/
lemma runResult_same {mode : Mode} {r r' : Except String (Value D)}
    (h : SameEnd (mode.Rel clean) r r') : SameEnd (· = ·) (runResult r) (runResult r') := by
  cases h with
  | error => exact .error
  | ok h =>
    rw [runResult, runResult, h.number_eq]
    split
    · exact .ok rfl
    · exact .error

/-- The traced run makes the calls of the observed tree and has its result. -/
lemma run_observe {tree : Node} {print : Node → String} (hlang : lang.Lawful clean)
    (hparam : lang.Parametric clean) (harith : lang.Arithmetic clean)
    (hrequest : request.Clean clean) (hquiet : tree.Quiet traceNames)
    (hkeeps : Keeps .number tree) (hprog : entry.prog = (walk print ⟨[], ""⟩ tree).1) :
    (runProgram lang entry params request).calls = entry.reports lang tree params request ∧
      SameEnd (· = ·) (runProgram lang entry params request).result
        (runProgram lang { entry with prog := tree } params request).result := by
  have hscope : CleanScope lang clean traceNames lang.start := by
    intro name v h
    rw [hlang.start] at h
    cases h
  by_cases hrange : entry.usedVars "image_count" ∧
      (entry.imageCount request < 1 ∨ maxImageN < entry.imageCount request)
  · obtain ⟨hcalls, e, hresult⟩ := @runProgram_out D S lang entry params request hrange
    obtain ⟨-, e', hresult'⟩ := @runProgram_out D S lang { entry with prog := tree } params request
      hrange
    rw [hcalls, hresult, hresult', CachedEntry.reports, if_pos hrange]
    exact ⟨rfl, .error⟩
  obtain ⟨hcalls, hresult⟩ := @runProgram_in D S lang entry params request hrange
  obtain ⟨-, hresult'⟩ := @runProgram_in D S lang { entry with prog := tree } params request
    hrange
  rw [hcalls, hresult, hresult', CachedEntry.reports, if_neg hrange, CachedEntry.execute, hprog]
  have htraced := @walk_observe tree D S .number clean lang hlang hparam harith params
    (entry.imageCount request) request.answer (hrequest traceNames) print hkeeps hquiet ⟨[], ""⟩
    lang.start hscope
  have hwritten := @eval_observe D S clean traceNames lang hlang hparam
    (environment params (entry.imageCount request))
    (fun _ _ => clean_environment) request.answer (hrequest traceNames) tree
    hquiet 0 lang.start hscope
  have hsame : SameEnd (Mode.exact.Rel clean) _ _ := hwritten.result
  exact ⟨by simpa using htraced.log,
    (runResult_same htraced.result).trans (runResult_same hsame).symm⟩

end

/-- Operators evaluate both operands first; there are no composite values and no local variables. -/
def strictLang (apply : String → Value Empty → Value Empty → Except String (Value Empty)) :
    ExprLang Empty Unit where
  start := ()
  lookup _ _ := none
  binary operator left right scope := do
    let x ← left scope
    let y ← right scope
    Logged.lift (apply operator x y)
  operate kind _ _ :=
    match kind with
    | .bool value => pure (.bool value)
    | _ => Logged.fail "invalid operation"
  fetch _ _ _ := .error "invalid operation"
  multiply _ _ := .error "invalid operation"

section
variable {apply : String → Value Empty → Value Empty → Except String (Value Empty)}
  (happly : ∀ operator x y v, apply operator x y = .ok v →
    ∀ names, v.Clean (fun _ value => value.elim) names)

include happly in
lemma strictLang_lawful : (strictLang apply).Lawful fun _ value => value.elim where
  start _ := rfl
  binary names operator left right hleft hright scope hscope := by
    apply (hleft scope hscope).bind
    intro x hx
    apply (hright scope hscope).bind
    intro y hy
    exact Logged.ensures_lift fun v hv => happly operator x y v hv names
  operate names kind children hchildren scope hscope := by
    cases kind with
    | bool value => exact Logged.ensures_pure trivial
    | _ => exact Logged.ensures_fail
  fetch names optional base key v hbase hkey h := by cases h
  multiply names x y v hx hy h := by cases h

include happly in
lemma strictLang_parametric : (strictLang apply).Parametric fun _ value => value.elim where
  binary names keep operator left left' right right' hleft hright scope hscope := by
    apply (hleft scope hscope).bind
    rintro x - ⟨rfl, -⟩
    apply (hright scope hscope).bind
    rintro y - ⟨rfl, -⟩
    exact Logged.relates_lift (sameEnd_self fun v hv => happly operator x y v hv names)
  operate names keep kind children children' hchildren scope hscope := by
    cases kind with
    | bool value => exact Logged.relates_pure ⟨rfl, trivial⟩
    | _ => exact Logged.relates_fail

/-- Arithmetic of the language, where it has none but remainders. -/
lemma strictLang_arithmetic
    (hnone : ∀ operator ∈ ["+", "-", "/"], ∀ x y v, apply operator x y ≠ .ok v) :
    (strictLang apply).Arithmetic fun _ value => value.elim where
  lookup _ _ _ _ _ _ := rfl
  left operator hoperator left left' right right' hleft hright scope hscope := by
    apply (hleft scope hscope).bind
    rintro x - ⟨z, rfl, rfl⟩
    apply (hright scope hscope).bind
    rintro y - ⟨rfl, -⟩
    apply Logged.relates_lift
    rcases h : apply operator (.float z) y with e | v
    · exact .error
    · exact absurd h (hnone operator hoperator _ _ v)
  right operator hoperator left left' right right' hleft hright scope hscope := by
    apply (hleft scope hscope).bind
    rintro x - ⟨rfl, -⟩
    apply (hright scope hscope).bind
    rintro y - ⟨z, rfl, rfl⟩
    apply Logged.relates_lift
    rcases h : apply operator x (.float z) with e | v
    · exact .error
    · exact absurd h (hnone operator hoperator _ _ v)
  multiply x v w h := by
    rcases h with h | h <;> cases h

end

/-- Remainders of integers and equality of truth values. -/
def remainder (operator : String) (x y : Value Empty) : Except String (Value Empty) :=
  match operator, x, y with
  | "%", .int x, .int y => if y = 0 then .error "integer divide by zero" else .ok (.int (x.tmod y))
  | "==", .bool x, .bool y => .ok (.bool (x == y))
  | _, _, _ => .error "invalid operation"

def remainderLang : ExprLang Empty Unit := strictLang remainder

lemma remainder_clean : ∀ operator x y v, remainder operator x y = .ok v →
    ∀ names, v.Clean (fun _ value => value.elim) names := by
  intro operator x y v h names
  unfold remainder at h
  split at h
  · split at h <;> cases h
    trivial
  · cases h
    trivial
  · cases h

lemma remainder_arithmetic :
    ∀ operator ∈ ["+", "-", "/"], ∀ x y v, remainder operator x y ≠ .ok v := by
  intro operator hoperator x y v h
  unfold remainder at h
  split at h
  · simp at hoperator
  · simp at hoperator
  · cases h

/-- `param("fast") == value ? multiplier : fallback`. -/
def ruleOn (value : Bool) (multiplier fallback : Node) : Node :=
  .conditional true
    (.binary "==" (.call (.identifier "param") [.string "fast"]) (.other (.bool value) []))
    multiplier fallback

lemma keeps_ruleOn {value : Bool} {multiplier fallback : Node} (h1 : Keeps .number multiplier)
    (h2 : Keeps .number fallback) : Keeps .number (ruleOn value multiplier fallback) := by
  refine .conditional (fun _ h => by cases h) (.binary (.call .identifier ?_) (.other ?_)) h1 h2
  · intro n hn
    rw [mem_singleton.mp hn]
    exact .string
  · exact nofun

/-- `tier("base", p * 2) * (param("fast") == true ? 0.5 : 1)`. -/
def halfPrice : Node :=
  .binary "*" (tierCall (.string "base") (.binary "*" (.identifier "p") (.integer 2)))
    (ruleOn true (.float half) (.integer 1))

/-- `5 % (param("fast") == true ? 2 : 1.0)`. -/
def remainderRule : Node :=
  .binary "%" (.integer 5) (ruleOn true (.integer 2) (.float Binary64.one))

/-- `(param("fast") == false ? 0.5 : 1.0) * $env._trace(0, true, 1.0)`. -/
def envTrace : Node :=
  .binary "*" (ruleOn false (.float half) (.float Binary64.one))
    (.call (.member false (.identifier "$env") (.string "_trace"))
      [.integer 0, .other (.bool true) [], .float Binary64.one])

end NewApi.Billingexpr
