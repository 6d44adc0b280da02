import NewApi.Billingexpr.Run

/-!
# Ways to the entries of the environment

An expression can use an entry of the environment by its name, or fetch it from `$env`. A tree that
does not mention a pricing callback and uses `$env` only to read other entries does not call it when
it is evaluated (`eval_quiet`), and the tree with its request rules traced mentions no more of them
(`walk_quiet`).
-/

namespace NewApi.Billingexpr

open List Bool Node
open Logged (Ensures)

/-! ## Trees -/

variable {n : Node} {optional : Bool}

namespace Node

def isEnv : Node → Bool
  | .identifier value => value = "$env"
  | _ => false

/-- A literal key that is not in `names`. -/
def isSafeKey (names : List String) : Node → Bool
  | .string key => key ∉ names
  | _ => false

lemma isEnv_iff : n.isEnv = true ↔ n = .identifier "$env" := by
  cases n <;> simp [isEnv]

lemma isSafeKey_iff {names : List String} :
    n.isSafeKey names = true ↔ ∃ key, n = .string key ∧ key ∉ names := by
  cases n <;> simp [isSafeKey]

mutual

/-- The entries `names` of the environment are reached by their names only: `$env` is used for
nothing but members with other, literal names. -/
def reachedByName (names : List String) : Node → Bool
  | .identifier value => value ≠ "$env"
  | .integer _ => true
  | .float _ => true
  | .string _ => true
  | .binary _ left right => left.reachedByName names && right.reachedByName names
  | .member _ node property =>
    (node.reachedByName names || node.isEnv && property.isSafeKey names) &&
      property.reachedByName names
  | .call callee arguments => callee.reachedByName names && reachedByNameList names arguments
  | .conditional _ cond exp1 exp2 =>
    cond.reachedByName names && exp1.reachedByName names && exp2.reachedByName names
  | .other _ children => reachedByNameList names children

def reachedByNameList (names : List String) : List Node → Bool
  | [] => true
  | n :: ns => n.reachedByName names && reachedByNameList names ns

end

/-- The pricing callbacks are reached by their names only. -/
def pricesByName : Node → Bool := reachedByName ["tier", "fixed"]

lemma reachedByNameList_eq (names : List String) (ns : List Node) :
    reachedByNameList names ns = ns.all (reachedByName names) := by
  induction ns with
  | nil => rfl
  | cons n ns ih => rw [reachedByNameList, ih, all_cons]

lemma reachedByName_mono {names names' : List String} (h : names ⊆ names')
    (hn : n.reachedByName names' = true) : n.reachedByName names = true := by
  have hkey : ∀ m : Node, m.isSafeKey names' = true → m.isSafeKey names = true := by
    intro m hm
    obtain ⟨key, rfl, hsafe⟩ := isSafeKey_iff.mp hm
    exact isSafeKey_iff.mpr ⟨key, rfl, fun hmem => hsafe (h hmem)⟩
  induction n with
  | identifier value => exact hn
  | integer value | float value | string value => rfl
  | binary operator left right ihl ihr =>
    simp only [reachedByName, and_eq_true] at hn ⊢
    exact ⟨ihl hn.1, ihr hn.2⟩
  | member optional node property ihn ihp =>
    simp only [reachedByName, and_eq_true, or_eq_true] at hn ⊢
    exact ⟨hn.1.imp ihn fun henv => ⟨henv.1, hkey property henv.2⟩, ihp hn.2⟩
  | call callee arguments ihc iha =>
    simp only [reachedByName, reachedByNameList_eq, and_eq_true, all_eq_true] at hn ⊢
    exact ⟨ihc hn.1, fun m hm => iha m hm (hn.2 m hm)⟩
  | conditional ternary cond exp1 exp2 ihc ih1 ih2 =>
    simp only [reachedByName, and_eq_true] at hn ⊢
    exact ⟨⟨ihc hn.1.1, ih1 hn.1.2⟩, ih2 hn.2⟩
  | other kind children ih =>
    simp only [reachedByName, reachedByNameList_eq, all_eq_true] at hn ⊢
    exact fun m hm => ih m hm (hn m hm)

/-- No way leads from the tree to an entry in `names`. -/
def Quiet (names : List String) (n : Node) : Prop :=
  n.mentions names = false ∧ n.reachedByName names = true

section
variable {names : List String}

lemma quiet_integer {value : Int} : (integer value).Quiet names := ⟨mentions_integer, rfl⟩

lemma quiet_float {value : Binary64} : (float value).Quiet names := ⟨mentions_float, rfl⟩

lemma quiet_identifier {value : String} :
    (identifier value).Quiet names ↔ value ∉ names ∧ value ≠ "$env" := by
  simp [Quiet, mentions_identifier, reachedByName]

lemma quiet_binary {operator : String} {left right : Node} :
    (binary operator left right).Quiet names ↔ left.Quiet names ∧ right.Quiet names := by
  simp only [Quiet, mentions_binary, reachedByName, or_eq_false_iff, and_eq_true]
  tauto

lemma quiet_call {callee : Node} {arguments : List Node} :
    (call callee arguments).Quiet names ↔
      callee.Quiet names ∧ ∀ n ∈ arguments, n.Quiet names := by
  simp only [Quiet, mentions_call, reachedByName, reachedByNameList_eq, or_eq_false_iff,
    and_eq_true, any_eq_false, all_eq_true, not_eq_true, forall_and]
  tauto

lemma quiet_conditional {ternary : Bool} {cond exp1 exp2 : Node} :
    (conditional ternary cond exp1 exp2).Quiet names ↔
      cond.Quiet names ∧ exp1.Quiet names ∧ exp2.Quiet names := by
  simp only [Quiet, mentions_conditional, reachedByName, or_eq_false_iff, and_eq_true]
  tauto

lemma quiet_other {kind : NodeKind} {children : List Node} :
    (other kind children).Quiet names ↔ ∀ n ∈ children, n.Quiet names := by
  simp only [Quiet, mentions_other, reachedByName, reachedByNameList_eq, any_eq_false,
    all_eq_true, not_eq_true, forall_and]

lemma quiet_member_of {node property : Node} (hnode : node.Quiet names)
    (hproperty : property.Quiet names) : (member optional node property).Quiet names := by
  simp only [Quiet, mentions_member, reachedByName, or_eq_false_iff, and_eq_true,
    or_eq_true] at hnode hproperty ⊢
  tauto

/-- A member of something quiet, or of the environment with a safe name. -/
lemma quiet_member {node property : Node} (h : (member optional node property).Quiet names) :
    (node.Quiet names ∨ node.isEnv = true ∧ property.isSafeKey names = true) ∧
      property.Quiet names := by
  simp only [Quiet, mentions_member, reachedByName, or_eq_false_iff, and_eq_true,
    or_eq_true] at h ⊢
  tauto

end

end Node

/-! ## Values -/

def HostFunction.name : HostFunction → String
  | .header => "header"
  | .param => "param"
  | .u => "u"
  | .has => "has"
  | .hour => "hour"
  | .minute => "minute"
  | .weekday => "weekday"
  | .month => "month"
  | .day => "day"
  | .max => "max"
  | .min => "min"
  | .abs => "abs"
  | .ceil => "ceil"
  | .floor => "floor"

def Callback.name : Callback → String
  | .tier => "tier"
  | .fixed => "fixed"
  | .trace => "_trace"
  | .traceInt => "_trace_int"
  | .host function => function.name

/-- The event is a call of a pricing callback in `names`. -/
def Event.isCallOf (names : List String) : Event → Bool
  | .tier _ _ => "tier" ∈ names
  | .fixed _ => "fixed" ∈ names
  | .rule _ => false

section
variable {D S : Type} {names : List String} {clean : List String → D → Prop} {name : String}
  {v : Value D}

/-- A value that neither is nor holds a callback in `names`; `clean` says which composite ones. -/
def Value.Clean (clean : List String → D → Prop) (names : List String) : Value D → Prop
  | .callback function => function.name ∉ names
  | .env => False
  | .data value => clean names value
  | _ => True

/-- No call of a pricing callback in `names`, and a clean result. -/
def QuietRun (clean : List String → D → Prop) (names : List String)
    (x : Logged Event (Value D)) : Prop :=
  Ensures (fun event => event.isCallOf names = false) (Value.Clean clean names) x

/-- Quiet in every scope whose variables are clean. -/
def QuietIn (lang : ExprLang D S) (clean : List String → D → Prop) (names : List String)
    (c : Comp D S) : Prop :=
  ∀ scope, (∀ name v, lang.lookup scope name = some v → v.Clean clean names) →
    QuietRun clean names (c scope)

/-- The expression language calls only what it is given: an operation calls no function of the
environment by itself, and it does not find one in operands that do not hold it. -/
structure ExprLang.Lawful (lang : ExprLang D S) (clean : List String → D → Prop) : Prop where
  start : ∀ name, lang.lookup lang.start name = none
  binary : ∀ names operator left right, QuietIn lang clean names left →
    QuietIn lang clean names right → QuietIn lang clean names (lang.binary operator left right)
  operate : ∀ names kind children, (∀ c ∈ children, QuietIn lang clean names c) →
    QuietIn lang clean names (lang.operate kind children)
  fetch : ∀ names optional base key v, base.Clean clean names → key.Clean clean names →
    lang.fetch optional base key = .ok v → v.Clean clean names
  multiply : ∀ names x y v, x.Clean clean names → y.Clean clean names →
    lang.multiply x y = .ok v → v.Clean clean names

/-- What the probes answer holds no function of the environment. -/
def RequestInput.Clean (request : RequestInput D) (clean : List String → D → Prop) : Prop :=
  ∀ names function arguments v, request.answer function arguments = .ok v → v.Clean clean names

lemma clean_environment {params : TokenParams Binary64} {imageCount : Int} (hname : name ∉ names)
    (h : (environment params imageCount).lookup name = some v) : v.Clean clean names := by
  obtain ⟨before, after, hsplit, -⟩ := lookup_eq_some_iff.mp h
  have hmem : (name, v) ∈ environment params imageCount := by
    rw [hsplit]
    exact mem_append_right _ mem_cons_self
  -- each function stands under its own name
  have hentries : ∀ entry ∈ (environment params imageCount : List (String × Value D)),
      entry.1 ∉ names → entry.2.Clean clean names := by
    simp [environment, Value.Clean, Callback.name, HostFunction.name]
  exact hentries (name, v) hmem hname

/-! ## Evaluation -/

section
variable {answer : HostFunction → List (Value D) → Except String (Value D)}
  (hanswer : ∀ function arguments v, answer function arguments = .ok v → v.Clean clean names)
  {arguments : List (Value D)}

/-- An event that is none of the calls, before a clean value. -/
lemma tell_quiet {event : Event} (hevent : event.isCallOf names = false)
    (hv : v.Clean clean names) :
    QuietRun clean names (Logged.tell event >>= fun _ => pure v) := by
  refine Ensures.bind (P := fun _ => True) ?_ fun _ _ => Logged.ensures_pure hv
  exact Logged.ensures_tell hevent

include hanswer in
/-- A call of a clean value is no call in `names`. -/
lemma callValue_quiet {callee : Value D} (hcallee : callee.Clean clean names) :
    QuietRun clean names (callValue answer callee arguments) := by
  unfold callValue callTier callFixed callTrace callTraceInt
  split
  · split
    · split
      · exact tell_quiet (decide_eq_false hcallee) trivial
      · exact Logged.ensures_fail
    · exact Logged.ensures_fail
  · split
    · split
      · exact tell_quiet (decide_eq_false hcallee) trivial
      · exact Logged.ensures_fail
    · exact Logged.ensures_fail
  · split
    · split
      · split
        · exact tell_quiet rfl trivial
        · exact Logged.ensures_pure trivial
      · exact Logged.ensures_fail
    · exact Logged.ensures_fail
  · split
    · split
      · exact tell_quiet rfl trivial
      · exact Logged.ensures_pure trivial
    · exact Logged.ensures_fail
  · exact Logged.ensures_lift (hanswer _ _)
  · exact Logged.ensures_fail

variable {lang : ExprLang D S} (hlang : lang.Lawful clean) {env : List (String × Value D)}
  (henv : ∀ name v, name ∉ names → env.lookup name = some v → v.Clean clean names)

include henv in
lemma clean_getD (hname : name ∉ names) : ((env.lookup name).getD .nil).Clean clean names := by
  rcases h : env.lookup name with - | v
  · trivial
  · exact henv name v hname h

include henv in
lemma resolve_clean {scope : S}
    (hscope : ∀ name v, lang.lookup scope name = some v → v.Clean clean names)
    (hname : name ∉ names) (henvName : name ≠ "$env") :
    (resolve lang env scope name).Clean clean names := by
  unfold resolve
  split
  · rename_i v hv
    exact hscope name v hv
  · rw [if_neg henvName]
    exact clean_getD henv hname

include hlang in
lemma multiply_clean {x y : Value D} (hx : x.Clean clean names) (hy : y.Clean clean names)
    (h : multiply lang x y = .ok v) : v.Clean clean names := by
  unfold multiply at h
  split at h
  · cases h
    trivial
  · cases h
    trivial
  · cases h
    trivial
  · cases h
    trivial
  · exact hlang.multiply names _ _ v hx hy h

include hlang in
lemma fetchMember_clean {base key : Value D}
    (hbase : base.Clean clean names) (hkey : key.Clean clean names)
    (h : fetchMember lang env optional base key = .ok v) : v.Clean clean names := by
  unfold fetchMember at h
  split at h
  · exact absurd hbase id
  · exact hlang.fetch names _ _ _ v hbase hkey h

include hlang henv in
/-- A member of what `$env` stands for, with a safe name. -/
lemma fetchMember_env {scope : S} {key : String}
    (hscope : ∀ name v, lang.lookup scope name = some v → v.Clean clean names) (hsafe : key ∉ names)
    (h : fetchMember lang env optional (resolve lang env scope "$env") (.string key) = .ok v) :
    v.Clean clean names := by
  rcases hlocal : lang.lookup scope "$env" with - | base
  · rw [show resolve lang env scope "$env" = .env by simp [resolve, hlocal], fetchMember] at h
    cases h
    exact clean_getD henv hsafe
  rw [show resolve lang env scope "$env" = base by simp [resolve, hlocal]] at h
  have hkey : (Value.string key : Value D).Clean clean names := trivial
  exact fetchMember_clean hlang (hscope _ _ hlocal) hkey h

include hlang henv hanswer in
/-- **A quiet tree calls no callback in `names`**, in any scope with clean variables. -/
theorem eval_quiet (hn : n.Quiet names) : QuietIn lang clean names (eval lang env answer n) := by
  induction n with
  | identifier value =>
    intro scope hscope
    obtain ⟨hmention, hname⟩ := quiet_identifier.mp hn
    rw [eval]
    exact Logged.ensures_pure (resolve_clean henv hscope hmention hname)
  | integer value | float value => exact fun scope hscope => Logged.ensures_pure trivial
  | string value => exact fun scope hscope => Logged.ensures_pure trivial
  | binary operator left right ihl ihr =>
    obtain ⟨hl, hr⟩ := quiet_binary.mp hn
    intro scope hscope
    rw [eval]
    split
    · apply (ihl hl scope hscope).bind
      intro x hx
      apply (ihr hr scope hscope).bind
      intro y hy
      exact Logged.ensures_lift fun v => multiply_clean hlang hx hy
    · exact hlang.binary names operator _ _ (ihl hl) (ihr hr) scope hscope
  | member optional node property ihn ihp =>
    obtain ⟨hbase, hp⟩ := quiet_member hn
    intro scope hscope
    rcases hbase with hbase | ⟨hisEnv, hkey⟩
    · rw [eval]
      apply (ihn hbase scope hscope).bind
      intro base hclean
      apply (ihp hp scope hscope).bind
      intro key hkey
      exact Logged.ensures_lift fun v => fetchMember_clean hlang hclean hkey
    obtain ⟨key, rfl, hsafe⟩ := isSafeKey_iff.mp hkey
    rw [isEnv_iff.mp hisEnv, eval, eval, eval]
    exact Logged.ensures_lift fun v => fetchMember_env hlang henv hscope hsafe
  | call callee arguments ihc iha =>
    obtain ⟨hc, ha⟩ := quiet_call.mp hn
    intro scope hscope
    rw [eval, evalList_eq, map_map]
    have hargs : ∀ x ∈ arguments.map ((· scope) ∘ eval lang env answer),
        QuietRun clean names x := by
      intro x hx
      obtain ⟨n, hn', rfl⟩ := mem_map.mp hx
      exact iha n hn' (ha n hn') scope hscope
    apply (Logged.ensures_collect hargs).bind
    intro values hvalues
    apply (ihc hc scope hscope).bind
    exact fun function => callValue_quiet hanswer
  | conditional ternary cond exp1 exp2 ihc ih1 ih2 =>
    obtain ⟨hc, h1, h2⟩ := quiet_conditional.mp hn
    intro scope hscope
    rw [eval]
    apply (ihc hc scope hscope).bind
    intro condition hcondition
    split
    · exact ih1 h1 scope hscope
    · exact ih2 h2 scope hscope
    · exact Logged.ensures_fail
  | other kind children ih =>
    intro scope hscope
    rw [eval, evalList_eq]
    refine hlang.operate names kind _ (fun c hc => ?_) scope hscope
    obtain ⟨n, hn', rfl⟩ := mem_map.mp hc
    exact ih n hn' (quiet_other.mp hn n hn')

end

end

/-! ## Traced programs -/

section
variable {names : List String} (hnames : "_trace" ∉ names ∧ "_trace_int" ∉ names)
  {print : Node → String} {p : Patcher}

/-- Tracing the request rules of a tree opens no way to the environment. -/
lemma walk_reached (hn : n.reachedByName names = true) :
    (p.walk print n).1.reachedByName names = true := by
  have hlist : ∀ {ns : List Node}, (∀ n ∈ ns, ∀ p : Patcher,
      (p.walk print n).1.reachedByName names = true) →
      ∀ p : Patcher, (p.walkList print ns).1.all (reachedByName names) = true := by
    intro ns h p
    rw [all_eq_true]
    intro m hm
    obtain ⟨n, hn', q, rfl⟩ := mem_walkList hm
    exact h n hn' q
  induction n generalizing p with
  | identifier value => exact hn
  | integer value | float value | string value => rfl
  | binary operator left right ihl ihr =>
    rw [walk_binary]
    simp only [reachedByName, and_eq_true] at hn ⊢
    exact ⟨ihl hn.1, ihr hn.2⟩
  | member optional node property ihn ihp =>
    rw [walk_member]
    simp only [reachedByName, and_eq_true, or_eq_true] at hn ⊢
    refine ⟨hn.1.imp ihn fun henv => ?_, ihp hn.2⟩
    -- the environment and a literal name are left as they are
    obtain ⟨key, rfl, hsafe⟩ := isSafeKey_iff.mp henv.2
    rw [isEnv_iff.mp henv.1]
    exact ⟨rfl, henv.2⟩
  | call callee arguments ihc iha =>
    rw [walk_call]
    simp only [reachedByName, reachedByNameList_eq, and_eq_true,
      all_eq_true] at hn
    simp only [reachedByName, reachedByNameList_eq, and_eq_true]
    exact ⟨ihc hn.1, hlist (fun m hm q => iha m hm (hn.2 m hm)) _⟩
  | conditional ternary cond exp1 exp2 ihc ih1 ih2 =>
    simp only [reachedByName, and_eq_true] at hn
    rw [Patcher.walk]
    rcases @visit_cases print _ (.conditional ternary _ _ _) with
      h | ⟨c, a, b, multiplier, hnode, -, h⟩
    · rw [h]
      simp only [reachedByName, and_eq_true]
      exact ⟨⟨ihc hn.1.1, ih1 hn.1.2⟩, ih2 hn.2⟩
    rw [h, ← (conditional.inj hnode).2.1]
    unfold traceCall
    split <;> simp [reachedByName, reachedByNameList, ihc hn.1.1]
  | other kind children ih =>
    rw [walk_other]
    simp only [reachedByName, reachedByNameList_eq, all_eq_true] at hn
    rw [reachedByName, reachedByNameList_eq]
    exact hlist (fun m hm q => ih m hm (hn m hm)) _

include hnames in
lemma traceCall_quiet {ruleIndex : Nat} {cond exp1 exp2 : Node} {multiplier : Binary64}
    (hcond : cond.Quiet names) :
    (traceCall ruleIndex cond exp1 exp2 multiplier).Quiet names := by
  have htrace : ∀ name, name = "_trace" ∨ name = "_trace_int" →
      (identifier name).Quiet names := by
    intro name hname
    constructor
    · rw [mentions_identifier, decide_eq_false_iff_not]
      rcases hname with rfl | rfl
      · exact hnames.1
      · exact hnames.2
    · rcases hname with rfl | rfl <;> rfl
  unfold traceCall
  split
  · rw [quiet_call]
    refine ⟨htrace _ (Or.inr rfl), ?_⟩
    simp [hcond, quiet_integer]
  rw [quiet_call]
  refine ⟨htrace _ (Or.inl rfl), ?_⟩
  simp [hcond, quiet_integer, quiet_float]

include hnames in
lemma visit_quiet (hn : n.Quiet names) : (p.visit print n).1.Quiet names := by
  rcases @visit_cases print p n with h | ⟨cond, exp1, exp2, multiplier, rfl, -, h⟩
  · rw [h]
    exact hn
  · rw [h]
    exact traceCall_quiet hnames (quiet_conditional.mp hn).1

include hnames in
/-- Tracing the request rules of a quiet tree opens no way to the callbacks in `names`. -/
lemma walk_quiet (hn : n.Quiet names) : (p.walk print n).1.Quiet names := by
  induction n generalizing p with
  | identifier value => exact visit_quiet hnames hn
  | integer value | float value | string value => exact hn
  | binary operator left right ihl ihr =>
    obtain ⟨hl, hr⟩ := quiet_binary.mp hn
    exact quiet_binary.mpr ⟨ihl hl, ihr hr⟩
  | member optional node property ihn ihp =>
    obtain ⟨hbase, hp⟩ := quiet_member hn
    rcases hbase with hbase | ⟨hisEnv, hkey⟩
    · exact quiet_member_of (ihn hbase) (ihp hp)
    -- the environment and a literal name are left as they are
    obtain ⟨key, rfl, -⟩ := isSafeKey_iff.mp hkey
    rw [isEnv_iff.mp hisEnv] at hn ⊢
    exact hn
  | call callee arguments ihc iha =>
    obtain ⟨hc, ha⟩ := quiet_call.mp hn
    refine quiet_call.mpr ⟨ihc hc, fun m hm => ?_⟩
    obtain ⟨n, hn', q, rfl⟩ := mem_walkList hm
    exact iha n hn' (ha n hn')
  | conditional ternary cond exp1 exp2 ihc ih1 ih2 =>
    obtain ⟨hc, h1, h2⟩ := quiet_conditional.mp hn
    exact visit_quiet hnames (quiet_conditional.mpr ⟨ihc hc, ih1 h1, ih2 h2⟩)
  | other kind children ih =>
    refine quiet_other.mpr fun m hm => ?_
    obtain ⟨n, hn', q, rfl⟩ := mem_walkList hm
    exact ih n hn' (quiet_other.mp hn n hn')

end

end NewApi.Billingexpr
