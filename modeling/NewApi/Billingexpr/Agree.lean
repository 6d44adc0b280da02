import NewApi.Billingexpr.Reach

/-!
# Evaluations that agree

Two meanings of a tree agree when they make the same calls and give the same values, or both fail.
The operations of the expression language keep agreement (`ExprLang.Parametric`): they know their
operands only by running them. A tree from which no way leads to an entry of the environment then
means the same whatever that entry is (`eval_agrees`).
-/

namespace NewApi.Billingexpr

open Node

open Logged (Relates SameEnd)

section
variable {D S : Type}

/-- The same value, which neither is nor holds an entry in `names`. -/
def Value.Same (clean : List String → D → Prop) (names : List String) (v w : Value D) : Prop :=
  v = w ∧ v.Clean clean names

/-- The local variables are clean. -/
def CleanScope (lang : ExprLang D S) (clean : List String → D → Prop) (names : List String)
    (scope : S) : Prop :=
  ∀ name v, lang.lookup scope name = some v → v.Clean clean names

/-- The same calls among those that `keep` admits and the same value, in every clean scope. -/
def AgreeIn (lang : ExprLang D S) (clean : List String → D → Prop) (names : List String)
    (keep : Event → Bool) (c c' : Comp D S) : Prop :=
  ∀ scope, CleanScope lang clean names scope →
    Relates keep (Value.Same clean names) (c scope) (c' scope)

/-- The expression language runs its operands in scopes made of the values that they give, and does
not look at the calls that they make or at the message with which they fail. -/
structure ExprLang.Parametric (lang : ExprLang D S) (clean : List String → D → Prop) : Prop where
  binary : ∀ names keep operator left left' right right',
    AgreeIn lang clean names keep left left' → AgreeIn lang clean names keep right right' →
    AgreeIn lang clean names keep (lang.binary operator left right)
      (lang.binary operator left' right')
  operate : ∀ names keep kind children children',
    List.Forall₂ (AgreeIn lang clean names keep) children children' →
    AgreeIn lang clean names keep (lang.operate kind children) (lang.operate kind children')

section
variable {clean : List String → D → Prop} {names : List String} {keep : Event → Bool}

lemma Value.Same.eq_of_forall₂ {values values' : List (Value D)}
    (h : List.Forall₂ (Value.Same clean names) values values') : values = values' := by
  induction h with
  | nil => rfl
  | cons hv _ ih => rw [hv.1, ih]

lemma forall₂_map {α β γ : Type} {R : β → γ → Prop} {f : α → β} {g : α → γ} {xs : List α}
    (h : ∀ x ∈ xs, R (f x) (g x)) : List.Forall₂ R (xs.map f) (xs.map g) :=
  List.forall₂_map_left_iff.mpr (List.forall₂_map_right_iff.mpr (List.forall₂_same.mpr h))

lemma sameEnd_self {r : Except String (Value D)} (h : ∀ v, r = .ok v → v.Clean clean names) :
    SameEnd (Value.Same clean names) r r := by
  rcases r with e | v
  · exact .error
  · exact .ok ⟨rfl, h v rfl⟩

variable {lang : ExprLang D S} (hlang : lang.Lawful clean)

include hlang in
lemma multiply_same {x x' y y' : Value D} (hx : Value.Same clean names x x')
    (hy : Value.Same clean names y y') :
    SameEnd (Value.Same clean names) (multiply lang x y) (multiply lang x' y') := by
  rw [← hx.1, ← hy.1]
  exact sameEnd_self fun v => multiply_clean hlang hx.2 hy.2

section
variable {env env' : List (String × Value D)}
  (hagree : ∀ name, name ∉ names → env.lookup name = env'.lookup name)
  (henv : ∀ name v, name ∉ names → env.lookup name = some v → v.Clean clean names)

include hlang in
lemma fetchMember_same {optional : Bool} {base base' key key' : Value D}
    (hbase : Value.Same clean names base base') (hkey : Value.Same clean names key key') :
    SameEnd (Value.Same clean names) (fetchMember lang env optional base key)
      (fetchMember lang env' optional base' key') := by
  obtain ⟨rfl, hclean⟩ := hbase
  obtain ⟨rfl, hkeyClean⟩ := hkey
  -- a clean base is not the environment, so both sides fetch in the same way
  have hfetch : fetchMember lang env' optional base key = fetchMember lang env optional base key := by
    unfold fetchMember
    split
    · exact absurd hclean id
    · rfl
  rw [hfetch]
  exact sameEnd_self fun v => fetchMember_clean hlang hclean hkeyClean

include hlang hagree henv in
/-- A member of what `$env` stands for, with a safe name. -/
lemma fetchMember_env_same {optional : Bool} {scope : S} {key : String}
    (hscope : CleanScope lang clean names scope) (hsafe : key ∉ names) :
    SameEnd (Value.Same clean names)
      (fetchMember lang env optional (resolve lang env scope "$env") (.string key))
      (fetchMember lang env' optional (resolve lang env' scope "$env") (.string key)) := by
  have hfetch : fetchMember lang env' optional (resolve lang env' scope "$env") (.string key)
      = fetchMember lang env optional (resolve lang env scope "$env") (.string key) := by
    rcases hlocal : lang.lookup scope "$env" with - | base
    · simp only [resolve, hlocal, if_pos, fetchMember, hagree key hsafe]
    simp only [resolve, hlocal]
    have hclean := hscope _ _ hlocal
    unfold fetchMember
    split
    · exact absurd hclean id
    · rfl
  rw [hfetch]
  exact sameEnd_self fun v => fetchMember_env hlang henv hscope hsafe

variable (hparam : lang.Parametric clean)
  {answer : HostFunction → List (Value D) → Except String (Value D)}
  (hanswer : ∀ function arguments v, answer function arguments = .ok v → v.Clean clean names)

include hlang hparam hagree henv hanswer in
/-- **A tree that does not reach the entries in `names` does not depend on them.** -/
theorem eval_agrees {n : Node} (hn : n.Quiet names) :
    AgreeIn lang clean names keep (eval lang env answer n) (eval lang env' answer n) := by
  induction n with
  | identifier value =>
    intro scope hscope
    obtain ⟨hmention, hname⟩ := quiet_identifier.mp hn
    rw [eval, eval]
    refine Logged.relates_pure ⟨?_, resolve_clean henv hscope hmention hname⟩
    rw [resolve, resolve, hagree value hmention]
  | integer value | float value => exact fun scope hscope => Logged.relates_pure ⟨rfl, trivial⟩
  | string value => exact fun scope hscope => Logged.relates_pure ⟨rfl, trivial⟩
  | binary operator left right ihl ihr =>
    obtain ⟨hl, hr⟩ := quiet_binary.mp hn
    intro scope hscope
    rw [eval, eval]
    split
    · apply (ihl hl scope hscope).bind
      intro x x' hx
      apply (ihr hr scope hscope).bind
      intro y y' hy
      exact Logged.relates_lift (multiply_same hlang hx hy)
    · exact hparam.binary names keep operator _ _ _ _ (ihl hl) (ihr hr) scope hscope
  | member optional node property ihn ihp =>
    obtain ⟨hbase, hp⟩ := quiet_member hn
    intro scope hscope
    rcases hbase with hbase | ⟨hisEnv, hkey⟩
    · rw [eval, eval]
      apply (ihn hbase scope hscope).bind
      intro base base' hsame
      apply (ihp hp scope hscope).bind
      intro key key' hkey
      exact Logged.relates_lift (fetchMember_same hlang hsame hkey)
    obtain ⟨key, rfl, hsafe⟩ := isSafeKey_iff.mp hkey
    rw [isEnv_iff.mp hisEnv, eval, eval, eval, eval, eval]
    exact Logged.relates_lift (fetchMember_env_same hlang hagree henv hscope hsafe)
  | call callee arguments ihc iha =>
    obtain ⟨hc, ha⟩ := quiet_call.mp hn
    intro scope hscope
    rw [eval, eval, evalList_eq, evalList_eq, List.map_map, List.map_map]
    have hargs : List.Forall₂ (Relates keep (Value.Same clean names))
        (arguments.map ((· scope) ∘ eval lang env answer))
        (arguments.map ((· scope) ∘ eval lang env' answer)) :=
      forall₂_map fun m hm => iha m hm (ha m hm) scope hscope
    apply (Logged.relates_collect hargs).bind
    intro values values' hvalues
    apply (ihc hc scope hscope).bind
    intro function function' hfunction
    rw [← hfunction.1, ← Value.Same.eq_of_forall₂ hvalues]
    exact (callValue_quiet hanswer hfunction.2).relates
  | conditional ternary cond exp1 exp2 ihc ih1 ih2 =>
    obtain ⟨hc, h1, h2⟩ := quiet_conditional.mp hn
    intro scope hscope
    rw [eval, eval]
    apply (ihc hc scope hscope).bind
    intro condition condition' hcondition
    rw [← hcondition.1]
    split
    · exact ih1 h1 scope hscope
    · exact ih2 h2 scope hscope
    · exact Logged.relates_fail
  | other kind children ih =>
    intro scope hscope
    rw [eval, eval, evalList_eq, evalList_eq]
    refine hparam.operate names keep kind _ _ (forall₂_map fun m hm => ?_) scope hscope
    exact ih m hm (quiet_other.mp hn m hm)

end

end

end

end NewApi.Billingexpr
