import NewApi.Billingexpr.Cache
import NewApi.Billingexpr.TraceTheorems

/-!
# Variable introspection

Token variables that are not among the used variables of an entry do not influence its runs, and
`UsedVarsByHash` returns the used variables of the expression.
-/

namespace NewApi.Billingexpr

open List Node Bool ExprCache
open Logged (Relates SameEnd)
open Runs (run Along)

/-! ## Token variables -/

section
variable {α D : Type}

/-- The variables of the environment that come from the token counts. -/
def TokenParams.entries (params : TokenParams α) : List (String × α) :=
  [("p", params.p), ("c", params.c), ("len", params.len), ("cr", params.cr), ("cc", params.cc),
    ("cc1h", params.cc1h), ("img", params.img), ("img_cr", params.imgCR), ("img_o", params.imgO),
    ("ai", params.ai), ("ao", params.ao)]

def tokenVariables : List String :=
  ["p", "c", "len", "cr", "cc", "cc1h", "img", "img_cr", "img_o", "ai", "ao"]

/-- The part of the environment after the token variables. -/
def environmentFunctions : List (String × Value D) :=
  (environment ⟨.zero, .zero, .zero, .zero, .zero, .zero, .zero, .zero, .zero, .zero, .zero⟩ 0).drop 12

lemma lookup_map_float (entries : List (String × Binary64)) (name : String) :
    (entries.map fun v => (v.1, (Value.float v.2 : Value D))).lookup name
      = (entries.lookup name).map Value.float := by
  induction entries with
  | nil => rfl
  | cons v entries ih =>
    rw [map_cons, lookup_cons, lookup_cons, ih]
    split <;> rfl

lemma environment_lookup (params : TokenParams Binary64) (imageCount : Int) (name : String) :
    (environment params imageCount : List (String × Value D)).lookup name
      = ((([("image_count", Value.float (Binary64.ofInt imageCount))] :
          List (String × Value D)).lookup name).or
        ((params.entries.lookup name).map Value.float)).or (environmentFunctions.lookup name) := by
  have hsplit : (environment params imageCount : List (String × Value D))
      = ([("image_count", .float (Binary64.ofInt imageCount))] ++
          params.entries.map fun v => (v.1, .float v.2)) ++ environmentFunctions := rfl
  rw [hsplit, lookup_append, lookup_append, lookup_map_float]

lemma lookup_entries_none {params : TokenParams α} {name : String}
    (h : name ∉ tokenVariables) : params.entries.lookup name = none := by
  rw [lookup_eq_none_iff]
  intro v hv
  have hkey : v.1 ∈ params.entries.map Prod.fst := mem_map_of_mem hv
  rw [bne_iff_ne]
  rintro rfl
  exact h hkey

end

/-! ## Mentions -/

lemma mentions_eq_false_iff {names : List String} {n : Node} :
    n.mentions names = false ↔ ∀ name ∈ names, n.mentions [name] = false := by
  induction n with
  | identifier value =>
    simp only [mentions_identifier, decide_eq_false_iff_not, mem_singleton]
    exact ⟨fun h name hname heq => h (heq ▸ hname), fun h hmem => h value hmem rfl⟩
  | integer value | float value | string value => simp
  | binary operator left right ihl ihr =>
    simp only [mentions_binary, or_eq_false_iff, ihl, ihr, forall₂_and]
  | member optional node property ihn ihp =>
    simp only [mentions_member, or_eq_false_iff, ihn, ihp, forall₂_and]
  | call callee arguments ihc iha =>
    simp only [mentions_call, or_eq_false_iff, any_eq_false, ihc, forall₂_and,
      not_eq_true]
    refine and_congr_right fun _ => ?_
    constructor
    · exact fun h name hname m hm => (iha m hm).mp (h m hm) name hname
    · exact fun h m hm => (iha m hm).mpr fun name hname => h name hname m hm
  | conditional ternary cond exp1 exp2 ihc ih1 ih2 =>
    simp only [mentions_conditional, or_eq_false_iff, ihc, ih1, ih2, forall₂_and]
  | other kind children ih =>
    simp only [mentions_other, any_eq_false, not_eq_true]
    constructor
    · exact fun h name hname m hm => (ih m hm).mp (h m hm) name hname
    · exact fun h m hm => (ih m hm).mpr fun name hname => h name hname m hm

/-! ## Unused variables -/

section
variable {D S : Type}

/-- Optimisation keeps what a program does and opens no way to the environment. -/
structure ExprCompiler.Faithful (compiler : ExprCompiler) (lang : ExprLang D S) : Prop where
  means : ∀ tree program, compiler.compile tree = .ok program → ∀ env answer scope,
    Relates (fun _ => true) (· = ·) (eval lang env answer program scope)
      (eval lang env answer tree scope)
  reached : ∀ tree program names, compiler.compile tree = .ok program →
    tree.reachedByName names = true → program.reachedByName names = true

/-- The same calls and trace, and the same result or both fail. -/
structure SameRun (r r' : Run) : Prop where
  calls : r.calls = r'.calls
  trace : r.trace = r'.trace
  result : SameEnd (· = ·) r.result r'.result

lemma runResult_sameEnd {r r' : Except String (Value D)} (h : SameEnd (· = ·) r r') :
    SameEnd (· = ·) (runResult r) (runResult r') := by
  cases h with
  | error => exact .error
  | ok h =>
    subst h
    rw [runResult]
    split
    · exact .ok rfl
    · exact .error

variable {clean : List String → D → Prop} {lang : ExprLang D S}

/-- **A token variable that is not used does not influence a run.** -/
theorem unused_irrelevant (hlang : lang.Lawful clean) (hparam : lang.Parametric clean)
    {compiler : ExprCompiler} (hcompiler : compiler.Faithful lang) {tree : Node}
    {entry : CachedEntry} (hentry : compileEntry compiler tree = .ok entry)
    (hname : tree.reachedByName tokenVariables = true) {params params' : TokenParams Binary64}
    {request : RequestInput D} (hrequest : request.Clean clean)
    (hagree : ∀ name, entry.usedVars name = true →
      params.entries.lookup name = params'.entries.lookup name) :
    SameRun (runProgram lang entry params request) (runProgram lang entry params' request) := by
  obtain ⟨-, -, program, hprogram, hinv⟩ := compileEntry_inv hentry
  have hprog : entry.prog = (Patcher.walk compiler.print ⟨[], ""⟩ tree).1 := by rw [hinv]
  have hused : entry.usedVars = extractUsedVars program := by rw [hinv]
  -- the token variables that the program does not mention
  let unused := tokenVariables.filter fun name => !entry.usedVars name
  have hsub : unused ⊆ tokenVariables := fun _ => mem_of_mem_filter
  have hmentions : program.mentions unused = false := by
    rw [mentions_eq_false_iff]
    intro name hmem
    have hunused := (mem_filter.mp hmem).2
    rw [hused, not_eq_true', extractUsedVars] at hunused
    have htrace : name ≠ "_trace" ∧ name ≠ "_trace_int" := by
      have hvar := hsub hmem
      constructor
      · rintro rfl
        exact absurd hvar (by decide)
      · rintro rfl
        exact absurd hvar (by decide)
    simpa [htrace.1, htrace.2] using hunused
  have hquiet : program.Quiet unused :=
    ⟨hmentions, hcompiler.reached _ _ _ hprogram
      (walk_reached (reachedByName_mono hsub hname))⟩
  have henv : ∀ name, name ∉ unused →
      (environment params (entry.imageCount request) : List (String × Value D)).lookup name
        = (environment params' (entry.imageCount request)).lookup name := by
    intro name hname'
    have hsame : params.entries.lookup name = params'.entries.lookup name := by
      by_cases hvar : name ∈ tokenVariables
      · apply hagree
        by_contra hnot
        exact hname' (mem_filter.mpr ⟨hvar, by simpa using hnot⟩)
      · rw [lookup_entries_none hvar, lookup_entries_none hvar]
    rw [environment_lookup, environment_lookup, hsame]
  have hscope : CleanScope lang clean unused lang.start := by
    intro name v h
    rw [hlang.start] at h
    cases h
  have hexecute : Relates (fun _ => true) (· = ·) (entry.execute lang params request)
      (entry.execute lang params' request) := by
    rw [CachedEntry.execute, CachedEntry.execute, hprog]
    have hsame : Relates (fun _ => true) (· = ·) _ _ :=
      (@eval_agrees D S clean unused (fun _ => true) lang hlang _ _ henv
        (fun _ _ => clean_environment) hparam request.answer (hrequest unused)
        program hquiet lang.start hscope).mono fun _ _ h => h.1
    exact ((hcompiler.means _ _ hprogram _ _ _).symm.trans hsame).trans
      (hcompiler.means _ _ hprogram _ _ _)
  have hcalls : (runProgram lang entry params request).calls
      = (runProgram lang entry params' request).calls ∧
      SameEnd (· = ·) (runProgram lang entry params request).result
        (runProgram lang entry params' request).result := by
    by_cases hrange : entry.usedVars "image_count" ∧
        (entry.imageCount request < 1 ∨ maxImageN < entry.imageCount request)
    · obtain ⟨hcalls, e, hresult⟩ := @runProgram_out D S lang entry params request hrange
      obtain ⟨hcalls', e', hresult'⟩ := @runProgram_out D S lang entry params' request hrange
      rw [hcalls, hcalls', hresult, hresult']
      exact ⟨rfl, .error⟩
    obtain ⟨hcalls, hresult⟩ := @runProgram_in D S lang entry params request hrange
    obtain ⟨hcalls', hresult'⟩ := @runProgram_in D S lang entry params' request hrange
    rw [hcalls, hcalls', hresult, hresult']
    exact ⟨by simpa using hexecute.log, runResult_sameEnd hexecute.result⟩
  refine ⟨hcalls.1, ?_, hcalls.2⟩
  rw [runProgram_trace, runProgram_trace, hcalls.1]

end

/-! ## The cache -/

namespace ExprCache

section
variable (src : ExprSource) (exprs : Set String) {exprStr : String} {row : Row}
  {cache : Table Row.hash} {phase : Phase} {call : ℕ}

/-- The step takes the entry of the expression out of the cache. -/
def Drops (s : State) (l : Label) (exprStr : String) : Prop :=
  l = .invalidateCache ∨
    ∃ call caller other entry, l = .advance call ∧ s.calls call = .storing caller other entry ∧
      maxCacheSize ≤ s.cache.rows.length ∧ src.hash other ≠ src.hash exprStr

/-- No call that has compiled its expression and not read it again loses it. -/
def Undisturbed (s : State) (l : Label) : Prop :=
  ∀ call exprStr, s.calls call = .rereading exprStr → ¬Drops src s l exprStr

/-- A new call is for an expression in `exprs`. -/
def Label.Within : Label → Prop
  | .usedVarsByHash _ exprStr => exprStr ∈ exprs
  | .compileFromCacheByHash _ exprStr => exprStr ∈ exprs
  | _ => True

/-- What a call in a phase has found. -/
def PhaseInv (cache : Table Row.hash) : Phase → Prop
  | .idle => True
  | .reading exprStr => exprStr ∈ exprs
  | .lookingUp _ exprStr => exprStr ∈ exprs
  | .storing _ exprStr entry => exprStr ∈ exprs ∧ src.compileExpr exprStr = .ok entry
  | .rereading exprStr => exprStr ∈ exprs ∧ (cache.get? (src.hash exprStr)).isSome
  | .returned exprStr usedVars => exprStr ≠ "" →
    ∀ entry, src.compileExpr exprStr = .ok entry → usedVars = some entry.usedVars
  | .compiled _ => True

structure Inv (s : State) : Prop where
  rows : ∀ row ∈ s.cache.rows, ∃ exprStr ∈ exprs,
    row.hash = src.hash exprStr ∧ src.compileExpr exprStr = .ok row.entry
  calls : ∀ call, PhaseInv src exprs s.cache (s.calls call)

variable {src exprs} {s s' : State}

lemma inv_init : Inv src exprs init :=
  ⟨fun _ hrow => absurd hrow not_mem_nil, fun _ => trivial⟩

/-- While the cache is not full, only `InvalidateCache` takes entries away. -/
lemma undisturbed_of_small {l : Label} (hsmall : s.cache.rows.length < maxCacheSize)
    (hl : l ≠ .invalidateCache) : Undisturbed src s l := by
  intro call exprStr _ hdrops
  rcases hdrops with hinvalid | ⟨_, _, _, _, _, _, hfull, _⟩
  · exact hl hinvalid
  · omega

/-- Without collisions, what is cached for an expression is its compilation. -/
lemma Inv.entry_of_get? (hs : Inv src exprs s) (hhash : Set.InjOn src.hash exprs)
    (hmem : exprStr ∈ exprs)
    (h : s.cache.get? (src.hash exprStr) = some row) : src.compileExpr exprStr = .ok row.entry := by
  obtain ⟨other, hother, hkey, hcompile⟩ := hs.rows row (Table.mem_of_get? h)
  have heq : other = exprStr := by
    apply hhash hother hmem
    rw [← hkey]
    exact Table.key_of_get? h
  rw [← heq]
  exact hcompile

/-- A phase that does not wait for its entry does not depend on the cache. -/
lemma PhaseInv.of_kept {cache' : Table Row.hash} (h : PhaseInv src exprs cache phase)
    (hkept : ∀ exprStr, phase = .rereading exprStr → (cache.get? (src.hash exprStr)).isSome →
      (cache'.get? (src.hash exprStr)).isSome) :
    PhaseInv src exprs cache' phase := by
  cases phase with
  | rereading exprStr => exact ⟨h.1, hkept exprStr rfl h.2⟩
  | _ => exact h

lemma get?_insert_self (cache : Table Row.hash) (row : Row) :
    ((insert cache row).get? row.hash).isSome := by
  rw [insert, Table.get?_save_self]
  rfl

/-- An insertion keeps an entry, unless it empties the cache for another one. -/
lemma insert_kept {cache : Table Row.hash} {hash : String} (hrow : (cache.get? hash).isSome)
    (hfull : maxCacheSize ≤ cache.rows.length → row.hash = hash) :
    ((insert cache row).get? hash).isSome := by
  rw [insert]
  split
  · rename_i hle
    rw [← hfull hle, Table.get?_save_self]
    rfl
  rw [Table.get?_save]
  split
  · rfl
  · exact hrow

/-- Rows of the cache after an insertion. -/
lemma mem_insert {x : Row} (h : x ∈ (insert cache row).rows) : x = row ∨ x ∈ cache.rows := by
  rcases Table.mem_save h with heq | ⟨hmem, -⟩
  · exact Or.inl heq
  right
  split at hmem
  · exact absurd hmem not_mem_nil
  · exact hmem

/-- The phase after a compilation whose entry is in the cache. -/
lemma phaseInv_afterCompile {caller : Caller} {entry : CachedEntry} (hmem : exprStr ∈ exprs)
    (hcached : (cache.get? (src.hash exprStr)).isSome) :
    PhaseInv src exprs cache (afterCompile caller exprStr (.ok entry)) := by
  cases caller with
  | usedVarsByHash => exact ⟨hmem, hcached⟩
  | compileFromCacheByHash => trivial

/-- What a call has found after a section. -/
lemma phaseInv_advances (hs : Inv src exprs s) (hhash : Set.InjOn src.hash exprs)
    {phase' : Phase} (hphase : PhaseInv src exprs s.cache phase)
    (h : Advances src s call phase phase' cache) : PhaseInv src exprs cache phase' := by
  cases h with
  | hit hrow =>
    intro _ entry hentry
    rw [hs.entry_of_get? hhash hphase hrow] at hentry
    rw [← Except.ok.inj hentry]
  | miss => exact hphase
  | found hrow => exact phaseInv_afterCompile hphase (by rw [hrow]; rfl)
  | compile hcompile => exact ⟨hphase, hcompile⟩
  | @fail caller exprStr e hcompile =>
    cases caller with
    | usedVarsByHash =>
      intro _ entry hentry
      rw [hcompile] at hentry
      cases hentry
    | compileFromCacheByHash => trivial
  | @store caller exprStr entry =>
    exact phaseInv_afterCompile hphase.1 (get?_insert_self s.cache ⟨src.hash exprStr, entry⟩)
  | @reread exprStr =>
    intro _ entry hentry
    obtain ⟨row, hrow⟩ := Option.isSome_iff_exists.mp hphase.2
    rw [hs.entry_of_get? hhash hphase.1 hrow] at hentry
    rw [hrow, ← Except.ok.inj hentry]
    rfl

/-- The cache after a section: nothing, or one more compilation. -/
lemma rows_advances (hs : Inv src exprs s) (h : Advances src s call (s.calls call) phase cache) :
    ∀ row ∈ cache.rows, ∃ exprStr ∈ exprs,
      row.hash = src.hash exprStr ∧ src.compileExpr exprStr = .ok row.entry := by
  have hphase := hs.calls call
  generalize s.calls call = before at h hphase
  cases h with
  | @store caller exprStr entry =>
    intro row hrow
    rcases mem_insert hrow with rfl | hold
    · exact ⟨exprStr, hphase.1, rfl, hphase.2⟩
    · exact hs.rows row hold
  | _ => exact hs.rows

/-- A section keeps the entries that other calls are about to read again. -/
lemma kept_advances {other : ℕ} (hok : Undisturbed src s (.advance call))
    (h : Advances src s call (s.calls call) phase cache) (exprStr : String)
    (hother : s.calls other = .rereading exprStr)
    (hcached : (s.cache.get? (src.hash exprStr)).isSome) :
    (cache.get? (src.hash exprStr)).isSome := by
  generalize hbefore : s.calls call = before at h
  cases h with
  | @store caller stored entry =>
    apply insert_kept hcached
    intro hfull
    by_contra hne
    exact hok other exprStr hother (Or.inr ⟨call, caller, stored, entry, rfl, hbefore, hfull, hne⟩)
  | _ => exact hcached

/-- Every step within the expressions that takes no awaited entry away keeps the invariant. -/
lemma inv_step (hhash : Set.InjOn src.hash exprs) {l : Label} (hs : Inv src exprs s)
    (hok : Undisturbed src s l ∧ l.Within exprs) (h : step src s l = some s') :
    Inv src exprs s' := by
  have hset : ∀ (call : ℕ) (phase : Phase) (cache : Table Row.hash),
      PhaseInv src exprs cache phase →
      (∀ other, other ≠ call → PhaseInv src exprs cache (s.calls other)) →
      ∀ other, PhaseInv src exprs cache (Function.update s.calls call phase other) := by
    intro call phase cache hphase hrest other
    by_cases hcall : other = call
    · rw [hcall, Function.update_self]
      exact hphase
    · rw [Function.update_of_ne hcall]
      exact hrest other hcall
  cases steps_of_step h with
  | @usedVars call exprStr hidle =>
    refine ⟨hs.rows, hset call _ _ ?_ fun other _ => hs.calls other⟩
    split
    · rename_i hempty
      exact fun hne => absurd hempty hne
    · exact hok.2
  | @compile call exprStr hidle =>
    exact ⟨hs.rows, hset call _ _ hok.2 fun other _ => hs.calls other⟩
  | @advance call phase cache hadvance =>
    refine ⟨rows_advances hs hadvance, hset call _ _ ?_ fun other _ => ?_⟩
    · exact phaseInv_advances hs hhash (hs.calls call) hadvance
    · exact (hs.calls other).of_kept fun exprStr hother =>
        kept_advances hok.1 hadvance exprStr hother
  | invalidate =>
    refine ⟨fun row hrow => absurd hrow not_mem_nil, fun call => ?_⟩
    apply (hs.calls call).of_kept
    intro exprStr hcall _
    exact absurd (Or.inl rfl) (hok.1 call exprStr hcall)

/-- How many sections a call has before it at most. -/
def Phase.rank : Phase → ℕ
  | .reading _ => 4
  | .lookingUp _ _ => 3
  | .storing _ _ _ => 2
  | .rereading _ => 1
  | _ => 0

lemma rank_afterCompile {caller : Caller} {result : Except String CachedEntry} :
    (afterCompile caller exprStr result).rank ≤ 1 := by
  cases caller with
  | usedVarsByHash =>
    cases result with
    | ok entry => exact le_rfl
    | error e => exact Nat.zero_le 1
  | compileFromCacheByHash => exact Nat.zero_le 1

/-- A call that has not returned takes its next section. -/
lemma advance_enabled (h : 0 < (s.calls call).rank) :
    ∃ s', step src s (.advance call) = some s' ∧ (s'.calls call).rank < (s.calls call).rank := by
  have hnext : ∃ s', next src s call (s.calls call) = some s' := by
    generalize s.calls call = phase at h
    cases phase with
    | reading exprStr =>
      rw [next]
      split <;> exact ⟨_, rfl⟩
    | lookingUp caller exprStr =>
      rw [next]
      split
      · exact ⟨_, rfl⟩
      · split <;> exact ⟨_, rfl⟩
    | storing caller exprStr entry | rereading exprStr => exact ⟨_, rfl⟩
    | _ => exact absurd h (lt_irrefl 0)
  obtain ⟨s', hs'⟩ := hnext
  obtain ⟨phase, cache, hadvance, rfl⟩ := advances_of_next hs'
  refine ⟨_, hs', ?_⟩
  have hphase : ({ s.setCall call phase with cache := cache } : State).calls call = phase :=
    Function.update_self ..
  rw [hphase]
  generalize s.calls call = before at hadvance
  have hcompiled := @rank_afterCompile
  cases hadvance with
  | hit => exact Nat.zero_lt_succ 3
  | miss => exact Nat.lt_succ_self 3
  | found | fail => exact lt_of_le_of_lt hcompiled (show 1 < 3 by omega)
  | compile => exact Nat.lt_succ_self 2
  | store => exact lt_of_le_of_lt hcompiled (show 1 < 2 by omega)
  | reread => exact Nat.zero_lt_one

end

end ExprCache

/-- **Variable introspection is complete and stable** for expressions that do not fetch token
variables from `$env`, and in runs in which no call of `UsedVarsByHash` loses its entry between its
compilation and its second read. -/
theorem usedVars_complete_stable {D S : Type} (clean : List String → D → Prop)
    (lang : ExprLang D S) (hlang : lang.Lawful clean) (hparam : lang.Parametric clean)
    (src : ExprSource) (hcompiler : src.compiler.Faithful lang) :
    (∀ exprStr tree entry, src.parse (parseExprVersion exprStr).2 = .ok tree →
      src.compileExpr exprStr = .ok entry → tree.reachedByName tokenVariables = true →
      ∀ (params params' : TokenParams Binary64) (request : RequestInput D), request.Clean clean →
        (∀ name, entry.usedVars name = true →
          params.entries.lookup name = params'.entries.lookup name) →
        SameRun (runProgram lang entry params request) (runProgram lang entry params' request)) ∧
    ∀ (exprs : Set String), Set.InjOn src.hash exprs →
      ∀ labels s, run (ExprCache.step src) ExprCache.init labels = some s →
        Along (ExprCache.step src)
          (fun s l => ExprCache.Undisturbed src s l ∧ l.Within exprs) ExprCache.init labels →
        (∀ call exprStr usedVars, s.calls call = .returned exprStr usedVars → exprStr ≠ "" →
          ∀ entry, src.compileExpr exprStr = .ok entry → usedVars = some entry.usedVars) ∧
        ∀ call, 0 < (s.calls call).rank → ∃ s', ExprCache.step src s (.advance call) = some s' ∧
          (s'.calls call).rank < (s.calls call).rank := by
  constructor
  · intro exprStr tree entry hparse hentry hname params params' request hrequest hagree
    rw [ExprSource.compileExpr, hparse] at hentry
    exact unused_irrelevant hlang hparam hcompiler hentry hname hrequest hagree
  · intro exprs hhash labels s hrun hok
    have hinv : ExprCache.Inv src exprs s :=
      Runs.run_invariant (ExprCache.Inv src exprs)
        (fun s l s' => inv_step hhash) inv_init hok hrun
    refine ⟨fun call exprStr usedVars hcall => ?_, fun call => advance_enabled⟩
    have hphase := hinv.calls call
    rw [hcall] at hphase
    exact hphase

lemma plainCompiler_faithful {D S : Type} (lang : ExprLang D S) : plainCompiler.Faithful lang where
  means tree program h env answer scope := by
    cases h
    exact ⟨rfl, by rcases (eval lang env answer tree scope).result with e | v <;> constructor; rfl⟩
  reached tree program names h hname := by
    cases h
    exact hname

/-- `$env.img`. -/
def envImage : Node := .member false (.identifier "$env") (.string "img")

/-- Two expressions: `$env.img`, and a variable for every other text. -/
def imageSource : ExprSource where
  compiler := plainCompiler
  parse body := .ok (if body = "$env.img" then envImage else .identifier body)
  hash := id

def oneImage : TokenParams Binary64 := { noTokens with img := Binary64.one }

/-- A first call of `UsedVarsByHash`. -/
def firstUse : List ExprCache.Label :=
  [.usedVarsByHash 0 "p", .advance 0, .advance 0, .advance 0, .advance 0]

lemma compileExpr_variable : imageSource.compileExpr "p" = .ok (plainEntry (.identifier "p")) := by
  show compileEntry plainCompiler (.identifier "p") = _
  exact compileEntry_plain (by decide +kernel) (by decide +kernel)

lemma usedVars_variable {name : String}
    (h : (plainEntry (.identifier "p")).usedVars name = true) : name = "p" := by
  have hused : extractUsedVars (.identifier "p") name = true := h
  rw [extractUsedVars, and_eq_true, mentions_identifier] at hused
  simpa [eq_comm] using hused.2

theorem usedVars_complete_stable_first :
    SameRun (runProgram remainderLang (plainEntry (.identifier "p")) noTokens fastRequest)
        (runProgram remainderLang (plainEntry (.identifier "p")) oneImage fastRequest) ∧
      ∃ s usedVars, run (ExprCache.step imageSource) ExprCache.init firstUse = some s ∧
        s.calls 0 = .returned "p" usedVars ∧
        usedVars = some (plainEntry (.identifier "p")).usedVars := by
  have htheorem := usedVars_complete_stable _ remainderLang (strictLang_lawful remainder_clean)
    (strictLang_parametric remainder_clean) imageSource (plainCompiler_faithful remainderLang)
  constructor
  · refine htheorem.1 "p" (.identifier "p") _ rfl compileExpr_variable (by decide) noTokens
      oneImage fastRequest fastRequest_clean fun name hname => ?_
    rw [usedVars_variable hname]
    simp [TokenParams.entries, oneImage]
  · refine ⟨_, _, rfl, rfl, ?_⟩
    refine (htheorem.2 {"p"} (Set.injOn_singleton _ _) firstUse _ rfl ?_).1 0 "p" _ rfl
      (by decide) _ compileExpr_variable
    have hsmall : ∀ {s : ExprCache.State} {call : ℕ}, s.cache.rows.length < maxCacheSize →
        ExprCache.Undisturbed imageSource s (.advance call) ∧
          ExprCache.Label.Within {"p"} (.advance call) :=
      fun h => ⟨undisturbed_of_small h nofun, trivial⟩
    exact ⟨⟨undisturbed_of_small (by decide) nofun, rfl⟩, hsmall (by decide),
      hsmall (by decide), hsmall (by decide), hsmall (by decide), trivial⟩

/-- A call of `UsedVarsByHash` whose entry is invalidated before it is read again. -/
def invalidatedUse : List ExprCache.Label :=
  [.usedVarsByHash 0 "p", .advance 0, .advance 0, .advance 0, .invalidateCache, .advance 0]

/-- The variable `img` is not among the used variables of `$env.img` and is its value; and a call for
a variable that compiles returns `nil`. -/
theorem usedVars_incomplete_unstable :
    (imageSource.compileExpr "$env.img" = .ok (plainEntry envImage) ∧
      (plainEntry envImage).usedVars "img" = false ∧
      (runProgram remainderLang (plainEntry envImage) noTokens fastRequest).result
        = .ok Binary64.zero ∧
      (runProgram remainderLang (plainEntry envImage) oneImage fastRequest).result
        = .ok Binary64.one) ∧
    imageSource.compileExpr "p" = .ok (plainEntry (.identifier "p")) ∧
      ∃ s, run (ExprCache.step imageSource) ExprCache.init invalidatedUse = some s ∧
        s.calls 0 = .returned "p" none := by
  refine ⟨⟨?_, by decide +kernel, by decide +kernel, by decide +kernel⟩, compileExpr_variable,
    _, rfl, rfl⟩
  show compileEntry plainCompiler envImage = _
  exact compileEntry_plain (by decide +kernel) (by decide +kernel)

end NewApi.Billingexpr
