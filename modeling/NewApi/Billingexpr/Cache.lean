import NewApi.Billingexpr.Compile
import NewApi.Utils.Runs
import NewApi.Utils.Table

/-!
# The cache of compiled expressions

`compileEntryFromCacheByHash`, `UsedVarsByHash` and `InvalidateCache` on the shared cache
(`pkg/billingexpr/compile.go`). Each section under the lock is one step; between two sections of a
call the other calls may take any number of steps.
-/

namespace NewApi.Billingexpr

open Option

open Runs (run Along)

/-- The compiler with the parser and the digest of expression strings. -/
structure ExprSource where
  compiler : ExprCompiler
  parse : String → Except String Node
  /-- `ExprHashString`. -/
  hash : String → String

def defaultExprVersion : ℕ := 1

/-- The version and the body of an expression string. -/
def parseExprVersion (exprStr : String) : ℕ × String :=
  match exprStr.toList with
  | 'v' :: '1' :: ':' :: body => (1, String.ofList body)
  | _ => (defaultExprVersion, exprStr)

/-- The compilation of an expression that is not in the cache. -/
def ExprSource.compileExpr (src : ExprSource) (exprStr : String) : Except String CachedEntry :=
  match src.parse (parseExprVersion exprStr).2 with
  | .error e => .error ("expr compile error: " ++ e)
  | .ok tree => compileEntry src.compiler tree

namespace ExprCache

def maxCacheSize : ℕ := 256

structure Row where
  hash : String
  entry : CachedEntry

/-- Who waits for a compilation. -/
inductive Caller
  | usedVarsByHash
  | compileFromCacheByHash

/-- Where a call stands, with its expression. -/
inductive Phase
  | idle
  /-- `UsedVarsByHash` before its first read. -/
  | reading (exprStr : String)
  /-- `compileEntryFromCacheByHash` before its read. -/
  | lookingUp (caller : Caller) (exprStr : String)
  | storing (caller : Caller) (exprStr : String) (entry : CachedEntry)
  /-- `UsedVarsByHash` before its second read. -/
  | rereading (exprStr : String)
  /-- The result of `UsedVarsByHash`; `none` is `nil`. -/
  | returned (exprStr : String) (usedVars : Option (String → Bool))
  | compiled (result : Except String CachedEntry)

structure State where
  cache : Table Row.hash
  calls : ℕ → Phase

inductive Label
  | usedVarsByHash (call : ℕ) (exprStr : String)
  | compileFromCacheByHash (call : ℕ) (exprStr : String)
  | advance (call : ℕ)
  | invalidateCache

def init : State := ⟨.empty, fun _ => .idle⟩

def State.setCall (s : State) (call : ℕ) (phase : Phase) : State :=
  { s with calls := Function.update s.calls call phase }

/-- The new entry; a full cache is emptied first. -/
def insert (cache : Table Row.hash) (row : Row) : Table Row.hash :=
  (if maxCacheSize ≤ cache.rows.length then .empty else cache).save row

section
variable (src : ExprSource)

/-- The end of `compileEntryFromCacheByHash` for its caller. -/
def afterCompile (caller : Caller) (exprStr : String) (result : Except String CachedEntry) :
    Phase :=
  match caller with
  | .compileFromCacheByHash => .compiled result
  | .usedVarsByHash =>
    match result with
    | .ok _ => .rereading exprStr
    | .error _ => .returned exprStr none

/-- The next section of a call. -/
def next (s : State) (call : ℕ) : Phase → Option State
  | .reading exprStr =>
    match s.cache.get? (src.hash exprStr) with
    | some row => some (s.setCall call (.returned exprStr (some row.entry.usedVars)))
    | none => some (s.setCall call (.lookingUp .usedVarsByHash exprStr))
  | .lookingUp caller exprStr =>
    match s.cache.get? (src.hash exprStr) with
    | some row => some (s.setCall call (afterCompile caller exprStr (.ok row.entry)))
    | none =>
      match src.compileExpr exprStr with
      | .ok entry => some (s.setCall call (.storing caller exprStr entry))
      | .error e => some (s.setCall call (afterCompile caller exprStr (.error e)))
  | .storing caller exprStr entry =>
    some { s.setCall call (afterCompile caller exprStr (.ok entry)) with
      cache := insert s.cache ⟨src.hash exprStr, entry⟩ }
  | .rereading exprStr =>
    some (s.setCall call (.returned exprStr
      ((s.cache.get? (src.hash exprStr)).map fun row => row.entry.usedVars)))
  | _ => none

def step (s : State) : Label → Option State
  | .usedVarsByHash call exprStr =>
    match s.calls call with
    | .idle =>
      some (s.setCall call (if exprStr = "" then .returned exprStr none else .reading exprStr))
    | _ => none
  | .compileFromCacheByHash call exprStr =>
    match s.calls call with
    | .idle => some (s.setCall call (.lookingUp .compileFromCacheByHash exprStr))
    | _ => none
  | .advance call => next src s call (s.calls call)
  | .invalidateCache => some { s with cache := .empty }

/-! ## What a step can do -/

/-- The sections of a call, by the phase that it leaves. -/
inductive Advances (s : State) (call : ℕ) : Phase → Phase → Table Row.hash → Prop
  | hit {exprStr : String} {row : Row} (h : s.cache.get? (src.hash exprStr) = some row) :
    Advances s call (.reading exprStr) (.returned exprStr (some row.entry.usedVars)) s.cache
  | miss {exprStr : String} :
    Advances s call (.reading exprStr) (.lookingUp .usedVarsByHash exprStr) s.cache
  | found {caller : Caller} {exprStr : String} {row : Row}
    (h : s.cache.get? (src.hash exprStr) = some row) :
    Advances s call (.lookingUp caller exprStr) (afterCompile caller exprStr (.ok row.entry))
      s.cache
  | compile {caller : Caller} {exprStr : String} {entry : CachedEntry}
    (h : src.compileExpr exprStr = .ok entry) :
    Advances s call (.lookingUp caller exprStr) (.storing caller exprStr entry) s.cache
  | fail {caller : Caller} {exprStr : String} {e : String}
    (h : src.compileExpr exprStr = .error e) :
    Advances s call (.lookingUp caller exprStr) (afterCompile caller exprStr (.error e)) s.cache
  | store {caller : Caller} {exprStr : String} {entry : CachedEntry} :
    Advances s call (.storing caller exprStr entry) (afterCompile caller exprStr (.ok entry))
      (insert s.cache ⟨src.hash exprStr, entry⟩)
  | reread {exprStr : String} :
    Advances s call (.rereading exprStr) (.returned exprStr
      ((s.cache.get? (src.hash exprStr)).map fun row => row.entry.usedVars)) s.cache

/-- A step starts a call, takes the next section of one, or empties the cache. -/
inductive Steps (s : State) : Label → State → Prop
  | usedVars {call : ℕ} {exprStr : String} (h : s.calls call = .idle) :
    Steps s (.usedVarsByHash call exprStr)
      (s.setCall call (if exprStr = "" then .returned exprStr none else .reading exprStr))
  | compile {call : ℕ} {exprStr : String} (h : s.calls call = .idle) :
    Steps s (.compileFromCacheByHash call exprStr)
      (s.setCall call (.lookingUp .compileFromCacheByHash exprStr))
  | advance {call : ℕ} {phase : Phase} {cache : Table Row.hash}
    (h : Advances src s call (s.calls call) phase cache) :
    Steps s (.advance call) { s.setCall call phase with cache := cache }
  | invalidate : Steps s .invalidateCache { s with cache := .empty }

variable {src}

lemma advances_of_next {s s' : State} {call : ℕ} {phase : Phase}
    (h : next src s call phase = some s') :
    ∃ phase' cache, Advances src s call phase phase' cache ∧
      s' = { s.setCall call phase' with cache := cache } := by
  cases phase with
  | reading exprStr =>
    rw [next] at h
    split at h
    · exact ⟨_, _, .hit ‹_›, (some.inj h).symm⟩
    · exact ⟨_, _, .miss, (some.inj h).symm⟩
  | lookingUp caller exprStr =>
    rw [next] at h
    split at h
    · exact ⟨_, _, .found ‹_›, (some.inj h).symm⟩
    split at h
    · exact ⟨_, _, .compile ‹_›, (some.inj h).symm⟩
    · exact ⟨_, _, .fail ‹_›, (some.inj h).symm⟩
  | storing caller exprStr entry => exact ⟨_, _, .store, (some.inj h).symm⟩
  | rereading exprStr => exact ⟨_, _, .reread, (some.inj h).symm⟩
  | _ => cases h

lemma steps_of_step {s s' : State} {l : Label} (h : step src s l = some s') : Steps src s l s' := by
  cases l with
  | usedVarsByHash call exprStr =>
    rw [step] at h
    split at h <;> cases h
    exact .usedVars ‹_›
  | compileFromCacheByHash call exprStr =>
    rw [step] at h
    split at h <;> cases h
    exact .compile ‹_›
  | advance call =>
    obtain ⟨phase, cache, hadvance, rfl⟩ := advances_of_next h
    exact .advance hadvance
  | invalidateCache =>
    cases h
    exact .invalidate

end

end ExprCache

end NewApi.Billingexpr
