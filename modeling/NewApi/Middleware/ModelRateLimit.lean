import NewApi.Tenant.RedisTheorems
import NewApi.Utils.Runs

/-!
# The rate limit of model requests

`middleware/model-rate-limit.go` with the limiter of `common/limiter`. Every command goes through the
hook of the workspaces, which has no place for `LINDEX` and `SCRIPT`. So the end of a full list is
never read, and the script of the token bucket is never loaded: in both cases the caller gets an
internal error. Times are in milliseconds, and the server has the clock of the process.
-/

namespace NewApi.Middleware
open Tenant Runs List Option

/-! ## Redis -/

/-- `time.Format` and `time.Parse` with the layout of the limiter, the script of the token bucket and
its digest, which has 40 characters. -/
structure LimiterEnv where
  format : Int → String
  parse : String → Option Int
  parse_empty : parse "" = none
  script : String
  digest : String

structure ListValue where
  elements : List String
  expireAt : Option Int

structure LimiterStore where
  lists : String → Option ListValue
  /-- `tokens` and `last_time` -/
  buckets : String → Option (Int × Int)
  /-- the digests of the scripts that are loaded -/
  scripts : List String
  /-- the digest in the limiter of the process, once there is one -/
  limiter : Option String

namespace LimiterStore

/-- A key that has expired is not there. -/
def lookup (store : LimiterStore) (now : Int) (key : String) : Option ListValue :=
  (store.lists key).filter fun v => v.expireAt.all (now ≤ ·)

def elements (store : LimiterStore) (now : Int) (key : String) : List String :=
  ((store.lookup now key).map ListValue.elements).getD []

def setList (store : LimiterStore) (key : String) (v : Option ListValue) : LimiterStore :=
  { store with lists := fun k => if k = key then v else store.lists k }

end LimiterStore

def keyCommand (name key : String) (rest : List String) : Command where
  args := name :: key :: rest
  isScanCmd := false

/-- The key that the server sees, if the hook lets the command through. -/
def sentKey (ctx : Option Identity) (cmd : Command) (position : Nat) : Except ScopeError String :=
  (scopeRedisCommand ctx cmd).map fun cmd => cmd.args.getD position ""

/-- A command that writes a list, and whose error nobody looks at. -/
def LimiterStore.write (store : LimiterStore) (ctx : Option Identity) (now : Int) (cmd : Command)
    (f : Option ListValue → Option ListValue) : LimiterStore :=
  match sentKey ctx cmd 1 with
  | .error _ => store
  | .ok key => store.setList key (f (store.lookup now key))

def LimiterStore.expire (store : LimiterStore) (ctx : Option Identity) (now : Int) (key : String)
    (seconds : Int) : LimiterStore :=
  store.write ctx now (keyCommand "expire" key [toString seconds]) fun v =>
    if seconds ≤ 0 then none else v.map ({ · with expireAt := some (now + 1000 * seconds) })

/-! ## The limiter -/

inductive LimiterError
  | scope (e : ScopeError)
  | parse
  | noScript

def checkRedisRateLimit (env : LimiterEnv) (ctx : Option Identity) (now : Int) (key : String)
    (maxCount : Nat) (duration : Int) (store : LimiterStore) :
    Except LimiterError Bool × LimiterStore :=
  if maxCount = 0 then (.ok true, store)
  else
    match sentKey ctx (keyCommand "llen" key []) 1 with
    | .error e => (.error (.scope e), store)
    | .ok sent =>
      if (store.elements now sent).length < maxCount then (.ok true, store)
      else
        -- the error of the command is dropped, and the text is empty then
        let oldTimeStr :=
          match sentKey ctx (keyCommand "lindex" key ["-1"]) 1 with
          | .error _ => ""
          | .ok sent => (store.elements now sent).getLastD ""
        match env.parse oldTimeStr with
        | none => (.error .parse, store)
        | some oldTime =>
          if (now - oldTime).tdiv 1000 < duration then
            (.ok false, store.expire ctx now key duration)
          else (.ok true, store)

def recordRedisRequest (env : LimiterEnv) (ctx : Option Identity) (now : Int) (key : String)
    (maxCount : Nat) (duration : Int) (store : LimiterStore) : LimiterStore :=
  if maxCount = 0 then store
  else
    let store := store.write ctx now (keyCommand "lpush" key [env.format now]) fun v =>
      some ⟨env.format now :: (v.map ListValue.elements).getD [], v.bind ListValue.expireAt⟩
    let store := store.write ctx now (keyCommand "ltrim" key ["0", toString (maxCount - 1)]) fun v =>
      v.map fun v => { v with elements := v.elements.take maxCount }
    store.expire ctx now key duration

/-- The tokens that the script finds at second `now`. -/
def bucketTokens (rate capacity now : Int) : Option (Int × Int) → Int
  | none => capacity
  | some (tokens, lastTime) => min capacity (tokens + (now - lastTime) * rate)

/-- `rate_limit.lua`. The numbers of Lua are doubles, and exact as long as they are below `2 ^ 53`. -/
def rateLimitScript (requested rate capacity now : Int) (bucket : Option (Int × Int)) :
    Bool × (Int × Int) :=
  let tokens := bucketTokens rate capacity now bucket
  if requested ≤ tokens then (true, (tokens - requested, now)) else (false, (tokens, now))

/-- `limiter.New`: the script is loaded once, and an error is only logged. -/
def newLimiter (env : LimiterEnv) (ctx : Option Identity) (store : LimiterStore) : LimiterStore :=
  match store.limiter with
  | some _ => store
  | none =>
    match scopeRedisCommand ctx ⟨["script", "load", env.script], false⟩ with
    | .error _ => { store with limiter := some "" }
    | .ok _ => { store with limiter := some env.digest, scripts := env.digest :: store.scripts }

def LimiterStore.allow (store : LimiterStore) (ctx : Option Identity) (now : Int) (key : String)
    (requested rate capacity : Int) : Except LimiterError Bool × LimiterStore :=
  let sha := store.limiter.getD ""
  match sentKey ctx
    ⟨["evalsha", sha, "1", key, toString requested, toString rate, toString capacity], false⟩ 3 with
  | .error e => (.error (.scope e), store)
  | .ok sent =>
    if sha ∈ store.scripts then
      let result := rateLimitScript requested rate capacity (now / 1000) (store.buckets sent)
      (.ok result.1,
        { store with buckets := fun k => if k = sent then some result.2 else store.buckets k })
    else (.error .noScript, store)

/-! ## The middleware -/

structure RateLimit where
  durationMinutes : Nat
  totalMaxCount : Nat
  successMaxCount : Nat

/-- In seconds. The source saturates at the largest `int64`, and its `time.Duration` wraps around
above 153722867 minutes; such limits are left out. -/
def RateLimit.duration (limit : RateLimit) : Int := limit.durationMinutes * 60

def successKey (user : Nat) : String := "rateLimit:" ++ ("MRRLS:" ++ toString (user : Int))

def totalKey (user : Nat) : String := "rateLimit:" ++ toString (user : Int)

inductive Verdict
  | passed
  | tooManyRequests
  | internalError
deriving DecidableEq

/-- A request and what happens to it if it is let through: whether its status is below 400, and when it
is answered. -/
structure ModelRequest where
  identity : Identity
  user : Nat
  arrival : Int
  success : Bool
  finish : Int

def redisRateLimitHandler (env : LimiterEnv) (limit : RateLimit) (r : ModelRequest)
    (store : LimiterStore) : Verdict × LimiterStore :=
  let ctx := some r.identity
  let success := limit.successMaxCount
  match checkRedisRateLimit env ctx r.arrival (successKey r.user) success limit.duration store with
  | (.error _, store) => (.internalError, store)
  | (.ok false, store) => (.tooManyRequests, store)
  | (.ok true, store) =>
    let total :=
      if 0 < limit.totalMaxCount then
        (newLimiter env ctx store).allow ctx r.arrival (totalKey r.user) limit.duration
          limit.totalMaxCount (limit.totalMaxCount * limit.duration)
      else (.ok true, store)
    match total with
    | (.error _, store) => (.internalError, store)
    | (.ok false, store) => (.tooManyRequests, store)
    | (.ok true, store) =>
      (.passed, if r.success then
          recordRedisRequest env ctx r.finish (successKey r.user) success limit.duration store
        else store)

structure LimiterState where
  store : LimiterStore
  now : Int
  /-- the requests so far, the last one first -/
  served : List (ModelRequest × Verdict)

/-- Redis without the keys of the limiter, whatever scripts others have loaded. -/
def LimiterState.init (scripts : List String) (now : Int) : LimiterState where
  store := ⟨fun _ => none, fun _ => none, scripts, none⟩
  now := now
  served := []

/-- The next request of a sequential history, of any workspace and user. -/
def rateLimitStep (env : LimiterEnv) (limit : RateLimit) (s : LimiterState) (r : ModelRequest) :
    Option LimiterState :=
  if 0 < r.identity.id ∧ s.now ≤ r.arrival ∧ r.arrival ≤ r.finish then
    let result := redisRateLimitHandler env limit r s.store
    some ⟨result.2, r.finish, (r, result.1) :: s.served⟩
  else none

/-! ## What is stated -/

/-- When the requests of a user that succeeded were answered, the last one first. -/
def LimiterState.successes (s : LimiterState) (id : Int) (user : Nat) : List Int :=
  (s.served.filter fun q => q.1.identity.id = id ∧ q.1.user = user ∧ q.2 = .passed ∧
    q.1.success).map fun q => q.1.finish

/-- How many of them lie within the last `D` seconds. -/
def LimiterState.recent (s : LimiterState) (limit : RateLimit) (r : ModelRequest) : Nat :=
  (s.successes r.identity.id r.user).countP fun t => r.arrival - t < 1000 * limit.duration

/-- The verdict is right: no internal error, and a request is let through exactly when there is room in
the window and, with a limit for all requests, a request's worth of tokens in the bucket. -/
def Decides (env : LimiterEnv) (limit : RateLimit) (s : LimiterState) (r : ModelRequest) : Prop :=
  let verdict := (redisRateLimitHandler env limit r s.store).1
  verdict ≠ .internalError ∧ (verdict = .passed ↔
    (limit.successMaxCount = 0 ∨ s.recent limit r < limit.successMaxCount) ∧
    (limit.totalMaxCount = 0 ∨ limit.duration ≤ bucketTokens limit.totalMaxCount
      (limit.totalMaxCount * limit.duration) (r.arrival / 1000)
      (s.store.buckets (workspaceKey r.identity.id (totalKey r.user)))))

instance (env : LimiterEnv) (limit : RateLimit) (s : LimiterState) (r : ModelRequest) :
    Decidable (Decides env limit s r) :=
  inferInstanceAs (Decidable (_ ∧ (_ ↔ _)))

/-- There is no limit for all requests, and the list of the user is not full. -/
def NeverFull (limit : RateLimit) (s : LimiterState) (r : ModelRequest) : Prop :=
  limit.totalMaxCount = 0 ∧ (limit.successMaxCount = 0 ∨
    (s.store.elements r.arrival (workspaceKey r.identity.id (successKey r.user))).length
      < limit.successMaxCount)

instance (limit : RateLimit) (s : LimiterState) (r : ModelRequest) :
    Decidable (NeverFull limit s r) :=
  inferInstanceAs (Decidable (_ ∧ _))

/-! ## What the hook does with the commands -/

section
variable {env : LimiterEnv} {limit : RateLimit} {ctx : Option Identity} {identity : Identity}
  {key : String} {store : LimiterStore} {now : Int} {s s' t : LimiterState} {r : ModelRequest}

/-- A command that is in none of the lists of the hook. -/
lemma scopeRedisCommand_refused (ctx : Option Identity) (cmd : Command)
    (hconn : cmd.name ∉ connectionCommands)
    (hdata : scopePositions cmd.name cmd.args = .error (.notPermitted cmd.name)) :
    ∃ e, scopeRedisCommand ctx cmd = .error e := by
  unfold scopeRedisCommand
  rw [if_neg hconn]
  cases contextKey ctx "" with
  | error e => exact ⟨e, rfl⟩
  | ok own =>
    rw [hdata]
    exact ⟨_, rfl⟩

lemma lindex_refused (ctx : Option Identity) (key : String) :
    ∃ e, sentKey ctx (keyCommand "lindex" key ["-1"]) 1 = .error e := by
  have hname : (keyCommand "lindex" key ["-1"]).name = "lindex" := by
    show lower "lindex" = "lindex"
    decide
  obtain ⟨e, he⟩ := scopeRedisCommand_refused ctx (keyCommand "lindex" key ["-1"])
    (by rw [hname]; decide) (by rw [hname]; rfl)
  rw [sentKey, he]
  exact ⟨e, rfl⟩

/-- The keys of the limiter are none of a workspace yet. -/
lemma beginsWith_rateLimit (rest : String) : beginsWith ("rateLimit:" ++ rest) "tenant:" = false := by
  simp [beginsWith, String.toList_append, List.isPrefixOf]

lemma beginsWith_rateLimit_own (id : Int) (rest : String) :
    beginsWith ("rateLimit:" ++ rest) (workspaceKey id "") = false := by
  simp [beginsWith, workspaceKey_toList, String.toList_append, List.isPrefixOf]

/-- A command with one key reaches the server under the key of the workspace. -/
lemma sentKey_ok {name rest : String} (hid : 0 < identity.id) (args : List String)
    (hconn : lower name ∉ connectionCommands) (hdata : lower name ∈ singleKeyCommands) :
    sentKey (some identity) (keyCommand name ("rateLimit:" ++ rest) args) 1
      = .ok (workspaceKey identity.id ("rateLimit:" ++ rest)) := by
  have hctx : contextKey (some identity) "" = .ok (workspaceKey identity.id "") := by
    rw [contextKey, fromContext, if_neg (by omega)]
  have hname : (keyCommand name ("rateLimit:" ++ rest) args).name = lower name := rfl
  have hpos : ∀ xs, scopePositions (lower name) xs = .ok [1] := by
    intro xs
    rw [scopePositions, if_pos hdata]
  have hkey : workspaceKey identity.id "" ++ ("rateLimit:" ++ rest)
      = workspaceKey identity.id ("rateLimit:" ++ rest) := by
    simp [workspaceKey, String.append_assoc]
  unfold sentKey scopeRedisCommand
  rw [hname, if_neg hconn, hctx]
  rw [hpos]
  simp [scopeArgs, scopeArg, keyCommand, beginsWith_rateLimit, beginsWith_rateLimit_own, Except.map,
    hkey]

variable {user : Nat} {ts : List Int} {v : Option ListValue}

/-- The keys of two users are different, in one workspace or in two. -/
lemma successKey_inj {id id' : Int} {user' : Nat} (hid : 0 < id) (hid' : 0 < id')
    (h : workspaceKey id (successKey user) = workspaceKey id' (successKey user')) :
    id = id' ∧ user = user' := by
  have hown : ∀ i k, beginsWith (workspaceKey i k) (workspaceKey i "") = true := by
    intro i k
    rw [show workspaceKey i k = workspaceKey i "" ++ k by simp [workspaceKey, String.append_assoc]]
    exact beginsWith_append _ _
  have hsame : id = id' := by
    refine workspaceKey_disjoint hid hid' (hown id (successKey user)) ?_
    rw [h]
    exact hown id' _
  subst hsame
  have hdigits : Nat.toDigits 10 user = Nat.toDigits 10 user' := by
    have hlist := congrArg String.toList h
    simp only [workspaceKey_toList, successKey, String.toList_append, append_cancel_left_eq,
      List.cons.injEq, true_and, toString_toList] at hlist
    exact hlist
  have hvalue := congrArg (Nat.ofDigitChars 10 · 0) hdigits
  simp only [Nat.ofDigitChars_ten_toDigits] at hvalue
  exact ⟨rfl, hvalue⟩

/-! ## The list of a user -/

/-- What is stored of the successes `ts` of a user: those from the last one back to some point, as many
as are kept. The others are out of the window. -/
def Stored (env : LimiterEnv) (limit : RateLimit) (ts : List Int) (now : Int) : Option ListValue → Prop
  | none => ∀ t ∈ ts, t + 1000 * limit.duration ≤ now
  | some v => ∃ k e, v.elements = ((ts.take k).take limit.successMaxCount).map env.format ∧
      v.expireAt = some e ∧ (∀ t ∈ ts.drop k, t + 1000 * limit.duration ≤ now) ∧
      ∀ t ∈ ts, t + 1000 * limit.duration ≤ e

lemma Stored.later {now' : Int} (h : Stored env limit ts now v)
    (hle : now ≤ now') : Stored env limit ts now' v := by
  cases v with
  | none => exact fun t ht => Int.le_trans (h t ht) hle
  | some v =>
    obtain ⟨k, e, helements, hexpire, hold, hall⟩ := h
    exact ⟨k, e, helements, hexpire, fun t ht => Int.le_trans (hold t ht) hle, hall⟩

/-- A list that has expired held only successes that are out of the window. -/
lemma Stored.lookup (h : Stored env limit ts now (store.lists key)) :
    Stored env limit ts now (store.lookup now key) := by
  unfold LimiterStore.lookup
  cases hv : store.lists key with
  | none =>
    rw [hv] at h
    exact h
  | some v =>
    rw [hv] at h
    obtain ⟨k, e, helements, hexpire, hold, hall⟩ := h
    by_cases halive : now ≤ e
    · simpa [Option.filter, hexpire, halive] using ⟨k, e, helements, hexpire, hold, hall⟩
    have hgone : (some v).filter (fun v => v.expireAt.all (now ≤ ·)) = none := by
      simp [Option.filter, hexpire, halive]
    rw [hgone]
    intro t ht
    have := hall t ht
    omega

/-- While the list is not full, every success in the window is in it. -/
lemma Stored.recent_lt (h : Stored env limit ts now (store.lists key))
    (hroom : (store.elements now key).length < limit.successMaxCount) :
    ts.countP (fun t => now - t < 1000 * limit.duration) < limit.successMaxCount := by
  have hlook := h.lookup
  have hzero : ∀ us : List Int, (∀ t ∈ us, t + 1000 * limit.duration ≤ now) →
      us.countP (fun t => now - t < 1000 * limit.duration) = 0 := by
    intro us hus
    rw [countP_eq_zero]
    intro t ht
    have := hus t ht
    simp only [decide_eq_true_eq]
    omega
  unfold LimiterStore.elements at hroom
  cases hv : store.lookup now key with
  | none =>
    rw [hv] at hlook hroom
    rw [hzero ts hlook]
    exact Nat.lt_of_le_of_lt (Nat.zero_le _) hroom
  | some v =>
    rw [hv] at hlook hroom
    obtain ⟨k, e, helements, -, hold, -⟩ := hlook
    simp only [map_some, getD_some, helements, length_map, length_take] at hroom
    calc ts.countP (fun t => now - t < 1000 * limit.duration)
        = (ts.take k).countP (fun t => now - t < 1000 * limit.duration) := by
          rw [← take_append_drop k ts, countP_append, hzero _ hold]
          simp
      _ ≤ (ts.take k).length := countP_le_length
      _ < limit.successMaxCount := by
          rw [length_take]
          omega

lemma write_eq {name rest : String} {args : List String} {f : Option ListValue → Option ListValue}
    (hid : 0 < identity.id) (hconn : lower name ∉ connectionCommands)
    (hdata : lower name ∈ singleKeyCommands) :
    store.write (some identity) now (keyCommand name ("rateLimit:" ++ rest) args) f
      = store.setList (workspaceKey identity.id ("rateLimit:" ++ rest))
          (f (store.lookup now (workspaceKey identity.id ("rateLimit:" ++ rest)))) := by
  rw [LimiterStore.write, sentKey_ok hid args hconn hdata]

lemma lookup_setList : (store.setList key v).lookup now key
    = v.filter fun v => v.expireAt.all (now ≤ ·) := by
  simp [LimiterStore.lookup, LimiterStore.setList]

lemma setList_setList {w : Option ListValue} :
    (store.setList key v).setList key w = store.setList key w := by
  unfold LimiterStore.setList
  congr 1
  funext k
  by_cases hk : k = key <;> simp [hk]

/-- What a success leaves behind. -/
def recorded (env : LimiterEnv) (limit : RateLimit) (now : Int) (elements : List String) :
    Option ListValue :=
  if limit.duration ≤ 0 then none
  else some ⟨(env.format now :: elements).take limit.successMaxCount,
    some (now + 1000 * limit.duration)⟩

lemma recordRedisRequest_eq (hid : 0 < identity.id) (hmax : 0 < limit.successMaxCount) :
    recordRedisRequest env (some identity) now (successKey user) limit.successMaxCount limit.duration
        store
      = store.setList (workspaceKey identity.id (successKey user))
          (recorded env limit now
            (store.elements now (workspaceKey identity.id (successKey user)))) := by
  unfold recordRedisRequest LimiterStore.expire successKey
  rw [if_neg (by omega), write_eq hid (by decide) (by decide), write_eq hid (by decide) (by decide),
    write_eq hid (by decide) (by decide)]
  generalize workspaceKey identity.id _ = key
  -- a key that is found has not expired, so each command finds what the one before has left
  have halive : ((store.lookup now key).bind ListValue.expireAt).all (now ≤ ·) = true := by
    unfold LimiterStore.lookup
    cases store.lists key with
    | none => rfl
    | some v =>
      cases he : v.expireAt with
      | none => simp [Option.filter, he]
      | some e =>
        by_cases hle : now ≤ e <;> simp [Option.filter, he, hle]
  simp only [lookup_setList, setList_setList, filter_some, map_some, halive, if_true]
  rfl

/-! ## Runs -/

structure LimiterInv (env : LimiterEnv) (limit : RateLimit) (s : LimiterState) : Prop where
  limiter : s.store.limiter.getD "" = ""
  scripts : "" ∉ s.store.scripts
  times : ∀ q ∈ s.served, q.1.finish ≤ s.now
  stored : 0 < limit.successMaxCount → ∀ id user, 0 < id →
    Stored env limit (s.successes id user) s.now (s.store.lists (workspaceKey id (successKey user)))

/-- The limiter checks the list before it looks at anything else, and only its length. -/
lemma checkRedisRateLimit_eq (hid : 0 < identity.id) :
    checkRedisRateLimit env (some identity) now (successKey user) limit.successMaxCount limit.duration
        store
      = (if limit.successMaxCount = 0 ∨ (store.elements now
            (workspaceKey identity.id (successKey user))).length < limit.successMaxCount
          then .ok true else .error .parse, store) := by
  obtain ⟨e, hrefused⟩ := lindex_refused (some identity) (successKey user)
  unfold checkRedisRateLimit
  rw [hrefused]
  unfold successKey
  rw [sentKey_ok hid [] (by decide) (by decide)]
  dsimp only
  rw [env.parse_empty]
  by_cases hzero : limit.successMaxCount = 0
  · rw [if_pos hzero, if_pos (.inl hzero)]
  by_cases hroom : (store.elements now (workspaceKey identity.id
      ("rateLimit:" ++ ("MRRLS:" ++ toString (user : Int))))).length < limit.successMaxCount
  · rw [if_neg hzero, if_pos hroom, if_pos (.inr hroom)]
  · rw [if_neg hzero, if_neg hroom, if_neg (not_or.mpr ⟨hzero, hroom⟩)]

/-- What the limiter of the process keeps apart from its digest, which stays empty. -/
structure SameLists (store store' : LimiterStore) : Prop where
  lists : store'.lists = store.lists
  scripts : store'.scripts = store.scripts
  limiter : store'.limiter.getD "" = ""

lemma newLimiter_same (hlimiter : store.limiter.getD "" = "") :
    SameLists store (newLimiter env ctx store) := by
  unfold newLimiter
  split
  · exact ⟨rfl, rfl, hlimiter⟩
  obtain ⟨e, hrefused⟩ := scopeRedisCommand_refused ctx ⟨["script", "load", env.script], false⟩
    (by simp [Command.name]; decide) (by simp [Command.name]; rfl)
  rw [hrefused]
  exact ⟨rfl, rfl, rfl⟩

/-- No script is found under the empty digest. -/
lemma allow_fails {requested rate capacity : Int} (hlimiter : store.limiter.getD "" = "")
    (hscripts : "" ∉ store.scripts) :
    ∃ e, store.allow ctx now key requested rate capacity = (.error e, store) := by
  unfold LimiterStore.allow
  rw [hlimiter]
  dsimp only
  split
  · exact ⟨_, rfl⟩
  · rw [if_neg hscripts]
    exact ⟨_, rfl⟩

lemma handler_passed (h : NeverFull limit s r) (hid : 0 < r.identity.id) :
    redisRateLimitHandler env limit r s.store = (.passed, if r.success then
      recordRedisRequest env (some r.identity) r.finish (successKey r.user) limit.successMaxCount
        limit.duration s.store else s.store) := by
  unfold redisRateLimitHandler
  dsimp only
  rw [checkRedisRateLimit_eq hid, if_pos h.2]
  dsimp only
  rw [if_neg (by rw [h.1]; decide)]

lemma handler_failed (hinv : LimiterInv env limit s) (h : ¬ NeverFull limit s r)
    (hid : 0 < r.identity.id) :
    ∃ store, redisRateLimitHandler env limit r s.store = (.internalError, store) ∧
      SameLists s.store store := by
  unfold redisRateLimitHandler
  dsimp only
  rw [checkRedisRateLimit_eq hid]
  by_cases hroom : limit.successMaxCount = 0 ∨ (s.store.elements r.arrival
      (workspaceKey r.identity.id (successKey r.user))).length < limit.successMaxCount
  · have htotal : 0 < limit.totalMaxCount := by
      rw [Nat.pos_iff_ne_zero]
      exact fun hzero => h ⟨hzero, hroom⟩
    have hsame : SameLists s.store (newLimiter env (some r.identity) s.store) :=
      newLimiter_same hinv.limiter
    have hscripts : "" ∉ (newLimiter env (some r.identity) s.store).scripts := by
      rw [hsame.scripts]
      exact hinv.scripts
    obtain ⟨e, hallow⟩ := @allow_fails (some r.identity) (totalKey r.user) _ r.arrival limit.duration
      limit.totalMaxCount (limit.totalMaxCount * limit.duration) hsame.limiter hscripts
    rw [if_pos hroom]
    dsimp only
    rw [if_pos htotal, hallow]
    exact ⟨_, rfl, hsame⟩
  · rw [if_neg hroom]
    exact ⟨_, rfl, rfl, rfl, hinv.limiter⟩

lemma successes_cons {q : ModelRequest × Verdict} {id : Int} {now : Int} :
    LimiterState.successes ⟨store, now, q :: s.served⟩ id user =
      if q.1.identity.id = id ∧ q.1.user = user ∧ q.2 = .passed ∧ q.1.success then
        q.1.finish :: s.successes id user
      else s.successes id user := by
  unfold LimiterState.successes
  rw [filter_cons]
  simp only [decide_eq_true_eq]
  split_ifs <;> rfl

/-- A success is put in front of what was stored, or begins a new list. -/
lemma Stored.recorded (hmax : 0 < limit.successMaxCount)
    (h : Stored env limit ts now (store.lists key)) (hle : ∀ t ∈ ts, t ≤ now) :
    Stored env limit (now :: ts) now
      (Middleware.recorded env limit now (store.elements now key)) := by
  have hlook := h.lookup
  unfold Middleware.recorded LimiterStore.elements
  by_cases hzero : limit.duration ≤ 0
  · rw [if_pos hzero]
    intro t ht
    rcases mem_cons.mp ht with rfl | hmem
    · omega
    · have := hle t hmem
      omega
  rw [if_neg hzero]
  have hall : ∀ t ∈ now :: ts, t + 1000 * limit.duration ≤ now + 1000 * limit.duration := by
    intro t ht
    rcases mem_cons.mp ht with rfl | hmem
    · exact Int.le_refl _
    · have := hle t hmem
      omega
  obtain ⟨m, hm⟩ : ∃ m, limit.successMaxCount = m + 1 := ⟨_, (Nat.succ_pred_eq_of_pos hmax).symm⟩
  cases hv : store.lookup now key with
  | none =>
    rw [hv] at hlook
    refine ⟨1, _, ?_, rfl, hlook, hall⟩
    simp [hm]
  | some v =>
    rw [hv] at hlook
    obtain ⟨k, e, helements, -, hold, -⟩ := hlook
    refine ⟨k + 1, _, ?_, rfl, hold, hall⟩
    simp only [map_some, getD_some, helements, hm, take_succ_cons, map_cons, ← map_take, take_take]
    rw [show min m (min (m + 1) k) = min m k by omega]

lemma limiterInv_step (hinv : LimiterInv env limit s) (hstep : rateLimitStep env limit s r = some s') :
    LimiterInv env limit s' := by
  unfold rateLimitStep at hstep
  rw [ite_none_right_eq_some] at hstep
  obtain ⟨⟨hid, harrival, hfinish⟩, hstep⟩ := hstep
  have htimes : ∀ q ∈ (r, (redisRateLimitHandler env limit r s.store).1) :: s.served,
      q.1.finish ≤ r.finish := by
    intro q hq
    rcases mem_cons.mp hq with rfl | hmem
    · exact Int.le_refl _
    · have := hinv.times q hmem
      omega
  have hkept : ∀ id user, 0 < limit.successMaxCount → 0 < id →
      Stored env limit (s.successes id user) r.finish
        (s.store.lists (workspaceKey id (successKey user))) :=
    fun id user hmax hpos => (hinv.stored hmax id user hpos).later (by omega)
  by_cases hroom : NeverFull limit s r
  · rw [handler_passed hroom hid] at hstep htimes
    obtain ⟨⟩ := hstep
    by_cases hwrite : r.success = true ∧ 0 < limit.successMaxCount
    · obtain ⟨hsuccess, hmax⟩ := hwrite
      rw [if_pos hsuccess, recordRedisRequest_eq hid hmax]
      refine ⟨hinv.limiter, hinv.scripts, htimes, ?_⟩
      intro _ id user hpos
      rw [successes_cons]
      by_cases hown : r.identity.id = id ∧ r.user = user
      · obtain ⟨rfl, rfl⟩ := hown
        rw [if_pos ⟨rfl, rfl, rfl, hsuccess⟩]
        simp only [LimiterStore.setList, if_true]
        apply (hkept _ _ hmax hpos).recorded hmax
        intro t ht
        obtain ⟨q, hq, rfl⟩ := mem_map.mp ht
        exact htimes q (mem_cons_of_mem _ (mem_of_mem_filter hq))
      have hne : workspaceKey id (successKey user)
          ≠ workspaceKey r.identity.id (successKey r.user) := by
        intro heq
        obtain ⟨rfl, rfl⟩ := successKey_inj hpos hid heq
        exact hown ⟨rfl, rfl⟩
      rw [if_neg fun h => hown ⟨h.1, h.2.1⟩]
      simp only [LimiterStore.setList, if_neg hne]
      exact hkept id user hmax hpos
    · have hstore : (if r.success = true then recordRedisRequest env (some r.identity) r.finish
          (successKey r.user) limit.successMaxCount limit.duration s.store else s.store) = s.store := by
        split_ifs with hsuccess
        · rw [recordRedisRequest, if_pos (by
            by_contra hne
            exact hwrite ⟨hsuccess, Nat.pos_of_ne_zero hne⟩)]
        · rfl
      rw [hstore]
      refine ⟨hinv.limiter, hinv.scripts, htimes, ?_⟩
      intro hmax id user hpos
      rw [successes_cons, if_neg fun h => hwrite ⟨h.2.2.2, hmax⟩]
      exact hkept id user hmax hpos
  · obtain ⟨store, heq, hsame⟩ := handler_failed hinv hroom hid
    rw [heq] at hstep htimes
    cases hstep
    refine ⟨hsame.limiter, ?_, htimes, ?_⟩
    · rw [hsame.scripts]
      exact hinv.scripts
    · intro hmax id user hpos
      rw [hsame.lists, successes_cons, if_neg (by simp)]
      exact hkept id user hmax hpos

/-- A verdict is right exactly as long as the list of the user is not full. -/
lemma decides_iff (hinv : LimiterInv env limit s) (hstep : rateLimitStep env limit s r = some s') :
    Decides env limit s r ↔ NeverFull limit s r := by
  unfold rateLimitStep at hstep
  rw [ite_none_right_eq_some] at hstep
  obtain ⟨⟨hid, harrival, -⟩, -⟩ := hstep
  by_cases hroom : NeverFull limit s r
  · refine iff_of_true ?_ hroom
    unfold Decides
    rw [handler_passed hroom hid]
    refine ⟨nofun, iff_of_true rfl ⟨?_, .inl hroom.1⟩⟩
    rcases hroom.2 with hzero | hlt
    · exact .inl hzero
    · have hmax : 0 < limit.successMaxCount := by omega
      exact .inr (((hinv.stored hmax _ _ hid).later harrival).recent_lt hlt)
  refine iff_of_false ?_ hroom
  obtain ⟨store, heq, -⟩ := handler_failed hinv hroom hid
  unfold Decides
  rw [heq]
  exact fun h => h.1 rfl

end

/-- **The rate limit of model requests.** In a sequential history of requests every verdict is right
exactly when there is no limit for all requests and no request finds the list of its user full. -/
theorem rateLimit_decides_iff (env : LimiterEnv) (limit : RateLimit) (scripts : List String)
    (hscripts : "" ∉ scripts) (now : Int) (rs : List ModelRequest) (t : LimiterState)
    (hrun : run (rateLimitStep env limit) (.init scripts now) rs = some t) :
    Along (rateLimitStep env limit) (Decides env limit) (.init scripts now) rs ↔
      Along (rateLimitStep env limit) (NeverFull limit) (.init scripts now) rs :=
  along_congr (LimiterInv env limit) (fun _ _ _ => limiterInv_step)
    (fun _ _ _ => decides_iff)
    ⟨rfl, hscripts, nofun, fun _ _ _ _ => nofun⟩ hrun

/-- Texts of times are the numbers. -/
def plainLimiter : LimiterEnv := ⟨toString, fun _ => none, rfl, "", "0"⟩

/-- A request of user `2` of workspace `1` that succeeds at once. -/
def promptRequest (now : Int) : ModelRequest := ⟨⟨1, "one"⟩, 2, now, true, now⟩

theorem rateLimit_decides_two :
    Along (rateLimitStep plainLimiter ⟨1, 0, 2⟩) (Decides plainLimiter ⟨1, 0, 2⟩) (.init [] 0)
      [promptRequest 0, promptRequest 1000] :=
  (rateLimit_decides_iff plainLimiter ⟨1, 0, 2⟩ [] (by decide) 0 _ _ rfl).mpr (by decide +kernel)

/-- With one success a minute, the request after a success is answered with an internal error where it
should be refused. With a limit for all requests, the first request is. -/
theorem full_list_internalError :
    (redisRateLimitHandler plainLimiter ⟨1, 0, 1⟩ (promptRequest 1000)
      (redisRateLimitHandler plainLimiter ⟨1, 0, 1⟩ (promptRequest 0)
        (LimiterState.init [] 0).store).2).1 = .internalError ∧
    (redisRateLimitHandler plainLimiter ⟨1, 5, 0⟩ (promptRequest 0)
      (LimiterState.init [] 0).store).1 = .internalError ∧
    ¬ Along (rateLimitStep plainLimiter ⟨1, 0, 1⟩) (Decides plainLimiter ⟨1, 0, 1⟩) (.init [] 0)
      [promptRequest 0, promptRequest 1000] := by
  decide +kernel

end NewApi.Middleware
