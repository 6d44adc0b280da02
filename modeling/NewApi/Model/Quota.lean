import Mathlib

/-!
# Quota accounts

The balance of a user (`users.quota`) or of a token (`tokens.remain_quota`, with
`tokens.used_quota` moving the other way) lives in three places: the database row, the delta
queued in the batch store until the next flush, and the fields of a Redis hash. `QuotaAccount`
holds the three, and the definitions below are the statements and scripts that
`quota_reserve.go`, `user.go`, `token.go` and `utils.go` issue on them.

The user and the token functions of the source differ in the columns they touch, so each is
defined once for a `QuotaKind` and named at each kind; `IncreaseUserQuota` alone also enforces the
wallet limit.

Amounts are integers. `addNewRecord` saturates at the `int` range as the source does; a credit the
wallet limit refuses and a saturated entry are reported in the system log, and `faults` counts
those reports.
-/

namespace NewApi.Model

/-- `users.quota`, or `tokens.remain_quota` with `tokens.used_quota`. -/
inductive QuotaKind
  | user
  | token
deriving DecidableEq

/-- The quota columns of one row. The `used` column of a user is not touched by these functions. -/
structure QuotaRow where
  remain : Int
  used : Int
deriving DecidableEq

/-- `quota = quota + delta`; for a token also `used_quota = used_quota - delta`. -/
def QuotaRow.add (k : QuotaKind) (r : QuotaRow) (delta : Int) : QuotaRow :=
  match k with
  | .user => { r with remain := r.remain + delta }
  | .token => { remain := r.remain + delta, used := r.used - delta }

/-- A balance as the code keeps it. -/
structure QuotaAccount where
  /-- the database row -/
  row : QuotaRow
  /-- `batchUpdateStores[type][id]`, `0` when there is no entry -/
  queued : Int
  /-- the quota fields of the Redis hash, when the hash is complete -/
  cached : Option QuotaRow
  /-- a fence keeps database snapshots out of the hash -/
  fenced : Bool
  /-- storage writes reported as failed in the system log -/
  faults : Nat
deriving DecidableEq

/-- The balance once the queued delta is flushed. -/
def QuotaAccount.total (k : QuotaKind) (a : QuotaAccount) : QuotaRow := a.row.add k a.queued

/-- The settings the quota functions read. -/
structure StoreMode where
  redisEnabled : Bool
  batchUpdateEnabled : Bool

/-- The errors of the quota functions. -/
inductive QuotaError
  | negativeQuota
  | walletQuotaLimitExceeded
  | userAuthCachePending
deriving DecidableEq

/-! ## Scripts and statements -/

/-- `cacheQuotaResult`. -/
inductive CacheQuotaResult
  | insufficient
  | ok
  | miss
deriving DecidableEq

/-- The reserve script: check and decrement the cached balance. -/
def cacheTryReserveQuota (k : QuotaKind) (a : QuotaAccount) (amount : Int) :
    CacheQuotaResult × QuotaAccount :=
  match a.cached with
  | none => (.miss, a)
  | some r =>
    if r.remain < amount then (.insufficient, a)
    else (.ok, { a with cached := some (r.add k (-amount)) })

/-- The delta script: move the cached balance, when there is one. -/
def cacheApplyQuotaDelta (k : QuotaKind) (a : QuotaAccount) (delta : Int) :
    CacheQuotaResult × QuotaAccount :=
  match a.cached with
  | none => (.miss, a)
  | some r => (.ok, { a with cached := some (r.add k delta) })

/-- The fill script (`writeUserCache` with quota, `cacheInitToken`): publish a database snapshot
unless a fence is up or the hash already carries a balance. -/
def cacheFillQuota (a : QuotaAccount) (snapshot : QuotaRow) : QuotaAccount :=
  if a.fenced then a
  else match a.cached with
    | some _ => a
    | none => { a with cached := some snapshot }

def maxInt : Int := 2 ^ 63 - 1

def minInt : Int := -2 ^ 63

/-- Queue a delta for the next batch flush, saturating at the `int` range. -/
def addNewRecord (a : QuotaAccount) (value : Int) : QuotaAccount :=
  if maxInt < a.queued + value then { a with queued := maxInt, faults := a.faults + 1 }
  else if a.queued + value < minInt then { a with queued := minInt, faults := a.faults + 1 }
  else { a with queued := a.queued + value }

/-- Apply the queued delta to the row. -/
def batchUpdate (k : QuotaKind) (a : QuotaAccount) : QuotaAccount :=
  { a with row := a.row.add k a.queued, queued := 0 }

/-- `UPDATE ... SET quota = quota + delta WHERE id = ?`, queued instead in batch mode. -/
def persistQuotaDelta (m : StoreMode) (k : QuotaKind) (a : QuotaAccount) (delta : Int) :
    QuotaAccount :=
  if m.batchUpdateEnabled then addNewRecord a delta
  else { a with row := a.row.add k delta }

/-- `UPDATE ... SET quota = quota - ? WHERE id = ? AND quota >= ?`. -/
def reserveQuotaDB (k : QuotaKind) (a : QuotaAccount) (quota : Int) : Bool × QuotaAccount :=
  if quota ≤ a.row.remain then (true, { a with row := a.row.add k (-quota) })
  else (false, a)

/-! ## Reservations -/

/-- What `TryReserveUserQuota` and `TryReserveTokenQuota` do once the reserve script has answered
a second time: fall back to the database on a miss, otherwise persist what the cache granted. -/
def finishReserve (m : StoreMode) (k : QuotaKind) (quota : Int) :
    CacheQuotaResult × QuotaAccount → Bool × QuotaAccount
  | (.miss, a) => reserveQuotaDB k a quota
  | (.insufficient, a) => (false, a)
  | (.ok, a) => (true, persistQuotaDelta m k a (-quota))

/-- The limited reservation of a positive amount. A cold hash is hydrated from the database row
and the script is run again. -/
def tryReserveLimited (m : StoreMode) (k : QuotaKind) (a : QuotaAccount) (quota : Int) :
    Bool × QuotaAccount :=
  if m.redisEnabled = false then reserveQuotaDB k a quota
  else
    match cacheTryReserveQuota k a quota with
    | (.miss, a) => finishReserve m k quota (cacheTryReserveQuota k (cacheFillQuota a a.row) quota)
    | r => finishReserve m k quota r

def tryReserveUserQuota (m : StoreMode) (a : QuotaAccount) (quota : Int) :
    Except QuotaError (Bool × QuotaAccount) :=
  if quota < 0 then .error .negativeQuota
  else if quota = 0 then .ok (true, a)
  else .ok (tryReserveLimited m .user a quota)

/-! ## Unconditional changes

The cached balance follows asynchronously (`gopool.Go`), so the change of the hash is not part of
these functions; see `Housekeeping` in the billing session. -/

def decreaseQuota (m : StoreMode) (k : QuotaKind) (a : QuotaAccount) (quota : Int) :
    Except QuotaError QuotaAccount :=
  if quota < 0 then .error .negativeQuota
  else .ok (persistQuotaDelta m k a (-quota))

def decreaseUserQuota (m : StoreMode) (a : QuotaAccount) (quota : Int) :
    Except QuotaError QuotaAccount := decreaseQuota m .user a quota

def decreaseTokenQuota (m : StoreMode) (a : QuotaAccount) (quota : Int) :
    Except QuotaError QuotaAccount := decreaseQuota m .token a quota

def increaseTokenQuota (m : StoreMode) (a : QuotaAccount) (quota : Int) :
    Except QuotaError QuotaAccount :=
  if quota < 0 then .error .negativeQuota
  else .ok (persistQuotaDelta m .token a quota)

def maxWalletQuota : Int := 2 ^ 53 - 1

/-- A credit above the wallet limit is refused: by its size in every mode, by the balance it would
lead to only when it is written directly. -/
def increaseUserQuota (m : StoreMode) (a : QuotaAccount) (quota : Int) :
    Except QuotaError QuotaAccount :=
  if quota < 0 then .error .negativeQuota
  else if maxWalletQuota < quota then .error .walletQuotaLimitExceeded
  else if m.batchUpdateEnabled then .ok (addNewRecord a quota)
  else if a.row.remain ≤ maxWalletQuota - quota then .ok { a with row := a.row.add .user quota }
  else .error .walletQuotaLimitExceeded

/-- Unlimited tokens skip the balance check but still keep the accounts. -/
def tryReserveTokenQuota (m : StoreMode) (a : QuotaAccount) (quota : Int) (unlimited : Bool) :
    Except QuotaError (Bool × QuotaAccount) :=
  if quota < 0 then .error .negativeQuota
  else if quota = 0 then .ok (true, a)
  else if unlimited then (decreaseTokenQuota m a quota).map fun a => (true, a)
  else .ok (tryReserveLimited m .token a quota)

/-- `GetUserQuota(id, false)`: the cached balance, hydrating a cold hash, or the row without
Redis. A pending fence makes the cached read fail. -/
def getUserQuota (m : StoreMode) (a : QuotaAccount) : Except QuotaError (Int × QuotaAccount) :=
  if m.redisEnabled = false then .ok (a.row.remain, a)
  else if a.fenced then .error .userAuthCachePending
  else
    match a.cached with
    | some r => .ok (r.remain, a)
    | none => .ok (a.row.remain, cacheFillQuota a a.row)

/-- An account after a storage error was written to the system log. -/
def QuotaAccount.logged (a : QuotaAccount) : Except QuotaError QuotaAccount → QuotaAccount
  | .ok a' => a'
  | .error _ => { a with faults := a.faults + 1 }

/-! ## What each operation moves -/

@[simp] lemma QuotaRow.add_zero (k : QuotaKind) (r : QuotaRow) : r.add k 0 = r := by
  cases k <;> simp [QuotaRow.add]

@[simp] lemma QuotaRow.add_add (k : QuotaKind) (r : QuotaRow) (x y : Int) :
    (r.add k x).add k y = r.add k (x + y) := by
  cases k with
  | user => simp [QuotaRow.add, add_assoc]
  | token => simp [QuotaRow.add, add_assoc, sub_sub]

/-- From `a` to `a'` the balance moved by `delta`, unless a write was reported as failed. -/
structure Moved (k : QuotaKind) (delta : Int) (a a' : QuotaAccount) : Prop where
  faults_le : a.faults ≤ a'.faults
  total_eq : a'.faults = a.faults → a'.total k = (a.total k).add k delta

namespace Moved
variable {k : QuotaKind} {a b c : QuotaAccount} {x y : Int}

protected lemma refl (k : QuotaKind) (a : QuotaAccount) : Moved k 0 a a :=
  ⟨le_refl _, fun _ => by simp⟩

protected lemma trans (h : Moved k x a b) (h' : Moved k y b c) : Moved k (x + y) a c := by
  refine ⟨h.faults_le.trans h'.faults_le, fun he => ?_⟩
  have hab := h.faults_le
  have hbc := h'.faults_le
  rw [h'.total_eq (by omega), h.total_eq (by omega), QuotaRow.add_add]

/-- A change of the hash, of the fence or of where the balance is stored moves nothing. -/
lemma of_total_eq (hf : b.faults = a.faults) (ht : b.total k = a.total k) : Moved k 0 a b :=
  ⟨hf.ge, fun _ => by simp [ht]⟩

/-- A direct write of the row. -/
lemma row (k : QuotaKind) (a : QuotaAccount) (x : Int) :
    Moved k x a { a with row := a.row.add k x } :=
  ⟨le_refl _, fun _ => by simp [QuotaAccount.total, add_comm]⟩

/-- A report in the log is a fault. -/
lemma fault (h : a.faults < b.faults) : Moved k x a b :=
  ⟨h.le, fun he => by omega⟩

end Moved

lemma addNewRecord_moved (k : QuotaKind) (a : QuotaAccount) (value : Int) :
    Moved k value a (addNewRecord a value) := by
  unfold addNewRecord
  split
  · exact Moved.fault (Nat.lt_succ_self _)
  split
  · exact Moved.fault (Nat.lt_succ_self _)
  · exact ⟨le_refl _, fun _ => by simp [QuotaAccount.total]⟩

lemma persistQuotaDelta_moved (m : StoreMode) (k : QuotaKind) (a : QuotaAccount) (delta : Int) :
    Moved k delta a (persistQuotaDelta m k a delta) := by
  unfold persistQuotaDelta
  split
  · exact addNewRecord_moved k a delta
  · exact Moved.row k a delta

lemma batchUpdate_moved (k : QuotaKind) (a : QuotaAccount) : Moved k 0 a (batchUpdate k a) :=
  Moved.of_total_eq rfl (by simp [QuotaAccount.total, batchUpdate])

lemma reserveQuotaDB_moved (k : QuotaKind) (a : QuotaAccount) (quota : Int) :
    Moved k (if (reserveQuotaDB k a quota).1 then -quota else 0) a
      (reserveQuotaDB k a quota).2 := by
  unfold reserveQuotaDB
  split
  · exact Moved.row k a (-quota)
  · exact Moved.refl k a

lemma cacheTryReserveQuota_moved (k : QuotaKind) (a : QuotaAccount) (amount : Int) :
    Moved k 0 a (cacheTryReserveQuota k a amount).2 := by
  unfold cacheTryReserveQuota
  split
  · exact Moved.refl k a
  split
  · exact Moved.refl k a
  · exact Moved.of_total_eq rfl rfl

lemma cacheFillQuota_moved (k : QuotaKind) (a : QuotaAccount) (snapshot : QuotaRow) :
    Moved k 0 a (cacheFillQuota a snapshot) := by
  unfold cacheFillQuota
  split
  · exact Moved.refl k a
  split
  · exact Moved.refl k a
  · exact Moved.of_total_eq rfl rfl

lemma finishReserve_moved (m : StoreMode) (k : QuotaKind) (quota : Int)
    (r : CacheQuotaResult × QuotaAccount) :
    Moved k (if (finishReserve m k quota r).1 then -quota else 0) r.2
      (finishReserve m k quota r).2 := by
  obtain ⟨res, a⟩ := r
  cases res with
  | insufficient => exact Moved.refl k a
  | ok => exact persistQuotaDelta_moved m k a (-quota)
  | miss => exact reserveQuotaDB_moved k a quota

/-- A limited reservation takes exactly the amount when it is granted and nothing otherwise,
whichever of the three places decides. -/
lemma tryReserveLimited_moved (m : StoreMode) (k : QuotaKind) (a : QuotaAccount) (quota : Int) :
    Moved k (if (tryReserveLimited m k a quota).1 then -quota else 0) a
      (tryReserveLimited m k a quota).2 := by
  unfold tryReserveLimited
  split
  · exact reserveQuotaDB_moved k a quota
  have h₁ := cacheTryReserveQuota_moved k a quota
  split
  · next a₁ he =>
    rw [he] at h₁
    have h₂ := h₁.trans (cacheFillQuota_moved k a₁ a₁.row)
    have h₃ := h₂.trans (cacheTryReserveQuota_moved k (cacheFillQuota a₁ a₁.row) quota)
    have h₄ := h₃.trans (finishReserve_moved m k quota
      (cacheTryReserveQuota k (cacheFillQuota a₁ a₁.row) quota))
    simpa using h₄
  · simpa using h₁.trans (finishReserve_moved m k quota (cacheTryReserveQuota k a quota))

variable {m : StoreMode} {a a' : QuotaAccount} {quota : Int}

lemma tryReserveUserQuota_moved {b : Bool}
    (h : tryReserveUserQuota m a quota = .ok (b, a')) :
    Moved .user (if b then -quota else 0) a a' := by
  unfold tryReserveUserQuota at h
  split at h
  · cases h
  split at h
  · next hq =>
    cases h
    simpa [hq] using Moved.refl .user a
  have hm := tryReserveLimited_moved m .user a quota
  rw [Except.ok.inj h] at hm
  exact hm

lemma decreaseQuota_moved {k : QuotaKind}
    (h : decreaseQuota m k a quota = .ok a') : Moved k (-quota) a a' := by
  unfold decreaseQuota at h
  split at h <;> cases h
  exact persistQuotaDelta_moved m k a (-quota)

lemma increaseTokenQuota_moved
    (h : increaseTokenQuota m a quota = .ok a') : Moved .token quota a a' := by
  unfold increaseTokenQuota at h
  split at h <;> cases h
  exact persistQuotaDelta_moved m .token a quota

lemma increaseUserQuota_moved
    (h : increaseUserQuota m a quota = .ok a') : Moved .user quota a a' := by
  unfold increaseUserQuota at h
  split at h
  · cases h
  split at h
  · cases h
  split at h
  · cases h
    exact addNewRecord_moved .user a quota
  split at h <;> cases h
  exact Moved.row .user a quota

lemma tryReserveTokenQuota_moved
    {unlimited b : Bool} (h : tryReserveTokenQuota m a quota unlimited = .ok (b, a')) :
    Moved .token (if b then -quota else 0) a a' := by
  unfold tryReserveTokenQuota at h
  split at h
  · cases h
  split at h
  · next hq =>
    cases h
    simpa [hq] using Moved.refl .token a
  split at h
  · cases hd : decreaseTokenQuota m a quota with
    | error e => rw [hd] at h; cases h
    | ok a₁ =>
      rw [hd] at h
      cases h
      exact decreaseQuota_moved hd
  have hm := tryReserveLimited_moved m .token a quota
  rw [Except.ok.inj h] at hm
  exact hm

lemma getUserQuota_moved {q : Int}
    (h : getUserQuota m a = .ok (q, a')) : Moved .user 0 a a' := by
  unfold getUserQuota at h
  split at h
  · cases h
    exact Moved.refl .user a
  split at h
  · cases h
  split at h <;> cases h
  · exact Moved.refl .user a
  · exact cacheFillQuota_moved .user a a.row

/-- A logged operation either moves the balance or counts as a fault. -/
lemma logged_moved {k : QuotaKind} {delta : Int}
    {r : Except QuotaError QuotaAccount} (h : ∀ a', r = .ok a' → Moved k delta a a') :
    Moved k delta a (a.logged r) := by
  cases r with
  | ok a' => exact h a' rfl
  | error e => exact Moved.fault (Nat.lt_succ_self _)

end NewApi.Model
