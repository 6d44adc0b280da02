import NewApi.Utils.Runs
import NewApi.Model.Quota

/-!
# Concurrent reservations

`TryReserveUserQuota` and `TryReserveTokenQuota` (on a limited token) of `quota_reserve.go` as the
atomic steps they are made of: the reserve script, the read and the fill of the hydration, the
second script, the write to the database or to the batch store, the compensation. Any number of
calls run at once on one account; the hash can expire or be invalidated at any point, a fence can
go up and down, and a batch flush first takes the queued delta and applies it later.
-/

namespace NewApi.Model

/-- Where a reservation stands. -/
inductive ReservePc
  /-- the reserve script is next, for the second time after a hydration -/
  | script (second : Bool)
  /-- the script found no balance: read the cache again, or the database -/
  | hydrate
  /-- a database snapshot is about to be published -/
  | fill (snapshot : QuotaRow)
  /-- the conditional update of the database row is next -/
  | fallback
  /-- the script has granted the amount, the database does not know it yet -/
  | persist
  /-- the database write failed and the cached balance is to be restored -/
  | compensate
  | returned (granted : Bool)
  deriving DecidableEq

structure ReserveCall where
  amount : Int
  pc : ReservePc
  deriving DecidableEq

/-- What the call took from the cached balance and has not written down yet. -/
def ReserveCall.reserved (c : ReserveCall) : Int :=
  match c.pc with
  | .persist => c.amount
  | .compensate => c.amount
  | _ => 0

/-- The amount of a call that returned true. -/
def ReserveCall.granted (c : ReserveCall) : Int :=
  match c.pc with
  | .returned true => c.amount
  | _ => 0

def ReserveCall.isReturned (c : ReserveCall) : Bool :=
  match c.pc with
  | .returned _ => true
  | _ => false

/-- The call before its first script. A negative amount is an error, zero is granted at once. -/
def startReserve (m : StoreMode) (amount : Int) : ReserveCall where
  amount := amount
  pc :=
    if amount < 0 then .returned false
    else if amount = 0 then .returned true
    else if m.redisEnabled then .script false
    else .fallback

/-- The next step of a call. `ok` says whether its Redis command or database statement succeeds; a
command that fails has no effect. -/
def reserveStep (m : StoreMode) (k : QuotaKind) (a : QuotaAccount) (c : ReserveCall) (ok : Bool) :
    Option (QuotaAccount × ReserveCall) :=
  match c.pc with
  | .script second =>
    if ok = false then some (a, { c with pc := .fallback })
    else
      match cacheTryReserveQuota k a c.amount with
      | (.ok, a') => some (a', { c with pc := .persist })
      | (.insufficient, a') => some (a', { c with pc := .returned false })
      | (.miss, a') => some (a', { c with pc := if second then .fallback else .hydrate })
  | .hydrate =>
    if ok = false then some (a, { c with pc := .fallback })
    -- only the user is looked up in the cache again; a token is read from the database
    else if k = .user ∧ a.fenced = false ∧ a.cached.isSome then
      some (a, { c with pc := .script true })
    else some (a, { c with pc := .fill a.row })
  | .fill snapshot =>
    -- a failed fill is only logged, but a fence makes the hydration of a user fail
    if ok = false then some (a, { c with pc := .script true })
    else if k = .user ∧ a.fenced then some (a, { c with pc := .fallback })
    else some (cacheFillQuota a snapshot, { c with pc := .script true })
  | .fallback =>
    if ok = false then some (a, { c with pc := .returned false })
    else
      match reserveQuotaDB k a c.amount with
      | (granted, a') => some (a', { c with pc := .returned granted })
  | .persist =>
    -- in batch mode the write is an entry in memory, which cannot fail
    if m.batchUpdateEnabled ∨ ok then
      some (persistQuotaDelta m k a (-c.amount), { c with pc := .returned true })
    else some (a, { c with pc := .compensate })
  | .compensate =>
    if ok then some ((cacheApplyQuotaDelta k a c.amount).2, { c with pc := .returned false })
    else some (a, { c with pc := .returned false })
  | .returned _ => none

/-! ## The system -/

/-- One account, the calls that were made on it, and the deltas that batch flushes have taken from
the batch store; a flush that has been applied has nothing left. -/
structure ReserveState where
  account : QuotaAccount
  calls : List ReserveCall
  flushes : List Int
  deriving DecidableEq

inductive ReserveLabel
  | call (amount : Int)
  | step (i : Nat) (ok : Bool)
  /-- the hash expires or is deleted -/
  | expire
  | fence (up : Bool)
  /-- `batchUpdate` swaps the batch store for an empty one -/
  | flushTake
  /-- and later adds what it took to the row -/
  | flushApply (i : Nat)
  deriving DecidableEq

def quotaStep (m : StoreMode) (k : QuotaKind) (s : ReserveState) :
    ReserveLabel → Option ReserveState
  | .call amount => some { s with calls := s.calls ++ [startReserve m amount] }
  | .step i ok =>
    match s.calls[i]? with
    | none => none
    | some c =>
      match reserveStep m k s.account c ok with
      | none => none
      | some (a, c') => some { s with account := a, calls := s.calls.set i c' }
  | .expire => some { s with account := { s.account with cached := none } }
  | .fence up => some { s with account := { s.account with fenced := up } }
  | .flushTake =>
    some { s with
      account := { s.account with queued := 0 }
      flushes := s.flushes ++ [s.account.queued] }
  | .flushApply i =>
    match s.flushes[i]? with
    | none => none
    | some delta =>
      some { s with
        account := { s.account with row := s.account.row.add k delta }
        flushes := s.flushes.set i 0 }

/-- The sum of the amounts of the calls that returned true. -/
def ReserveState.granted (s : ReserveState) : Int := (s.calls.map ReserveCall.granted).sum

/-- The balance that is left once everything queued, taken or reserved is written to the row. -/
def ReserveState.available (s : ReserveState) : Int :=
  s.account.row.remain + s.account.queued + s.flushes.sum - (s.calls.map ReserveCall.reserved).sum

/-- All calls have returned and all deltas are in the row. -/
def ReserveState.quiescent (s : ReserveState) : Prop :=
  (∀ c ∈ s.calls, c.isReturned = true) ∧ s.account.queued = 0 ∧ ∀ delta ∈ s.flushes, delta = 0

instance (s : ReserveState) : Decidable s.quiescent := inferInstanceAs (Decidable (_ ∧ _ ∧ _))

end NewApi.Model
