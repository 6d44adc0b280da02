import NewApi.Model.UserSession

/-!
# Refresh digests of one session

The calls of `user_session.go` that present a refresh digest or revoke: rotations,
`RevokeUserSession`, `RevokeUserSessionByRefreshHash` and `revokeUserSessions`, together with the
readers that fill the cache. Reads and conditional updates are separate steps. The lock that a
transaction takes on MySQL and PostgreSQL between its read and its update is left out, so the runs
there are among the runs here.
-/

namespace NewApi.Model

open Runs

/-! ## Revocation by digest -/

/-- `RevokeUserSessionByRefreshHash`; `now` is the second it was called at. -/
inductive HashPc
  | dbRead (now : Int)
  | fence (now : Int) (session : UserSession) (w : CacheWrite)
  | update (now : Int) (session : UserSession)
  | tombstone (w : CacheWrite)
  | returned (revoked : Bool)
deriving DecidableEq

def hashStart (presentedHash : String) (now : Int) : HashPc :=
  if presentedHash = "" then .returned false else .dbRead now

/-- The digest logs out: it is the current one, or the previous one in its window. -/
def UserSession.acceptsLogout (session : UserSession) (presentedHash : String) (now : Int) : Bool :=
  let validCurrent := session.refreshHash = presentedHash
  let validPrevious := session.previousRefreshHash ≠ "" ∧ now ≤ session.previousValidUntil ∧
    session.previousRefreshHash = presentedHash
  validCurrent ∨ validPrevious

def hashStep (ttlSeconds : Nat) (now : Int) (row : UserSession) (cache : Option CachedSession)
    (presentedHash : String) : HashPc → Option (UserSession × Option CachedSession × HashPc)
  | .dbRead start =>
    if ¬ row.isActive start then some (row, cache, .returned false)
    else if ¬ row.acceptsLogout presentedHash start then some (row, cache, .returned false)
    else some (row, cache, .fence start row (.begin (row.denyEntry .revoking start) none))
  | .fence start session w =>
    match writeStep ttlSeconds now cache w with
    | (cache, .inl w) => some (row, cache, .fence start session w)
    | (cache, .inr .ok) => some (row, cache, .update start session)
    | (cache, .inr _) => some (row, cache, .returned false)
  | .update start session =>
    if row.status = .active then
      some ({ row with status := .revoked, revokedAt := start }, cache,
        .tombstone (.begin (session.denyEntry .revoked start) none))
    else some (row, cache, .returned false)
  | .tombstone w =>
    match writeStep ttlSeconds now cache w with
    | (cache, .inl w) => some (row, cache, .tombstone w)
    | (cache, .inr _) => some (row, cache, .returned true)
  | .returned _ => none

/-! ## Bulk revocation -/

/-- `revokeUserSessions`, as far as it concerns this session. -/
inductive BulkPc
  | dbRead (now : Int)
  | fence (now : Int) (w : CacheWrite)
  | lock (now : Int)
  | update (now : Int) (session : UserSession)
  | tombstone (now : Int) (w : CacheWrite)
  | returned
deriving DecidableEq

def bulkStep (ttlSeconds : Nat) (now : Int) (row : UserSession) (cache : Option CachedSession) :
    BulkPc → Option (UserSession × Option CachedSession × BulkPc)
  | .dbRead start =>
    if row.status = .active ∧ start < row.expiresAt then
      some (row, cache, .fence start (.begin (row.denyEntry .revoking start) none))
    else some (row, cache, .returned)
  | .fence start w =>
    match writeStep ttlSeconds now cache w with
    | (cache, .inl w) => some (row, cache, .fence start w)
    | (cache, .inr .ok) => some (row, cache, .lock start)
    | (cache, .inr _) => some (row, cache, .returned)
  | .lock start =>
    if row.status = .active then some (row, cache, .update start row)
    -- the next batch
    else some (row, cache, .dbRead start)
  | .update start session =>
    -- the tombstone is written for every row that was locked
    let tombstone := .tombstone start (.begin (session.denyEntry .revoked start) none)
    if row.status = .active then
      some ({ row with status := .revoked, revokedAt := start }, cache, tombstone)
    else some (row, cache, tombstone)
  | .tombstone start w =>
    match writeStep ttlSeconds now cache w with
    | (cache, .inl w) => some (row, cache, .tombstone start w)
    | (cache, .inr _) => some (row, cache, .dbRead start)
  | .returned => none

/-! ## The system -/

/-- A running call. `reused` marks a rotation that has found its digest to be the previous one,
outside its grace window. -/
inductive RefreshCall
  | get (pc : GetPc)
  | rotate (args : RotateArgs) (reused : Bool) (pc : RotatePc)
  | revoke (pc : RevokePc)
  | revokeByHash (presentedHash : String) (pc : HashPc)
  | revokeAll (pc : BulkPc)
deriving DecidableEq

def RotatePc.isFence : RotatePc → Bool
  | .fence _ _ => true
  | _ => false

def refreshCallStep (ttlSeconds : Nat) (now : Int) (row : UserSession)
    (cache : Option CachedSession) :
    RefreshCall → Option (UserSession × Option CachedSession × RefreshCall)
  | .get pc =>
    (getStep ttlSeconds now row cache pc).map fun (cache, pc) => (row, cache, .get pc)
  | .rotate args reused pc =>
    (rotateStep ttlSeconds now row cache args pc).map fun (row, cache, pc) =>
      (row, cache, .rotate args (reused || pc.isFence) pc)
  | .revoke pc =>
    (revokeStep ttlSeconds now row cache pc).map fun (row, cache, pc) => (row, cache, .revoke pc)
  | .revokeByHash presentedHash pc =>
    (hashStep ttlSeconds now row cache presentedHash pc).map fun (row, cache, pc) =>
      (row, cache, .revokeByHash presentedHash pc)
  | .revokeAll pc =>
    (bulkStep ttlSeconds now row cache pc).map fun (row, cache, pc) => (row, cache, .revokeAll pc)

/-- The digest that the call presents. -/
def RefreshCall.presented : RefreshCall → Option String
  | .rotate args _ _ => some args.presentedHash
  | .revokeByHash presentedHash _ => some presentedHash
  | _ => none

/-- The session as the call has read it, while it is about to act on it. -/
def RefreshCall.read : RefreshCall → Option UserSession
  | .rotate _ _ (.update _ _ session) => some session
  | .rotate _ _ (.fence session _) => some session
  | .rotate _ _ (.revoke session) => some session
  | .revokeByHash _ (.fence _ session _) => some session
  | .revokeByHash _ (.update _ session) => some session
  | _ => none

/-- The rotation whose compare-and-swap succeeds in the next step of the call. -/
def RefreshCall.accepts (row : UserSession) : RefreshCall → Option RotateArgs
  | .rotate args _ (.update _ _ _) =>
    if row.isActive args.now ∧ row.refreshHash = args.presentedHash then some args else none
  | _ => none

/-- `accepted` lists the digests that rotations have replaced, in order. -/
structure RefreshState where
  now : Int
  row : UserSession
  cache : Option CachedSession
  calls : List RefreshCall
  accepted : List String
deriving DecidableEq

/-- A session that is not cached and that nobody works on. -/
def RefreshState.initial (now : Int) (row : UserSession) : RefreshState where
  now := now
  row := row
  cache := none
  calls := []
  accepted := []

/-- Every digest the session has had, the current one last. -/
def RefreshState.digests (s : RefreshState) : List String := s.accepted ++ [s.row.refreshHash]

inductive RefreshLabel
  | tick (nanoseconds : Nat)
  | get
  | rotate (args : RotateArgs)
  | revoke
  | revokeByHash (presentedHash : String)
  | revokeAll
  | step (i : Nat)
deriving DecidableEq

def RefreshState.call (s : RefreshState) (call : RefreshCall) : RefreshState :=
  { s with calls := s.calls ++ [call] }

def refreshStep (ttlSeconds : Nat) (s : RefreshState) : RefreshLabel → Option RefreshState
  | .tick nanoseconds => some { s with now := s.now + nanoseconds }
  | .get => some (s.call (.get .cacheRead))
  | .rotate args => some (s.call (.rotate args false (rotateStart args)))
  | .revoke => some (s.call (.revoke (.dbRead (unix s.now))))
  | .revokeByHash presentedHash =>
    some (s.call (.revokeByHash presentedHash (hashStart presentedHash (unix s.now))))
  | .revokeAll => some (s.call (.revokeAll (.dbRead (unix s.now))))
  | .step i =>
    match s.calls[i]? with
    | none => none
    | some call =>
      match refreshCallStep ttlSeconds s.now s.row s.cache call with
      | none => none
      | some (row, cache, call') =>
        some { s with
          row := row
          cache := cache
          calls := s.calls.set i call'
          accepted := s.accepted ++ ((call.accepts s.row).map (·.presentedHash)).toList }

end NewApi.Model
