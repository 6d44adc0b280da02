import NewApi.Utils.Runs

/-!
# Login sessions and their cache

One row of `user_sessions`, its hash in a Redis that all nodes share, and the calls of
`user_session.go` that read and write both. A call is a program counter that takes one step at a
time, so that any number of them interleave and each can be delayed between any two of its steps.

Times are nanoseconds of one clock. Redis works in milliseconds and the table in seconds.
-/

namespace NewApi.Model

open Runs

/-! ## Time -/

def unix (t : Int) : Int := t / 1000000000

def unixMilli (t : Int) : Int := t / 1000000

/-- `time.Unix(seconds, 0)`. -/
def ofUnix (seconds : Int) : Int := seconds * 1000000000

/-- The end of the window in which a snapshot that is read from now on may be cached. -/
def userSessionCacheDeadline (ttlSeconds : Nat) (now : Int) : Int := now + ofUnix ttlSeconds

/-! ## The row and its cached form -/

inductive SessionStatus
  | active
  | revoking
  | revoked
deriving DecidableEq

/-- The columns that decide something. Versions only grow, from a first one that is positive. -/
structure UserSession where
  version : Nat
  userAuthVersion : Nat
  status : SessionStatus
  refreshHash : String
  previousRefreshHash : String
  previousValidUntil : Int
  expiresAt : Int
  revokedAt : Int
deriving DecidableEq

structure SessionEntry where
  version : Nat
  userAuthVersion : Nat
  status : SessionStatus
  expiresAt : Int
  revokedAt : Int
deriving DecidableEq

def UserSession.cacheEntry (session : UserSession) : SessionEntry where
  version := session.version
  userAuthVersion := session.userAuthVersion
  status := session.status
  expiresAt := session.expiresAt
  revokedAt := session.revokedAt

/-- The entry of `writeUserSessionDenyFence`, and of a tombstone. -/
def UserSession.denyEntry (session : UserSession) (status : SessionStatus) (now : Int) :
    SessionEntry :=
  { session.cacheEntry with status := status, revokedAt := now }

/-- Active, not revoked and not expired at the second `now`. -/
def SessionEntry.isActive (entry : SessionEntry) (now : Int) : Bool :=
  entry.status = .active ∧ entry.revokedAt = 0 ∧ now < entry.expiresAt

def UserSession.isActive (session : UserSession) (now : Int) : Bool :=
  session.cacheEntry.isActive now

/-- The hash in Redis; `expireAt` is the last millisecond of its life. -/
structure CachedSession where
  entry : SessionEntry
  expireAt : Int
deriving DecidableEq

/-- What Redis finds under the key. -/
def live (now : Int) (cache : Option CachedSession) : Option CachedSession :=
  cache.filter fun c => unixMilli now ≤ c.expireAt

/-- `some` says whether the cached session is active; `none` sends the reader to the database. -/
def getUserSessionCache (now : Int) (cache : Option CachedSession) : Option Bool :=
  match live now cache with
  | none => none
  | some c =>
    if c.entry.version = 0 ∨ c.entry.userAuthVersion = 0 then none
    else some (c.entry.isActive (unix now))

/-! ## Writing the cache -/

inductive WriteResult
  | ok
  /-- `errUserSessionCacheObservationStale` -/
  | stale
  /-- `ErrUserSessionInactive` -/
  | inactive
  /-- `ErrUserSessionInvalid` -/
  | invalid
deriving DecidableEq

inductive WritePc
  | prepare
  | eval (redisExpiration : Int)
  | finish
deriving DecidableEq

/-- A running `writeUserSessionCache`. Deny states pass the zero deadline, `none`. -/
structure CacheWrite where
  entry : SessionEntry
  deadline : Option Int
  pc : WritePc
deriving DecidableEq

def CacheWrite.begin (entry : SessionEntry) (deadline : Option Int) : CacheWrite where
  entry := entry
  deadline := deadline
  pc := .prepare

/-- What is computed before the script is sent: an absolute expiration for an active snapshot, a
relative one for a deny state, both in milliseconds. -/
def prepareWrite (ttlSeconds : Nat) (now : Int) (entry : SessionEntry) (deadline : Option Int) :
    Except WriteResult Int :=
  let sessionExpiresAt := ofUnix entry.expiresAt
  let sessionTTL := sessionExpiresAt - now
  if entry.status = .active then
    match deadline with
    | none => .error .invalid
    | some cacheDeadline =>
      if cacheDeadline - now ≤ 0 then .error .stale
      else if sessionTTL ≤ 0 then .error .inactive
      else
        let cacheExpiresAt := min cacheDeadline sessionExpiresAt
        if cacheExpiresAt - now < 1000000 then .error .stale
        else .ok (unixMilli cacheExpiresAt)
  else
    let ttl := min sessionTTL (ofUnix ttlSeconds)
    let ttl := if ttl ≤ 0 then ofUnix 1 else ttl
    .ok (if unixMilli ttl ≤ 0 then 1 else unixMilli ttl)

/-- The script. `PEXPIREAT` with a time that has come removes the key. -/
def evalScript (now : Int) (cache : Option CachedSession) (entry : SessionEntry)
    (redisExpiration : Int) : Option CachedSession × Bool :=
  let current := live now cache
  let currentVersion := (current.map fun c => c.entry.version).getD 0
  if entry.status = .active ∧ current.any (fun c => c.entry.status ≠ .active) then (cache, false)
  else if entry.version < currentVersion then (cache, false)
  else if entry.status = .active then
    if redisExpiration ≤ unixMilli now then (none, true)
    else (some { entry := entry, expireAt := redisExpiration }, true)
  else (some { entry := entry, expireAt := unixMilli now + redisExpiration }, true)

/-- The check after the script, for active snapshots. -/
def finishWrite (now : Int) (w : CacheWrite) : WriteResult :=
  if w.deadline.any (· ≤ now) then .stale
  else if ofUnix w.entry.expiresAt ≤ now then .inactive
  else .ok

/-- One step of a write: the hash afterwards, and the rest of the write or its result. -/
def writeStep (ttlSeconds : Nat) (now : Int) (cache : Option CachedSession) (w : CacheWrite) :
    Option CachedSession × (CacheWrite ⊕ WriteResult) :=
  match w.pc with
  | .prepare =>
    match prepareWrite ttlSeconds now w.entry w.deadline with
    | .error e => (cache, .inr e)
    | .ok redisExpiration => (cache, .inl { w with pc := .eval redisExpiration })
  | .eval redisExpiration =>
    match evalScript now cache w.entry redisExpiration with
    | (cache, false) => (cache, .inr .inactive)
    | (cache, true) =>
      if w.entry.status = .active then (cache, .inl { w with pc := .finish })
      else (cache, .inr .ok)
  | .finish => (cache, .inr (finishWrite now w))

def confirmUserSessionActiveSnapshot (now : Int) (row session : UserSession) : Bool :=
  0 < session.version ∧ 0 < session.userAuthVersion ∧ row.isActive (unix now) ∧
    row.version = session.version ∧ row.userAuthVersion = session.userAuthVersion

/-! ## The calls -/

/-- `GetUserSessionCached`. `returned true` hands out the session, `returned false` is an error. -/
inductive GetPc
  | cacheRead
  | capture
  | dbRead (cacheDeadline : Int)
  | fill (session : UserSession) (w : CacheWrite)
  | deny (w : CacheWrite)
  | confirm (session : UserSession)
  | returned (active : Bool)
deriving DecidableEq

def getStep (ttlSeconds : Nat) (now : Int) (row : UserSession) (cache : Option CachedSession) :
    GetPc → Option (Option CachedSession × GetPc)
  | .cacheRead =>
    match getUserSessionCache now cache with
    | some active => some (cache, .returned active)
    | none => some (cache, .capture)
  | .capture => some (cache, .dbRead (userSessionCacheDeadline ttlSeconds now))
  | .dbRead cacheDeadline =>
    if row.isActive (unix now) then
      some (cache, .fill row (.begin row.cacheEntry (some cacheDeadline)))
    else some (cache, .deny (.begin { row.cacheEntry with status := .revoked } none))
  | .fill session w =>
    match writeStep ttlSeconds now cache w with
    | (cache, .inl w) => some (cache, .fill session w)
    | (cache, .inr .ok) => some (cache, .returned true)
    | (cache, .inr .stale) => some (cache, .confirm session)
    | (cache, .inr .inactive) => some (cache, .returned false)
    | (cache, .inr .invalid) => some (cache, .returned true)
  | .deny w =>
    match writeStep ttlSeconds now cache w with
    | (cache, .inl w) => some (cache, .deny w)
    | (cache, .inr _) => some (cache, .returned false)
  | .confirm session => some (cache, .returned (confirmUserSessionActiveSnapshot now row session))
  | .returned _ => none

structure RotateArgs where
  presentedHash : String
  nextHash : String
  now : Int
  graceSeconds : Int
deriving DecidableEq

/-- `RotateUserSessionRefresh`; `left` counts the iterations that are left. -/
inductive RotatePc
  | capture (left : Nat)
  | dbRead (left : Nat) (cacheDeadline : Int)
  | update (left : Nat) (cacheDeadline : Int) (session : UserSession)
  | fill (session : UserSession) (w : CacheWrite)
  | confirm (session : UserSession)
  /-- a known previous token is replayed: the family is revoked -/
  | fence (session : UserSession) (w : CacheWrite)
  | revoke (session : UserSession)
  | tombstone (w : CacheWrite)
  | returned
deriving DecidableEq

def rotateStart (args : RotateArgs) : RotatePc :=
  if args.presentedHash = "" ∨ args.nextHash = "" ∨ args.presentedHash = args.nextHash ∨
      args.graceSeconds < 0 then .returned
  else .capture 3

/-- The columns a rotation writes. -/
def UserSession.rotated (session : UserSession) (args : RotateArgs) (oldHash : String) :
    UserSession :=
  { session with
    previousRefreshHash := oldHash
    previousValidUntil := args.now + args.graceSeconds
    refreshHash := args.nextHash }

def rotateStep (ttlSeconds : Nat) (now : Int) (row : UserSession) (cache : Option CachedSession)
    (args : RotateArgs) : RotatePc → Option (UserSession × Option CachedSession × RotatePc)
  | .capture 0 => some (row, cache, .returned)
  | .capture (left + 1) =>
    some (row, cache, .dbRead left (userSessionCacheDeadline ttlSeconds now))
  | .dbRead left cacheDeadline =>
    if ¬ row.isActive args.now then some (row, cache, .returned)
    else if row.refreshHash = args.presentedHash then
      some (row, cache, .update left cacheDeadline row)
    else if row.previousRefreshHash = "" ∨ row.previousRefreshHash ≠ args.presentedHash then
      some (row, cache, .returned)
    else if args.now ≤ row.previousValidUntil then some (row, cache, .returned)
    else some (row, cache, .fence row (.begin (row.denyEntry .revoking args.now) none))
  | .update left cacheDeadline session =>
    if row.isActive args.now ∧ row.refreshHash = args.presentedHash then
      let session' := session.rotated args session.refreshHash
      some (row.rotated args session.refreshHash, cache,
        .fill session' (.begin session'.cacheEntry (some cacheDeadline)))
    else some (row, cache, .capture left)
  | .fill session w =>
    match writeStep ttlSeconds now cache w with
    | (cache, .inl w) => some (row, cache, .fill session w)
    | (cache, .inr .stale) => some (row, cache, .confirm session)
    | (cache, .inr _) => some (row, cache, .returned)
  | .confirm _ => some (row, cache, .returned)
  | .fence session w =>
    match writeStep ttlSeconds now cache w with
    | (cache, .inl w) => some (row, cache, .fence session w)
    | (cache, .inr .ok) => some (row, cache, .revoke session)
    | (cache, .inr _) => some (row, cache, .returned)
  | .revoke session =>
    if row.isActive args.now then
      some ({ row with status := .revoked, revokedAt := args.now }, cache,
        .tombstone (.begin (session.denyEntry .revoked args.now) none))
    else some (row, cache, .returned)
  | .tombstone w =>
    match writeStep ttlSeconds now cache w with
    | (cache, .inl w) => some (row, cache, .tombstone w)
    | (cache, .inr _) => some (row, cache, .returned)
  | .returned => none

structure AdvanceArgs where
  expectedSessionVersion : Nat
  expectedUserAuthVersion : Nat
  nextUserAuthVersion : Nat
deriving DecidableEq

/-- `AdvanceUserSessionAuthVersion`; its transaction locks the row. -/
inductive AdvancePc
  | capture
  | transact (cacheDeadline now : Int)
  | fill (session : UserSession) (w : CacheWrite)
  | confirm (session : UserSession)
  | returned
deriving DecidableEq

def advanceStart (args : AdvanceArgs) : AdvancePc :=
  if args.expectedSessionVersion = 0 ∨ args.expectedUserAuthVersion = 0 ∨
      args.nextUserAuthVersion ≤ args.expectedUserAuthVersion then .returned
  else .capture

def advanceStep (ttlSeconds : Nat) (now : Int) (row : UserSession) (cache : Option CachedSession)
    (args : AdvanceArgs) : AdvancePc → Option (UserSession × Option CachedSession × AdvancePc)
  | .capture =>
    some (row, cache, .transact (userSessionCacheDeadline ttlSeconds now) (unix now))
  | .transact cacheDeadline start =>
    if row.status ≠ .active ∨ row.expiresAt ≤ start ∨ row.version ≠ args.expectedSessionVersion ∨
        row.userAuthVersion ≠ args.expectedUserAuthVersion then
      some (row, cache, .returned)
    else
      let session := { row with version := row.version + 1
                                userAuthVersion := args.nextUserAuthVersion }
      some (session, cache, .fill session (.begin session.cacheEntry (some cacheDeadline)))
  | .fill session w =>
    match writeStep ttlSeconds now cache w with
    | (cache, .inl w) => some (row, cache, .fill session w)
    | (cache, .inr .stale) => some (row, cache, .confirm session)
    | (cache, .inr _) => some (row, cache, .returned)
  | .confirm _ => some (row, cache, .returned)
  | .returned => none

/-- `RevokeUserSession`; `now` is the second it was called at. -/
inductive RevokePc
  | dbRead (now : Int)
  | fence (now : Int) (candidate : UserSession) (w : CacheWrite)
  | transact (now : Int) (candidate : UserSession)
  | tombstone (w : CacheWrite)
  | returned (revoked : Bool)
deriving DecidableEq

def revokeStep (ttlSeconds : Nat) (now : Int) (row : UserSession) (cache : Option CachedSession) :
    RevokePc → Option (UserSession × Option CachedSession × RevokePc)
  | .dbRead start =>
    if row.isActive start then
      some (row, cache, .fence start row (.begin (row.denyEntry .revoking start) none))
    else some (row, cache, .returned false)
  | .fence start candidate w =>
    match writeStep ttlSeconds now cache w with
    | (cache, .inl w) => some (row, cache, .fence start candidate w)
    | (cache, .inr .ok) => some (row, cache, .transact start candidate)
    | (cache, .inr _) => some (row, cache, .returned false)
  | .transact start candidate =>
    if row.isActive start then
      -- the tombstone is made of the candidate, not of the row that is locked here
      some ({ row with status := .revoked, revokedAt := start }, cache,
        .tombstone (.begin (candidate.denyEntry .revoked start) none))
    else some (row, cache, .returned false)
  | .tombstone w =>
    match writeStep ttlSeconds now cache w with
    | (cache, .inl w) => some (row, cache, .tombstone w)
    -- a tombstone that is refused is only logged
    | (cache, .inr _) => some (row, cache, .returned true)
  | .returned _ => none

/-! ## The system -/

/-- A running call. `late` marks the reads that start after a revocation has returned true. -/
inductive SessionCall
  | get (late : Bool) (pc : GetPc)
  | rotate (args : RotateArgs) (pc : RotatePc)
  | advance (args : AdvanceArgs) (pc : AdvancePc)
  | revoke (pc : RevokePc)
deriving DecidableEq

def callStep (ttlSeconds : Nat) (now : Int) (row : UserSession) (cache : Option CachedSession) :
    SessionCall → Option (UserSession × Option CachedSession × SessionCall)
  | .get late pc =>
    (getStep ttlSeconds now row cache pc).map fun (cache, pc) => (row, cache, .get late pc)
  | .rotate args pc =>
    (rotateStep ttlSeconds now row cache args pc).map fun (row, cache, pc) =>
      (row, cache, .rotate args pc)
  | .advance args pc =>
    (advanceStep ttlSeconds now row cache args pc).map fun (row, cache, pc) =>
      (row, cache, .advance args pc)
  | .revoke pc =>
    (revokeStep ttlSeconds now row cache pc).map fun (row, cache, pc) => (row, cache, .revoke pc)

/-- `leftActive` is when the row left the status `active`, and `revoked` says that a call of
`RevokeUserSession` has returned true. -/
structure SessionState where
  now : Int
  row : UserSession
  cache : Option CachedSession
  calls : List SessionCall
  leftActive : Option Int
  revoked : Bool
deriving DecidableEq

/-- A session that is not cached and that nobody works on. -/
def SessionState.initial (now : Int) (row : UserSession) : SessionState where
  now := now
  row := row
  cache := none
  calls := []
  leftActive := none
  revoked := false

inductive SessionLabel
  | tick (nanoseconds : Nat)
  | get
  | rotate (args : RotateArgs)
  | advance (args : AdvanceArgs)
  | revoke
  | step (i : Nat)
deriving DecidableEq

def SessionState.call (s : SessionState) (call : SessionCall) : SessionState :=
  { s with calls := s.calls ++ [call] }

/-- The state after call `i` has moved. -/
def SessionState.move (s : SessionState) (i : Nat) (row : UserSession)
    (cache : Option CachedSession) (call : SessionCall) : SessionState :=
  { s with
    row := row
    cache := cache
    calls := s.calls.set i call
    leftActive :=
      if s.row.status = .active ∧ row.status ≠ .active then some s.now else s.leftActive
    revoked := s.revoked || call = .revoke (.returned true) }

def sessionStep (ttlSeconds : Nat) (s : SessionState) : SessionLabel → Option SessionState
  | .tick nanoseconds => some { s with now := s.now + nanoseconds }
  | .get => some (s.call (.get s.revoked .cacheRead))
  | .rotate args => some (s.call (.rotate args (rotateStart args)))
  | .advance args => some (s.call (.advance args (advanceStart args)))
  | .revoke => some (s.call (.revoke (.dbRead (unix s.now))))
  | .step i =>
    match s.calls[i]? with
    | none => none
    | some call =>
      match callStep ttlSeconds s.now s.row s.cache call with
      | none => none
      | some (row, cache, call') => some (s.move i row cache call')

end NewApi.Model
