import NewApi.Utils.Expiring
import NewApi.Utils.Runs

/-!
# The cached user and its authentication version

One row of `users` and the three Redis keys of `user_auth_cache.go`: the cached user hash, the
pending fence and the committed version floor. Transactions that raise the authentication version
publish a fence first, cache fills and refreshes read the row and write the hash later, and each
of them is a program counter that takes one statement or one script at a time.

Times are milliseconds of the clock of Redis. Versions start at the column's default, 1, or at a
zero that was never migrated, and a transaction raises them by one: they are natural numbers, and
no run leaves the range in which `int64` and the numbers of a script are exact.
-/

namespace NewApi.Model.UserAuth

open Runs

def userCacheSchemaVersion : Int := 2

/-! ## The row and the hash -/

structure UserBase where
  id : Int
  group : String
  email : String
  quota : Int
  status : Int
  role : Int
  username : String
  setting : String
  authVersion : Nat
  cacheSchema : Int
deriving DecidableEq

/-- The columns of `users` that are cached, and whether `deleted_at` is set. -/
structure User where
  id : Int
  group : String
  email : String
  quota : Int
  status : Int
  role : Int
  username : String
  setting : String
  authVersion : Nat
  deleted : Bool
  id_pos : 0 < id
deriving DecidableEq

def User.toBaseUser (user : User) : UserBase where
  id := user.id
  group := user.group
  email := user.email
  quota := user.quota
  status := user.status
  role := user.role
  username := user.username
  setting := user.setting
  authVersion := user.authVersion
  cacheSchema := userCacheSchemaVersion

/-- The fields of the hash. Only a fill writes `Quota`, so that one can be missing. -/
structure UserHash where
  id : Int
  group : String
  email : String
  quota : Option Int
  status : Int
  role : Int
  username : String
  setting : String
  authVersion : Nat
  cacheSchema : Int
deriving DecidableEq

/-- What `RedisHGetObj` reads; a field that is missing keeps the zero value. -/
def UserHash.toBaseUser (hash : UserHash) : UserBase where
  id := hash.id
  group := hash.group
  email := hash.email
  quota := hash.quota.getD 0
  status := hash.status
  role := hash.role
  username := hash.username
  setting := hash.setting
  authVersion := hash.authVersion
  cacheSchema := hash.cacheSchema

/-- The fields that are refreshed one at a time. -/
inductive UserField
  | group
  | email
  | username
  | setting
deriving DecidableEq

def UserHash.setField (hash : UserHash) (value : String) : UserField → UserHash
  | .group => { hash with group := value }
  | .email => { hash with email := value }
  | .username => { hash with username := value }
  | .setting => { hash with setting := value }

/-- `syncFrequency` is what `RedisKeyCacheSeconds` returns, and `rowLocks` says that
`lockForUpdate` locks the row it selects, as it does on every database but SQLite. -/
structure AuthEnv where
  redisEnabled : Bool
  syncFrequency : Int
  rowLocks : Bool
deriving DecidableEq

def userCacheTTLSeconds (env : AuthEnv) : Int :=
  if env.syncFrequency ≤ 0 then 60 else env.syncFrequency

def userAuthFenceTTLSeconds (env : AuthEnv) : Int :=
  let cacheTTL := userCacheTTLSeconds env
  let extra := max cacheTTL 60
  cacheTTL + extra

/-! ## The scripts -/

structure AuthKeys where
  hash : Option (Expiring UserHash)
  fence : Option (Expiring Nat)
  committed : Option Nat
deriving DecidableEq

namespace AuthKeys

def pendingVersion (keys : AuthKeys) (now : Int) : Nat := (Expiring.get? now keys.fence).getD 0

def committedVersion (keys : AuthKeys) : Nat := keys.committed.getD 0

def currentVersion (keys : AuthKeys) (now : Int) : Nat :=
  ((Expiring.get? now keys.hash).map UserHash.authVersion).getD 0

/-- The test every write of the hash begins with. -/
def admits (keys : AuthKeys) (now : Int) (incoming : Nat) : Bool :=
  ¬ (keys.pendingVersion now > incoming ∨ keys.committedVersion > incoming ∨
    keys.currentVersion now > incoming)

/-- Raises the floor to `incoming` and drops a fence that is not above it. -/
def promote (keys : AuthKeys) (now : Int) (incoming : Nat) : AuthKeys :=
  { keys with
    committed := if keys.committedVersion < incoming then some incoming else keys.committed
    fence := if keys.pendingVersion now > 0 ∧ keys.pendingVersion now ≤ incoming then none
      else keys.fence }

/-- What `HSET` leaves in the hash, where `current` is the hash that was found. -/
def filledHash (current : Option UserHash) (user : UserBase) (includeQuota : Bool) : UserHash where
  id := user.id
  group := user.group
  email := user.email
  quota :=
    match current.bind UserHash.quota with
    | some quota => some quota
    | none => if includeQuota then some user.quota else none
  status := user.status
  role := user.role
  username := user.username
  setting := user.setting
  authVersion := user.authVersion
  cacheSchema := user.cacheSchema

def writeScript (keys : AuthKeys) (now ttl : Int) (user : UserBase) (includeQuota : Bool) :
    AuthKeys × Bool :=
  if keys.admits now user.authVersion then
    let keys := keys.promote now user.authVersion
    match Expiring.get? now keys.hash, includeQuota with
    | none, false => (keys, true)
    | current, _ =>
      ({ keys with
          hash := some { value := filledHash current user includeQuota
                         expireAt := some (now + 1000 * ttl) } }, true)
  else (keys, false)

def fieldScript (keys : AuthKeys) (now : Int) (field : UserField) (value : String)
    (incoming : Nat) : AuthKeys × Bool :=
  if keys.admits now incoming then
    let current := keys.currentVersion now
    let keys := keys.promote now incoming
    match keys.hash, Expiring.get? now keys.hash with
    | some e, some hash =>
      if current = incoming then
        let refreshed := { hash.setField value field with cacheSchema := userCacheSchemaVersion }
        ({ keys with hash := some { e with value := refreshed } }, true)
      else (keys, true)
    | _, _ => (keys, true)
  else (keys, false)

def fenceScript (keys : AuthKeys) (now ttl : Int) (incoming : Nat) : AuthKeys :=
  let current := keys.pendingVersion now
  let deadline := now + 1000 * ttl
  if current < incoming then
    { keys with fence := some { value := incoming, expireAt := some deadline } }
  else if current = incoming then { keys with fence := Expiring.expire now deadline keys.fence }
  else if keys.fence.any (·.expireAt.isNone) then
    { keys with fence := Expiring.expire now deadline keys.fence }
  else keys

end AuthKeys

/-! ## What one call of Redis or the database comes back with -/

/-- A request is answered, fails before it has an effect, or has its effect while the answer is
lost. -/
inductive Reply
  | answered
  | failed
  | lost
deriving DecidableEq

inductive CacheOutcome
  | ok
  /-- `ErrUserAuthCachePending` -/
  | pending
  | failed
deriving DecidableEq

/-- A script that answers whether it was let through. -/
def eval (reply : Reply) (keys : AuthKeys) (script : AuthKeys × Bool) : AuthKeys × CacheOutcome :=
  match reply with
  | .answered => (script.1, if script.2 then .ok else .pending)
  | .failed => (keys, .failed)
  | .lost => (script.1, .failed)

def writeUserCache (env : AuthEnv) (now : Int) (reply : Reply) (keys : AuthKeys) (user : UserBase)
    (includeQuota : Bool) : AuthKeys × CacheOutcome :=
  if user.id ≤ 0 ∨ ¬ env.redisEnabled then (keys, .ok)
  else if user.authVersion = 0 then (keys, .failed)
  else eval reply keys (keys.writeScript now (userCacheTTLSeconds env) user includeQuota)

def updateUserCacheFieldAtVersion (env : AuthEnv) (now : Int) (reply : Reply) (keys : AuthKeys)
    (userId : Int) (field : UserField) (value : String) (authVersion : Nat) :
    AuthKeys × CacheOutcome :=
  if ¬ env.redisEnabled then (keys, .ok)
  else if userId ≤ 0 ∨ authVersion = 0 then (keys, .failed)
  else eval reply keys (keys.fieldScript now field value authVersion)

def setUserAuthVersionFence (env : AuthEnv) (now : Int) (reply : Reply) (keys : AuthKeys)
    (userId : Int) (authVersion : Nat) : AuthKeys × CacheOutcome :=
  if ¬ env.redisEnabled then (keys, .ok)
  else if userId ≤ 0 ∨ authVersion = 0 then (keys, .failed)
  else eval reply keys (keys.fenceScript now (userAuthFenceTTLSeconds env) authVersion, true)

def publishCommittedUserAuthVersion (env : AuthEnv) (now : Int) (reply : Reply) (keys : AuthKeys)
    (userId : Int) (authVersion : Nat) : AuthKeys × CacheOutcome :=
  if ¬ env.redisEnabled then (keys, .ok)
  else if userId ≤ 0 ∨ authVersion = 0 then (keys, .failed)
  else eval reply keys (keys.promote now authVersion, true)

/-- `none` is an error. -/
def getUserAuthVersionFloor (env : AuthEnv) (now : Int) (reply : Reply) (keys : AuthKeys) :
    Option Nat :=
  if ¬ env.redisEnabled then some 0
  else
    match reply with
    | .answered => some (max (keys.pendingVersion now) keys.committedVersion)
    | _ => none

/-- The part of `cacheGetUserBase` before it asks for the floor. -/
def cachedUserBase (env : AuthEnv) (now : Int) (reply : Reply) (keys : AuthKeys) (userId : Int) :
    Option UserBase :=
  if ¬ env.redisEnabled ∨ reply ≠ .answered then none
  else
    match Expiring.get? now keys.hash with
    | none => none
    | some hash =>
      let userCache := hash.toBaseUser
      if userCache.id ≠ userId ∨ userCache.cacheSchema ≠ userCacheSchemaVersion ∨
          userCache.authVersion = 0 then none
      else some userCache

/-- Soft-deleted rows are not found. -/
def getUserById (reply : Reply) (row : User) : Option User :=
  if reply ≠ .answered ∨ row.deleted then none else some row

/-! ## The calls -/

/-- `GetUserCache`. -/
inductive GetPc
  | hashRead
  | hashFloor (userCache : UserBase)
  | dbRead
  | dbFloor (user : User)
  | populate (user : User)
  | returned (user : UserBase)
  /-- `ErrUserAuthCachePending` -/
  | refused
  | failed
deriving DecidableEq

def getStep (env : AuthEnv) (now : Int) (reply : Reply) (row : User) (keys : AuthKeys) :
    GetPc → Option (AuthKeys × GetPc)
  | .hashRead =>
    match cachedUserBase env now reply keys row.id with
    | some userCache => some (keys, .hashFloor userCache)
    | none => some (keys, .dbRead)
  | .hashFloor userCache =>
    match getUserAuthVersionFloor env now reply keys with
    | none => some (keys, .dbRead)
    | some floor =>
      if floor > userCache.authVersion then some (keys, .dbRead)
      else some (keys, .returned userCache)
  | .dbRead =>
    match getUserById reply row with
    | none => some (keys, .failed)
    | some user =>
      if env.redisEnabled then some (keys, .dbFloor user)
      else some (keys, .returned user.toBaseUser)
  | .dbFloor user =>
    -- a floor that cannot be read is ignored
    if (getUserAuthVersionFloor env now reply keys).any (· > user.authVersion) then
      some (keys, .refused)
    else some (keys, .populate user)
  | .populate user =>
    match writeUserCache env now reply keys user.toBaseUser true with
    | (keys, .pending) => some (keys, .refused)
    | (keys, _) => some (keys, .returned user.toBaseUser)
  | .returned _ => none
  | .refused => none
  | .failed => none

/-- `PublishUserAuthCache`. -/
inductive PublishPc
  | dbRead
  | write (user : User)
  | returned (ok : Bool)
deriving DecidableEq

def publishStep (env : AuthEnv) (now : Int) (reply : Reply) (row : User) (keys : AuthKeys) :
    PublishPc → Option (AuthKeys × PublishPc)
  | .dbRead =>
    match getUserById reply row with
    | none => some (keys, .returned false)
    | some user => some (keys, .write user)
  | .write user =>
    match writeUserCache env now reply keys user.toBaseUser false with
    | (keys, outcome) => some (keys, .returned (outcome = .ok))
  | .returned _ => none

/-- `updateUserCacheField`. -/
inductive FieldPc
  | dbRead
  | write (authVersion : Nat)
  | returned
deriving DecidableEq

def fieldStep (env : AuthEnv) (now : Int) (reply : Reply) (row : User) (keys : AuthKeys)
    (field : UserField) (value : String) : FieldPc → Option (AuthKeys × FieldPc)
  | .dbRead =>
    if ¬ env.redisEnabled then some (keys, .returned)
    else
      match getUserById reply row with
      | none => some (keys, .returned)
      | some user =>
        if user.authVersion = 0 then some (keys, .returned)
        else some (keys, .write user.authVersion)
  | .write authVersion =>
    some ((updateUserCacheFieldAtVersion env now reply keys row.id field value authVersion).1,
      .returned)
  | .returned => none

/-- `RefreshUserGroupCache`; `left` counts the rounds of its loop that are left. -/
inductive GroupPc
  | dbRead
  | write (left : Nat) (authoritative : User)
  | verify (left : Nat) (authoritative : User)
  | returned
deriving DecidableEq

def groupStep (env : AuthEnv) (now : Int) (reply : Reply) (row : User) (keys : AuthKeys) :
    GroupPc → Option (AuthKeys × GroupPc)
  | .dbRead =>
    if ¬ env.redisEnabled ∨ row.id ≤ 0 then some (keys, .returned)
    else
      match getUserById reply row with
      | none => some (keys, .returned)
      | some authoritative => some (keys, .write 3 authoritative)
  | .write left authoritative =>
    match updateUserCacheFieldAtVersion env now reply keys row.id .group authoritative.group
        authoritative.authVersion, left with
    -- the last write follows the loop
    | (keys, .ok), left + 1 => some (keys, .verify left authoritative)
    | (keys, _), _ => some (keys, .returned)
  | .verify left authoritative =>
    match getUserById reply row with
    | none => some (keys, .returned)
    | some verified =>
      if verified.authVersion = authoritative.authVersion ∧
          verified.group = authoritative.group then some (keys, .returned)
      else some (keys, .write left verified)
  | .returned => none

/-! ## The transactions -/

/-- What the transaction around `IncrementUserAuthVersionWithTx` does besides, and after its
commit: nothing, edit the other columns and `updateUserCache` the row it read back, or delete the
user and publish the version without a user. -/
inductive TxKind
  | bump
  | edit (columns : User)
  | delete
deriving DecidableEq

structure PublishedFence where
  version : Nat
  publishedAt : Int
deriving DecidableEq

/-- `left` counts the attempts of the loop that are left. -/
inductive TxPc
  | select (left : Nat)
  | fence (left authVersion : Nat)
  | update (left authVersion : Nat)
  /-- the rest of the transaction, up to its commit or rollback -/
  | decide (next : Nat)
  | rolledBack
  | committed
  | updateCache (user : User)
  | publishCommitted (next : Nat)
  | invalidate
deriving DecidableEq

/-- `holder` is the transaction that has the row locked; what it wrote is not in `row` yet. -/
structure AuthStore where
  row : User
  holder : Option Nat
  keys : AuthKeys
deriving DecidableEq

def nextVersion (authVersion : Nat) : Nat := max authVersion 1 + 1

/-- The columns of `row` that an edit leaves alone stay. -/
def User.edited (row columns : User) : User :=
  { columns with id := row.id, quota := row.quota, authVersion := row.authVersion,
                 deleted := row.deleted, id_pos := row.id_pos }

def User.afterCommit (row : User) (next : Nat) : TxKind → User
  | .bump => { row with authVersion := next }
  | .edit columns => { row.edited columns with authVersion := next }
  | .delete => { row with authVersion := next, deleted := true }

/-- Where the call goes on once the transaction has committed. -/
def afterCommitPc (row : User) (next : Nat) : TxKind → TxPc
  | .bump => .committed
  | .edit _ => .updateCache row
  | .delete => .publishCommitted next

def AuthStore.free (store : AuthStore) (i : Nat) : Prop :=
  store.holder = none ∨ store.holder = some i

instance (store : AuthStore) (i : Nat) : Decidable (store.free i) :=
  inferInstanceAs (Decidable (_ ∨ _))

/-- The end of transaction `i`. -/
def AuthStore.release (store : AuthStore) (i : Nat) : AuthStore :=
  { store with holder := if store.holder = some i then none else store.holder }

def txStep (env : AuthEnv) (now : Int) (reply : Reply) (i : Nat) (store : AuthStore)
    (kind : TxKind) (fences : List PublishedFence) :
    TxPc → Option (AuthStore × List PublishedFence × TxPc)
  | .select 0 => some (store.release i, fences, .rolledBack)
  | .select (left + 1) =>
    if env.rowLocks ∧ ¬ store.free i then none
    else if reply ≠ .answered then some (store.release i, fences, .rolledBack)
    else
      some ({ store with holder := if env.rowLocks then some i else store.holder }, fences,
        .fence left store.row.authVersion)
  | .fence left authVersion =>
    let next := nextVersion authVersion
    let fences :=
      if env.redisEnabled ∧ reply ≠ .failed then fences ++ [{ version := next, publishedAt := now }]
      else fences
    match setUserAuthVersionFence env now reply store.keys store.row.id next with
    | (keys, .ok) => some ({ store with keys := keys }, fences, .update left authVersion)
    | (keys, _) => some ({ store with keys := keys }.release i, fences, .rolledBack)
  | .update left authVersion =>
    if ¬ store.free i then none
    else if reply ≠ .answered then some (store.release i, fences, .rolledBack)
    else if store.row.authVersion = authVersion then
      some ({ store with holder := some i }, fences, .decide (nextVersion authVersion))
    else some (store, fences, .select left)
  | .decide next =>
    let row := store.row.afterCommit next kind
    let committed := { store with row := row }.release i
    match reply with
    | .answered => some (committed, fences, afterCommitPc row next kind)
    | .failed => some (store.release i, fences, .rolledBack)
    -- the commit took place, and the caller is told that it failed
    | .lost => some (committed, fences, .committed)
  | .updateCache user =>
    match writeUserCache env now reply store.keys user.toBaseUser false with
    | (keys, _) => some ({ store with keys := keys }, fences, .committed)
  | .publishCommitted next =>
    match publishCommittedUserAuthVersion env now reply store.keys store.row.id next with
    | (keys, .ok) => some ({ store with keys := keys }, fences, .invalidate)
    | (keys, _) => some ({ store with keys := keys }, fences, .committed)
  | .invalidate =>
    if env.redisEnabled ∧ reply ≠ .failed then
      some ({ store with keys := { store.keys with hash := none } }, fences, .committed)
    else some (store, fences, .committed)
  | .rolledBack => none
  | .committed => none

/-! ## The system -/

/-- A running call. `version` is what was committed when the publication started, and `fences`
are the fences the transaction has published. -/
inductive AuthCall
  | get (pc : GetPc)
  | publish (version : Nat) (pc : PublishPc)
  | field (field : UserField) (value : String) (pc : FieldPc)
  | group (pc : GroupPc)
  | increment (kind : TxKind) (fences : List PublishedFence) (pc : TxPc)
deriving DecidableEq

def callStep (env : AuthEnv) (now : Int) (reply : Reply) (i : Nat) (store : AuthStore) :
    AuthCall → Option (AuthStore × AuthCall)
  | .get pc =>
    (getStep env now reply store.row store.keys pc).map fun (keys, pc) =>
      ({ store with keys := keys }, .get pc)
  | .publish version pc =>
    (publishStep env now reply store.row store.keys pc).map fun (keys, pc) =>
      ({ store with keys := keys }, .publish version pc)
  | .field field value pc =>
    (fieldStep env now reply store.row store.keys field value pc).map fun (keys, pc) =>
      ({ store with keys := keys }, .field field value pc)
  | .group pc =>
    (groupStep env now reply store.row store.keys pc).map fun (keys, pc) =>
      ({ store with keys := keys }, .group pc)
  | .increment kind fences pc =>
    (txStep env now reply i store kind fences pc).map fun (store, fences, pc) =>
      (store, .increment kind fences pc)

structure AuthState where
  now : Int
  store : AuthStore
  calls : List AuthCall
deriving DecidableEq

/-- A user that is not cached and that nobody works on. -/
def AuthState.initial (now : Int) (row : User) : AuthState where
  now := now
  store := { row := row, holder := none, keys := { hash := none, fence := none, committed := none } }
  calls := []

inductive AuthLabel
  | tick (milliseconds : Nat)
  | get
  | publish
  | field (field : UserField) (value : String)
  | group
  | increment (kind : TxKind)
  /-- an edit of columns that do not touch the authentication version -/
  | profile (columns : User)
  /-- `invalidateUserCache`, or the eviction of the hash -/
  | invalidate
  | step (i : Nat) (reply : Reply)
deriving DecidableEq

def AuthState.call (s : AuthState) (call : AuthCall) : AuthState :=
  { s with calls := s.calls ++ [call] }

def authStep (env : AuthEnv) (s : AuthState) : AuthLabel → Option AuthState
  | .tick milliseconds => some { s with now := s.now + milliseconds }
  | .get => some (s.call (.get .hashRead))
  | .publish => some (s.call (.publish s.store.row.authVersion .dbRead))
  | .field field value => some (s.call (.field field value .dbRead))
  | .group => some (s.call (.group .dbRead))
  | .increment kind => some (s.call (.increment kind [] (.select 3)))
  | .profile columns =>
    if s.store.holder ≠ none then none
    else some { s with store := { s.store with row := s.store.row.edited columns } }
  | .invalidate =>
    some { s with store := { s.store with keys := { s.store.keys with hash := none } } }
  | .step i reply =>
    match s.calls[i]? with
    | none => none
    | some call =>
      match callStep env s.now reply i s.store call with
      | none => none
      | some (store, call') => some { s with store := store, calls := s.calls.set i call' }

end NewApi.Model.UserAuth
