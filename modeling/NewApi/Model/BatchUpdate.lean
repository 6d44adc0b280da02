import NewApi.Model.Quota
import NewApi.Utils.GoInt
import NewApi.Utils.Runs
import NewApi.Utils.Table

/-!
# Batched updates

With batch updates enabled, changes to five counters are not written at once: `addNewRecord` adds
each to an entry of the store of its type, under the lock of that type, and `batchUpdate` takes the
five stores one after the other, each under its own lock, and writes what it took to the database.
The definitions follow `model/utils.go` and the statements it issues in `user.go`, `token.go` and
`channel.go`.

The last section puts them together: any number of calls of both run side by side, a step is one
lock section or one statement. The state also keeps every change that was recorded and where it is
now, which no step looks at.
-/

namespace NewApi.Model.Batch

/-! ## Stores -/

/-- The batch update types, in the order of their numbers. -/
inductive BatchType
  | userQuota
  | tokenQuota
  | usedQuota
  | channelUsedQuota
  | requestCount
deriving DecidableEq

/-- The order of a loop over the types. -/
def BatchType.all : List BatchType :=
  [.userQuota, .tokenQuota, .usedQuota, .channelUsedQuota, .requestCount]

/-- `map[int]int`: entries with pairwise different ids. -/
abbrev Store := Table (Prod.fst : Nat × Int → Nat)

/-- `store[id]`, which is `0` without an entry. -/
def Store.at (store : Store) (id : Nat) : Int := ((store.get? id).map Prod.snd).getD 0

def Store.ids (store : Store) : List Nat := store.rows.map Prod.fst

/-- One store for each type. -/
abbrev Stores := BatchType → Store

def Stores.empty : Stores := fun _ => Table.empty

/-- The lock section of `addNewRecord`: a sum that wrapped around is replaced by the bound it
passed. -/
def addNewRecord (store : Store) (id : Nat) (value : Int) : Store :=
  match store.get? id with
  | none => store.save (id, value)
  | some (_, old) =>
    let sum := int64 (old + value)
    if 0 < value ∧ sum < old ∨ value < 0 ∧ old < sum then
      store.save (id, if 0 < value then maxInt else minInt)
    else store.save (id, sum)

/-! ## The database -/

structure UserRow where
  quota : Int
  usedQuota : Int
  requestCount : Int

structure TokenRow where
  remainQuota : Int
  usedQuota : Int
  accessedTime : Int

structure ChannelRow where
  usedQuota : Int

/-- The rows that the updates touch, by primary key. -/
structure DB where
  users : Nat → Option UserRow
  tokens : Nat → Option TokenRow
  channels : Nat → Option ChannelRow

/-- `UPDATE ... WHERE id = ?`: without such a row nothing is written, and that is no error. -/
def updateWhereId {ρ : Type} (rows : Nat → Option ρ) (id : Nat) (f : ρ → ρ) : Nat → Option ρ :=
  Function.update rows id ((rows id).map f)

def updateUserQuotaUsedQuotaAndRequestCount (db : DB) (id : Nat)
    (quota usedQuota requestCount : Int) : DB :=
  if quota = 0 ∧ usedQuota = 0 ∧ requestCount = 0 then db
  else { db with users := updateWhereId db.users id fun row =>
    { quota := row.quota + quota, usedQuota := row.usedQuota + usedQuota,
      requestCount := row.requestCount + requestCount } }

def increaseTokenQuota (db : DB) (id : Nat) (quota now : Int) : DB :=
  { db with tokens := updateWhereId db.tokens id fun row =>
    { remainQuota := row.remainQuota + quota, usedQuota := row.usedQuota - quota,
      accessedTime := now } }

def updateChannelUsedQuota (db : DB) (id : Nat) (quota : Int) : DB :=
  { db with channels := updateWhereId db.channels id fun row =>
    { usedQuota := row.usedQuota + quota } }

/-! ## `batchUpdate` -/

/-- The three loops that write: tokens, channels, and users with their three types merged. -/
inductive Phase
  | tokens
  | channels
  | users
deriving DecidableEq

/-- The loop that writes a type. -/
def BatchType.phase : BatchType → Phase
  | .tokenQuota => .tokens
  | .channelUsedQuota => .channels
  | _ => .users

def Phase.next : Phase → Option Phase
  | .tokens => some .channels
  | .channels => some .users
  | .users => none

/-- The ids that a loop visits, each once and in no fixed order. -/
def Phase.ids (stores : Stores) : Phase → List Nat
  | .tokens => (stores .tokenQuota).ids
  | .channels => (stores .channelUsedQuota).ids
  | .users => (stores .userQuota).ids ++ (stores .usedQuota).ids ++ (stores .requestCount).ids

/-- The statement that a loop issues for an id. -/
def Phase.write (stores : Stores) (db : DB) (id : Nat) (now : Int) : Phase → DB
  | .tokens => increaseTokenQuota db id ((stores .tokenQuota).at id) now
  | .channels => updateChannelUsedQuota db id ((stores .channelUsedQuota).at id)
  | .users => updateUserQuotaUsedQuotaAndRequestCount db id ((stores .userQuota).at id)
      ((stores .usedQuota).at id) ((stores .requestCount).at id)

/-- Where a call of `batchUpdate` stands. -/
inductive Flush
  /-- looking for data; the types still to be looked at -/
  | checking (rest : List BatchType)
  /-- taking the stores; those taken, and the types still to be taken -/
  | taking (stores : Stores) (rest : List BatchType)
  /-- in one of the loops; the ids it has still to visit -/
  | writing (stores : Stores) (phase : Phase) (rest : List Nat)
  | finished

/-! ## The system -/

/-- Where a recorded change is: in the store of its type, with a call that took that store, or in
the database, written by that call. -/
inductive Location
  | queued
  | taken (flush : Nat)
  | applied (flush : Nat)
deriving DecidableEq

/-- A change as it was passed to `addNewRecord`. -/
structure Record where
  type : BatchType
  id : Nat
  value : Int
  location : Location
deriving DecidableEq

structure BatchState where
  stores : Stores
  /-- the calls of `batchUpdate` so far -/
  flushes : List Flush
  db : DB
  /-- every change recorded so far, in order -/
  records : List Record

/-- The records that meet `c` move on to `location`. -/
def relocate (records : List Record) (c : Record → Prop) [DecidablePred c] (location : Location) :
    List Record :=
  records.map fun r => if c r then { r with location } else r

/-- Empty stores, no calls. -/
def BatchState.start (db : DB) : BatchState where
  stores := .empty
  flushes := []
  db := db
  records := []

inductive BatchLabel
  /-- a call of `addNewRecord` -/
  | record (type : BatchType) (id : Nat) (value : Int)
  /-- a call of `batchUpdate` -/
  | call
  /-- a call of `batchUpdate` goes on to its next lock section or loop -/
  | advance (flush : Nat)
  /-- a call of `batchUpdate` visits an id of its loop -/
  | write (flush id : Nat) (now : Int)

/-- A call takes the store of a type, and with it the changes that are queued there. -/
def BatchState.take (s : BatchState) (i : Nat) (stores : Stores) (type : BatchType)
    (rest : List BatchType) : BatchState :=
  { s with
    stores := Function.update s.stores type Table.empty
    flushes := s.flushes.set i (.taking (Function.update stores type (s.stores type)) rest)
    records := relocate s.records (fun r => r.type = type ∧ r.location = .queued) (.taken i) }

/-- A call writes what it took for an id. -/
def BatchState.write (s : BatchState) (i : Nat) (stores : Stores) (phase : Phase)
    (rest : List Nat) (id : Nat) (now : Int) : BatchState :=
  { s with
    flushes := s.flushes.set i (.writing stores phase (rest.filter (· ≠ id)))
    db := phase.write stores s.db id now
    records := relocate s.records
      (fun r => r.type.phase = phase ∧ r.id = id ∧ r.location = .taken i) (.applied i) }

/-- What a call does next, other than visiting an id. -/
def BatchState.advance (s : BatchState) (i : Nat) : Flush → Option BatchState
  | .checking [] => some { s with flushes := s.flushes.set i .finished }
  | .checking (type :: rest) =>
    if (s.stores type).rows = [] then
      some { s with flushes := s.flushes.set i (.checking rest) }
    else some { s with flushes := s.flushes.set i (.taking .empty BatchType.all) }
  | .taking stores [] =>
    some { s with flushes := s.flushes.set i (.writing stores .tokens (Phase.tokens.ids stores)) }
  | .taking stores (type :: rest) => some (s.take i stores type rest)
  | .writing stores phase [] =>
    match phase.next with
    | some phase =>
      some { s with flushes := s.flushes.set i (.writing stores phase (phase.ids stores)) }
    | none => some { s with flushes := s.flushes.set i .finished }
  | .writing _ _ (_ :: _) => none
  | .finished => none

def batchStep (s : BatchState) : BatchLabel → Option BatchState
  | .record type id value => some { s with
      stores := Function.update s.stores type (addNewRecord (s.stores type) id value)
      records := s.records ++ [{ type, id, value, location := .queued }] }
  | .call => some { s with flushes := s.flushes ++ [.checking BatchType.all] }
  | .advance i => (s.flushes[i]?).bind (s.advance i)
  | .write i id now =>
    match s.flushes[i]? with
    | some (.writing stores phase rest) =>
      if id ∈ rest then some (s.write i stores phase rest id now) else none
    | _ => none

end NewApi.Model.Batch
