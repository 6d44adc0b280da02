import NewApi.Tenant.Context
import NewApi.Utils.Noninterference

/-!
# Redis commands of a workspace

The hook of `tenant/redis.go`, which rewrites the keys of every command before it is sent and the
keys of a scan after it is answered, and the client and server around it: requests that share a
pool of connections, each connection with its selected database and its `MULTI` queue.

What a data command does with its keys is left to the server (`Redis`); what is known is that it
touches only the keys in their documented positions. A scan stands for its full iteration, from
which every key that is there all the time is returned.
-/

namespace NewApi.Tenant

/-! ## Commands -/

/-- The arguments of a command, its name first. `isScanCmd` says that the client built it as a scan,
so that the reply is taken apart. -/
structure Command where
  args : List String
  isScanCmd : Bool
deriving DecidableEq

/-- `strings.ToLower` of ASCII, in which every command and option is written. -/
def lower (s : String) : String := String.ofList (s.toList.map Char.toLower)

def Command.name (cmd : Command) : String := lower (cmd.args.headD "")

def connectionCommands : List String :=
  ["ping", "hello", "auth", "select", "client", "command", "multi", "exec", "discard"]

def singleKeyCommands : List String :=
  ["get", "getex", "set", "setnx", "getset", "expire", "pexpire", "ttl", "pttl", "persist", "incr",
    "incrby", "decr", "decrby", "hget", "hmget", "hgetall", "hset", "hmset", "hdel", "hexists",
    "hincrby", "llen", "lrange", "lpush", "rpush", "ltrim", "sadd", "smembers", "zadd",
    "zremrangebyscore", "zcard", "zrange"]

def allKeyCommands : List String := ["del", "unlink", "mget", "exists"]

def scriptCommands : List String := ["eval", "evalsha"]

/-- `strconv.Atoi`, except that a number out of range is not an error. -/
def atoi (s : String) : Option Int :=
  let digits (cs : List Char) : Option Nat :=
    if cs ≠ [] ∧ cs.all Char.isDigit then
      some (cs.foldl (fun n c => 10 * n + (c.toNat - '0'.toNat)) 0)
    else none
  match s.toList with
  | '-' :: cs => (digits cs).map fun n => -(n : Int)
  | '+' :: cs => (digits cs).map fun n => (n : Int)
  | cs => (digits cs).map fun n => (n : Int)

/-- The place of the argument after the first `match`; `i` is the place of the head. -/
def matchPosition : Nat → List String → Option Nat
  | i, option :: value :: rest =>
    if lower option = "match" then some (i + 1) else matchPosition (i + 1) (value :: rest)
  | _, _ => none

/-- The places of the keys that are rewritten. -/
def scopePositions (name : String) (args : List String) : Except ScopeError (List Nat) :=
  if name ∈ singleKeyCommands then .ok [1]
  else if name ∈ allKeyCommands then .ok (List.range' 1 (args.length - 1))
  else if name ∈ scriptCommands then
    if args.length < 3 then .error .invalidScript
    else
      match atoi (args.getD 2 "") with
      | none => .error .scriptKeys
      | some count =>
        if count < 1 ∨ count > (args.length : Int) - 3 then .error .scriptKeys
        else .ok (List.range' 3 count.toNat)
  else if name = "scan" then
    match matchPosition 2 (args.drop 2) with
    | none => .error .scanPattern
    | some position => .ok [position]
  else .error (.notPermitted name)

def beginsWith (s start : String) : Bool := start.toList.isPrefixOf s.toList

def scopeArg (own : String) (args : List String) (position : Nat) :
    Except ScopeError (List String) :=
  match args[position]? with
  | none => .error .invalidArguments
  | some key =>
    if beginsWith key own then .ok args
    else if beginsWith key "tenant:" then .error .mismatch
    else .ok (args.set position (own ++ key))

def scopeArgs (own : String) : List Nat → List String → Except ScopeError (List String)
  | [], args => .ok args
  | position :: positions, args =>
    match scopeArg own args position with
    | .error e => .error e
    | .ok args => scopeArgs own positions args

def scopeRedisCommand (ctx : Option Identity) (cmd : Command) : Except ScopeError Command :=
  if cmd.name ∈ connectionCommands then .ok cmd
  else
    match contextKey ctx "" with
    | .error e => .error e
    | .ok own =>
      match scopePositions cmd.name cmd.args with
      | .error e => .error e
      | .ok positions =>
        match scopeArgs own positions cmd.args with
        | .error e => .error e
        | .ok args => .ok { cmd with args := args }

/-! ## The server -/

/-- Where the Redis documentation has the keys of a command, for the data commands above. -/
def documentedPositions (args : List String) : Option (List Nat) :=
  let name := lower (args.headD "")
  if name ∈ singleKeyCommands then some [1]
  else if name ∈ allKeyCommands then some (List.range' 1 (args.length - 1))
  else if name ∈ scriptCommands then
    some (List.range' 3 ((atoi (args.getD 2 "")).getD 0).toNat)
  else none

def documentedKeys (args : List String) : List String :=
  ((documentedPositions args).getD []).filterMap (args[·]?)

/-- The characters that do not stand for themselves in a pattern. -/
def globSpecial : List Char := ['*', '?', '[', '\\']

/-- What the server does with the arguments of a data command and the values of the selected
database, what it answers to a command about the connection, and which keys match a pattern. -/
structure Redis (V ρ : Type) where
  exec : List String → (String → Option V) → ρ × (String → Option V)
  connection : List String → ρ
  glob : List Char → List Char → Bool
  writes : ∀ args db k, (documentedPositions args).isSome → k ∉ documentedKeys args →
    (exec args db).2 k = db k
  reads : ∀ args db db', (documentedPositions args).isSome →
    (∀ k ∈ documentedKeys args, db k = db' k) →
    (exec args db).1 = (exec args db').1 ∧
      ∀ k ∈ documentedKeys args, (exec args db).2 k = (exec args db').2 k
  glob_literal : ∀ c pattern key, c ∉ globSpecial → glob (c :: pattern) key = true →
    ∃ rest, key = c :: rest ∧ glob pattern rest = true

/-- A database has finitely many keys. -/
structure Database (V : Type) where
  value : String → Option V
  keys : Finset String
  mem_keys : ∀ k, k ∈ keys ↔ (value k).isSome

variable {V ρ : Type}

/-- A data command. The keys that are there afterwards were there before, or are keys of it. -/
def Database.exec (db : Database V) (redis : Redis V ρ) (args : List String) : ρ × Database V :=
  if h : (documentedPositions args).isSome then
    let result := redis.exec args db.value
    (result.1,
      { value := result.2
        keys := (db.keys ∪ (documentedKeys args).toFinset).filter fun k => (result.2 k).isSome
        mem_keys := by
          intro k
          rw [Finset.mem_filter, Finset.mem_union, List.mem_toFinset]
          refine ⟨fun hk => hk.2, fun hk => ⟨?_, hk⟩⟩
          by_cases hmem : k ∈ documentedKeys args
          · exact .inr hmem
          left
          rw [db.mem_keys, ← redis.writes args db.value k h hmem]
          exact hk })
  else ((redis.exec args db.value).1, db)

/-- The options of a scan: the pattern in force, the last one if there are several, and `none` for
what is not an option. -/
def scanOptions : List String → Option (Option String)
  | [] => some none
  | option :: value :: rest =>
    if lower option = "match" then (scanOptions rest).map fun later => some (later.getD value)
    else if lower option = "count" ∨ lower option = "type" then scanOptions rest
    else none
  | [_] => none

def matchOptions : List String → Nat
  | option :: _ :: rest => (if lower option = "match" then 1 else 0) + matchOptions rest
  | _ => 0

inductive Answer (ρ : Type)
  | value (r : ρ)
  | keys (ks : Finset String)
  | ok
  | failed
deriving DecidableEq

/-- The keys that a scan with the options `opts` goes through. -/
def Database.scan (db : Database V) (redis : Redis V ρ) (opts : List String) :
    Option (Finset String) :=
  (scanOptions opts).map fun pattern =>
    match pattern with
    | none => db.keys
    | some pattern => db.keys.filter fun k => redis.glob pattern.toList k.toList

/-- A command outside `MULTI`, with the database of its connection. -/
def execute (redis : Redis V ρ) (dbs : Nat → Database V) (db : Nat) (cmd : Command) :
    Answer ρ × (Nat → Database V) × Nat :=
  if cmd.name = "select" then
    match atoi (cmd.args.getD 1 "") with
    | some index => if index < 0 then (.failed, dbs, db) else (.ok, dbs, index.toNat)
    | none => (.failed, dbs, db)
  else if cmd.name ∈ connectionCommands then (.value (redis.connection cmd.args), dbs, db)
  else if cmd.name = "scan" then
    match (dbs db).scan redis (cmd.args.drop 2) with
    | some ks => (.keys ks, dbs, db)
    | none => (.failed, dbs, db)
  else
    let result := (dbs db).exec redis cmd.args
    (.value result.1, Function.update dbs db result.2, db)

def executeAll (redis : Redis V ρ) (dbs : Nat → Database V) (db : Nat) :
    List Command → List (Answer ρ) × (Nat → Database V) × Nat
  | [] => ([], dbs, db)
  | cmd :: cmds =>
    let first := execute redis dbs db cmd
    let rest := executeAll redis first.2.1 first.2.2 cmds
    (first.1 :: rest.1, rest.2)

structure Conn where
  db : Nat
  queue : Option (List Command)
deriving DecidableEq

/-- A connection as the client opens it. -/
def Conn.fresh : Conn where
  db := 0
  queue := none

inductive Reply (ρ : Type)
  | answer (a : Answer ρ)
  | queued
  | results (as : List (Answer ρ))
  | refused (e : ScopeError)
deriving DecidableEq

def serve (redis : Redis V ρ) (dbs : Nat → Database V) (conn : Conn) (cmd : Command) :
    Reply ρ × (Nat → Database V) × Conn :=
  if cmd.name = "multi" then
    match conn.queue with
    | none => (.answer .ok, dbs, { conn with queue := some [] })
    | some _ => (.answer .failed, dbs, conn)
  else if cmd.name = "exec" then
    match conn.queue with
    | none => (.answer .failed, dbs, conn)
    | some cmds =>
      let done := executeAll redis dbs conn.db cmds
      (.results done.1, done.2.1, { db := done.2.2, queue := none })
  else if cmd.name = "discard" then
    match conn.queue with
    | none => (.answer .failed, dbs, conn)
    | some _ => (.answer .ok, dbs, { conn with queue := none })
  else
    match conn.queue with
    | some cmds => (.queued, dbs, { conn with queue := some (cmds ++ [cmd]) })
    | none =>
      let done := execute redis dbs conn.db cmd
      (.answer done.1, done.2.1, { conn with db := done.2.2 })

def serveAll (redis : Redis V ρ) (dbs : Nat → Database V) (conn : Conn) :
    List Command → List (Reply ρ) × (Nat → Database V) × Conn
  | [] => ([], dbs, conn)
  | cmd :: cmds =>
    let first := serve redis dbs conn cmd
    let rest := serveAll redis first.2.1 first.2.2 cmds
    (first.1 :: rest.1, rest.2)

/-! ## The client -/

def multiCommand : Command where
  args := ["multi"]
  isScanCmd := false

def execCommand : Command where
  args := ["exec"]
  isScanCmd := false

inductive Request
  | process (cmd : Command)
  | pipeline (cmds : List Command)
  /-- a pipeline between `MULTI` and `EXEC` -/
  | txPipeline (cmds : List Command)
deriving DecidableEq

/-- The commands of the caller. -/
def Request.commands : Request → List Command
  | .process cmd => [cmd]
  | .pipeline cmds => cmds
  | .txPipeline cmds => cmds

/-- The hook before a command or a pipeline: nothing is sent unless every command is let through. -/
def beforeProcess (ctx : Option Identity) : List Command → Except ScopeError (List Command)
  | [] => .ok []
  | cmd :: cmds =>
    match scopeRedisCommand ctx cmd with
    | .error e => .error e
    | .ok cmd =>
      match beforeProcess ctx cmds with
      | .error e => .error e
      | .ok cmds => .ok (cmd :: cmds)

/-- The hook after a command: the keys of a scan lose their own beginning. -/
def afterProcess (ctx : Option Identity) (cmd : Command) (reply : Reply ρ) :
    Except ScopeError (Reply ρ) :=
  match cmd.isScanCmd, reply with
  | true, .answer (.keys ks) =>
    match contextKey ctx "" with
    | .error e => .error e
    | .ok own =>
      if ∀ k ∈ ks, beginsWith k own then
        .ok (.answer (.keys (ks.image fun k => String.ofList (k.toList.drop own.toList.length))))
      else .error .mismatch
  | _, _ => .ok reply

def afterProcessAll (ctx : Option Identity) :
    List Command → List (Reply ρ) → Except ScopeError (List (Reply ρ))
  | cmd :: cmds, reply :: replies =>
    match afterProcess ctx cmd reply with
    | .error e => .error e
    | .ok reply =>
      match afterProcessAll ctx cmds replies with
      | .error e => .error e
      | .ok replies => .ok (reply :: replies)
  | _, _ => .ok []

/-- What the caller gets: an error of the hook becomes that of every command. -/
def deliver (ctx : Option Identity) (cmds : List Command) (replies : List (Reply ρ)) :
    List (Reply ρ) :=
  match afterProcessAll ctx cmds replies with
  | .error e => cmds.map fun _ => .refused e
  | .ok replies => replies

/-- The replies to the commands of a transaction, out of those to all that was sent. -/
def transactionReplies (replies : List (Reply ρ)) : List (Reply ρ) :=
  match replies.getLast? with
  | some (.results as) => as.map .answer
  | _ => []

structure ClientState (V : Type) where
  dbs : Nat → Database V
  conns : Nat → Conn

/-- A request of a context, on the connection that the pool hands out. -/
structure ClientLabel where
  ctx : Option Identity
  conn : Nat
  request : Request
deriving DecidableEq

def clientStep (redis : Redis V ρ) (s : ClientState V) (l : ClientLabel) :
    ClientState V × List (Reply ρ) :=
  match beforeProcess l.ctx l.request.commands with
  | .error e => (s, l.request.commands.map fun _ => .refused e)
  | .ok cmds =>
    let sent :=
      match l.request with
      | .txPipeline _ => multiCommand :: cmds ++ [execCommand]
      | _ => cmds
    let done := serveAll redis s.dbs (s.conns l.conn) sent
    let replies :=
      match l.request with
      | .txPipeline _ => transactionReplies done.1
      | _ => done.1
    ({ dbs := done.2.1, conns := Function.update s.conns l.conn done.2.2 },
      deliver l.ctx cmds replies)

end NewApi.Tenant
