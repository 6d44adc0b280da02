import NewApi.Tenant.Host
import NewApi.Utils.Table

/-!
# Hosts of workspaces

`platform/domain.go`: hosts are created under a wildcard domain or as custom hosts, custom hosts are
verified by DNS, and administrators change the wildcard domains.

Transactions are read-committed: every statement sees what is committed at its time, and the rows a
transaction writes appear together at its commit. A statement is one step, the last write and the
commit are one step together. The unique indexes on `tenant_hosts.host` and on
`platform_wildcard_domains.domain` refuse a row whose name is there, and the transaction is rolled
back. Administrators first update the one row of `AdminGuard`, so their transactions exclude each
other; the other transactions take no lock before they write.
-/

namespace NewApi.Platform
open Tenant

/-! ## The server -/

/-- The host of `Server.Origin`, if it can be parsed, and the functions on texts. -/
structure HostServer where
  text : HostText
  originHost : Option String

namespace HostServer
variable (server : HostServer)

def platformHost : String :=
  match server.originHost.bind (normalizeHost server.text) with
  | some host => host
  | none => ""

def isPlatformHost (host : String) : Bool := host ≠ "" && host == server.platformHost

def verifyTarget : String :=
  if server.platformHost = "" then "" else "verify." ++ server.platformHost

def reservedPrefixes (domain : String) : List String :=
  let label := prefixForDomain server.platformHost domain
  ["www", "mail", "platform", "admin"] ++ if label ≠ "" then [label] else []

end HostServer

inductive HostError
  | recordNotFound
  | invalidWildcardDomain
  | wildcardDomainInUse
  | invalidWorkspaceHost
  | workspaceHostTaken
  | workspaceHostLimitReached
deriving DecidableEq

abbrev Hosts : Type := Table Host.id
abbrev WildcardDomains : Type := Table WildcardDomain.id

/-- How many hosts the workspace has. -/
def Hosts.countOf (hosts : Hosts) (tenantID : Nat) : Nat :=
  hosts.rows.countP fun b => b.tenantID = tenantID

/-- How many hosts the wildcard domain has. -/
def Hosts.used (hosts : Hosts) (domainID : Nat) : Nat :=
  hosts.rows.countP fun b => b.wildcardDomainID = some domainID

/-! ## Creating a host -/

structure HostInput where
  kind : String
  label : String
  wildcardDomainID : Int
  host : String
  method : String
deriving DecidableEq

/-- The domain of the id, or the first one. The rows stand in the order of their ids. -/
def enabledWildcard (domains : WildcardDomains) (id : Int) : Except HostError WildcardDomain :=
  if 0 < id then
    match domains.rows.find? fun d => d.enabled ∧ (d.id : Int) = id with
    | some domain => .ok domain
    | none => .error .invalidWildcardDomain
  else
    match domains.rows.find? fun d => d.enabled with
    | some domain => .ok domain
    | none => .error .recordNotFound

/-- The row `provisionWildcardHost` inserts, once the domain is read. -/
def wildcardBinding (server : HostServer) (domain : WildcardDomain) (tenantID : Nat) (slug : String)
    (label : String) : Except HostError Host :=
  let label := trimSpace (server.text.toLower label)
  let label := if label = "" then slug else label
  if validPrefix label then
    if label ∈ server.reservedPrefixes domain.domain then .error .invalidWorkspaceHost
    else
      match wildcardHost server.text label domain.domain with
      | none => .error .invalidWorkspaceHost
      | some host =>
        .ok { id := 0, tenantID, kind := .wildcard, host, label, wildcardDomainID := some domain.id,
              status := .verified, verificationMethod := none, verificationToken := "" }
  else .error .invalidWorkspaceHost

/-- The row `provisionCustomHost` inserts, but for its token, once the wildcard domains are read. -/
def customBinding (server : HostServer) (domains : WildcardDomains) (tenantID : Nat)
    (raw method : String) : Except HostError Host :=
  match normalizeHost server.text raw with
  | none => .error .invalidWorkspaceHost
  | some host =>
    if host = server.platformHost ∨ ('.' ∉ host.toList ∧ host ≠ "localhost") then
      .error .invalidWorkspaceHost
    else if domains.rows.any fun d => host = d.domain ∨ prefixForDomain host d.domain ≠ "" then
      .error .invalidWorkspaceHost
    else
      let method := trimSpace (server.text.toLower method)
      let binding (method : VerifyMethod) : Host :=
        { id := 0, tenantID, kind := .custom, host, label := "", wildcardDomainID := none,
          status := .pending, verificationMethod := some method, verificationToken := "" }
      if method = "" ∨ method = "txt" then .ok (binding .txt)
      else if method = "cname" then .ok (binding .cname)
      else .error .invalidWorkspaceHost

/-- The rows that `Count(&taken)` finds. -/
def Hosts.taken (hosts : Hosts) (binding : Host) : Bool :=
  hosts.rows.any fun b => b.host = binding.host ∨
    (binding.wildcardDomainID ≠ none ∧ b.wildcardDomainID = binding.wildcardDomainID ∧
      b.label = binding.label)

inductive CreateStage
  /-- the number of hosts is below the limit, or the workspace is a new one -/
  | counted
  /-- the domains are read; a wildcard host has the row of its domain as it was read -/
  | chosen (binding : Host) (domain : Option WildcardDomain)
  /-- no row has the host -/
  | checked (binding : Host) (domain : Option WildcardDomain)
  | done
deriving DecidableEq

/-- A transaction of `createWorkspaceHost`, or of `createWorkspace` when it `opens` the workspace.
`version` counts the commits before its first statement. -/
structure Creation where
  tenantID : Nat
  slug : String
  opens : Bool
  input : HostInput
  version : Nat
  stage : CreateStage
deriving DecidableEq

/-! ## Verifying a host -/

/-- What the resolver answers to the two questions about a host: the `TXT` records of
`verifyTXTName host` and the canonical name of `host`; `none` is an error. -/
structure Dns where
  txt : Option (List String)
  cname : Option String
deriving DecidableEq

/-- `strings.Trim` of quotes, `strings.TrimSpace` and `strings.CutPrefix`. -/
def recordValue (record : String) : String :=
  let value := (trimSpace (String.ofList (trimBoth (· == '"') record.toList))).toList
  let key := "newapi-site-verification=".toList
  String.ofList (if key.isPrefixOf value then value.drop key.length else value)

/-- `strings.TrimSuffix` of a dot, after `strings.ToLower`. -/
def canonicalName (server : HostServer) (name : String) : String :=
  String.ofList (withoutDot (server.text.toLower name).toList)

inductive VerifyStage
  | read
  /-- the host is an alias of another name, which may be a host of the workspace -/
  | aliased (dns : Dns)
  | proven
  | done
deriving DecidableEq

/-- A request of `verifyWorkspaceHost` with the row it has read. -/
structure Verification where
  binding : Host
  stage : VerifyStage
deriving DecidableEq

/-- `domainVerified` up to the query for aliases. -/
def lookupDomain (server : HostServer) (dns : Dns) (binding : Host) : VerifyStage :=
  if binding.verificationToken = "" then .done
  else if binding.verificationMethod ≠ some .cname ∧
      (dns.txt.getD []).any (fun record => recordValue record = binding.verificationToken) then
    .proven
  else if binding.verificationMethod = some .txt then .done
  else
    match dns.cname with
    | none => .done
    | some cname =>
      if canonicalName server cname
          = canonicalName server (binding.verificationToken ++ "." ++ server.verifyTarget) then .proven
      else .aliased dns

/-- The rest of `domainVerified`: the query for aliases. -/
def lookupAliases (server : HostServer) (hosts : Hosts) (binding : Host) (dns : Dns) :
    VerifyStage :=
  if hosts.rows.any fun b => b.tenantID = binding.tenantID ∧ b.status = .verified ∧
      b.id ≠ binding.id ∧ dns.cname.map (canonicalName server) = some b.host then .proven
  else .done

/-! ## Wildcard domains -/

inductive DomainOp
  | create (domain : String) (enabled : Option Bool)
  | update (id : Nat) (domain : String) (enabled : Option Bool)
  | delete (id : Nat)
deriving DecidableEq

/-- What the transaction of an administrator writes. -/
inductive DomainWrite
  | insert (domain : String) (enabled : Bool)
  | update (id : Nat) (domain : Option String) (enabled : Option Bool)
  | delete (id : Nat)
deriving DecidableEq

/-- The statements of an administrator before the write. No other transaction changes a domain while
the row of `AdminGuard` is locked, so they are one step. -/
def DomainOp.check (server : HostServer) (hosts : Hosts) (domains : WildcardDomains) :
    DomainOp → Except HostError DomainWrite
  | .create domain enabled =>
    match normalizeHost server.text domain with
    | none => .error .invalidWildcardDomain
    | some domain =>
      if '.' ∉ domain.toList ∧ domain ≠ "localhost" then .error .invalidWildcardDomain
      else if domains.rows.any fun d => d.domain = domain then .error .wildcardDomainInUse
      else .ok (.insert domain (enabled.getD true))
  | .update id domain enabled =>
    match domains.get? id with
    | none => .error .recordNotFound
    | some row =>
      if trimSpace domain ≠ "" then
        match normalizeHost server.text (trimSpace domain) with
        | none => .error .invalidWildcardDomain
        | some normalized =>
          if 0 < hosts.used row.id ∧ normalized ≠ row.domain then .error .wildcardDomainInUse
          else .ok (.update id (some normalized) enabled)
      else if enabled = none then .error .invalidWildcardDomain
      else .ok (.update id none enabled)
  | .delete id =>
    if 0 < hosts.used id then .error .wildcardDomainInUse
    else if domains.get? id = none then .error .recordNotFound
    else .ok (.delete id)

/-- The unique index refuses a name that another row has. -/
def WildcardDomains.hasOther (domains : WildcardDomains) (id : Nat) (domain : String) : Bool :=
  domains.rows.any fun d => d.id ≠ id ∧ d.domain = domain

/-- The rows after the write, or `none` when the unique index refuses it. -/
def DomainWrite.apply (domains : WildcardDomains) (next : Nat) :
    DomainWrite → Option WildcardDomains
  | .insert domain enabled =>
    if domains.hasOther next domain then none
    else some (domains.save { id := next, domain, enabled })
  | .update id domain enabled =>
    match domains.get? id with
    | none => some domains
    | some row =>
      let row := { row with domain := domain.getD row.domain, enabled := enabled.getD row.enabled }
      if domains.hasOther id row.domain then none else some (domains.save row)
  | .delete id => some (domains.erase id)

/-- An open transaction of an administrator. -/
structure AdminTx where
  write : DomainWrite
  version : Nat
deriving DecidableEq

/-! ## The system -/

/-- What a verification has seen: the row it is for, the answers of the resolver, and the hosts of the
database when the answers were compared with them. -/
structure Lookup where
  binding : Host
  dns : Dns
  hosts : List Host
deriving DecidableEq

/-- The database, the transactions and requests under way, and what a statement about runs refers to:
`version` counts the commits, `lookups` are the lookups so far. -/
structure DomainState where
  workspaces : List Nat
  hosts : Hosts
  domains : WildcardDomains
  nextWorkspace : Nat
  nextHost : Nat
  nextDomain : Nat
  creations : List Creation
  verifications : List Verification
  admin : Option AdminTx
  version : Nat
  lookups : List Lookup

def DomainState.init : DomainState where
  workspaces := []
  hosts := .empty
  domains := .empty
  nextWorkspace := 1
  nextHost := 1
  nextDomain := 1
  creations := []
  verifications := []
  admin := none
  version := 0
  lookups := []

/-- `WorkspaceByHost`, for a request to the host. -/
def workspaceByHost (server : HostServer) (s : DomainState) (requestHost : String) : Option Nat :=
  match normalizeHost server.text requestHost with
  | none => none
  | some host =>
    if server.isPlatformHost host then none
    else
      match s.hosts.rows.find? fun b => b.host = host ∧ b.status = .verified with
      | none => none
      | some binding => if binding.tenantID ∈ s.workspaces then some binding.tenantID else none

/-- Who moves, with what the clients, the resolver and the random numbers decide. -/
inductive DomainLabel
  /-- `createWorkspace` inserts the workspace -/
  | openWorkspace (slug : String) (input : HostInput)
  /-- `createWorkspaceHost` counts the hosts -/
  | count (tenantID : Nat) (slug : String) (input : HostInput)
  /-- the domains are read -/
  | choose (i : Nat)
  /-- the rows with the host are counted, and a custom host gets its token -/
  | check (i : Nat) (token : String)
  /-- the row is inserted and the transaction is committed -/
  | insert (i : Nat)
  /-- the transaction fails for another reason -/
  | abort (i : Nat)
  | readBinding (tenantID id : Nat)
  | lookup (j : Nat) (dns : Dns)
  | readAliases (j : Nat)
  | confirm (j : Nat)
  | deleteHost (tenantID id : Nat)
  | adminBegin (op : DomainOp)
  | adminCommit
  | adminAbort
deriving DecidableEq

namespace DomainState
variable (server : HostServer) (s : DomainState)

def setCreation (i : Nat) (c : Creation) : DomainState :=
  { s with creations := s.creations.set i c }

def setVerification (j : Nat) (v : Verification) : DomainState :=
  { s with verifications := s.verifications.set j v }

/-- The workspace that the transaction opens is committed with it. -/
def commitWorkspace (c : Creation) : DomainState :=
  { s with workspaces := if c.opens then s.workspaces ++ [c.tenantID] else s.workspaces }

/-- What a request to create a host reads of the domains. -/
def provision (c : Creation) : Except HostError (Host × Option WildcardDomain) :=
  let kind := trimSpace c.input.kind
  if c.opens ∨ kind = "wildcard" ∨ kind = "" then do
    let domain ← enabledWildcard s.domains c.input.wildcardDomainID
    let binding ← wildcardBinding server domain c.tenantID c.slug c.input.label
    return (binding, some domain)
  else if kind = "custom" then do
    let binding ← customBinding server s.domains c.tenantID c.input.host c.input.method
    return (binding, none)
  else .error .invalidWorkspaceHost

def choose (i : Nat) (c : Creation) : DomainState :=
  match s.provision server c with
  | .ok (binding, domain) => s.setCreation i { c with stage := .chosen binding domain }
  | .error e =>
    if c.opens ∧ e = .recordNotFound then
      -- without an enabled domain the workspace is created and has no host
      { (s.commitWorkspace c).setCreation i { c with stage := .done } with version := s.version + 1 }
    else s.setCreation i { c with stage := .done }

def check (i : Nat) (c : Creation) (binding : Host) (domain : Option WildcardDomain)
    (token : String) : DomainState :=
  if s.hosts.taken binding then s.setCreation i { c with stage := .done }
  else
    let binding := if binding.kind = .custom then { binding with verificationToken := token }
      else binding
    s.setCreation i { c with stage := .checked binding domain }

/-- The unique index on the host refuses a second row. -/
def insert (i : Nat) (c : Creation) (binding : Host) : DomainState :=
  if s.hosts.rows.any fun b => b.host = binding.host then s.setCreation i { c with stage := .done }
  else
    { (s.commitWorkspace c).setCreation i { c with stage := .done } with
      hosts := s.hosts.save { binding with id := s.nextHost }
      nextHost := s.nextHost + 1
      version := s.version + 1 }

/-- `verifyWorkspaceHost` writes the status by the id of the row it has read. -/
def confirm (j : Nat) (v : Verification) : DomainState :=
  match s.hosts.get? v.binding.id with
  | none => s.setVerification j { v with stage := .done }
  | some row =>
    { s.setVerification j { v with stage := .done } with
      hosts := s.hosts.save { row with status := .verified }
      version := s.version + 1 }

def adminCommit (tx : AdminTx) : DomainState :=
  match tx.write.apply s.domains s.nextDomain with
  | none => { s with admin := none }
  | some domains =>
    { s with admin := none, domains, nextDomain := s.nextDomain + 1, version := s.version + 1 }

end DomainState

def domainStep (server : HostServer) (s : DomainState) : DomainLabel → Option DomainState
  | .openWorkspace slug input =>
    some { s with
      nextWorkspace := s.nextWorkspace + 1
      creations := s.creations ++
        [⟨s.nextWorkspace, slug, true, input, s.version, .counted⟩] }
  | .count tenantID slug input =>
    if tenantID ∈ s.workspaces ∧ s.hosts.countOf tenantID < maxHostsPerWorkspace then
      some { s with creations := s.creations ++ [⟨tenantID, slug, false, input, s.version, .counted⟩] }
    else none
  | .choose i =>
    match s.creations[i]? with
    | some c => if c.stage = .counted then some (s.choose server i c) else none
    | none => none
  | .check i token =>
    match s.creations[i]? with
    | some c =>
      match c.stage with
      | .chosen binding domain => some (s.check i c binding domain token)
      | _ => none
    | none => none
  | .insert i =>
    match s.creations[i]? with
    | some c =>
      match c.stage with
      | .checked binding _ => some (s.insert i c binding)
      | _ => none
    | none => none
  | .abort i =>
    match s.creations[i]? with
    | some c => some (s.setCreation i { c with stage := .done })
    | none => none
  | .readBinding tenantID id =>
    match s.hosts.get? id with
    | some b =>
      if b.tenantID = tenantID ∧ b.kind = .custom ∧ b.status = .pending then
        some { s with verifications := s.verifications ++ [⟨b, .read⟩] }
      else none
    | none => none
  | .lookup j dns =>
    match s.verifications[j]? with
    | some v =>
      if v.stage = .read then
        some { s.setVerification j { v with stage := lookupDomain server dns v.binding } with
          lookups := s.lookups ++ [⟨v.binding, dns, s.hosts.rows⟩] }
      else none
    | none => none
  | .readAliases j =>
    match s.verifications[j]? with
    | some v =>
      match v.stage with
      | .aliased dns =>
        some { s.setVerification j { v with stage := lookupAliases server s.hosts v.binding dns } with
          lookups := s.lookups ++ [⟨v.binding, dns, s.hosts.rows⟩] }
      | _ => none
    | none => none
  | .confirm j =>
    match s.verifications[j]? with
    | some v => if v.stage = .proven then some (s.confirm j v) else none
    | none => none
  | .deleteHost tenantID id =>
    match s.hosts.get? id with
    | some b =>
      if b.tenantID = tenantID then
        some { s with hosts := s.hosts.erase id, version := s.version + 1 }
      else none
    | none => none
  | .adminBegin op =>
    if s.admin = none then
      match op.check server s.hosts s.domains with
      | .ok write => some { s with admin := some ⟨write, s.version⟩ }
      | .error _ => none
    else none
  | .adminCommit =>
    match s.admin with
    | some tx => some (s.adminCommit tx)
    | none => none
  | .adminAbort => some { s with admin := none }

end NewApi.Platform
