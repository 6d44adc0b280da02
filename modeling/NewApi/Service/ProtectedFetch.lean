import NewApi.Common.SsrfProtection

/-!
# Fetches under protection

`service/protected_fetch_client.go`: the client of `newProtectedFetchHTTPClient` without a proxy. Each
request and each redirect is checked as a URL, and the dialer of the transport checks again what it is
asked to dial, with the settings and the answers of the resolver at that time.

A dial hands the addresses it has found to the underlying dialer one after the other; `attempt` is one
of them. When and how often the transport dials for a request is left open.
-/

namespace NewApi.Service
open Common

structure FetchSetting where
  enableSSRFProtection : Bool
  allowPrivateIp : Bool
  domainFilterMode : Bool
  ipFilterMode : Bool
  domainList : List String
  ipList : List String
  allowedPorts : List String
  applyIPFilterForDomain : Bool
deriving DecidableEq

/-- `strings.ToLower`, and the ASCII form of a host name that the transport uses. -/
structure FetchText where
  toLower : String → String
  idnaASCII : List Char → List Char

/-! ## Settings -/

/-- `currentFetchProtection`: `none` when the protection is off. -/
def currentFetchProtection (setting : FetchSetting) : Except SSRFError (Option SSRFProtection) :=
  if setting.enableSSRFProtection then do
    let allowedPorts ← parsePortRanges setting.allowedPorts
    return some
      { allowPrivateIp := setting.allowPrivateIp
        domainFilterMode := setting.domainFilterMode
        domainList := setting.domainList
        ipFilterMode := setting.ipFilterMode
        ipList := setting.ipList
        allowedPorts
        applyIPFilterForDomain := setting.applyIPFilterForDomain }
  else return none

/-- `ValidateSSRFProtectedFetchURL`. -/
def validateFetchURL (text : FetchText) (setting : FetchSetting) (parsed : Option Url)
    (lookup : Option (List IP)) : Except SSRFError Unit := do
  match ← currentFetchProtection setting with
  | some p => p.validateURL text.toLower parsed lookup
  | none => return ()

/-! ## The dialer -/

/-- `canonicalAddr` of `net/http`. -/
def canonicalAddr (text : FetchText) (url : Url) : List Char :=
  joinHostPort (text.idnaASCII url.hostname)
    (if url.port = [] then defaultPort url.scheme else url.port)

def networkAllowsIP (network : String) (ip : IP) : Bool :=
  if network = "tcp4" then ip.to4.isSome
  else if network = "tcp6" then ip.to4.isNone
  else true

/-- `protectedFetchDialer.DialContext` up to the first connection: the addresses it is going to hand to
the underlying dialer. `answer` is what `LookupIPAddr` returns. -/
def dialTargets (text : FetchText) (setting : FetchSetting) (network : String) (addr : List Char)
    (answer : Option (List (Option IP))) :
    Except SSRFError (Option SSRFProtection × List (List Char)) := do
  match ← currentFetchProtection setting with
  | none => return (none, [addr])
  | some p =>
    match splitHostPort addr with
    | none => .error .invalidHost
    | some (host, portText) =>
      match atoi portText with
      | none => .error (.invalidPortText (String.ofList portText))
      | some port =>
        p.validateNetworkTarget text.toLower (String.ofList host) port
        match parseIP host with
        | some ip => return (some p, [joinHostPort ip.string portText])
        | none =>
          if ¬ p.applyIPFilterForDomain then return (some p, [addr])
          else
            match answer with
            | none => .error (.resolutionFailed (String.ofList host))
            | some resolved =>
              -- nil addresses and those of the other family are passed over
              let ips := (resolved.filterMap id).filter (networkAllowsIP network)
              ips.forM (p.validateResolvedIP (String.ofList host))
              return (some p, ips.map fun ip => joinHostPort ip.string portText)

/-! ## The client -/

/-- A request that was let through, with the number of requests before it in its chain. -/
structure Request where
  url : Url
  via : Nat
deriving DecidableEq

/-- A dial under way: the protection it has read, and the addresses it has not tried yet. -/
structure Dial where
  protection : Option SSRFProtection
  targets : List (List Char)
deriving DecidableEq

/-- `dialled` are the addresses that were handed to the underlying dialer, with the protection the dial
had read. -/
structure FetchState where
  setting : FetchSetting
  requests : List Request
  dials : List Dial
  dialled : List (Option SSRFProtection × List Char)
deriving DecidableEq

def FetchState.init (setting : FetchSetting) : FetchState := ⟨setting, [], [], []⟩

inductive FetchLabel
  /-- an administrator changes the settings -/
  | configure (setting : FetchSetting)
  /-- `RoundTrip` of the first request. `parsed` is what its URL gives when it is written and parsed
  again. -/
  | request (url : Url) (parsed : Option Url) (lookup : Option (List IP))
  /-- an answer redirects the request: `checkProtectedFetchRedirect`, then `RoundTrip` -/
  | redirect (i : Nat) (url : Url) (parsed : Option Url) (lookup lookup' : Option (List IP))
  /-- the transport dials for a request -/
  | dial (i : Nat) (network : String) (answer : Option (List (Option IP)))
  /-- the next address of a dial is handed to the underlying dialer -/
  | attempt (j : Nat) (connected : Bool)

def fetchStep (text : FetchText) (s : FetchState) : FetchLabel → Option FetchState
  | .configure setting => some { s with setting }
  | .request url parsed lookup =>
    match validateFetchURL text s.setting parsed lookup with
    | .ok _ => some { s with requests := s.requests ++ [⟨url, 0⟩] }
    | .error _ => none
  | .redirect i url parsed lookup lookup' =>
    match s.requests[i]? with
    | some r =>
      match validateFetchURL text s.setting parsed lookup,
          validateFetchURL text s.setting parsed lookup' with
      | .ok _, .ok _ =>
        if 10 ≤ r.via + 1 then none
        else some { s with requests := s.requests ++ [⟨url, r.via + 1⟩] }
      | _, _ => none
    | none => none
  | .dial i network answer =>
    match s.requests[i]? with
    | some r =>
      match dialTargets text s.setting network (canonicalAddr text r.url) answer with
      | .ok (protection, targets) => some { s with dials := s.dials ++ [⟨protection, targets⟩] }
      | .error _ => none
    | none => none
  | .attempt j connected =>
    match s.dials[j]? with
    | some d =>
      match d.targets with
      | target :: rest =>
        some { s with
          dials := s.dials.set j { d with targets := if connected then [] else rest }
          dialled := s.dialled ++ [(d.protection, target)] }
      | [] => none
    | none => none

end NewApi.Service
