import NewApi.Utils.NetAddr
import NewApi.Utils.TrimSpace

/-!
# Protection against requests to internal addresses

`common/ssrf_protection.go` and `IsIpInCIDRList` of `common/ip.go`. `toLower` is `strings.ToLower`. The
callers never pass a nil address.
-/

namespace NewApi.Common

structure SSRFProtection where
  allowPrivateIp : Bool
  /-- `true`: the list is a whitelist, `false`: a blacklist -/
  domainFilterMode : Bool
  domainList : List String
  ipFilterMode : Bool
  ipList : List String
  allowedPorts : List Int
  applyIPFilterForDomain : Bool
deriving DecidableEq

inductive SSRFError
  | invalidHost
  | invalidPort (port : Int)
  | invalidPortText (port : String)
  | portNotAllowed (port : Int)
  | domainNotInWhitelist (host : String)
  | domainInBlacklist (host : String)
  /-- the address, and the host that resolves to it -/
  | privateIP (host : String) (ip : IP)
  | ipNotInWhitelist (host : String) (ip : IP)
  | ipInBlacklist (host : String) (ip : IP)
  | invalidURL
  | unsupportedProtocol (scheme : String)
  | resolutionFailed (host : String)
  | invalidPortConfig (config : String)
  | tooManyRedirects
deriving DecidableEq

/-! ## Private addresses -/

def v4Net (a b c d ones : Nat) : IPNet :=
  ⟨IP.ofV4 (BitVec.ofNat 32 (a * 2 ^ 24 + b * 2 ^ 16 + c * 2 ^ 8 + d)), ones, true⟩

def privateIPv4Nets : List IPNet :=
  [v4Net 0 0 0 0 8, v4Net 10 0 0 0 8, v4Net 100 64 0 0 10, v4Net 127 0 0 0 8, v4Net 169 254 0 0 16,
    v4Net 172 16 0 0 12, v4Net 192 0 0 0 24, v4Net 192 0 2 0 24, v4Net 192 168 0 0 16,
    v4Net 198 18 0 0 15, v4Net 198 51 100 0 24, v4Net 203 0 113 0 24, v4Net 224 0 0 0 4,
    v4Net 240 0 0 0 4, v4Net 255 255 255 255 32]

def privateIPv6Nets : List IPNet :=
  ["::/128", "::1/128", "::ffff:0:0/96", "64:ff9b::/96", "100::/64", "2001::/23", "2001:db8::/32",
    "fc00::/7", "fe80::/10", "ff00::/8"].filterMap fun cidr => parseCIDR cidr.toList

def isPrivateIP (ip : IP) : Bool :=
  if ip.isUnspecified then true
  else if ip.isLoopback || ip.isLinkLocalUnicast || ip.isLinkLocalMulticast then true
  else if ip.isInterfaceLocalMulticast then true
  else
    match ip.to4 with
    | some _ => privateIPv4Nets.any fun net => net.contains ip
    | none => (privateIPv6Nets.any fun net => net.contains ip) || ip.isPrivate

/-! ## Ports -/

def validPort (port : Int) : Bool := 1 ≤ port && port ≤ 65535

/-- The ports of one entry, such as `80` or `8000-9000`. -/
def parsePortRange (config : String) : Except SSRFError (List Int) :=
  let fail : Except SSRFError (List Int) := .error (.invalidPortConfig config)
  let number (text : List Char) : Option Int := atoi (trimSpace (String.ofList text)).toList
  if '-' ∈ config.toList then
    match config.toList.splitOn '-' with
    | [start, stop] =>
      match number start, number stop with
      | some start, some stop =>
        if stop < start ∨ ¬ validPort start ∨ ¬ validPort stop then fail
        else .ok ((List.range (stop - start + 1).toNat).map fun i => start + i)
      | _, _ => fail
    | _ => fail
  else
    match atoi config.toList with
    | some port => if validPort port then .ok [port] else fail
    | none => fail

def parsePortRanges : List String → Except SSRFError (List Int)
  | [] => .ok []
  | config :: configs =>
    if trimSpace config = "" then parsePortRanges configs
    else do
      let ports ← parsePortRange (trimSpace config)
      let rest ← parsePortRanges configs
      return ports ++ rest

namespace SSRFProtection
variable (p : SSRFProtection) (toLower : String → String)

def isAllowedPort (port : Int) : Bool := p.allowedPorts.isEmpty || p.allowedPorts.contains port

/-! ## Domains and addresses -/

/-- `strings.HasSuffix`. -/
def hasSuffix (s tail : String) : Bool := tail.toList.isSuffixOf s.toList

def isDomainListed (domain : String) (list : List String) : Bool :=
  let domain := toLower domain
  list.any fun item =>
    let item := toLower (trimSpace item)
    item ≠ "" && (domain == item ||
      match item.toList with
      | '*' :: '.' :: rest =>
        hasSuffix domain ("." ++ String.ofList rest) || domain == String.ofList rest
      | _ => false)

def isDomainAllowed (domain : String) : Bool :=
  let listed := isDomainListed toLower domain p.domainList
  if p.domainFilterMode then listed else !listed

def isIpInCIDRList (ip : IP) (list : List String) : Bool :=
  list.any fun cidr =>
    match parseCIDR cidr.toList with
    | some net => net.contains ip
    | none => parseIP cidr.toList == some ip

/-- The address passes the list of addresses. -/
def passesIpList (ip : IP) : Bool :=
  let listed := isIpInCIDRList ip p.ipList
  if p.ipFilterMode then listed else !listed

def isIPAccessAllowed (ip : IP) : Bool :=
  if isPrivateIP ip && !p.allowPrivateIp then false else p.passesIpList ip

def ipAccessError (host : String) (ip : IP) : SSRFError :=
  if isPrivateIP ip && !p.allowPrivateIp then .privateIP host ip
  else if p.ipFilterMode then .ipNotInWhitelist host ip
  else .ipInBlacklist host ip

def validateNetworkTarget (host : String) (port : Int) : Except SSRFError Unit :=
  let host := trimSpace host
  if host = "" then .error .invalidHost
  else if ¬ validPort port then .error (.invalidPort port)
  else if ¬ p.isAllowedPort port then .error (.portNotAllowed port)
  else
    match parseIP host.toList with
    | some ip => if p.isIPAccessAllowed ip then .ok () else .error (p.ipAccessError "" ip)
    | none =>
      if p.isDomainAllowed toLower host then .ok ()
      else if p.domainFilterMode then .error (.domainNotInWhitelist host)
      else .error (.domainInBlacklist host)

def validateResolvedIP (host : String) (ip : IP) : Except SSRFError Unit :=
  if p.isIPAccessAllowed ip then .ok () else .error (p.ipAccessError host ip)

end SSRFProtection

/-! ## URLs -/

/-- The parts of a parsed URL that are used. -/
structure Url where
  scheme : String
  host : String
deriving DecidableEq

/-- `url.splitHostPort`: the port is cut off when it is empty or a number. -/
def Url.split (url : Url) : List Char × List Char :=
  let (host, port) := match cutLastColon url.host.toList with
    | some (host, port) => if port.all Char.isDigit then (host, port) else (url.host.toList, [])
    | none => (url.host.toList, [])
  match host with
  | '[' :: rest => if rest.getLast? = some ']' then (rest.dropLast, port) else (host, port)
  | _ => (host, port)

def Url.hostname (url : Url) : List Char := url.split.1

def Url.port (url : Url) : List Char := url.split.2

def defaultPort (scheme : String) : List Char :=
  if scheme = "https" then ['4', '4', '3'] else ['8', '0']

/-- `ValidateURL`: `parsed` is what `url.Parse` returns, `lookup` the answer of `net.LookupIP`. -/
def SSRFProtection.validateURL (p : SSRFProtection) (toLower : String → String) (parsed : Option Url)
    (lookup : Option (List IP)) : Except SSRFError Unit :=
  match parsed with
  | none => .error .invalidURL
  | some url =>
    if url.scheme ≠ "http" ∧ url.scheme ≠ "https" then .error (.unsupportedProtocol url.scheme)
    else
      let (host, portText) :=
        (splitHostPort url.host.toList).getD (url.hostname, defaultPort url.scheme)
      match atoi portText with
      | none => .error (.invalidPortText (String.ofList portText))
      | some port => do
        p.validateNetworkTarget toLower (String.ofList host) port
        if (parseIP host).isSome ∨ ¬ p.applyIPFilterForDomain then return ()
        else
          match lookup with
          | none => .error (.resolutionFailed (String.ofList host))
          | some ips => ips.forM (p.validateResolvedIP (String.ofList host))

end NewApi.Common
