import Mathlib

/-!
# Internet addresses

The parts of Go's `net`, `net/netip` and `strconv` that read and write addresses: `ParseIP`,
`IP.String`, `ParseCIDR`, `IPNet.Contains`, `SplitHostPort`, `JoinHostPort` and `Atoi`. An `IP` is the
address in its 16-byte form; an IPv4 address stands in its IPv4-mapped form, which `net.IP` does not
tell apart from the 4-byte form.
-/

namespace NewApi

open List

/-! ## Numbers -/

/-- The value of decimal digits. -/
def decimalValue (s : List Char) : Nat := s.foldl (fun n c => 10 * n + (c.toNat - '0'.toNat)) 0

/-- `strconv.Atoi`. -/
def atoi (s : List Char) : Option Int :=
  let (negative, digits) := match s with
    | '-' :: rest => (true, rest)
    | '+' :: rest => (false, rest)
    | _ => (false, s)
  if digits = [] ∨ ¬ digits.all Char.isDigit then none
  else
    let value : Int := if negative then -(decimalValue digits : Int) else decimalValue digits
    if -2 ^ 63 ≤ value ∧ value < 2 ^ 63 then some value else none

def isHexDigit (c : Char) : Bool :=
  c.isDigit || ('a' ≤ c && c ≤ 'f') || ('A' ≤ c && c ≤ 'F')

def hexDigitValue (c : Char) : Nat :=
  if c.isDigit then c.toNat - '0'.toNat
  else if c ≤ 'F' then c.toNat - 'A'.toNat + 10
  else c.toNat - 'a'.toNat + 10

/-- The value of hexadecimal digits. -/
def hexValue (s : List Char) : Nat := s.foldl (fun n c => 16 * n + hexDigitValue c) 0

/-! ## Hosts with ports -/

/-- The part of a text before the last colon, and the part after it. -/
def cutLastColon (s : List Char) : Option (List Char × List Char) :=
  match s.reverse.span (· ≠ ':') with
  | (_, []) => none
  | (port, _ :: host) => some (host.reverse, port.reverse)

/-- `net.SplitHostPort`. -/
def splitHostPort (s : List Char) : Option (List Char × List Char) :=
  match cutLastColon s with
  | none => none
  | some (host, port) =>
    match s with
    | '[' :: rest =>
      -- the first closing bracket has to stand right before the last colon
      let inside := rest.takeWhile (· ≠ ']')
      if host = '[' :: inside ++ [']'] ∧ '[' ∉ inside ++ port ∧ ']' ∉ port then some (inside, port)
      else none
    | _ => if ':' ∈ host ∨ '[' ∈ s ∨ ']' ∈ s then none else some (host, port)

/-- `net.JoinHostPort`. -/
def joinHostPort (host port : List Char) : List Char :=
  if ':' ∈ host then '[' :: host ++ ']' :: ':' :: port else host ++ ':' :: port

/-! ## Addresses -/

abbrev IP : Type := BitVec 128

/-- The IPv4-mapped address. -/
def IP.ofV4 (v4 : BitVec 32) : IP := BitVec.ofNat 128 (0xffff * 2 ^ 32 + v4.toNat)

/-- `IP.To4`. -/
def IP.to4 (ip : IP) : Option (BitVec 32) :=
  if ip.toNat / 2 ^ 32 = 0xffff then some (BitVec.ofNat 32 ip.toNat) else none

/-- The eight groups of an address. -/
def IP.groups (ip : IP) : List Nat := (List.range 8).map fun i => ip.toNat / 2 ^ (16 * (7 - i)) % 2 ^ 16

def IP.ofGroups (groups : List Nat) : IP :=
  BitVec.ofNat 128 (groups.foldl (fun n g => 2 ^ 16 * n + g) 0)

/-- The bytes of an IPv4 address. -/
def v4Byte (v4 : BitVec 32) (i : Nat) : Nat := v4.toNat / 2 ^ (8 * (3 - i)) % 256

/-- The bytes of an address in its 16-byte form. -/
def IP.byte (ip : IP) (i : Nat) : Nat := ip.toNat / 2 ^ (8 * (15 - i)) % 256

def IP.isUnspecified (ip : IP) : Bool := ip == IP.ofV4 0 || ip == 0

def IP.isLoopback (ip : IP) : Bool :=
  match ip.to4 with
  | some v4 => v4Byte v4 0 == 127
  | none => ip == 1

def IP.isLinkLocalUnicast (ip : IP) : Bool :=
  match ip.to4 with
  | some v4 => v4Byte v4 0 == 169 && v4Byte v4 1 == 254
  | none => ip.byte 0 == 0xfe && ip.byte 1 / 64 == 2

def IP.isLinkLocalMulticast (ip : IP) : Bool :=
  match ip.to4 with
  | some v4 => v4Byte v4 0 == 224 && v4Byte v4 1 == 0 && v4Byte v4 2 == 0
  | none => ip.byte 0 == 0xff && ip.byte 1 % 16 == 2

def IP.isInterfaceLocalMulticast (ip : IP) : Bool := ip.byte 0 == 0xff && ip.byte 1 % 16 == 1

def IP.isPrivate (ip : IP) : Bool :=
  match ip.to4 with
  | some v4 => v4Byte v4 0 == 10 || (v4Byte v4 0 == 172 && v4Byte v4 1 / 16 == 1) ||
      (v4Byte v4 0 == 192 && v4Byte v4 1 == 168)
  | none => ip.byte 0 / 2 == 0x7e

/-! ## Reading -/

/-- A decimal number of at most 255 without leading zeros. -/
def isOctet (s : List Char) : Bool :=
  !s.isEmpty && s.all Char.isDigit && (s.length == 1 || s.head? != some '0') && s.length ≤ 3 &&
    decimalValue s ≤ 255

/-- `netip.parseIPv4Fields`. -/
def parseIPv4 (s : List Char) : Option (BitVec 32) :=
  let fields := s.splitOn '.'
  if fields.length = 4 ∧ fields.all isOctet then
    some (BitVec.ofNat 32 (fields.foldl (fun n field => 256 * n + decimalValue field) 0))
  else none

/-- The loop of `netip.parseIPv6`, with the groups so far and how many of them stand before `::`. The
first argument is how many groups are left to fill. -/
def parseGroups : Nat → List Nat → Option Nat → List Char → Option (List Nat × Option Nat)
  | 0, groups, ellipsis, s => if s = [] then some (groups, ellipsis) else none
  | n + 1, groups, ellipsis, s =>
    let digits := s.takeWhile isHexDigit
    if digits = [] ∨ 4 < digits.length then none
    else
      let next := groups ++ [hexValue digits]
      match s.dropWhile isHexDigit with
      | [] => some (next, ellipsis)
      | '.' :: _ =>
        -- the last two groups may be written as an IPv4 address
        if (ellipsis = none ∧ groups.length ≠ 6) ∨ 8 < groups.length + 2 then none
        else
          match parseIPv4 s with
          | some v4 => some (groups ++ [v4.toNat / 2 ^ 16, v4.toNat % 2 ^ 16], ellipsis)
          | none => none
      | ':' :: ':' :: rest =>
        if ellipsis ≠ none then none
        else if rest = [] then some (next, some next.length)
        else parseGroups n next (some next.length) rest
      | ':' :: rest => if rest = [] then none else parseGroups n next ellipsis rest
      | _ => none

/-- The zeros that `::` stands for. -/
def expandGroups (groups : List Nat) : Option Nat → Option (List Nat)
  | none => if groups.length = 8 then some groups else none
  | some i =>
    if groups.length < 8 then
      some (groups.take i ++ List.replicate (8 - groups.length) 0 ++ groups.drop i)
    else none

/-- The address of the groups that were read. -/
def finishGroups (read : Option (List Nat × Option Nat)) : Option IP :=
  (read.bind fun (groups, ellipsis) => expandGroups groups ellipsis).map IP.ofGroups

/-- `netip.parseIPv6` of a text without a zone. -/
def parseIPv6 (s : List Char) : Option IP :=
  match s with
  | ':' :: ':' :: rest =>
    finishGroups (if rest = [] then some ([], some 0) else parseGroups 8 [] (some 0) rest)
  | _ => finishGroups (parseGroups 8 [] none s)

/-- `netip.ParseAddr` of a text without a zone: the address and whether it is written as IPv4. The
first dot or colon decides. -/
def parseAddr (s : List Char) : Option (IP × Bool) :=
  match s.find? ['.', ':', '%'].contains with
  | some '.' => (parseIPv4 s).map fun v4 => (IP.ofV4 v4, true)
  -- an address with a zone is refused by `ParseIP` and `ParseCIDR`
  | some ':' => if '%' ∈ s then none else (parseIPv6 s).map fun ip => (ip, false)
  | _ => none

/-- `net.ParseIP`. -/
def parseIP (s : List Char) : Option IP := (parseAddr s).map Prod.fst

/-! ## Networks -/

/-- An `IPNet` of `ones` bits; the mask of an IPv4 network has 32 bits. -/
structure IPNet where
  ip : IP
  ones : Nat
  v4Mask : Bool
deriving DecidableEq

/-- Two numbers of `bits` bits agree in the first `ones`. -/
def samePrefix (bits ones a b : Nat) : Bool := a / 2 ^ (bits - ones) == b / 2 ^ (bits - ones)

/-- `IPNet.Contains`. A network that is itself IPv4-mapped is compared in its last four bytes. -/
def IPNet.contains (net : IPNet) (ip : IP) : Bool :=
  match net.ip.to4, ip.to4 with
  | some n4, some v4 => samePrefix 32 (if net.v4Mask then net.ones else net.ones - 96) n4.toNat v4.toNat
  | none, none => !net.v4Mask && samePrefix 128 net.ones net.ip.toNat ip.toNat
  | _, _ => false

/-- `net.ParseCIDR`, the network. -/
def parseCIDR (s : List Char) : Option IPNet :=
  match s.span (· ≠ '/') with
  | (addr, '/' :: mask) =>
    match parseAddr addr with
    | some (ip, v4) =>
      if mask = [] ∨ ¬ mask.all Char.isDigit ∨ (if v4 then 32 else 128) < decimalValue mask then none
      else
        let host := (if v4 then 32 else 128) - decimalValue mask
        some ⟨BitVec.ofNat 128 (ip.toNat / 2 ^ host * 2 ^ host), decimalValue mask, v4⟩
    | none => none
  | _ => none

/-! ## Writing -/

/-- The digits of `netip`. -/
def digitChar (n : Nat) : Char :=
  ['0', '1', '2', '3', '4', '5', '6', '7', '8', '9', 'a', 'b', 'c', 'd', 'e', 'f'].getD n '0'

/-- `netip.appendDecimal`. -/
def decimalDigits (n : Nat) : List Char :=
  (if 100 ≤ n then [digitChar (n / 100)] else []) ++
    (if 10 ≤ n then [digitChar (n / 10 % 10)] else []) ++ [digitChar (n % 10)]

/-- `netip.appendHex`. -/
def hexDigits (n : Nat) : List Char :=
  (if 0x1000 ≤ n then [digitChar (n / 2 ^ 12)] else []) ++
    (if 0x100 ≤ n then [digitChar (n / 2 ^ 8 % 16)] else []) ++
      (if 0x10 ≤ n then [digitChar (n / 2 ^ 4 % 16)] else []) ++ [digitChar (n % 16)]

/-- `Addr.String` of an IPv4 address. -/
def v4String (v4 : BitVec 32) : List Char :=
  ['.'].intercalate ([v4.toNat / 2 ^ 24, v4.toNat / 2 ^ 16 % 256, v4.toNat / 2 ^ 8 % 256,
    v4.toNat % 256].map decimalDigits)

/-- How many zeros a list starts with. -/
def zeroRun (groups : List Nat) : Nat := (groups.takeWhile (· == 0)).length

/-- The first longest run of at least two zeros: where it starts and how long it is. -/
def longestZeroRun (groups : List Nat) : Option (Nat × Nat) :=
  (List.range 8).foldl (fun best i =>
    let length := zeroRun (groups.drop i)
    match best with
    | none => if 2 ≤ length then some (i, length) else none
    | some (_, longest) => if longest < length then some (i, length) else best) none

def joinGroups (groups : List Nat) : List Char := [':'].intercalate (groups.map hexDigits)

/-- `IP.String`. -/
def IP.string (ip : IP) : List Char :=
  match ip.to4 with
  | some v4 => v4String v4
  | none =>
    match longestZeroRun ip.groups with
    | none => joinGroups ip.groups
    | some (start, length) =>
      joinGroups (ip.groups.take start) ++ [':', ':'] ++ joinGroups (ip.groups.drop (start + length))

/-! ## What is written is read back -/

variable {c sep : Char} {s : List Char} {ip : IP}

lemma hexDigitValue_digitChar : ∀ n < 16, isHexDigit (digitChar n) = true ∧
    hexDigitValue (digitChar n) = n := by decide

lemma isHexDigit_ne (h : isHexDigit c = true) : c ≠ ':' ∧ c ≠ '.' ∧ c ≠ '%' := by
  refine ⟨?_, ?_, ?_⟩
  all_goals
    rintro rfl
    exact absurd h (by decide)

/-- A group is written with one to four hexadecimal digits of its value. -/
lemma hexDigits_spec {n : Nat} (h : n < 2 ^ 16) : (∀ c ∈ hexDigits n, isHexDigit c = true) ∧
    hexDigits n ≠ [] ∧ (hexDigits n).length ≤ 4 ∧ hexValue (hexDigits n) = n := by
  obtain ⟨h₃, v₃⟩ := hexDigitValue_digitChar (n / 2 ^ 12) (by omega)
  obtain ⟨h₂, v₂⟩ := hexDigitValue_digitChar (n / 2 ^ 8 % 16) (by omega)
  obtain ⟨h₁, v₁⟩ := hexDigitValue_digitChar (n / 2 ^ 4 % 16) (by omega)
  obtain ⟨h₀, v₀⟩ := hexDigitValue_digitChar (n % 16) (by omega)
  unfold hexDigits hexValue
  split_ifs
  all_goals
    refine ⟨?_, by simp, by simp, ?_⟩
    · simp only [nil_append, cons_append, forall_mem_cons, h₀, h₁, h₂, h₃, true_and,
        not_mem_nil, false_implies, implies_true]
    · simp only [nil_append, cons_append, foldl_cons, foldl_nil, v₀, v₁, v₂, v₃]
      omega

lemma decimalDigits_spec : ∀ n < 256, isOctet (decimalDigits n) = true ∧
    decimalValue (decimalDigits n) = n ∧ (decimalDigits n).all Char.isDigit = true := by
  decide +kernel

/-- The first dot, colon or percent sign of a text without the other two. -/
lemma find?_separator (hsep : sep ∈ ['.', ':', '%'])
    (hmem : sep ∈ s) (hall : ∀ c ∈ s, c ∈ ['.', ':', '%'] → c = sep) :
    s.find? ['.', ':', '%'].contains = some sep := by
  cases hfind : s.find? ['.', ':', '%'].contains with
  | none =>
    rw [List.find?_eq_none] at hfind
    exact absurd (contains_iff_mem.mpr hsep) (hfind sep hmem)
  | some c =>
    have hc : ['.', ':', '%'].contains c = true := List.find?_some hfind
    rw [hall c (mem_of_find?_eq_some hfind) (contains_iff_mem.mp hc)]

lemma parseIPv4_v4String (v4 : BitVec 32) : parseIPv4 (v4String v4) = some v4 := by
  obtain ⟨o₀, w₀, -⟩ := decimalDigits_spec (v4.toNat / 2 ^ 24) (by omega)
  obtain ⟨o₁, w₁, -⟩ := decimalDigits_spec (v4.toNat / 2 ^ 16 % 256) (by omega)
  obtain ⟨o₂, w₂, -⟩ := decimalDigits_spec (v4.toNat / 2 ^ 8 % 256) (by omega)
  obtain ⟨o₃, w₃, -⟩ := decimalDigits_spec (v4.toNat % 256) (by omega)
  have hsplit : (v4String v4).splitOn '.' = [v4.toNat / 2 ^ 24, v4.toNat / 2 ^ 16 % 256,
      v4.toNat / 2 ^ 8 % 256, v4.toNat % 256].map decimalDigits := by
    apply splitOn_intercalate
    · intro l hl
      rw [mem_map] at hl
      obtain ⟨n, hn, rfl⟩ := hl
      have hsmall : n < 256 := by
        simp only [mem_cons, not_mem_nil, or_false] at hn
        omega
      intro hdot
      have hdigit := all_eq_true.mp (decimalDigits_spec n hsmall).2.2 '.' hdot
      exact absurd hdigit (by decide)
    · exact cons_ne_nil _ _
  unfold parseIPv4
  rw [hsplit]
  simp only [map_cons, map_nil, length_cons, length_nil, all_cons,
    all_nil, o₀, o₁, o₂, o₃, foldl_cons, foldl_nil, w₀, w₁, w₂, w₃]
  rw [if_pos (by decide), Option.some.injEq]
  apply BitVec.eq_of_toNat_eq
  rw [BitVec.toNat_ofNat]
  omega

/-- The characters of joined texts. -/
lemma mem_intercalate {ls : List (List Char)} (h : c ∈ [sep].intercalate ls) :
    c = sep ∨ ∃ l ∈ ls, c ∈ l := by
  induction ls with
  | nil => cases h
  | cons l ls ih =>
    cases ls with
    | nil =>
      rw [intercalate_singleton] at h
      exact .inr ⟨l, mem_cons_self, h⟩
    | cons k ks =>
      rw [intercalate_cons_cons, mem_append, mem_append, mem_singleton] at h
      rcases h with (h | rfl) | h
      · exact .inr ⟨l, mem_cons_self, h⟩
      · exact .inl rfl
      refine (ih h).imp_right ?_
      rintro ⟨m, hm, hc⟩
      exact ⟨m, mem_cons_of_mem _ hm, hc⟩

lemma exists_mem_splitOn (hc : c ∈ s) (hsep : c ≠ sep) : ∃ l ∈ s.splitOn sep, c ∈ l := by
  have hjoin : [sep].intercalate (s.splitOn sep) = s := intercalate_splitOn sep
  rw [← hjoin] at hc
  exact (mem_intercalate hc).resolve_left hsep

lemma mem_intercalate_self {l k : List Char} {ls : List (List Char)} :
    sep ∈ [sep].intercalate (l :: k :: ls) := by
  rw [intercalate_cons_cons]
  exact mem_append_left _ (mem_append_right _ mem_cons_self)

lemma parseAddr_v4String (v4 : BitVec 32) : parseAddr (v4String v4) = some (IP.ofV4 v4, true) := by
  have hfind : (v4String v4).find? ['.', ':', '%'].contains = some '.' := by
    apply find?_separator (by decide)
    · exact mem_intercalate_self
    · intro c hc hsep
      rcases mem_intercalate hc with heq | ⟨l, hl, hcl⟩
      · exact heq
      rw [mem_map] at hl
      obtain ⟨n, hn, rfl⟩ := hl
      have hsmall : n < 256 := by
        simp only [mem_cons, not_mem_nil, or_false] at hn
        omega
      have hdigit := all_eq_true.mp (decimalDigits_spec n hsmall).2.2 c hcl
      simp only [mem_cons, not_mem_nil, or_false] at hsep
      rcases hsep with rfl | rfl | rfl
      · rfl
      · exact absurd hdigit (by decide)
      · exact absurd hdigit (by decide)
  unfold parseAddr
  rw [hfind, parseIPv4_v4String]
  rfl

/-! ### Groups -/

section
variable {n g : Nat} {groups : List Nat} {ellipsis : Option Nat} {l : List Nat} {start length : Nat}

section
variable (hg : g < 2 ^ 16)
include hg

lemma span_hexDigits (rest : List Char)
    (hrest : ∀ c ∈ rest.head?, isHexDigit c = false) :
    (hexDigits g ++ rest).takeWhile isHexDigit = hexDigits g ∧
      (hexDigits g ++ rest).dropWhile isHexDigit = rest := by
  have hall := (hexDigits_spec hg).1
  rw [takeWhile_append_of_pos hall, dropWhile_append_of_pos hall]
  cases rest with
  | nil => exact ⟨append_nil _, rfl⟩
  | cons c rest =>
    have hc := hrest c rfl
    rw [takeWhile_cons, dropWhile_cons, hc]
    exact ⟨append_nil _, rfl⟩

lemma hexDigits_length : ¬ (hexDigits g = [] ∨ 4 < (hexDigits g).length) := by
  obtain ⟨-, hne, hlength, -⟩ := hexDigits_spec hg
  rintro (h | h)
  · exact hne h
  · omega

lemma parseGroups_last :
    parseGroups (n + 1) groups ellipsis (hexDigits g) = some (groups ++ [g], ellipsis) := by
  obtain ⟨htake, hdrop⟩ := span_hexDigits hg [] nofun
  rw [append_nil] at htake hdrop
  rw [parseGroups]
  rw [htake, hdrop, if_neg (hexDigits_length hg), (hexDigits_spec hg).2.2.2]

lemma parseGroups_colon (hc : c ≠ ':') (rest : List Char) :
    parseGroups (n + 1) groups ellipsis (hexDigits g ++ ':' :: c :: rest)
      = parseGroups n (groups ++ [g]) ellipsis (c :: rest) := by
  obtain ⟨htake, hdrop⟩ := span_hexDigits hg (':' :: c :: rest) (by rintro _ ⟨⟩; decide)
  rw [parseGroups]
  rw [htake, hdrop, if_neg (hexDigits_length hg), (hexDigits_spec hg).2.2.2]
  split
  · next heq => cases heq
  · next heq => cases heq
  · next heq =>
    cases heq
    exact absurd rfl hc
  · next heq =>
    cases heq
    rw [if_neg (cons_ne_nil _ _)]
  · next hcolon => exact absurd rfl (hcolon (c :: rest))

lemma parseGroups_ellipsis (rest : List Char) :
    parseGroups (n + 1) groups none (hexDigits g ++ ':' :: ':' :: rest)
      = if rest = [] then some (groups ++ [g], some (groups.length + 1))
        else parseGroups n (groups ++ [g]) (some (groups.length + 1)) rest := by
  obtain ⟨htake, hdrop⟩ := span_hexDigits hg (':' :: ':' :: rest) (by rintro _ ⟨⟩; decide)
  rw [parseGroups]
  rw [htake, hdrop, if_neg (hexDigits_length hg), (hexDigits_spec hg).2.2.2]
  show (if (none : Option Nat) ≠ none then none
    else if rest = [] then some (groups ++ [g], some (groups ++ [g]).length)
    else parseGroups n (groups ++ [g]) (some (groups ++ [g]).length) rest) = _
  rw [if_neg fun h => h rfl, length_append, length_singleton]

end

/-- A written list of groups starts with a digit. -/
lemma joinGroups_eq_cons (hne : l ≠ []) (hl : ∀ g ∈ l, g < 2 ^ 16) :
    ∃ c cs, joinGroups l = c :: cs ∧ isHexDigit c = true := by
  obtain ⟨g, gs, rfl⟩ := exists_cons_of_ne_nil hne
  obtain ⟨hall, hdigits, -⟩ := hexDigits_spec (hl g mem_cons_self)
  obtain ⟨c, cs, hcs⟩ := exists_cons_of_ne_nil hdigits
  have hc : isHexDigit c = true := hall c (by rw [hcs]; exact mem_cons_self)
  cases gs with
  | nil => exact ⟨c, cs, by simp [joinGroups, hcs], hc⟩
  | cons k ks =>
    refine ⟨c, cs ++ [':'] ++ joinGroups (k :: ks), ?_, hc⟩
    rw [joinGroups, map_cons, map_cons, intercalate_cons_cons, hcs]
    simp [joinGroups]

lemma joinGroups_cons_cons (g k : Nat) (ks : List Nat) :
    joinGroups (g :: k :: ks) = hexDigits g ++ ':' :: joinGroups (k :: ks) := by
  rw [joinGroups, map_cons, map_cons, intercalate_cons_cons]
  simp [joinGroups]

section
variable (gs : List Nat) (hne : gs ≠ []) (hl : ∀ g ∈ gs, g < 2 ^ 16)
include hl

/-- The loop on groups with single colons between them comes to the last of them. -/
lemma parseGroups_join_append (rest : List Char) :
    parseGroups (gs.length + n) groups ellipsis (joinGroups gs ++ rest)
      = parseGroups (n + 1) (groups ++ gs.dropLast) ellipsis
          (hexDigits (gs.getLast hne) ++ rest) := by
  induction gs generalizing groups with
  | nil => exact absurd rfl hne
  | cons g gs ih =>
    cases gs with
    | nil => simp [joinGroups, Nat.add_comm]
    | cons k ks =>
      have hks : ∀ g ∈ k :: ks, g < 2 ^ 16 := fun g hg => hl g (mem_cons_of_mem _ hg)
      obtain ⟨c, cs, hcs, hc⟩ := joinGroups_eq_cons (cons_ne_nil k ks) hks
      have hlength : (g :: k :: ks).length + n = (k :: ks).length + n + 1 := by
        simp only [length_cons]
        omega
      have hih := @ih (groups ++ [g]) (cons_ne_nil _ _) hks
      rw [hcs, cons_append] at hih
      rw [joinGroups_cons_cons, hcs, append_assoc, cons_append, cons_append, hlength,
        parseGroups_colon (hl g mem_cons_self) (isHexDigit_ne hc).1, hih]
      simp

include hne

lemma parseGroups_join :
    parseGroups (gs.length + n) groups ellipsis (joinGroups gs) = some (groups ++ gs, ellipsis) := by
  rw [← append_nil (joinGroups gs), parseGroups_join_append gs hne hl, append_nil,
    parseGroups_last (hl _ (getLast_mem hne)), append_assoc, dropLast_concat_getLast]

lemma parseGroups_join_ellipsis (rest : List Char) :
    parseGroups (gs.length + n) groups none (joinGroups gs ++ ':' :: ':' :: rest)
      = if rest = [] then some (groups ++ gs, some (groups.length + gs.length))
        else parseGroups n (groups ++ gs) (some (groups.length + gs.length)) rest := by
  have hpos := length_pos_iff.mpr hne
  have hlength : (groups ++ gs.dropLast).length + 1 = groups.length + gs.length := by
    rw [length_append, length_dropLast]
    omega
  rw [parseGroups_join_append gs hne hl, parseGroups_ellipsis (hl _ (getLast_mem hne)), hlength,
    append_assoc, dropLast_concat_getLast]

end

/-! ### The longest run of zeros -/

lemma take_zeroRun (l : List Nat) : l.take (zeroRun l) = List.replicate (zeroRun l) 0 := by
  induction l with
  | nil => rfl
  | cons g gs ih =>
    by_cases hg : g = 0
    · have hrun : zeroRun (g :: gs) = zeroRun gs + 1 := by
        simp [zeroRun, hg]
      rw [hrun, take_succ_cons, ih, replicate_succ, hg]
    have hrun : zeroRun (g :: gs) = 0 := by
      simp [zeroRun, hg]
    rw [hrun, take_zero, replicate_zero]

lemma zeroRun_le_length (l : List Nat) : zeroRun l ≤ l.length := (takeWhile_sublist _).length_le

/-- The run that is found is a run of at least two zeros. -/
lemma longestZeroRun_spec
    (h : longestZeroRun l = some (start, length)) : 2 ≤ length ∧ length = zeroRun (l.drop start) := by
  have hfold : ∀ (is : List Nat) (best : Option (Nat × Nat)),
      (∀ i k, best = some (i, k) → 2 ≤ k ∧ k = zeroRun (l.drop i)) →
      ∀ i k, is.foldl (fun best i =>
        let length := zeroRun (l.drop i)
        match best with
        | none => if 2 ≤ length then some (i, length) else none
        | some (_, longest) => if longest < length then some (i, length) else best) best
          = some (i, k) → 2 ≤ k ∧ k = zeroRun (l.drop i) := by
    intro is
    induction is with
    | nil => exact fun best hbest => hbest
    | cons j js ih =>
      intro best hbest
      rw [foldl_cons]
      apply ih
      intro i k
      dsimp only
      split
      · split_ifs with htwo
        · rintro ⟨⟩
          exact ⟨htwo, rfl⟩
        · nofun
      rename_i m longest
      split_ifs with hlonger
      · rintro ⟨⟩
        exact ⟨Nat.le_trans (hbest m longest rfl).1 (Nat.le_of_lt hlonger), rfl⟩
      · exact hbest i k
  exact hfold (List.range 8) none nofun start length h

/-- A list is the part before a run of zeros, the zeros and the part after it. -/
lemma split_zeroRun (hlength : length = zeroRun (l.drop start)) :
    l.take start ++ List.replicate length 0 ++ l.drop (start + length) = l := by
  have hzeros := take_zeroRun (l.drop start)
  rw [← hlength] at hzeros
  rw [← hzeros, append_assoc, ← drop_drop, take_append_drop, take_append_drop]

/-! ### Addresses -/

lemma groups_lt (ip : IP) : ∀ g ∈ ip.groups, g < 2 ^ 16 := by
  intro g hg
  obtain ⟨i, -, rfl⟩ := mem_map.mp hg
  exact Nat.mod_lt _ (by decide)

lemma length_groups (ip : IP) : ip.groups.length = 8 := by
  rw [IP.groups, length_map, length_range]

lemma ofGroups_groups (ip : IP) : IP.ofGroups ip.groups = ip := by
  apply BitVec.eq_of_toNat_eq
  simp only [IP.ofGroups, IP.groups, List.range, List.range.loop, map_cons, map_nil,
    foldl_cons, foldl_nil, BitVec.toNat_ofNat]
  omega

/-- The zeros are written as `::` and come back. -/
lemma expandGroups_split (hl : l.length = 8)
    (htwo : 2 ≤ length) (hlength : length = zeroRun (l.drop start)) :
    expandGroups (l.take start ++ l.drop (start + length)) (some (l.take start).length) = some l := by
  have hle := zeroRun_le_length (l.drop start)
  rw [← hlength, length_drop, hl] at hle
  have htake : (l.take start).length = start := by
    rw [length_take, hl]
    omega
  have hall : (l.take start ++ l.drop (start + length)).length = 8 - length := by
    rw [length_append, htake, length_drop, hl]
    omega
  unfold expandGroups
  dsimp only
  rw [hall, if_pos (by omega), take_left, drop_left,
    show 8 - (8 - length) = length by omega, split_zeroRun hlength]

/-- The characters of an IPv6 address. -/
lemma mem_joinGroups (hl : ∀ g ∈ l, g < 2 ^ 16) (hc : c ∈ joinGroups l) :
    c = ':' ∨ isHexDigit c = true := by
  refine (mem_intercalate hc).imp_right ?_
  rintro ⟨_, hmem, hcl⟩
  obtain ⟨g, hg, rfl⟩ := mem_map.mp hmem
  exact (hexDigits_spec (hl g hg)).1 c hcl

lemma parseAddr_of_colon (hcolon : ':' ∈ s) (hall : ∀ c ∈ s, c = ':' ∨ isHexDigit c = true) :
    parseAddr s = (parseIPv6 s).map fun ip => (ip, false) := by
  have hfind : s.find? ['.', ':', '%'].contains = some ':' := by
    apply find?_separator (by decide) hcolon
    intro c hc hsep
    rcases hall c hc with heq | hhex
    · exact heq
    simp only [mem_cons, not_mem_nil, or_false] at hsep
    rcases hsep with rfl | rfl | rfl
    · exact absurd rfl (isHexDigit_ne hhex).2.1
    · rfl
    · exact absurd rfl (isHexDigit_ne hhex).2.2
  have hzone : '%' ∉ s := by
    intro hmem
    rcases hall '%' hmem with heq | hhex
    · exact absurd heq (by decide)
    · exact absurd rfl (isHexDigit_ne hhex).2.2
  unfold parseAddr
  rw [hfind]
  exact if_neg hzone

/-- Without `::` in front the loop starts with the first group. -/
lemma parseIPv6_of_digit (hc : isHexDigit c = true) (s : List Char) :
    parseIPv6 (c :: s) = finishGroups (parseGroups 8 [] none (c :: s)) := by
  unfold parseIPv6
  split
  · next heq =>
    cases heq
    exact absurd rfl (isHexDigit_ne hc).1
  · rfl

lemma finishGroups_eq (h : expandGroups groups ellipsis = some ip.groups) :
    finishGroups (some (groups, ellipsis)) = some ip := by
  show (expandGroups groups ellipsis).map IP.ofGroups = some ip
  rw [h, Option.map_some, ofGroups_groups]

lemma parseIPv6_string (hv6 : ip.to4 = none) : parseIPv6 ip.string = some ip := by
  have hlt := groups_lt ip
  have hlen := length_groups ip
  have hnil : ip.groups ≠ [] := by
    intro h
    rw [h] at hlen
    cases hlen
  unfold IP.string
  rw [hv6]
  dsimp only
  split
  · obtain ⟨c, cs, hcs, hc⟩ := joinGroups_eq_cons hnil hlt
    have hloop := @parseGroups_join 0 [] none ip.groups hnil hlt
    rw [hlen] at hloop
    rw [hcs, parseIPv6_of_digit hc, ← hcs, hloop]
    apply finishGroups_eq
    show (if ip.groups.length = 8 then some ip.groups else none) = _
    rw [if_pos hlen]
  rename_i start length hrun
  obtain ⟨htwo, hlength⟩ := longestZeroRun_spec hrun
  have hexpand := expandGroups_split hlen htwo hlength
  have hle := zeroRun_le_length (ip.groups.drop start)
  rw [← hlength, length_drop, hlen] at hle
  have hhead : ∀ g ∈ ip.groups.take start, g < 2 ^ 16 := fun g hg => hlt g (mem_of_mem_take hg)
  have htail : ∀ g ∈ ip.groups.drop (start + length), g < 2 ^ 16 :=
    fun g hg => hlt g (mem_of_mem_drop hg)
  by_cases hstart : ip.groups.take start = []
  · -- the text starts with `::`
    rw [hstart, nil_append, length_nil] at hexpand
    rw [hstart]
    show finishGroups (if joinGroups (ip.groups.drop (start + length)) = []
      then some ([], some 0) else parseGroups 8 [] (some 0) (joinGroups _)) = some ip
    by_cases hend : ip.groups.drop (start + length) = []
    · rw [hend] at hexpand ⊢
      rw [if_pos (show joinGroups [] = [] from rfl), finishGroups_eq hexpand]
    obtain ⟨c, cs, hcs, -⟩ := joinGroups_eq_cons hend htail
    have hlt' : (ip.groups.drop (start + length)).length + (start + length) = 8 := by
      rw [length_drop, hlen]
      omega
    have hloop := @parseGroups_join (start + length) [] (some 0) _ hend htail
    rw [hlt', nil_append] at hloop
    rw [if_neg (by rw [hcs]; exact cons_ne_nil _ _), hloop, finishGroups_eq hexpand]
  · obtain ⟨c, cs, hcs, hc⟩ := joinGroups_eq_cons hstart hhead
    have htake : (ip.groups.take start).length + (8 - start) = 8 := by
      rw [length_take, hlen]
      omega
    have hloop := @parseGroups_join_ellipsis (8 - start) [] _ hstart hhead
      (joinGroups (ip.groups.drop (start + length)))
    rw [htake, nil_append, length_nil, Nat.zero_add] at hloop
    rw [hcs, append_assoc, cons_append, parseIPv6_of_digit hc, ← cons_append, ← hcs]
    show finishGroups (parseGroups 8 [] none (joinGroups (ip.groups.take start) ++
      ':' :: ':' :: joinGroups (ip.groups.drop (start + length)))) = some ip
    rw [hloop]
    by_cases hend : ip.groups.drop (start + length) = []
    · rw [hend, append_nil] at hexpand
      rw [hend, if_pos (show joinGroups [] = [] from rfl), finishGroups_eq hexpand]
    obtain ⟨k, ks, hks, -⟩ := joinGroups_eq_cons hend htail
    have hlt' : (ip.groups.drop (start + length)).length + length = 8 - start := by
      rw [length_drop, hlen]
      omega
    have hrest := @parseGroups_join length (ip.groups.take start)
      (some (ip.groups.take start).length) _ hend htail
    rw [hlt'] at hrest
    rw [if_neg (by rw [hks]; exact cons_ne_nil _ _), hrest, finishGroups_eq hexpand]

end

lemma mem_string (hv6 : ip.to4 = none) :
    ':' ∈ ip.string ∧ ∀ c ∈ ip.string, c = ':' ∨ isHexDigit c = true := by
  have hlt := groups_lt ip
  have hlen := length_groups ip
  unfold IP.string
  rw [hv6]
  dsimp only
  split
  · refine ⟨?_, fun c => mem_joinGroups hlt⟩
    match hgroups : ip.groups with
    | [] => rw [hgroups] at hlen; cases hlen
    | [g] => rw [hgroups] at hlen; cases hlen
    | g :: k :: ks => exact mem_intercalate_self
  refine ⟨by simp, ?_⟩
  intro c hc
  rw [mem_append, mem_append] at hc
  rcases hc with (hhead | hcolon) | htail
  · exact mem_joinGroups (fun g hg => hlt g (mem_of_mem_take hg)) hhead
  · simp only [mem_cons, not_mem_nil, or_false, or_self] at hcolon
    exact .inl hcolon
  · exact mem_joinGroups (fun g hg => hlt g (mem_of_mem_drop hg)) htail

lemma IP.ofV4_of_to4 {v4 : BitVec 32} (h : ip.to4 = some v4) : IP.ofV4 v4 = ip := by
  unfold IP.to4 at h
  split_ifs at h with hmapped
  cases h
  apply BitVec.eq_of_toNat_eq
  simp only [IP.ofV4, BitVec.toNat_ofNat]
  omega

/-- **Round trip.** `ParseIP` reads what `String` writes. -/
theorem parseIP_string (ip : IP) : parseIP ip.string = some ip := by
  cases hv4 : ip.to4 with
  | some v4 =>
    have hstring : ip.string = v4String v4 := by
      unfold IP.string
      rw [hv4]
    rw [parseIP, hstring, parseAddr_v4String, Option.map_some, IP.ofV4_of_to4 hv4]
  | none =>
    obtain ⟨hcolon, hall⟩ := mem_string hv4
    rw [parseIP, parseAddr_of_colon hcolon hall, parseIPv6_string hv4]
    rfl

/-! ## Characters -/

/-- The characters that an address may have. -/
def isAddrChar (c : Char) : Bool := isHexDigit c || c == '.' || c == ':'

lemma isAddrChar_of_isHexDigit (h : isHexDigit c = true) : isAddrChar c = true := by
  rw [isAddrChar, h, Bool.true_or, Bool.true_or]

lemma isAddrChar_of_parseIPv4 {v4 : BitVec 32} (h : parseIPv4 s = some v4) :
    ∀ c ∈ s, isAddrChar c = true := by
  intro c hc
  by_cases hdot : c = '.'
  · rw [hdot]
    rfl
  unfold parseIPv4 at h
  dsimp only at h
  split_ifs at h with hfields
  obtain ⟨l, hl, hcl⟩ := exists_mem_splitOn hc hdot
  have hoctet := all_eq_true.mp hfields.2 l hl
  simp only [isOctet, Bool.and_eq_true, all_eq_true] at hoctet
  rw [isAddrChar, isHexDigit, hoctet.1.1.1.2 c hcl]
  rfl

lemma isAddrChar_of_parseGroups {n : Nat} {groups : List Nat} {ellipsis : Option Nat}
    {r : List Nat × Option Nat} (h : parseGroups n groups ellipsis s = some r) :
    ∀ c ∈ s, isAddrChar c = true := by
  induction n generalizing groups ellipsis s with
  | zero =>
    rw [parseGroups] at h
    split_ifs at h with hs
    rw [hs]
    exact nofun
  | succ n ih =>
    -- the digits, and what comes after them
    have hdigits : ∀ c ∈ s.takeWhile isHexDigit, isAddrChar c = true :=
      fun c hc => isAddrChar_of_isHexDigit (mem_takeWhile_imp hc)
    have hsplit : (∀ c ∈ s.dropWhile isHexDigit, isAddrChar c = true) →
        ∀ c ∈ s, isAddrChar c = true := by
      intro hrest c hc
      rw [← takeWhile_append_dropWhile (p := isHexDigit) (l := s), mem_append] at hc
      rcases hc with hc | hc
      · exact hdigits c hc
      · exact hrest c hc
    rw [parseGroups] at h
    replace h := (Option.ite_none_left_eq_some.mp h).2
    split at h
    · next hrest =>
      apply hsplit
      rw [hrest]
      exact nofun
    · split_ifs at h
      split at h
      · next hv4 => exact isAddrChar_of_parseIPv4 hv4
      · cases h
    · next rest hrest =>
      apply hsplit
      rw [hrest]
      split_ifs at h with _ hnil
      · rw [hnil]
        exact all_eq_true.mp rfl
      have hall := ih h
      intro c hc
      rcases mem_cons.mp hc with rfl | hc
      · rfl
      rcases mem_cons.mp hc with rfl | hc
      · rfl
      · exact hall c hc
    · next rest _ hrest =>
      apply hsplit
      rw [hrest]
      split_ifs at h
      have hall := ih h
      intro c hc
      rcases mem_cons.mp hc with rfl | hc
      · rfl
      · exact hall c hc
    · cases h

lemma isAddrChar_of_parseIP (h : parseIP s = some ip) : ∀ c ∈ s, isAddrChar c = true := by
  unfold parseIP at h
  obtain ⟨r, hr, -⟩ := Option.map_eq_some_iff.mp h
  unfold parseAddr at hr
  split at hr
  · obtain ⟨v4, hv4, -⟩ := Option.map_eq_some_iff.mp hr
    exact isAddrChar_of_parseIPv4 hv4
  · split_ifs at hr
    obtain ⟨ip', hv6, -⟩ := Option.map_eq_some_iff.mp hr
    unfold parseIPv6 finishGroups at hv6
    split at hv6
    · next rest =>
      obtain ⟨_, hread, -⟩ := Option.map_eq_some_iff.mp hv6
      obtain ⟨_, hread, -⟩ := Option.bind_eq_some_iff.mp hread
      split_ifs at hread with hnil
      · rw [hnil]
        exact all_eq_true.mp rfl
      have hall := isAddrChar_of_parseGroups hread
      intro c hc
      rcases mem_cons.mp hc with rfl | hc
      · rfl
      rcases mem_cons.mp hc with rfl | hc
      · rfl
      · exact hall c hc
    · obtain ⟨_, hread, -⟩ := Option.map_eq_some_iff.mp hv6
      obtain ⟨_, hread, -⟩ := Option.bind_eq_some_iff.mp hread
      exact isAddrChar_of_parseGroups hread
  · cases hr

/-! ## Joined hosts and ports -/

lemma cutLastColon_append (host : List Char) {port : List Char} (hport : ':' ∉ port) :
    cutLastColon (host ++ ':' :: port) = some (host, port) := by
  have hreverse : (host ++ ':' :: port).reverse = port.reverse ++ ':' :: host.reverse := by simp
  have hall : ∀ c ∈ port.reverse, decide (c ≠ ':') = true := by
    intro c hc
    rw [decide_eq_true_eq]
    rintro rfl
    exact hport (mem_reverse.mp hc)
  have htake : (port.reverse ++ ':' :: host.reverse).takeWhile (fun c => decide (c ≠ ':'))
      = port.reverse := by
    rw [takeWhile_append_of_pos hall, takeWhile_cons]
    simp
  have hdrop : (port.reverse ++ ':' :: host.reverse).dropWhile (fun c => decide (c ≠ ':'))
      = ':' :: host.reverse := by
    rw [dropWhile_append_of_pos hall, dropWhile_cons]
    simp
  rw [cutLastColon, hreverse, span_eq_takeWhile_dropWhile, htake, hdrop]
  simp

/-- `SplitHostPort` reads what `JoinHostPort` writes, for a host and a port without separators. -/
lemma splitHostPort_join {host port : List Char} (hopen : '[' ∉ host) (hclose : ']' ∉ host)
    (hport : ':' ∉ port ∧ '[' ∉ port ∧ ']' ∉ port) :
    splitHostPort (joinHostPort host port) = some (host, port) := by
  unfold joinHostPort
  split_ifs with hcolon
  · -- the address is put in brackets
    have hcut : cutLastColon ('[' :: host ++ ']' :: ':' :: port)
        = some ('[' :: host ++ [']'], port) := by
      have := cutLastColon_append ('[' :: host ++ [']']) hport.1
      simpa using this
    have hinside : (host ++ ']' :: ':' :: port).takeWhile (fun c => decide (c ≠ ']')) = host := by
      rw [takeWhile_append_of_pos]
      · simp
      · intro c hc
        rw [decide_eq_true_eq]
        rintro rfl
        exact hclose hc
    rw [cons_append] at hcut ⊢
    rw [splitHostPort, hcut]
    simp only [hinside]
    rw [if_pos ⟨trivial, by simp [hopen, hport.2.1], hport.2.2⟩]
  · have hcut := cutLastColon_append host hport.1
    unfold splitHostPort
    rw [hcut]
    have hbrackets : ¬ (':' ∈ host ∨ '[' ∈ host ++ ':' :: port ∨ ']' ∈ host ++ ':' :: port) := by
      simp [hcolon, hopen, hclose, hport.2.1, hport.2.2]
    dsimp only
    split
    · next heq =>
      have hmem : '[' ∈ host ++ ':' :: port := by
        rw [heq]
        exact mem_cons_self
      exact absurd (.inr (.inl hmem)) hbrackets
    · rw [if_neg hbrackets]

end NewApi
