import NewApi.Utils.NetAddr
import NewApi.Utils.TrimSpace

/-!
# Host names

`tenant/host.go` and `ValidSlug` of `tenant/slug.go`. Lower case and the ASCII form of an
international name (`idna.Lookup.ToASCII`) are parameters.
-/

namespace NewApi.Tenant

open List

/-! ## Rows -/

def maxHostsPerWorkspace : Nat := 20

structure WildcardDomain where
  id : Nat
  domain : String
  enabled : Bool
deriving DecidableEq

inductive HostKind
  | wildcard
  | custom
deriving DecidableEq

inductive HostStatus
  | pending
  | verified
deriving DecidableEq

inductive VerifyMethod
  | txt
  | cname
deriving DecidableEq

/-- A host that is bound to a workspace. `label` is the column `prefix`; a wildcard host has no
verification method and no token. -/
structure Host where
  id : Nat
  tenantID : Nat
  kind : HostKind
  host : String
  label : String
  wildcardDomainID : Option Nat
  status : HostStatus
  verificationMethod : Option VerifyMethod
  verificationToken : String
deriving DecidableEq

/-! ## Texts -/

/-- `strings.ToLower` and `idna.Lookup.ToASCII`. -/
structure HostText where
  toLower : String → String
  toASCII : String → Option String

def isLabelChar (c : Char) : Bool :=
  ('a' ≤ c && c ≤ 'z') || ('0' ≤ c && c ≤ '9') || c == '-'

/-- The characters of a host name in its normal form. -/
def isHostChar (c : Char) : Bool := isLabelChar c || c == '.'

def validLabel (label : List Char) : Bool :=
  !label.isEmpty && label.head? != some '-' && label.getLast? != some '-' && label.all isLabelChar

/-- A text in lower case and ASCII is left as it is, and so is a name of valid labels. -/
structure HostText.Documented (text : HostText) : Prop where
  toLower_eq : ∀ s : String, (∀ c ∈ s.toList, isHostChar c = true) → text.toLower s = s
  toASCII_eq : ∀ s a : String, (s.toList.splitOn '.').all validLabel = true →
    text.toASCII s = some a → a = s

/-! ## `NormalizeHost` -/

/-- The text without a port. -/
def withoutPort (s : List Char) : List Char :=
  match splitHostPort s with
  | some (host, port) => if port = [] then s else host
  | none => s

def withoutDot (s : List Char) : List Char := if s.getLast? = some '.' then s.dropLast else s

def normalizeHost (text : HostText) (value : String) : Option String :=
  let value := (trimSpace (text.toLower value)).toList
  if value = [] ∨ value.tails.any [':', '/', '/'].isPrefixOf then none
  else
    let value := withoutPort value
    if value.any ['/', ':', '@', ' '].contains then none
    else
      match text.toASCII (String.ofList (withoutDot value)) with
      | none => none
      | some ascii =>
        if ascii = "" ∨ 253 < ascii.utf8ByteSize ∨ (parseIP ascii.toList).isSome then none
        else if (ascii.toList.splitOn '.').all validLabel then some ascii
        else none

/-! ## Prefixes -/

/-- `^[a-z0-9](?:[a-z0-9-]{0,46}[a-z0-9])?$`. -/
def validSlug (slug : String) : Bool :=
  validLabel slug.toList && slug.length ≤ 48

def validPrefix (slug : String) : Bool := validSlug slug

/-- `strings.HasSuffix`. -/
def endsWith (s tail : String) : Bool := tail.toList.isSuffixOf s.toList

def wildcardHost (text : HostText) (label domain : String) : Option String :=
  if validPrefix label then
    match normalizeHost text (label ++ "." ++ domain) with
    | some host => if endsWith host ("." ++ domain) then some host else none
    | none => none
  else none

/-- The prefix of a host right under the domain, or the empty text. -/
def prefixForDomain (host domain : String) : String :=
  if endsWith host ("." ++ domain) then
    let label := String.ofList (host.toList.take (host.length - ("." ++ domain).length))
    if label = "" ∨ '.' ∈ label.toList ∨ ¬ validPrefix label then "" else label
  else ""

/-! ## Hosts under a wildcard domain -/

section
variable {text : HostText} {value host label domain : String}

/-- A normalised host is what the conversion has returned, and passed every check. -/
lemma normalizeHost_spec (h : normalizeHost text value = some host) :
    text.toASCII (String.ofList (withoutDot (withoutPort (trimSpace (text.toLower value)).toList)))
        = some host ∧
      ¬ (host = "" ∨ 253 < host.utf8ByteSize ∨ (parseIP host.toList).isSome) ∧
      (host.toList.splitOn '.').all validLabel = true := by
  unfold normalizeHost at h
  dsimp only at h
  split_ifs at h
  split at h
  · cases h
  rename_i ascii hascii
  split_ifs at h with hbad hvalid
  cases h
  exact ⟨hascii, hbad, hvalid⟩

/-- A name of valid labels has host characters only, and no dot at its end. -/
lemma hostChars_of_labels (h : (host.toList.splitOn '.').all validLabel = true) :
    (∀ c ∈ host.toList, isHostChar c = true) ∧ host.toList.getLast? ≠ some '.' := by
  have hlabels := all_eq_true.mp h
  constructor
  · intro c hc
    by_cases hdot : c = '.'
    · rw [hdot]
      rfl
    obtain ⟨l, hl, hcl⟩ := exists_mem_splitOn hc hdot
    have hvalid := hlabels l hl
    simp only [validLabel, Bool.and_eq_true, all_eq_true] at hvalid
    rw [isHostChar, hvalid.2 c hcl, Bool.true_or]
  · intro hlast
    obtain ⟨s, hs⟩ := List.getLast?_eq_some_iff.mp hlast
    have hempty := hlabels [] (by rw [hs, splitOn_append_cons_self]; simp)
    simp [validLabel] at hempty

/-- The codes of the host characters: hyphen, dot, digits and small letters. -/
lemma toNat_of_isHostChar {c : Char} (h : isHostChar c = true) :
    45 ≤ c.toNat ∧ c.toNat ≤ 57 ∧ c ≠ '/' ∨ 97 ≤ c.toNat ∧ c.toNat ≤ 122 := by
  simp only [isHostChar, isLabelChar, Bool.or_eq_true, Bool.and_eq_true, decide_eq_true_eq,
    beq_iff_eq, Char.le_def, UInt32.le_iff_toNat_le] at h
  rcases h with ((⟨hlo, hhi⟩ | ⟨hlo, hhi⟩) | rfl) | rfl
  · exact .inr ⟨hlo, hhi⟩
  · refine .inl ⟨Nat.le_trans (by decide) hlo, hhi, ?_⟩
    rintro rfl
    exact absurd hlo (by decide)
  · exact .inl (by decide)
  · exact .inl (by decide)

lemma not_isSpace_of_isHostChar {c : Char} (h : isHostChar c = true) : isSpace c = false := by
  have hcode := toNat_of_isHostChar h
  simp only [isSpace, contains_cons, contains_nil, Bool.or_false, Bool.or_eq_false_iff,
    beq_eq_false_iff_ne, Bool.and_eq_false_iff, decide_eq_false_iff_not]
  omega

lemma trimSpace_of_host (h : ∀ c ∈ value.toList, isHostChar c = true) : trimSpace value = value :=
  trimSpace_of_forall fun c hc => not_isSpace_of_isHostChar (h c hc)

/-- A text without a colon has no port. -/
lemma withoutPort_of_notMem {s : List Char} (h : ':' ∉ s) : withoutPort s = s := by
  have hall : ∀ c ∈ s.reverse, decide (c ≠ ':') = true := by
    intro c hc
    rw [decide_eq_true_eq]
    rintro rfl
    exact h (mem_reverse.mp hc)
  have hcut : cutLastColon s = none := by
    rw [cutLastColon, span_eq_takeWhile_dropWhile, dropWhile_eq_nil_iff.mpr hall]
  rw [withoutPort, splitHostPort, hcut]

/-- Normalising a name of valid labels changes nothing. -/
lemma normalizeHost_eq (htext : text.Documented)
    (hlabels : (value.toList.splitOn '.').all validLabel = true)
    (hhost : normalizeHost text value = some host) : host = value := by
  obtain ⟨h, hdot⟩ := hostChars_of_labels hlabels
  have hascii := (normalizeHost_spec hhost).1
  rw [htext.toLower_eq value h, trimSpace_of_host h,
    withoutPort_of_notMem fun hmem => absurd (h _ hmem) (by decide), withoutDot, if_neg hdot,
    String.ofList_toList] at hascii
  exact htext.toASCII_eq value _ hlabels hascii

lemma isLabelChar_of_validPrefix (h : validPrefix label = true) :
    ∀ c ∈ label.toList, isLabelChar c = true := by
  simp only [validPrefix, validSlug, validLabel, Bool.and_eq_true, all_eq_true] at h
  exact h.1.2

/-- A wildcard host is the prefix and the domain, joined by a dot. -/
lemma wildcardHost_eq (htext : text.Documented) (h : wildcardHost text label domain = some host) :
    host = label ++ "." ++ domain := by
  unfold wildcardHost at h
  split_ifs at h with hlabel
  split at h
  · next host' hnormal =>
    split_ifs at h with hsuffix
    cases h
    have hlabels := (normalizeHost_spec hnormal).2.2
    -- the labels of the domain are the last ones of a normalised host
    obtain ⟨start, hstart⟩ : '.' :: domain.toList <:+ host.toList := by
      simpa [endsWith] using hsuffix
    rw [← hstart, splitOn_append_cons_self, all_append, Bool.and_eq_true] at hlabels
    have hdot : '.' ∉ label.toList := fun hmem =>
      absurd (isLabelChar_of_validPrefix hlabel _ hmem) (by decide)
    have hvalue : (label ++ "." ++ domain).toList = label.toList ++ '.' :: domain.toList := by
      simp
    refine normalizeHost_eq htext ?_ hnormal
    rw [hvalue, splitOn_append_cons_self_of_not_mem hdot, all_cons, hlabels.2, Bool.and_true]
    exact (Bool.and_eq_true_iff.mp hlabel).1
  · cases h

section
variable (h : validPrefix label = true)
include h

lemma ne_empty_of_validPrefix : label ≠ "" := by
  rintro rfl
  exact absurd h (by decide)

/-- The prefix of a wildcard host is found again. -/
lemma prefixForDomain_append :
    prefixForDomain (label ++ "." ++ domain) domain = label := by
  have hlist : (label ++ "." ++ domain).toList = label.toList ++ ("." ++ domain).toList := by
    simp
  have hends : endsWith (label ++ "." ++ domain) ("." ++ domain) = true := by
    rw [endsWith, hlist, isSuffixOf_iff_suffix]
    exact suffix_append _ _
  have htake : String.ofList ((label ++ "." ++ domain).toList.take
      ((label ++ "." ++ domain).length - ("." ++ domain).length)) = label := by
    have hlength : (label ++ "." ++ domain).length - ("." ++ domain).length
        = label.toList.length := by
      rw [← String.length_toList, ← String.length_toList, hlist, length_append]
      omega
    rw [hlength, hlist, take_left, String.ofList_toList]
  unfold prefixForDomain
  rw [if_pos hends]
  rw [htake, if_neg]
  rintro (hempty | hdot | hinvalid)
  · exact ne_empty_of_validPrefix h hempty
  · exact absurd (isLabelChar_of_validPrefix h '.' hdot) (by decide)
  · exact hinvalid h

end

end

end NewApi.Tenant
