import NewApi.Tenant.Host

/-!
# Host names round trip

A wildcard host is the prefix and the domain, joined by a dot, and a prefix has no dot: so the pair
can be read off the host. A host name may be written in any case, with a dot at its end and with a
port; normalising takes these off.
-/

namespace NewApi.Tenant

open List

/-- A name in lower case, without what separates it from the rest of an address. -/
def IsHostName (name : List Char) : Prop :=
  name ≠ [] ∧ name.getLast? ≠ some '.' ∧
    ∀ c ∈ name, isSpace c = false ∧ c ∉ ['/', ':', '@', '[', ']']

/-- The ways to write a host name: in any case, with or without a dot at its end and a port. -/
def HostText.Writes (text : HostText) (name : List Char) (value : String) : Prop :=
  ∃ dot ∈ [[], ['.']], ∃ port : List Char, (∀ c ∈ port, isLabelChar c = true) ∧
    (text.toLower value).toList = name ++ dot ++ (if port = [] then [] else ':' :: port)

section
variable {text : HostText} {value host label domain : String} {name : List Char}

/-- A scheme has slashes. -/
lemma no_scheme {s : List Char} (h : '/' ∉ s) : s.tails.any [':', '/', '/'].isPrefixOf = false := by
  induction s with
  | nil => rfl
  | cons c s ih =>
    rw [mem_cons, not_or] at h
    rw [tails, any_cons, ih h.2, Bool.or_false, Bool.eq_false_iff, ne_eq, isPrefixOf_iff_prefix]
    exact fun hslash => (mem_cons.mp (hslash.subset (by simp))).elim h.1 h.2

lemma withoutDot_append {dot : List Char} (hdot : dot ∈ [[], ['.']])
    (hlast : name.getLast? ≠ some '.') : withoutDot (name ++ dot) = name := by
  simp only [mem_cons, not_mem_nil, or_false] at hdot
  rcases hdot with rfl | rfl
  · rw [append_nil, withoutDot, if_neg hlast]
  · rw [withoutDot, if_pos getLast?_concat, dropLast_concat]

/-- The port is taken off. -/
lemma withoutPort_append {s port : List Char} (hs : ∀ c ∈ s, c ∉ [':', '[', ']'])
    (hport : ∀ c ∈ port, isLabelChar c = true) :
    withoutPort (s ++ (if port = [] then [] else ':' :: port)) = s := by
  have hcolon : ':' ∉ s := fun hmem => hs _ hmem (by decide)
  split_ifs with hnone
  · rw [append_nil, withoutPort_of_notMem hcolon]
  have hlabel : ∀ c ∈ [':', '[', ']'], ¬ isLabelChar c = true := by
    simp [isLabelChar]
  have hseparators : ∀ c ∈ [':', '[', ']'], c ∉ port :=
    fun c hc hmem => hlabel c hc (hport c hmem)
  have hsplit := splitHostPort_join (fun hmem => hs _ hmem (by decide))
    (fun hmem => hs _ hmem (by decide))
    ⟨hseparators _ (by decide), hseparators _ (by decide), hseparators _ (by decide)⟩
  rw [joinHostPort, if_neg hcolon] at hsplit
  rw [withoutPort, hsplit]
  exact if_neg hnone

/-- Whatever is written around a name is taken off before the conversion. -/
lemma normalizeHost_of_writes (hname : IsHostName name) (h : text.Writes name value) :
    normalizeHost text value = (text.toASCII (String.ofList name)).bind fun ascii =>
      if ascii = "" ∨ 253 < ascii.utf8ByteSize ∨ (parseIP ascii.toList).isSome then none
      else if (ascii.toList.splitOn '.').all validLabel then some ascii
      else none := by
  obtain ⟨hne, hlast, hchars⟩ := hname
  obtain ⟨dot, hdot, port, hport, hlower⟩ := h
  have hdotted : ∀ c ∈ name ++ dot, isSpace c = false ∧ c ∉ ['/', ':', '@', '[', ']'] := by
    intro c hc
    have hdots : ∀ dot ∈ [[], ['.']], ∀ c ∈ dot,
        isSpace c = false ∧ c ∉ ['/', ':', '@', '[', ']'] := by simp [isSpace]
    exact (mem_append.mp hc).elim (hchars c) (hdots dot hdot c)
  have hall : ∀ c ∈ (text.toLower value).toList, isSpace c = false ∧ c ≠ '/' := by
    rw [hlower]
    intro c hc
    rcases mem_append.mp hc with hc | hc
    · exact ⟨(hdotted c hc).1, fun hslash => (hdotted c hc).2 (by simp [hslash])⟩
    split_ifs at hc
    · cases hc
    rcases mem_cons.mp hc with rfl | hc
    · decide
    · refine ⟨not_isSpace_of_isHostChar (by rw [isHostChar, hport c hc, Bool.true_or]), ?_⟩
      rintro rfl
      exact absurd (hport _ hc) (by decide)
  have hguard : ¬ ((text.toLower value).toList = [] ∨
      (text.toLower value).toList.tails.any [':', '/', '/'].isPrefixOf = true) := by
    rw [no_scheme fun hmem => (hall _ hmem).2 rfl, hlower]
    simp [hne]
  have hother : ¬ (name ++ dot).any ['/', ':', '@', ' '].contains = true := by
    rw [any_eq_true]
    rintro ⟨c, hc, hbad⟩
    have hrefused : ∀ c ∈ ['/', ':', '@', ' '],
        ¬ (isSpace c = false ∧ c ∉ ['/', ':', '@', '[', ']']) := by simp [isSpace]
    exact hrefused c (contains_iff_mem.mp hbad) (hdotted c hc)
  unfold normalizeHost
  dsimp only
  rw [trimSpace_of_forall fun c hc => (hall c hc).1, if_neg hguard, hlower,
    withoutPort_append (fun c hc hmem => (hdotted c hc).2 (by revert hmem; simp; tauto)) hport,
    if_neg hother, withoutDot_append hdot hlast]
  cases text.toASCII (String.ofList name) <;> rfl

/-- A normalised host stays as it is, if the conversion accepts it. -/
lemma normalizeHost_idem (htext : text.Documented) (h : normalizeHost text value = some host) :
    normalizeHost text host = some host ∨ text.toASCII host = none := by
  obtain ⟨-, hbad, hvalid⟩ := normalizeHost_spec h
  obtain ⟨hchars, hlast⟩ := hostChars_of_labels hvalid
  have hname : IsHostName host.toList := by
    have hseparators : ∀ c ∈ ['/', ':', '@', '[', ']'], ¬ isHostChar c = true := by
      simp [isHostChar, isLabelChar]
    refine ⟨by simpa using fun hnil => hbad (.inl hnil), hlast, fun c hc => ?_⟩
    exact ⟨not_isSpace_of_isHostChar (hchars c hc), fun hmem => hseparators c hmem (hchars c hc)⟩
  have hwrites : text.Writes host.toList host :=
    ⟨[], by simp, [], by simp, by simp [htext.toLower_eq host hchars]⟩
  rw [normalizeHost_of_writes hname hwrites, String.ofList_toList]
  cases hascii : text.toASCII host with
  | none => exact .inr rfl
  | some ascii =>
    left
    rw [htext.toASCII_eq host ascii hvalid hascii, Option.bind_some, if_neg hbad, if_pos hvalid]

/-- A prefix that is found stands before the domain. -/
lemma eq_of_prefixForDomain (h : prefixForDomain host domain = label) (hne : label ≠ "") :
    host = label ++ "." ++ domain ∧ validPrefix label = true := by
  unfold prefixForDomain at h
  split_ifs at h with hends
  · dsimp only at h
    split_ifs at h with hbad
    · exact absurd h.symm hne
    rw [not_or, not_or, not_not] at hbad
    obtain ⟨start, hstart⟩ := isSuffixOf_iff_suffix.mp hends
    have htake : host.toList.take (host.length - ("." ++ domain).length) = start := by
      rw [← String.length_toList, ← String.length_toList, ← hstart, length_append,
        Nat.add_sub_cancel, take_left]
    rw [htake] at h hbad
    subst h
    refine ⟨?_, hbad.2.2⟩
    rw [← String.toList_inj, String.append_assoc, String.toList_append, String.toList_ofList,
      hstart]
  · exact absurd h.symm hne

/-- A prefix ends at the first dot of the host. -/
lemma takeWhile_of_validPrefix (h : validPrefix label = true) :
    (label ++ "." ++ domain).toList.takeWhile (· ≠ '.') = label.toList := by
  have hchars : ∀ c ∈ label.toList, decide (c ≠ '.') = true := by
    intro c hc
    rw [decide_eq_true_eq]
    rintro rfl
    exact absurd (isLabelChar_of_validPrefix h _ hc) (by decide)
  simp only [String.toList_append, append_assoc]
  rw [takeWhile_append_of_pos hchars]
  simp

end

/-- Wildcard hosts and pairs of a prefix and a domain determine each other, and normalising is
idempotent, unless the conversion fails on the host, and blind to case, a dot at the end and a
port. -/
theorem wildcard_hosts_round_trip (text : HostText) (htext : text.Documented) :
    (∀ label domain host, wildcardHost text label domain = some host →
      prefixForDomain host domain = label) ∧
    (∀ host domain, normalizeHost text host = some host → prefixForDomain host domain ≠ "" →
      wildcardHost text (prefixForDomain host domain) domain = some host) ∧
    (∀ value host, normalizeHost text value = some host →
      normalizeHost text host = some host ∨ text.toASCII host = none) ∧
    (∀ name value value', IsHostName name → text.Writes name value → text.Writes name value' →
      normalizeHost text value = normalizeHost text value') ∧
    ∀ label domain label' domain' host, wildcardHost text label domain = some host →
      wildcardHost text label' domain' = some host → label = label' ∧ domain = domain' := by
  have hvalid : ∀ label domain host, wildcardHost text label domain = some host →
      validPrefix label = true := by
    intro label domain host h
    unfold wildcardHost at h
    split_ifs at h with hlabel
    exact hlabel
  refine ⟨fun label domain host h => ?_, fun host domain hnormal hne => ?_,
    fun value host h => normalizeHost_idem htext h, fun name value value' hname h h' => ?_,
    fun label domain label' domain' host h h' => ?_⟩
  · rw [wildcardHost_eq htext h, prefixForDomain_append (hvalid _ _ _ h)]
  · obtain ⟨heq, hlabel⟩ := eq_of_prefixForDomain rfl hne
    have hends : endsWith host ("." ++ domain) = true := by
      by_contra hends
      exact hne (if_neg hends)
    rw [wildcardHost, if_pos hlabel, ← heq, hnormal]
    exact if_pos hends
  · rw [normalizeHost_of_writes hname h, normalizeHost_of_writes hname h']
  · have heq := (wildcardHost_eq htext h).symm.trans (wildcardHost_eq htext h')
    have hlabel : label = label' := by
      rw [← String.toList_inj, ← takeWhile_of_validPrefix (hvalid _ _ _ h), heq,
        takeWhile_of_validPrefix (hvalid _ _ _ h')]
    subst hlabel
    refine ⟨rfl, ?_⟩
    simpa [← String.toList_inj] using heq

/-- With conversions that change nothing the hypotheses hold, and a port is taken off. -/
theorem wildcard_hosts_round_trip_shop :
    wildcardHost ⟨id, some⟩ "shop" "example.com" = some "shop.example.com" ∧
      prefixForDomain "shop.example.com" "example.com" = "shop" ∧
      normalizeHost ⟨id, some⟩ "shop.example.com.:443" = some "shop.example.com" := by
  have h := wildcard_hosts_round_trip ⟨id, some⟩
    ⟨fun _ _ => rfl, fun _ _ _ h => (Option.some.inj h).symm⟩
  have hhost : wildcardHost ⟨id, some⟩ "shop" "example.com" = some "shop.example.com" := by
    decide +kernel
  exact ⟨hhost, h.1 _ _ _ hhost, by decide +kernel⟩

end NewApi.Tenant
