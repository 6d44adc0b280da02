import NewApi.Service.ProtectedFetch
import NewApi.Utils.Pool
import NewApi.Utils.Runs

/-!
# Protected fetches and internal addresses

Whatever is dialled is an address that was checked: it is written by `IP.String` from the value that
`IsIPAccessAllowed` has seen, so no lookup stands between the check and the dial.
-/

namespace NewApi.Service
open Common Runs List Pool

/-! ## Internal addresses -/

/-- The address is in one of the listed ranges of its family. -/
def Listed (ip : IP) : Prop :=
  match ip.to4 with
  | some _ => ∃ net ∈ privateIPv4Nets, net.contains ip = true
  | none => ∃ net ∈ privateIPv6Nets, net.contains ip = true

/-- The IPv4 address is in one of the listed ranges. -/
def ListedV4 (v4 : BitVec 32) : Prop := ∃ net ∈ privateIPv4Nets, net.contains (IP.ofV4 v4) = true

/-- The IPv6 address is a form of the IPv4 address that the check knows. -/
inductive Mapped (ip : IP) (v4 : BitVec 32) : Prop
  /-- `::ffff:a.b.c.d` -/
  | mapped (h : ip.toNat = 0xffff * 2 ^ 32 + v4.toNat)
  /-- `64:ff9b::a.b.c.d` -/
  | nat64 (h : ip.toNat = 0x64ff9b * 2 ^ 96 + v4.toNat)

/-- The IPv6 address is a form of the IPv4 address that the check does not know. -/
inductive Tunnelled (ip : IP) (v4 : BitVec 32) : Prop
  /-- `::a.b.c.d` -/
  | compatible (h : ip.toNat = v4.toNat)
  /-- `2002:abcd:efgh::/48` -/
  | sixToFour (h : ip.toNat / 2 ^ 112 = 0x2002) (hv4 : ip.toNat / 2 ^ 80 % 2 ^ 32 = v4.toNat)

/-- An address of the listed ranges, or one that embeds an IPv4 address of those. -/
def Internal (ip : IP) : Prop :=
  Listed ip ∨ ∃ v4, (Mapped ip v4 ∨ Tunnelled ip v4) ∧ ListedV4 v4

/-- A listed IPv4 address in one of the two forms that are not checked. -/
def Hidden (ip : IP) : Prop := ∃ v4, Tunnelled ip v4 ∧ ListedV4 v4

/-- An IP literal with an allowed port that passes the list of addresses and is not `internal`. -/
def SafeAddress (internal : IP → Prop) (p : SSRFProtection) (addr : List Char) : Prop :=
  ∃ host portText ip port, splitHostPort addr = some (host, portText) ∧ parseIP host = some ip ∧
    atoi portText = some port ∧ validPort port = true ∧ p.isAllowedPort port = true ∧
    p.passesIpList ip = true ∧ ¬ internal ip

/-- Every address that was handed to the underlying dialer is safe. -/
def DialledSafe (internal : IP → Prop) (s : FetchState) : Prop :=
  ∀ d ∈ s.dialled, ∃ p, d.1 = some p ∧ SafeAddress internal p d.2

/-- The settings under which the addresses are protected. -/
def Strict (setting : FetchSetting) : Prop :=
  setting.enableSSRFProtection = true ∧ setting.allowPrivateIp = false ∧
    setting.applyIPFilterForDomain = true

/-- The address of a text with a port. -/
def addressIP (addr : List Char) : Option IP := (splitHostPort addr).bind fun r => parseIP r.1

/-- The next address of the dial is none of the forms that are not checked. -/
def NextShown (s : FetchState) : FetchLabel → Prop
  | .attempt j _ => ∀ d target rest, s.dials[j]? = some d → d.targets = target :: rest →
      ∀ ip ∈ addressIP target, ¬ Hidden ip
  | _ => True

/-- Neither the URL that is dialled for nor the answer of the resolver has an address of the forms that
are not checked. -/
def InputsShown (text : FetchText) (s : FetchState) : FetchLabel → Prop
  | .dial i _ answer =>
    (∀ r, s.requests[i]? = some r → ∀ ip ∈ addressIP (canonicalAddr text r.url), ¬ Hidden ip) ∧
      ∀ ips ∈ answer, ∀ ip, some ip ∈ ips → ¬ Hidden ip
  | _ => True

/-! ## The check -/

variable {ip : IP} {p : SSRFProtection} {port : Int}

lemma not_listed_of_not_private (h : isPrivateIP ip = false) : ¬ Listed ip := by
  unfold isPrivateIP at h
  unfold Listed
  split_ifs at h
  cases hv4 : ip.to4 with
  | some v4 =>
    rw [hv4] at h
    rintro ⟨net, hnet, hcontains⟩
    have hany := any_eq_false.mp h net hnet
    exact hany hcontains
  | none =>
    rw [hv4] at h
    rw [Bool.or_eq_false_iff] at h
    rintro ⟨net, hnet, hcontains⟩
    have hany := any_eq_false.mp h.1 net hnet
    exact hany hcontains

/-- `64:ff9b::/96`. -/
lemma nat64_mem : (⟨BitVec.ofNat 128 (0x64ff9b * 2 ^ 96), 96, false⟩ : IPNet) ∈ privateIPv6Nets := by
  decide +kernel

/-- The forms that the check knows are refused with the address they embed. -/
lemma not_mapped_of_not_listed {v4 : BitVec 32} (h : ¬ Listed ip) (hmapped : Mapped ip v4) :
    ¬ ListedV4 v4 := by
  cases hmapped with
  | mapped heq =>
    have hip : IP.ofV4 v4 = ip := by
      apply BitVec.eq_of_toNat_eq
      simp only [IP.ofV4, BitVec.toNat_ofNat]
      omega
    have hto4 : ip.to4 = some v4 := by
      unfold IP.to4
      rw [if_pos (by omega), Option.some.injEq]
      apply BitVec.eq_of_toNat_eq
      rw [BitVec.toNat_ofNat]
      omega
    intro hlisted
    apply h
    unfold Listed
    rw [hto4, ← hip]
    exact hlisted
  | nat64 heq =>
    -- no address of this form gets through
    intro _
    apply h
    have hto4 : ip.to4 = none := by
      unfold IP.to4
      rw [if_neg (by omega)]
    unfold Listed
    rw [hto4]
    refine ⟨_, nat64_mem, ?_⟩
    have hnet : IP.to4 (BitVec.ofNat 128 (0x64ff9b * 2 ^ 96)) = none := by decide +kernel
    unfold IPNet.contains
    rw [hnet, hto4]
    show samePrefix 128 96 _ _ = true
    unfold samePrefix
    rw [beq_iff_eq, BitVec.toNat_ofNat, heq]
    omega

lemma internal_iff (h : ¬ Listed ip) : Internal ip ↔ Hidden ip := by
  constructor
  · rintro (hlisted | ⟨v4, hmapped | htunnelled, hv4⟩)
    · exact absurd hlisted h
    · exact absurd hv4 (not_mapped_of_not_listed h hmapped)
    · exact ⟨v4, htunnelled, hv4⟩
  · rintro ⟨v4, htunnelled, hv4⟩
    exact .inr ⟨v4, .inr htunnelled, hv4⟩

lemma accessAllowed (hp : p.allowPrivateIp = false)
    (h : p.isIPAccessAllowed ip = true) : ¬ Listed ip ∧ p.passesIpList ip = true := by
  unfold SSRFProtection.isIPAccessAllowed at h
  rw [hp] at h
  split_ifs at h with hprivate
  rw [Bool.not_false, Bool.and_true, Bool.not_eq_true] at hprivate
  exact ⟨not_listed_of_not_private hprivate, h⟩

/-! ## The dialer -/

lemma not_isSpace_of_isAddrChar {c : Char} (h : isAddrChar c = true) : isSpace c = false := by
  have hcode : 46 ≤ c.toNat ∧ c.toNat ≤ 102 := by
    simp only [isAddrChar, isHexDigit, Char.isDigit, Bool.or_eq_true, Bool.and_eq_true,
      decide_eq_true_eq, beq_iff_eq, Char.le_def, UInt32.le_iff_toNat_le, ge_iff_le] at h
    rcases h with (((⟨hlo, hhi⟩ | ⟨hlo, hhi⟩) | ⟨hlo, hhi⟩) | rfl) | rfl
    · exact ⟨Nat.le_trans (by decide) hlo, Nat.le_trans hhi (by decide)⟩
    · exact ⟨Nat.le_trans (by decide) hlo, hhi⟩
    · exact ⟨Nat.le_trans (by decide) hlo, Nat.le_trans hhi (by decide)⟩
    · decide
    · decide
  simp only [isSpace, contains_cons, contains_nil, Bool.or_false, Bool.or_eq_false_iff,
    beq_eq_false_iff_ne, Bool.and_eq_false_iff, decide_eq_false_iff_not]
  omega

/-- A port that `Atoi` reads has no separators. -/
lemma separators_of_atoi {s : List Char} {n : Int} (h : atoi s = some n) :
    ':' ∉ s ∧ '[' ∉ s ∧ ']' ∉ s := by
  have hchars : ∀ c ∈ s, c.isDigit = true ∨ c = '+' ∨ c = '-' := by
    unfold atoi at h
    intro c hc
    split at h
    next negative digits heq =>
    have hsub : c ∈ digits ∨ c = '+' ∨ c = '-' := by
      split at heq <;> cases heq
      · rcases mem_cons.mp hc with rfl | hc
        · exact .inr (.inr rfl)
        · exact .inl hc
      · rcases mem_cons.mp hc with rfl | hc
        · exact .inr (.inl rfl)
        · exact .inl hc
      · exact .inl hc
    refine hsub.imp_left ?_
    intro hmem
    replace h := (Option.ite_none_left_eq_some.mp h).1
    push Not at h
    exact all_eq_true.mp h.2 c hmem
  refine ⟨?_, ?_, ?_⟩
  all_goals
    intro hc
    rcases hchars _ hc with hdigit | heq | heq
    · exact absurd hdigit (by decide)
    · exact absurd heq (by decide)
    · exact absurd heq (by decide)

/-- What a dial hands over is the text of an address. -/
lemma split_target {portText : List Char} (hport : atoi portText = some port) :
    splitHostPort (joinHostPort ip.string portText) = some (ip.string, portText) := by
  have hchars := isAddrChar_of_parseIP (parseIP_string ip)
  exact splitHostPort_join (fun h => absurd (hchars _ h) (by decide))
    (fun h => absurd (hchars _ h) (by decide)) (separators_of_atoi hport)

lemma addressIP_target {portText : List Char}
    (hport : atoi portText = some port) : addressIP (joinHostPort ip.string portText) = some ip := by
  unfold addressIP
  rw [split_target hport, Option.bind_some, parseIP_string]

section
variable {text : FetchText} {setting : FetchSetting} {s s' : FetchState} {label : FetchLabel}

lemma protection_of_strict (hstrict : Strict setting) {protection : Option SSRFProtection}
    (h : currentFetchProtection setting = .ok protection) :
    ∃ p, protection = some p ∧ p.allowPrivateIp = false ∧ p.applyIPFilterForDomain = true := by
  obtain ⟨henable, hprivate, hfilter⟩ := hstrict
  unfold currentFetchProtection at h
  rw [if_pos henable] at h
  cases hports : parsePortRanges setting.allowedPorts with
  | error e =>
    rw [hports] at h
    cases h
  | ok ports =>
    rw [hports] at h
    cases h
    exact ⟨_, rfl, hprivate, hfilter⟩

/-- A literal that passes the first check has an allowed port and, as an address, access. -/
lemma validateNetworkTarget_ok {host : List Char}
    (h : p.validateNetworkTarget text.toLower (String.ofList host) port = .ok ()) :
    validPort port = true ∧ p.isAllowedPort port = true ∧
      ∀ ip, parseIP host = some ip → p.isIPAccessAllowed ip = true := by
  unfold SSRFProtection.validateNetworkTarget at h
  dsimp only at h
  split at h
  · cases h
  split at h
  · cases h
  next hport =>
  split at h
  · cases h
  next hallowed =>
  rw [not_not] at hport hallowed
  refine ⟨hport, hallowed, ?_⟩
  intro ip hip
  have htrim : trimSpace (String.ofList host) = String.ofList host := by
    apply trimSpace_of_forall
    intro c hc
    rw [String.toList_ofList] at hc
    exact not_isSpace_of_isAddrChar (isAddrChar_of_parseIP hip c hc)
  rw [htrim, String.toList_ofList, hip] at h
  dsimp only at h
  split_ifs at h with haccess
  exact haccess

/-- What a dial under strict settings is going to hand over: addresses that were checked, each one the
literal it was asked for or one of the answer. -/
lemma dialTargets_ok {network : String} {addr : List Char} {answer : Option (List (Option IP))}
    {protection : Option SSRFProtection} {targets : List (List Char)} (hstrict : Strict setting)
    (h : dialTargets text setting network addr answer = .ok (protection, targets)) :
    ∃ p, protection = some p ∧ p.allowPrivateIp = false ∧
      ∀ target ∈ targets, ∃ ip portText port, target = joinHostPort ip.string portText ∧
        atoi portText = some port ∧ validPort port = true ∧ p.isAllowedPort port = true ∧
        p.isIPAccessAllowed ip = true ∧
        (addressIP addr = some ip ∨ ∃ ips ∈ answer, some ip ∈ ips) := by
  unfold dialTargets at h
  cases hprotection : currentFetchProtection setting with
  | error e =>
    rw [hprotection] at h
    cases h
  | ok current =>
    obtain ⟨p, rfl, hprivate, hfilter⟩ := protection_of_strict hstrict hprotection
    rw [hprotection] at h
    simp only [bind, Except.bind] at h
    split at h
    · cases h
    rename_i host portText hsplit
    split at h
    · cases h
    rename_i port hport
    split at h
    · cases h
    rename_i htarget
    obtain ⟨hvalid, hallowed, hliteral⟩ := validateNetworkTarget_ok htarget
    split at h
    · next ip hip =>
      cases h
      refine ⟨p, rfl, hprivate, ?_⟩
      intro target hmem
      rw [mem_singleton.mp hmem]
      refine ⟨ip, portText, port, rfl, hport, hvalid, hallowed, hliteral ip hip, .inl ?_⟩
      unfold addressIP
      rw [hsplit, Option.bind_some, hip]
    rw [if_neg (by rw [hfilter]; simp)] at h
    split at h
    · cases h
    rename_i ips
    split at h
    · cases h
    rename_i hresolved
    cases h
    have hchecked := forM_ok hresolved
    refine ⟨p, rfl, hprivate, ?_⟩
    intro target hmem
    obtain ⟨ip, hip, rfl⟩ := mem_map.mp hmem
    have haccess := hchecked ip hip
    unfold SSRFProtection.validateResolvedIP at haccess
    split_ifs at haccess with hallow
    refine ⟨ip, portText, port, rfl, hport, hvalid, hallowed, hallow, .inr ⟨ips, rfl, ?_⟩⟩
    obtain ⟨o, ho, heq⟩ := mem_filterMap.mp (mem_of_mem_filter hip)
    rw [id_eq] at heq
    rw [← heq]
    exact ho

/-! ## The invariant -/

/-- The address was checked. -/
def Checked (p : SSRFProtection) (target : List Char) : Prop :=
  ∃ ip portText port, target = joinHostPort ip.string portText ∧ atoi portText = some port ∧
    validPort port = true ∧ p.isAllowedPort port = true ∧ ¬ Listed ip ∧ p.passesIpList ip = true

/-- An address that was checked is safe but for the forms that are not checked. -/
lemma Checked.safe_iff {target : List Char} (h : Checked p target) :
    SafeAddress Internal p target ↔ ∀ ip ∈ addressIP target, ¬ Hidden ip := by
  obtain ⟨ip, portText, port, rfl, hport, hvalid, hallowed, hlisted, hpasses⟩ := h
  have haddress : addressIP (joinHostPort ip.string portText) = some ip := addressIP_target hport
  constructor
  · rintro ⟨host, portText', ip', port', hsplit, hip, -, -, -, -, hinternal⟩ x hx
    have hsame : ip' = x := by
      have hread : addressIP (joinHostPort ip.string portText) = some ip' := by
        unfold addressIP
        rw [hsplit, Option.bind_some, hip]
      rw [hread] at hx
      exact Option.some.inj hx
    have heq : ip = x := by
      rw [haddress] at hx
      exact Option.some.inj hx
    subst hsame
    subst heq
    rwa [internal_iff hlisted] at hinternal
  · intro hshown
    refine ⟨ip.string, portText, ip, port, split_target hport, parseIP_string ip, hport, hvalid,
      hallowed, hpasses, ?_⟩
    rw [internal_iff hlisted]
    exact hshown ip haddress

lemma Checked.safe {target : List Char} (h : Checked p target) :
    SafeAddress (fun ip => Listed ip ∨ ∃ v4, Mapped ip v4 ∧ ListedV4 v4) p target := by
  obtain ⟨ip, portText, port, rfl, hport, hvalid, hallowed, hlisted, hpasses⟩ := h
  refine ⟨ip.string, portText, ip, port, split_target hport, parseIP_string ip, hport, hvalid,
    hallowed, hpasses, ?_⟩
  rintro (h | ⟨v4, hmapped, hv4⟩)
  · exact hlisted h
  · exact not_mapped_of_not_listed hlisted hmapped hv4

structure FetchInv (s : FetchState) : Prop where
  strict : Strict s.setting
  dials : ∀ d ∈ s.dials, ∃ p, d.protection = some p ∧ ∀ target ∈ d.targets, Checked p target
  dialled : ∀ d ∈ s.dialled, ∃ p, d.1 = some p ∧ Checked p d.2

/-- The settings of a label keep the protection on. -/
def KeepsStrict : FetchLabel → Prop
  | .configure setting => Strict setting
  | _ => True

/-- What a step does: the settings change, a request is added, a request is dialled or the next target
of a dial is tried. -/
inductive FetchMove (text : FetchText) (s : FetchState) : FetchLabel → FetchState → Prop
  | configure (setting : FetchSetting) : FetchMove text s (.configure setting) { s with setting }
  | request {label : FetchLabel} (requests : List Request)
      (hlabel : NextShown s label ∧ KeepsStrict label) :
      FetchMove text s label { s with requests }
  | dial {i : Nat} {network : String} {answer : Option (List (Option IP))} {r : Request}
      {protection : Option SSRFProtection} {targets : List (List Char)}
      (hr : s.requests[i]? = some r)
      (htargets : dialTargets text s.setting network (canonicalAddr text r.url) answer =
        .ok (protection, targets)) :
      FetchMove text s (.dial i network answer) { s with dials := s.dials ++ [⟨protection, targets⟩] }
  | attempt {j : Nat} (connected : Bool) {d : Dial} {target : List Char} {rest : List (List Char)}
      (hd : s.dials[j]? = some d) (htargets : d.targets = target :: rest) :
      FetchMove text s (.attempt j connected)
        { s with
          dials := s.dials.set j { d with targets := if connected then [] else rest }
          dialled := s.dialled ++ [(d.protection, target)] }

lemma fetchStep_move (hstep : fetchStep text s label = some s') : FetchMove text s label s' := by
  cases label with simp only [fetchStep] at hstep
  | configure setting =>
    cases hstep
    exact .configure setting
  | request url parsed lookup =>
    split at hstep <;> cases hstep
    exact .request _ ⟨trivial, trivial⟩
  | redirect i url parsed lookup lookup' =>
    split at hstep
    · split at hstep
      · split_ifs at hstep
        cases hstep
        exact .request _ ⟨trivial, trivial⟩
      · cases hstep
    · cases hstep
  | dial i network answer =>
    split at hstep
    · next hr =>
      split at hstep
      · next htargets =>
        cases hstep
        exact .dial hr htargets
      · cases hstep
    · cases hstep
  | attempt j connected =>
    split at hstep
    · next hd =>
      split at hstep
      · next htargets =>
        cases hstep
        exact .attempt connected hd htargets
      · cases hstep
    · cases hstep

lemma fetchInv_step (h : FetchInv s) (hlabel : KeepsStrict label)
    (hstep : fetchStep text s label = some s') : FetchInv s' := by
  cases fetchStep_move hstep with
  | configure setting => exact ⟨hlabel, h.dials, h.dialled⟩
  | request => exact { h with }
  | dial hr htargets =>
    refine { h with dials := ?_ }
    obtain ⟨p, hp, hprivate, hall⟩ := dialTargets_ok h.strict htargets
    refine forall_mem_snoc h.dials ⟨p, hp, ?_⟩
    intro target htarget
    obtain ⟨ip, portText, port, heq, hport, hvalid, hallowed, haccess, -⟩ := hall target htarget
    obtain ⟨hlisted, hpasses⟩ := accessAllowed hprivate haccess
    exact ⟨ip, portText, port, heq, hport, hvalid, hallowed, hlisted, hpasses⟩
  | attempt connected hd htargets =>
    obtain ⟨p, hp, hall⟩ := h.dials _ (mem_of_getElem? hd)
    rw [htargets] at hall
    refine ⟨h.strict, forall_mem_set h.dials ⟨p, hp, ?_⟩,
      forall_mem_snoc h.dialled ⟨p, hp, hall _ mem_cons_self⟩⟩
    intro target' htarget'
    split_ifs at htarget'
    · exact absurd htarget' not_mem_nil
    · exact hall target' (mem_cons_of_mem _ htarget')

lemma dialledSafe_step (h : FetchInv s) (hstep : fetchStep text s label = some s') :
    DialledSafe Internal s' ↔ DialledSafe Internal s ∧ NextShown s label := by
  cases fetchStep_move hstep with
  | configure setting | dial hr htargets => exact (and_iff_left trivial).symm
  | request requests hlabel => exact (and_iff_left hlabel.1).symm
  | @attempt j connected d target rest hd htargets =>
    obtain ⟨p, hp, hall⟩ := h.dials d (mem_of_getElem? hd)
    have hchecked : Checked p target := hall target (by rw [htargets]; exact mem_cons_self)
    have hnext : NextShown s (.attempt j connected) ↔ SafeAddress Internal p target := by
      rw [hchecked.safe_iff]
      constructor
      · intro hshown
        exact hshown d target rest hd htargets
      · intro hshown d' target' rest' hd' htargets'
        rw [hd] at hd'
        cases hd'
        rw [htargets] at htargets'
        cases htargets'
        exact hshown
    rw [hnext]
    unfold DialledSafe
    constructor
    · intro hsafe
      refine ⟨fun x hx => hsafe x (mem_append_left _ hx), ?_⟩
      obtain ⟨p', hp', hsafe'⟩ := hsafe _ (mem_append_right _ mem_cons_self)
      have heq' : some p = some p' := hp.symm.trans hp'
      rw [Option.some.inj heq']
      exact hsafe'
    · rintro ⟨hold, hnew⟩
      exact forall_mem_snoc hold ⟨p, hp, hnew⟩

/-! ## Inputs without the forms that are not checked -/

structure ShownInv (s : FetchState) : Prop where
  inv : FetchInv s
  dials : ∀ d ∈ s.dials, ∀ target ∈ d.targets, ∀ ip ∈ addressIP target, ¬ Hidden ip

lemma shownInv_step (h : ShownInv s) (hlabel : InputsShown text s label ∧ KeepsStrict label)
    (hstep : fetchStep text s label = some s') : ShownInv s' := by
  refine ⟨fetchInv_step h.inv hlabel.2 hstep, ?_⟩
  cases fetchStep_move hstep with
  | configure setting | request => exact h.dials
  | dial hr htargets =>
    obtain ⟨hurl, hanswer⟩ := hlabel.1
    obtain ⟨p, -, -, hall⟩ := dialTargets_ok h.inv.strict htargets
    apply forall_mem_snoc h.dials
    intro target htarget ip hip
    obtain ⟨ip', portText, port, rfl, hport, -, -, -, hnamed⟩ := hall target htarget
    have hsame : ip' = ip := by
      rw [addressIP_target hport] at hip
      exact Option.some.inj hip
    subst hsame
    rcases hnamed with hliteral | ⟨ips, hips, hmem⟩
    · exact hurl _ hr ip' hliteral
    · exact hanswer ips hips ip' hmem
  | attempt connected hd htargets =>
    have hall := h.dials _ (mem_of_getElem? hd)
    rw [htargets] at hall
    apply forall_mem_set h.dials
    intro target' htarget'
    split_ifs at htarget'
    · exact absurd htarget' not_mem_nil
    · exact hall target' (mem_cons_of_mem _ htarget')

lemma nextShown_of_shownInv (h : ShownInv s) : NextShown s label := by
  cases label with
  | attempt j connected =>
    intro d target rest hd htargets
    exact h.dials d (mem_of_getElem? hd) target (by rw [htargets]; exact mem_cons_self)
  | _ => trivial

end

/-- **Protected fetches.** Every address handed to the underlying dialer is a checked IP literal: it
has an allowed port, passes the list and is neither in a listed range nor the mapped or NAT64 form of
such an IPv4 address. It is no internal address at all exactly when no address that is dialled is the
IPv4-compatible or 6to4 form of a listed one, in particular when no URL and no answer has those. -/
theorem protected_fetch_safe_iff (text : FetchText) (setting : FetchSetting)
    (hstrict : Strict setting) (ls : List FetchLabel) (hlabels : ∀ l ∈ ls, KeepsStrict l)
    (t : FetchState) (hrun : run (fetchStep text) (.init setting) ls = some t) :
    DialledSafe (fun ip => Listed ip ∨ ∃ v4, Mapped ip v4 ∧ ListedV4 v4) t ∧
    (DialledSafe Internal t ↔ Along (fetchStep text) NextShown (.init setting) ls) ∧
    (Along (fetchStep text) (InputsShown text) (.init setting) ls →
      Along (fetchStep text) NextShown (.init setting) ls) := by
  have hinit : FetchInv (.init setting) :=
    ⟨hstrict, nofun, nofun⟩
  have hkeep : Along (fetchStep text) (fun _ l => KeepsStrict l) (.init setting) ls :=
    along_of_forall_mem hlabels
  have hinv : ∀ s l s', FetchInv s → KeepsStrict l → fetchStep text s l = some s' → FetchInv s' :=
    fun s l s' => fetchInv_step
  have hsafe : ∀ s l s', FetchInv s → fetchStep text s l = some s' →
      (DialledSafe Internal s' ↔ DialledSafe Internal s ∧ NextShown s l) :=
    fun s l s' => dialledSafe_step
  refine ⟨?_, ?_, ?_⟩
  · have ht : FetchInv t := run_invariant FetchInv hinv hinit hkeep hrun
    intro d hd
    obtain ⟨p, hp, hchecked⟩ := ht.dialled d hd
    exact ⟨p, hp, hchecked.safe⟩
  · rw [along_iff_of_forall_mem FetchInv (DialledSafe Internal) hinv hsafe hinit hlabels hrun]
    exact and_iff_right nofun
  · intro hinputs
    exact (hinputs.and hkeep).mono_of_invariant ShownInv (fun s l s' => shownInv_step)
      (fun s l h _ => nextShown_of_shownInv h) ⟨hinit, nofun⟩

/-- The default settings. -/
def defaultFetchSetting : FetchSetting where
  enableSSRFProtection := true
  allowPrivateIp := false
  domainFilterMode := false
  ipFilterMode := false
  domainList := []
  ipList := []
  allowedPorts := ["80", "443", "8080", "8443"]
  applyIPFilterForDomain := true

/-- Names that are in lower case and ASCII already. -/
def plainFetchText : FetchText := ⟨id, id⟩

/-- An IPv4 address is none of the forms that are not checked. -/
lemma not_hidden_of_v4 (h : ip.to4.isSome = true) : ¬ Hidden ip := by
  have hmapped : ip.toNat / 2 ^ 32 = 0xffff := by
    unfold IP.to4 at h
    split_ifs at h with hmapped
    · exact hmapped
    · cases h
  rintro ⟨v4, htunnelled, -⟩
  cases htunnelled with
  | compatible heq | sixToFour heq _ => omega

/-- All addresses of the inputs are IPv4 addresses. -/
def inputsV4 (text : FetchText) (s : FetchState) : FetchLabel → Bool
  | .dial i _ answer =>
    (s.requests[i]?.all fun r => (addressIP (canonicalAddr text r.url)).all fun ip => ip.to4.isSome) &&
      answer.all fun ips => ips.all fun ip => ip.all fun ip => ip.to4.isSome
  | _ => true

lemma inputsShown_of_v4 {text : FetchText} {s : FetchState} {l : FetchLabel}
    (h : inputsV4 text s l = true) : InputsShown text s l := by
  cases l with
  | dial i network answer =>
    simp only [inputsV4, Bool.and_eq_true, Option.all_eq_true, all_eq_true] at h
    constructor
    · intro r hr ip hip
      exact not_hidden_of_v4 (h.1 r hr ip hip)
    · intro ips hips ip hmem
      exact not_hidden_of_v4 (h.2 ips hips (some ip) hmem ip rfl)
  | _ => trivial

/-- The resolver answers a public address when the URL is checked, and another one for the dial. -/
def reboundRun : List FetchLabel :=
  [.request ⟨"http", "example.com"⟩ (some ⟨"http", "example.com"⟩) (some [IP.ofV4 0x01010101]),
    .dial 0 "tcp" (some [none, some (IP.ofV4 0x08080808), some (IP.ofV4 0x08080404)]),
    .attempt 0 false, .attempt 0 true]

theorem protected_fetch_safe_rebound : ∃ t,
    run (fetchStep plainFetchText) (.init defaultFetchSetting) reboundRun = some t ∧
    t.dialled.map (fun d => String.ofList d.2) = ["8.8.8.8:80", "8.8.4.4:80"] ∧
    DialledSafe Internal t := by
  have hdialled : (run (fetchStep plainFetchText) (.init defaultFetchSetting) reboundRun).map
      (fun t => t.dialled.map fun d => String.ofList d.2) = some ["8.8.8.8:80", "8.8.4.4:80"] := by
    decide +kernel
  obtain ⟨t, hrun, heq⟩ := Option.map_eq_some_iff.mp hdialled
  have hlabels : ∀ l ∈ reboundRun, KeepsStrict l := by
    simp [reboundRun, KeepsStrict]
  obtain ⟨-, hsafe, hinputs⟩ := protected_fetch_safe_iff plainFetchText defaultFetchSetting
    ⟨rfl, rfl, rfl⟩ reboundRun hlabels t hrun
  have hv4 : Along (fetchStep plainFetchText) (fun s l => inputsV4 plainFetchText s l = true)
      (.init defaultFetchSetting) reboundRun := by
    decide +kernel
  exact ⟨t, hrun, heq, hsafe.mpr (hinputs (hv4.mono fun s l => inputsShown_of_v4))⟩

/-- A URL with the 6to4 form of `127.0.0.1`, and a name that resolves to its IPv4-compatible form. -/
def tunnelRun : List FetchLabel :=
  [.request ⟨"http", "[2002:7f00:1::]"⟩ (some ⟨"http", "[2002:7f00:1::]"⟩) none,
    .dial 0 "tcp" none, .attempt 0 true,
    .request ⟨"http", "example.com"⟩ (some ⟨"http", "example.com"⟩) (some [IP.ofV4 0x08080808]),
    .dial 1 "tcp" (some [some 0x7f000001]), .attempt 1 true]

theorem tunnelled_loopback_dialled : ∃ t,
    run (fetchStep plainFetchText) (.init defaultFetchSetting) tunnelRun = some t ∧
    t.dialled.map (fun d => String.ofList d.2) = ["[2002:7f00:1::]:80", "[::7f00:1]:80"] ∧
    ∀ d ∈ t.dialled, ∃ ip, addressIP d.2 = some ip ∧ Tunnelled ip 0x7f000001 ∧
      ListedV4 0x7f000001 ∧ Internal ip := by
  have hlisted : ListedV4 0x7f000001 := ⟨v4Net 127 0 0 0 8, by decide +kernel, by decide +kernel⟩
  have hdialled : (run (fetchStep plainFetchText) (.init defaultFetchSetting) tunnelRun).map
      (fun t => t.dialled.map Prod.snd)
        = some ["[2002:7f00:1::]:80".toList, "[::7f00:1]:80".toList] := by
    decide +kernel
  obtain ⟨t, hrun, heq⟩ := Option.map_eq_some_iff.mp hdialled
  have hinternal : ∀ ip, Tunnelled ip 0x7f000001 → Internal ip :=
    fun ip h => .inr ⟨_, .inr h, hlisted⟩
  refine ⟨t, hrun, ?_, ?_⟩
  · have hmap : t.dialled.map (fun d => String.ofList d.2)
        = (t.dialled.map Prod.snd).map String.ofList := by
      rw [map_map]
      rfl
    rw [hmap, heq]
    decide +kernel
  · intro d hd
    have hmem : d.2 ∈ t.dialled.map Prod.snd := mem_map_of_mem hd
    rw [heq, mem_cons, mem_singleton] at hmem
    rcases hmem with hsix | hcompatible
    · have hip : addressIP d.2 = some (BitVec.ofNat 128 (0x20027f000001 * 2 ^ 80)) := by
        rw [hsix]
        decide +kernel
      have htunnel : Tunnelled (BitVec.ofNat 128 (0x20027f000001 * 2 ^ 80)) 0x7f000001 :=
        .sixToFour (by decide +kernel) (by decide +kernel)
      exact ⟨_, hip, htunnel, hlisted, hinternal _ htunnel⟩
    have hip : addressIP d.2 = some (BitVec.ofNat 128 0x7f000001) := by
      rw [hcompatible]
      decide +kernel
    have htunnel : Tunnelled (BitVec.ofNat 128 0x7f000001) 0x7f000001 :=
      .compatible (by decide +kernel)
    exact ⟨_, hip, htunnel, hlisted, hinternal _ htunnel⟩

end NewApi.Service
