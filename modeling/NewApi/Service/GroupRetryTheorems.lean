import NewApi.Billingexpr.FixedTheorems
import NewApi.Service.BillingEnds
import NewApi.Service.GroupRetry

/-!
# Retries stay covered by the reservation

Whatever groups the attempts of a request select, before each one the session has reserved the
estimate for its group, or the attempt is refused; and a response is settled at the ratio of the
group it came from. Only a response whose expression fails is not: it keeps the reservation, which
an earlier and dearer group may have raised.

The session of a request goes through the steps of `billingStep` (`Reached`), so what it charges
follows from the theorems about those.
-/

namespace NewApi.Service

open Model Common Runs BillingSession Prod RelayState Option Binary64
open Billingexpr (CachedEntry ExprLang RequestInput TokenParams BillingUnit Node Value
  HostFunction Comp)

/-! ## The statement -/

/-- The funding source of the session. Without one it does not matter, since nothing is charged. -/
def RelayState.funding (s : RelayState) : FundingSource :=
  match s.billing with
  | none => .wallet ⟨0⟩
  | some session => session.funding

section
variable {D S : Type} (env : RelayEnv D S)

/-- What a response costs in a group with the given ratio, if its own amount before the ratio is
`beforeGroup`. -/
def ratioQuota (response : Response) (beforeGroup : Binary64) (unit : BillingUnit)
    (ratio : Binary64) : Int :=
  match response.kind with
  | .text toolQuota =>
    if toolQuota * env.dec.newFromFloat ratio = 0 then (quotaRoundChecked (beforeGroup.mul ratio)).1
    else (quotaFromDecimalChecked (env.dec.newFromFloat beforeGroup * env.dec.newFromFloat ratio
      + toolQuota * env.dec.newFromFloat ratio)).1
  | .audio totalTokens =>
    if totalTokens = 0 ∧ unit ≠ .request then 0 else (quotaRoundChecked (beforeGroup.mul ratio)).1

/-- What is promised in a state in which a channel may have the request. -/
structure RetriesCovered (info : RelayInfo) (l₀ : Ledger) (s : RelayState) : Prop where
  /-- the estimate for the selected group is reserved -/
  covered : ∀ ratio, s.sent = some ratio →
    ∃ estimate, quotaRoundStrict (s.snapshot.estimatedQuotaBeforeGroup.mul ratio) = .ok estimate ∧
      (s.trusted = false → estimate ≤ s.reserved)
  /-- the response is settled at the ratio of its group -/
  settled : ∀ ratio response result, s.sent = some ratio →
    computeTieredQuotaWithRequest env s.snapshot response.params (s.settleInput env response)
      = .ok result →
    s.settledQuota env response
      = ratioQuota env response result.actualQuotaBeforeGroup result.billingUnit ratio
  /-- unless its expression fails: then it keeps what is reserved -/
  retained : ∀ ratio response e, s.sent = some ratio →
    computeTieredQuotaWithRequest env s.snapshot response.params (s.settleInput env response)
      = .error e →
    ∃ estimate, quotaRoundStrict (s.snapshot.estimatedQuotaBeforeGroup.mul ratio) = .ok estimate ∧
      (s.tryTieredSettle env response).1 = if s.reserved ≤ 0 then estimate else s.reserved
  /-- and charged exactly what is settled -/
  charged : ∀ ratio response s', s.sent = some ratio →
    s.settleBilling env (s.settledQuota env response) = (none, s') → NoFaults l₀ s'.ledger →
    (s.funding.sub? = none ∨ 0 ≤ s.settledQuota env response) →
    FundingCharged env.billing l₀ s'.ledger s.funding (s.settledQuota env response) ∧
      TokenCharged l₀ s'.ledger (info.tokenShare (s.settledQuota env response))

end

/-! ## Sessions -/

/-- A session that has not ended, with the record in step. -/
structure Ready (b : BillingSession) : Prop where
  not_settled : b.settled = false
  not_refunded : b.refunded = false
  nonneg : 0 ≤ b.preConsumedQuota
  synced : b.relayInfo.finalPreConsumedQuota = b.preConsumedQuota

section
variable {env : BillingEnv} {info : RelayInfo} {l l' : Ledger} {b b' : BillingSession} {quota : Int}

/-- A new session has reserved what it was asked for, unless it is trusted. -/
lemma newBillingSession_covers (hq : 0 ≤ quota)
    (h : newBillingSession env info quota l = (.ok b, l')) :
    Ready b ∧ (b.trusted = false → quota ≤ b.preConsumedQuota) := by
  -- both sources end in `preConsume`, on a session as it was allocated
  have hpre : ∀ (info' : RelayInfo) (funding : FundingSource) (q : Int) (l₁ : Ledger), 0 ≤ q →
      (init info' funding).preConsume env l₁ q = (.ok b, l') →
      Ready b ∧ (b.trusted = false → q ≤ b.preConsumedQuota) := by
    intro info' funding q l₁ hq' hok
    have heff := effectiveQuota_nonneg env (init info' funding) hq'
    obtain ⟨l₂, funding', -, -, -, rfl⟩ := preConsume_ok rfl hq' hok
    refine ⟨⟨?_, ?_, ?_, ?_⟩, ?_⟩
    · simp [init]
    · simp [init]
    · simpa using heff
    · simp
    · intro htrusted
      simp only [syncRelayInfo_fields] at htrusted
      simp [effectiveQuota, htrusted]
  obtain ⟨l₁, -, ⟨hw, -⟩ | hsub⟩ := newBillingSession_ok_cases hq h
  · unfold tryWallet at hw
    split at hw
    · cases hw
    split_ifs at hw
    · cases hw
    · cases hw
    · exact hpre _ _ quota _ hq hw
  · unfold trySubscription at hsub
    have hle : quota ≤ if quota ≤ 0 then 1 else quota := by
      split_ifs <;> omega
    obtain ⟨hready, hcovers⟩ := hpre _ _ _ _ (hq.trans hle) hsub
    exact ⟨hready, fun htrusted => hle.trans (hcovers htrusted)⟩

/-- A reservation that succeeds reaches its target, unless the session is trusted. -/
lemma reserve_covers {target : Int} {r : Option ErrorCode} (hb : Ready b)
    (h : b.reserve env l target = (r, b', l')) :
    Ready b' ∧ (r = none → b'.trusted = false → target ≤ b'.preConsumedQuota) := by
  unfold BillingSession.reserve at h
  split at h
  · next hres =>
    dsimp only at h
    have hdelta : b.preConsumedQuota < target := by
      simp only [BillingSession.reserves, decide_eq_true_eq, not_or] at hres
      omega
    have hnonneg := hb.nonneg
    split at h
    · cases h
      exact ⟨hb, fun h => by cases h⟩
    rename_i b₁ l₁ hfund
    -- the funding source is all that the first step changes
    obtain ⟨funding, rfl⟩ := reserveFunding_session hfund
    split at h
    · next l₂ htok =>
      obtain ⟨hr, hback⟩ := Prod.mk.inj h
      obtain ⟨funding', rfl⟩ := rollbackFundingReserve_session hback
      subst hr
      exact ⟨{ hb with }, fun h => by cases h⟩
    cases h
    refine ⟨⟨?_, ?_, ?_, ?_⟩, ?_⟩
    · simpa [BillingSession.recordReserve] using hb.not_settled
    · simpa [BillingSession.recordReserve] using hb.not_refunded
    · simp only [BillingSession.recordReserve, syncRelayInfo_fields]
      omega
    · simp [BillingSession.recordReserve]
    · intro _ _
      simp only [BillingSession.recordReserve, syncRelayInfo_fields]
      omega
  · next hres =>
    cases h
    refine ⟨hb, fun _ htrusted => ?_⟩
    by_contra hlt
    apply hres
    simp [BillingSession.reserves, hb.not_settled, hb.not_refunded, htrusted]
    omega

/-- A session and its ledger are reached from `NewBillingSession` on the ledger `l₀`. -/
def Reached (env : BillingEnv) (info : RelayInfo) (l₀ : Ledger) (b : BillingSession) (l : Ledger) :
    Prop :=
  ∃ quota s l₁ ls, 0 ≤ quota ∧ newBillingSession env info quota l₀ = (.ok s, l₁) ∧
    (∀ x ∈ ls, x.keepsOpen = true) ∧
    run (billingStep env) (.start s l₁) ls
      = some { session := b, ledger := l, job := [], settledWith := none }

lemma Reached.start {l₀ : Ledger} (hq : 0 ≤ quota)
    (h : newBillingSession env info quota l₀ = (.ok b, l)) : Reached env info l₀ b l :=
  ⟨quota, b, l, [], hq, h, nofun, rfl⟩

lemma Reached.step {l₀ : Ledger} (h : Reached env info l₀ b l) (label : BillingLabel)
    (hkeep : label.keepsOpen = true)
    (hstep : billingStep env { session := b, ledger := l, job := [], settledWith := none } label
      = some { session := b', ledger := l', job := [], settledWith := none }) :
    Reached env info l₀ b' l' := by
  obtain ⟨quota, s, l₁, ls, hq, hnew, hls, hrun⟩ := h
  refine ⟨quota, s, l₁, ls ++ [label], hq, hnew, ?_, ?_⟩
  · intro x hx
    rcases List.mem_append.mp hx with hx | hx
    · exact hls x hx
    · rw [List.mem_singleton.mp hx]
      exact hkeep
  · exact run_append.mpr ⟨_, hrun, run_cons.mpr ⟨_, hstep, rfl⟩⟩

end

/-! ## What preparing an attempt does -/

/-- What holds whether or not an attempt is refused: the snapshot is consistent, and the ledgers
are those of the session. -/
structure Consistent (env : BillingEnv) (info : RelayInfo) (l₀ : Ledger) (s : RelayState) :
    Prop where
  info_eq : ∃ count, s.info = { info with imageRequestCount := count }
  estimate : quotaRoundStrict (s.snapshot.estimatedQuotaBeforeGroup.mul s.snapshot.groupRatio)
    = .ok s.snapshot.estimatedQuotaAfterGroup
  idle : s.billing = none → LedgerMoved 0 0 l₀ s.ledger ∧ s.ledger.db = l₀.db
  session : ∀ b, s.billing = some b → Ready b ∧
    ∃ count lₙ, LedgerMoved 0 0 l₀ lₙ ∧ lₙ.db = l₀.db ∧
      Reached env { info with imageRequestCount := count } lₙ b s.ledger

/-- The ratio of the snapshot is that of the prices, up to the sign of zero. -/
def SameRatio (x y : Binary64) : Prop := x = y ∨ x.eq y = true

/-- What holds before the request is sent. -/
structure Prepared (s : RelayState) : Prop where
  same : SameRatio s.snapshot.groupRatio s.priceData.groupRatio
  free : s.billing = none → s.snapshot.groupRatio.eq .zero = true
  covered : s.trusted = false → s.snapshot.estimatedQuotaAfterGroup ≤ s.reserved

section
variable {D S : Type} {env : RelayEnv D S} {info : RelayInfo} {l₀ : Ledger} {s s' : RelayState}
  {r : Option ErrorCode} {quota : Int} {ratio y : Binary64}

/-- Opening or raising the session leaves the snapshot and the ratio as they are, and covers the
quota unless it fails. -/
structure Covers (s s' : RelayState) (r : Option ErrorCode) (quota : Int) : Prop where
  sent : s'.sent = s.sent
  snapshot : s'.snapshot = s.snapshot
  groupRatio : s'.priceData.groupRatio = s.priceData.groupRatio
  opened : r = none → s'.billing ≠ none
  reserved : r = none → s'.trusted = false → quota ≤ s'.reserved

section
variable (h : Consistent env.billing info l₀ s)
include h

lemma preConsumeBilling_covers (hnone : s.billing = none)
    (hpre : s.preConsumeBilling env quota = (r, s')) :
    Consistent env.billing info l₀ s' ∧ Covers s s' r quota := by
  unfold preConsumeBilling at hpre
  split_ifs at hpre with hneg
  · cases hpre
    exact ⟨h, ⟨rfl, rfl, rfl, nofun, nofun⟩⟩
  have hq : 0 ≤ quota := not_lt.mp hneg
  obtain ⟨hmoved, hdb⟩ := h.idle hnone
  split at hpre
  · next e ledger hnew =>
    cases hpre
    obtain ⟨hdb', hmoved'⟩ := newBillingSession_error hq hnew
    refine ⟨⟨h.info_eq, h.estimate, ?_, ?_⟩, ⟨rfl, rfl, rfl, nofun, nofun⟩⟩
    · intro _
      exact ⟨by simpa using hmoved.trans hmoved', hdb'.trans hdb⟩
    · intro b hb
      rw [hnone] at hb
      cases hb
  · next b ledger hnew =>
    cases hpre
    obtain ⟨hready, hcovers⟩ := newBillingSession_covers hq hnew
    obtain ⟨count, hinfo⟩ := h.info_eq
    rw [hinfo] at hnew
    refine ⟨⟨h.info_eq, h.estimate, nofun, ?_⟩, ⟨rfl, rfl, rfl, nofun, fun _ => hcovers⟩⟩
    intro b' hb'
    cases hb'
    exact ⟨hready, count, s.ledger, hmoved, hdb, .start hq hnew⟩

/-- The session moves by a step of its own; nothing else changes. -/
lemma Consistent.of_session {b b' : BillingSession} {l' : Ledger} (hb : s.billing = some b)
    (hready : Ready b') (label : BillingLabel) (hkeep : label.keepsOpen = true) (hstep : billingStep env.billing
        { session := b, ledger := s.ledger, job := [], settledWith := none } label
      = some { session := b', ledger := l', job := [], settledWith := none }) :
    Consistent env.billing info l₀ { s with billing := some b', ledger := l' } :=
  { h with
    idle := nofun
    session b'' hb'' := by
      obtain rfl : b' = b'' := some.inj hb''
      obtain ⟨-, count, lₙ, hmoved, hdb, hreached⟩ := h.session b hb
      exact ⟨hready, count, lₙ, hmoved, hdb, hreached.step label hkeep hstep⟩ }

lemma reserve_consistent {b : BillingSession}
    (hb : s.billing = some b) (hres : s.reserve env b quota = (r, s')) :
    Consistent env.billing info l₀ s' ∧ Covers s s' r quota ∧
      s'.syncFinalPreConsumedQuota = s' := by
  rcases hreserve : b.reserve env.billing s.ledger quota with ⟨e, b', l'⟩
  obtain ⟨hready, hcovers⟩ := reserve_covers (h.session b hb).1 hreserve
  simp only [RelayState.reserve, hreserve, Prod.mk.injEq] at hres
  obtain ⟨rfl, rfl⟩ := hres
  have hinfo : { b'.relayInfo with finalPreConsumedQuota := b'.preConsumedQuota }
      = b'.relayInfo := by
    rw [← hready.synced]
  refine ⟨?_, ⟨rfl, rfl, rfl, nofun, hcovers⟩, ?_⟩
  · apply h.of_session hb hready (.reserve quota) rfl
    simp only [billingStep, hreserve]
  · simp only [RelayState.syncFinalPreConsumedQuota, Option.map_some, hinfo]

lemma cover_covers (hcover : s.cover env quota = (r, s')) :
    Consistent env.billing info l₀ s' ∧ Covers s s' r quota := by
  have h₁ : Consistent env.billing info l₀
      { s with priceData := { s.priceData with freeModel := false } } :=
    { h with }
  unfold cover at hcover
  dsimp only at hcover
  split at hcover
  · next hnone =>
    obtain ⟨hcons, hcov⟩ := preConsumeBilling_covers h₁ hnone hcover
    exact ⟨hcons, { hcov with }⟩
  rename_i b hb
  split at hcover
  · next e s₁ hres =>
    cases hcover
    obtain ⟨hcons, hcov, -⟩ := reserve_consistent h₁ hb hres
    exact ⟨hcons, { hcov with }⟩
  rename_i s₁ hres
  cases hcover
  obtain ⟨hcons, hcov, hsync⟩ := reserve_consistent h₁ hb hres
  rw [hsync]
  exact ⟨hcons, { hcov with }⟩

end

/-- A snapshot is refreshed to the selected ratio, and its estimate with it. -/
lemma refresh_ok {snap snap' : BillingSnapshot}
    (hestimate : quotaRoundStrict (snap.estimatedQuotaBeforeGroup.mul snap.groupRatio)
      = .ok snap.estimatedQuotaAfterGroup)
    (h : refreshTieredBillingGroup snap ratio = .ok snap') :
    SameRatio snap'.groupRatio ratio ∧
      quotaRoundStrict (snap'.estimatedQuotaBeforeGroup.mul snap'.groupRatio)
        = .ok snap'.estimatedQuotaAfterGroup := by
  unfold refreshTieredBillingGroup at h
  split_ifs at h with heq
  · cases h
    exact ⟨.inr heq, hestimate⟩
  split at h
  · cases h
  rename_i estimate hround
  cases h
  exact ⟨.inl rfl, hround⟩

lemma ratio_free (hfree : ratio.eq .zero = true) (x : Binary64) :
    (quotaRoundChecked (x.mul ratio)).1 = 0 := by
  rw [quotaRoundChecked_mul_eq hfree]
  exact quotaRoundChecked_mul_zero x false _

/-- The estimate for a free group is zero. -/
lemma estimate_free {x : Binary64} {estimate : Int} (hfree : ratio.eq .zero = true)
    (h : quotaRoundStrict (x.mul ratio) = .ok estimate) : estimate = 0 := by
  rw [← quotaRoundStrict_ok h, ratio_free hfree]

section
variable (h : Consistent env.billing info l₀ s)
include h

lemma reserved_nonneg : 0 ≤ s.reserved := by
  unfold reserved
  split
  · exact le_refl 0
  · next b hb => exact (h.session b hb).1.nonneg

lemma prepareTiered_prepared
    (hprep : s.prepareTieredBillingForSelectedGroup env = (r, s')) :
    Consistent env.billing info l₀ s' ∧ s'.priceData.groupRatio = s.priceData.groupRatio ∧
      (r = none → Prepared s') := by
  unfold RelayState.prepareTieredBillingForSelectedGroup at hprep
  split at hprep
  · cases hprep
    exact ⟨h, rfl, nofun⟩
  rename_i snap hrefresh
  obtain ⟨hsame, hestimate⟩ := refresh_ok h.estimate hrefresh
  have h₁ : Consistent env.billing info l₀ { s with snapshot := snap } :=
    { h with estimate := hestimate }
  dsimp only at hprep
  split_ifs at hprep with hfree
  · cases hprep
    refine ⟨h₁, rfl, fun _ => ⟨hsame, fun _ => hfree, fun _ => ?_⟩⟩
    rw [estimate_free hfree hestimate]
    exact reserved_nonneg h₁
  rcases hcover : RelayState.cover env { s with snapshot := snap }
    snap.estimatedQuotaAfterGroup with ⟨e, s₁⟩
  obtain ⟨hcons, hcov⟩ := cover_covers h₁ hcover
  -- whatever the error is reported as, the state is the same
  obtain ⟨rfl, hr⟩ : s₁ = s' ∧ (r = none → e = none) := by
    rw [hcover] at hprep
    cases hbilling : s.billing with
    | none =>
      simp only [hbilling, Prod.mk.injEq] at hprep
      exact ⟨hprep.2, fun hr => hprep.1.trans hr⟩
    | some b =>
      cases e with
      | none =>
        simp only [hbilling, Prod.mk.injEq] at hprep
        exact ⟨hprep.2, fun _ => rfl⟩
      | some code =>
        simp only [hbilling, Prod.mk.injEq] at hprep
        exact ⟨hprep.2, fun hr => absurd (hprep.1.trans hr) nofun⟩
  refine ⟨hcons, hcov.groupRatio, fun hnone => ⟨?_, ?_, ?_⟩⟩
  · rw [hcov.snapshot, hcov.groupRatio]
    exact hsame
  · intro hbilling
    exact absurd hbilling (hcov.opened (hr hnone))
  · rw [hcov.snapshot]
    exact hcov.reserved (hr hnone)

lemma setImageRequestCount_consistent (count : Int) :
    Consistent env.billing info l₀ (s.setImageRequestCount count) := by
  have hinfo : ∃ c, (s.setImageRequestCount count).info = { info with imageRequestCount := c } := by
    obtain ⟨c, hc⟩ := h.info_eq
    refine ⟨count, ?_⟩
    rw [setImageRequestCount, hc]
  cases hb : s.billing with
  | none =>
    refine ⟨hinfo, h.estimate, fun _ => h.idle hb, ?_⟩
    intro b' hb'
    simp [setImageRequestCount, hb] at hb'
  | some b =>
    have hready := (h.session b hb).1
    have h₁ : Consistent env.billing info l₀ { s with
        billing := some { b with relayInfo := { b.relayInfo with imageRequestCount := count } }
        ledger := s.ledger } := by
      apply h.of_session hb _ (.imageCount count) rfl rfl
      exact { hready with }
    refine ⟨hinfo, h.estimate, ?_, ?_⟩
    · intro hnone
      simp [setImageRequestCount, hb] at hnone
    · intro b' hb'
      simp only [setImageRequestCount, hb, map_some] at hb'
      exact h₁.session b' hb'

end

lemma setImageRequestCount_prepared (h : Prepared s) (count : Int) :
    Prepared (s.setImageRequestCount count) := by
  have htrusted : (s.setImageRequestCount count).trusted = s.trusted := by
    unfold RelayState.trusted RelayState.setImageRequestCount
    cases s.billing <;> rfl
  have hreserved : (s.setImageRequestCount count).reserved = s.reserved := by
    unfold RelayState.reserved RelayState.setImageRequestCount
    cases s.billing <;> rfl
  refine ⟨h.same, ?_, ?_⟩
  · intro hnone
    apply h.free
    simpa [RelayState.setImageRequestCount] using hnone
  · rw [htrusted, hreserved]
    exact h.covered

lemma SameRatio.free {x : Binary64} (h : SameRatio x y) (hx : x.eq .zero = true) :
    y.eq .zero = true := by
  rcases h with rfl | heq
  · exact hx
  rcases eq_cases heq with rfl | ⟨-, t, h₀, -, rfl⟩
  · exact hx
  · cases t <;> rfl

lemma prepareImage_prepared (h : Consistent env.billing info l₀ s) (hprepared : Prepared s)
    {count : Int} (hprep : s.prepareImageBillingForRequest env count = (r, s')) :
    Consistent env.billing info l₀ s' ∧ s'.priceData.groupRatio = s.priceData.groupRatio ∧
      (r = none → Prepared s') := by
  have h₁ := setImageRequestCount_consistent h count
  have hprepared₁ := setImageRequestCount_prepared hprepared count
  unfold RelayState.prepareImageBillingForRequest at hprep
  split_ifs at hprep with hcount
  · cases hprep
    exact ⟨h, rfl, nofun⟩
  dsimp only at hprep
  split_ifs at hprep with hnoCount
  · cases hprep
    exact ⟨h₁, rfl, fun _ => hprepared₁⟩
  split at hprep
  · cases hprep
    exact ⟨h₁, rfl, nofun⟩
  rename_i cost hcost
  split at hprep
  · cases hprep
    exact ⟨h₁, rfl, nofun⟩
  rename_i quota hround
  -- the snapshot now has the estimate for these images, at the ratio of the prices
  split_ifs at hprep with hzero
  · cases hprep
    refine ⟨{ h₁ with estimate := hround }, rfl, fun _ => ⟨.inl rfl, ?_, ?_⟩⟩
    · intro hnone
      exact hprepared₁.same.free (hprepared₁.free hnone)
    · intro _
      show quota ≤ (s.setImageRequestCount count).reserved
      rw [hzero.1]
      exact reserved_nonneg h₁
  obtain ⟨hcons, hcov⟩ :=
    cover_covers (by exact { h₁ with estimate := hround }) hprep
  refine ⟨hcons, hcov.groupRatio, fun hr => ⟨?_, ?_, ?_⟩⟩
  · rw [hcov.snapshot, hcov.groupRatio]
    exact .inl rfl
  · intro hnone
    exact absurd hnone (hcov.opened hr)
  · rw [hcov.snapshot]
    exact hcov.reserved hr

/-- Every way to prepare an attempt leads to a consistent state, and to a prepared one unless the
attempt is refused. -/
lemma prepareAttempt_prepared (h : Consistent env.billing info l₀ s)
    {images : Option Int} (hprep : s.prepareAttempt env ratio images = (r, s')) :
    Consistent env.billing info l₀ s' ∧ (r = none → Prepared s') := by
  have h₁ : Consistent env.billing info l₀ (s.getChannel ratio) :=
    { h with }
  unfold prepareAttempt at hprep
  split at hprep
  · next e s₁ htiered =>
    cases hprep
    exact ⟨(prepareTiered_prepared h₁ htiered).1, nofun⟩
  rename_i s₁ htiered
  obtain ⟨hcons, -, hprepared⟩ := prepareTiered_prepared h₁ htiered
  split at hprep
  · cases hprep
    exact ⟨hcons, fun _ => hprepared rfl⟩
  rename_i count
  obtain ⟨hcons', -, hprepared'⟩ := prepareImage_prepared
    (setImageRequestCount_consistent hcons 0) (setImageRequestCount_prepared (hprepared rfl) 0)
    hprep
  exact ⟨hcons', hprepared'⟩

/-! ## Runs -/

/-- The invariant of the loop. -/
structure RelayInv (env : BillingEnv) (info : RelayInfo) (l₀ : Ledger) (s : RelayState) :
    Prop where
  consistent : Consistent env info l₀ s
  sent : ∀ ratio, s.sent = some ratio → Prepared s ∧ s.priceData.groupRatio = ratio

/-- Background work on an account moves nothing. -/
lemma RelayInv.background (h : RelayInv env.billing info l₀ s) {ledger : Ledger}
    (hmoved : LedgerMoved 0 0 s.ledger ledger) (hdb : ledger.db = s.ledger.db)
    (label : BillingLabel) (hkeep : label.keepsOpen = true) (hstep : ∀ b, billingStep env.billing
        { session := b, ledger := s.ledger, job := [], settledWith := none } label
      = some { session := b, ledger := ledger, job := [], settledWith := none }) :
    RelayInv env.billing info l₀ { s with ledger := ledger } := by
  refine ⟨{ h.consistent with idle := ?_, session := ?_ }, ?_⟩
  · intro hnone
    obtain ⟨hmoved₀, hdb₀⟩ := h.consistent.idle hnone
    exact ⟨by simpa using hmoved₀.trans hmoved, hdb.trans hdb₀⟩
  · intro b hb
    obtain ⟨hready, count, lₙ, hmovedₙ, hdbₙ, hreached⟩ := h.consistent.session b hb
    exact ⟨hready, count, lₙ, hmovedₙ, hdbₙ, hreached.step label hkeep (hstep b)⟩
  · intro ratio hsent
    obtain ⟨hprepared, hratio⟩ := h.sent ratio hsent
    exact ⟨{ hprepared with }, hratio⟩

/-- **Step lemma.** -/
lemma relayStep_inv (h : RelayInv env.billing info l₀ s) {label : RelayLabel}
    (hstep : relayStep env s label = some s') : RelayInv env.billing info l₀ s' := by
  cases label with
  | attempt ratio images =>
    simp only [relayStep] at hstep
    split_ifs at hstep
    split at hstep
    · next e s₁ hprep =>
      cases hstep
      obtain ⟨hcons, -⟩ := prepareAttempt_prepared h.consistent hprep
      refine ⟨{ hcons with }, ?_⟩
      intro ratio' hsent
      simp at hsent
    rename_i s₁ hprep
    cases hstep
    obtain ⟨hcons, hprepared⟩ := prepareAttempt_prepared h.consistent hprep
    refine ⟨{ hcons with }, ?_⟩
    intro ratio' hsent
    have hready := hprepared rfl
    rw [some.injEq] at hsent
    exact ⟨{ hready with }, hsent⟩
  | flush k =>
    rw [relayStep, some.injEq] at hstep
    subst hstep
    obtain ⟨hmoved, hdb⟩ := updateAccount_moved (l := s.ledger) (batchUpdate_moved k)
    exact h.background hmoved hdb (.flush k) rfl fun b => rfl
  | cache k cached fenced =>
    rw [relayStep, some.injEq] at hstep
    subst hstep
    obtain ⟨hmoved, hdb⟩ := updateAccount_moved (l := s.ledger) (cache_moved k cached fenced)
    exact h.background hmoved hdb (.cache k cached fenced) rfl fun b => rfl

lemma relayStart_inv {entry : CachedEntry} {promptTokens maxTokens : Int}
    (h : relayStart env info l₀ entry promptTokens maxTokens ratio = .ok s) :
    RelayInv env.billing { info with finalPreConsumedQuota := 0 } l₀ s := by
  unfold relayStart at h
  split at h
  · cases h
  rename_i snapshot priceData hprice
  -- a priced request has a consistent snapshot
  have hestimate : quotaRoundStrict (snapshot.estimatedQuotaBeforeGroup.mul snapshot.groupRatio)
      = .ok snapshot.estimatedQuotaAfterGroup := by
    unfold modelPriceHelperTiered at hprice
    dsimp only at hprice
    split at hprice
    · cases hprice
    split at hprice
    · cases hprice
    rename_i estimate hround
    rw [Except.ok.injEq, Prod.mk.injEq] at hprice
    obtain ⟨rfl, rfl⟩ := hprice
    dsimp only
    rw [hround]
    split_ifs with hfree
    · -- the estimate of a group that skips the pre-consumption is zero anyway
      rw [Bool.and_eq_true] at hfree
      rw [estimate_free hfree.2 hround]
    · rfl
  -- nothing is charged yet
  have hstart : ∀ s : RelayState, s.snapshot = snapshot →
      s.info = { info with finalPreConsumedQuota := 0 } → s.billing = none → s.ledger = l₀ →
      Consistent env.billing { info with finalPreConsumedQuota := 0 } l₀ s := by
    rintro s rfl hinfo hnone rfl
    refine ⟨⟨info.imageRequestCount, hinfo⟩, hestimate, fun _ => ⟨LedgerMoved.refl _, rfl⟩, ?_⟩
    intro b hb
    simp [hnone] at hb
  dsimp only at h
  split_ifs at h with hfree
  · cases h
    refine ⟨hstart _ rfl rfl rfl rfl, ?_⟩
    intro ratio' hsent
    simp at hsent
  split at h
  · cases h
  rename_i s₁ hpre
  cases h
  obtain ⟨hcons, hcov⟩ := preConsumeBilling_covers (hstart _ rfl rfl rfl rfl) rfl hpre
  refine ⟨hcons, ?_⟩
  intro ratio' hsent
  rw [hcov.sent] at hsent
  simp at hsent

/-! ## Settlement -/

lemma SameRatio.round_eq {x : Binary64} (h : SameRatio x y) (amount : Binary64) :
    quotaRoundChecked (amount.mul x) = quotaRoundChecked (amount.mul y) := by
  rcases h with rfl | heq
  · rfl
  · exact quotaRoundChecked_mul_eq heq amount

/-- The decimal of either zero is zero, so the decimals of the two ratios are the same. -/
lemma SameRatio.newFromFloat_eq {x : Binary64} (h : SameRatio x y)
    (hdec : ∀ x, x.eq zero = true → env.dec.newFromFloat x = 0) :
    env.dec.newFromFloat x = env.dec.newFromFloat y := by
  rcases h with rfl | heq
  · rfl
  rcases eq_cases heq with rfl | ⟨s, t, h₀, rfl, rfl⟩
  · rfl
  · rw [hdec _ (by cases s <;> rfl), hdec _ (by cases t <;> rfl)]

/-- A response whose expression has run is settled at the ratio of the prices. -/
lemma settledQuota_eq (hprepared : Prepared s)
    (hdec : ∀ x, x.eq zero = true → env.dec.newFromFloat x = 0) {response : Response}
    {result : TieredResult} (hresult : computeTieredQuotaWithRequest env s.snapshot response.params
      (s.settleInput env response) = .ok result) :
    s.settledQuota env response = ratioQuota env response result.actualQuotaBeforeGroup
      result.billingUnit s.priceData.groupRatio := by
  have hafter : result.actualQuotaAfterGroup = (quotaRoundChecked
      (result.actualQuotaBeforeGroup.mul s.priceData.groupRatio)).1 := by
    rw [← hprepared.same.round_eq]
    unfold computeTieredQuotaWithRequest at hresult
    dsimp only at hresult
    split at hresult <;> cases hresult
    rfl
  have htry : s.tryTieredSettle env response = (result.actualQuotaAfterGroup, some result) := by
    rw [tryTieredSettle, hresult]
  unfold settledQuota ratioQuota
  rw [htry]
  cases response.kind with
  | text toolQuota =>
    simp only [composeTieredTextQuota, hprepared.same.newFromFloat_eq hdec, hafter]
  | audio totalTokens =>
    simp only [isFixedPriceSettlement, hafter, decide_eq_true_eq, ne_eq]

/-- A request without a session is in a free group, and settles to nothing. -/
lemma settledQuota_idle (h : Consistent env.billing info l₀ s) (hprepared : Prepared s)
    (hinfo : info.finalPreConsumedQuota = 0)
    (hdec : ∀ x, x.eq Binary64.zero = true → env.dec.newFromFloat x = 0)
    (hnone : s.billing = none) (response : Response) : s.settledQuota env response = 0 := by
  have hfree := hprepared.free hnone
  have hsurcharge : env.dec.newFromFloat s.priceData.groupRatio = 0 :=
    hdec _ (hprepared.same.free hfree)
  have htry : (s.tryTieredSettle env response).1 = 0 := by
    unfold RelayState.tryTieredSettle
    split
    · have hpre : s.relayInfo.finalPreConsumedQuota = 0 := by
        obtain ⟨count, hcount⟩ := h.info_eq
        rw [RelayState.relayInfo, hnone]
        simp only [hcount, hinfo]
      simp only [hpre, le_refl, if_true, estimate_free hfree h.estimate]
    rename_i result hresult
    unfold computeTieredQuotaWithRequest at hresult
    dsimp only at hresult
    split at hresult
    · cases hresult
    rename_i cost hcost
    cases hresult
    exact ratio_free hfree _
  unfold RelayState.settledQuota
  cases response.kind with
  | text toolQuota => simp only [hsurcharge, mul_zero, composeTieredTextQuota, if_true, htry]
  | audio totalTokens =>
    simp only [htry]
    split_ifs <;> rfl

end

section
variable {env : BillingEnv} {l₀ lₙ l : Ledger} {x : Int}

/-- A charge can be measured from an earlier ledger, if nothing was charged in between. -/
lemma FundingCharged.rebase {funding funding' : FundingSource} (hmoved : LedgerMoved 0 0 l₀ lₙ)
    (hdb : lₙ.db = l₀.db) (hclean : NoFaults l₀ lₙ) (hsub : funding.sub? = funding'.sub?)
    (h : FundingCharged env lₙ l funding x) : FundingCharged env l₀ l funding' x := by
  have htotal : lₙ.user.total .user = l₀.user.total .user := by
    simpa using hmoved.user.total_eq (faults_eq hmoved hclean).1
  cases funding with
  | wallet w =>
    cases funding' with
    | wallet w' =>
      simp only [FundingCharged, htotal] at h ⊢
      exact h
    | subscription f' => simp at hsub
  | subscription f =>
    cases funding' with
    | wallet w' => simp at hsub
    | subscription f' =>
      simp only [sub?_subscription, some.injEq] at hsub
      simp only [FundingCharged, htotal, hdb, hsub] at h ⊢
      exact h

lemma TokenCharged.rebase (hmoved : LedgerMoved 0 0 l₀ lₙ) (hclean : NoFaults l₀ lₙ)
    (h : TokenCharged lₙ l x) : TokenCharged l₀ l x := by
  have htotal : lₙ.token.total .token = l₀.token.total .token := by
    simpa using hmoved.token.total_eq (faults_eq hmoved hclean).2
  rw [TokenCharged, htotal] at h
  exact h

end

section
variable {D S : Type} {env : RelayEnv D S} {info : RelayInfo} {l₀ : Ledger} {s s' : RelayState}

section
variable (h : Consistent env.billing info l₀ s)
include h

/-- What is settled is charged. -/
lemma settleBilling_charges
    (hfresh : l₀.db.records.get? info.requestId = none) {quota : Int}
    (hidle : s.billing = none → quota = s.info.finalPreConsumedQuota ∧ quota = 0)
    (hsettle : s.settleBilling env quota = (none, s')) (hclean : NoFaults l₀ s'.ledger)
    (hquota : s.funding.sub? = none ∨ 0 ≤ quota) :
    FundingCharged env.billing l₀ s'.ledger s.funding quota ∧
      TokenCharged l₀ s'.ledger (info.tokenShare quota) := by
  unfold RelayState.settleBilling at hsettle
  split at hsettle
  · next b hb =>
    obtain ⟨-, count, lₙ, hmoved, hdb, quota₀, s₀, l₁, ls, hq, hnew, hls, hrun⟩ := h.session b hb
    rcases hset : b.settle env.billing s.ledger quota with ⟨e, b', l'⟩
    simp only [hset, Prod.mk.injEq, Option.map_eq_none_iff] at hsettle
    obtain ⟨rfl, rfl⟩ := hsettle
    have hopen := newBillingSession_opened hq (hdb ▸ hfresh) hnew
    have hle₁ := hmoved.faults_le
    have hle₂ := faults_le_of_run hopen hrun
    have hle₃ := settle_faults_le hset
    have hclean₁ : NoFaults l₀ lₙ := by
      unfold NoFaults at *
      dsimp only at hle₂ hclean
      omega
    have hclean₂ : NoFaults lₙ l' := by
      unfold NoFaults at *
      dsimp only at hle₂ hclean
      omega
    have hclean₃ : NoFaults lₙ s.ledger := by
      unfold NoFaults at *
      dsimp only at hle₂ hclean
      omega
    have hsource : b.funding.sub? = s₀.funding.sub? := (open_of_run hopen hls hrun hclean₃).1.source
    have hfunding : s.funding = b.funding := by
      rw [RelayState.funding, hb]
    rw [hfunding] at hquota ⊢
    rw [hsource] at hquota
    obtain ⟨hcharged, htoken⟩ := settle_charges hopen hls hrun hquota hset hclean₂
    exact ⟨hcharged.rebase hmoved hdb hclean₁ hsource.symm, htoken.rebase hmoved hclean₁⟩
  · next hnone =>
    obtain ⟨hsame, rfl⟩ := hidle hnone
    obtain ⟨hmoved, hdb⟩ := h.idle hnone
    have hdelta : (0 : Int) - s.info.finalPreConsumedQuota = 0 := by omega
    simp only [hdelta, if_true, Prod.mk.injEq, true_and] at hsettle
    subst hsettle
    obtain ⟨huser, htoken⟩ := faults_eq hmoved hclean
    have hfunding : s.funding = .wallet ⟨0⟩ := by
      rw [RelayState.funding, hnone]
    rw [hfunding]
    refine ⟨hmoved.user.total_eq huser, ?_⟩
    have hshare : info.tokenShare 0 = 0 := by
      unfold RelayInfo.tokenShare
      split_ifs <;> rfl
    rw [hshare]
    exact hmoved.token.total_eq htoken

/-- The estimate of the snapshot is the one for the ratio of the prices. -/
lemma estimate_selected (hprepared : Prepared s) :
    quotaRoundStrict (s.snapshot.estimatedQuotaBeforeGroup.mul s.priceData.groupRatio)
      = .ok s.snapshot.estimatedQuotaAfterGroup := by
  have hestimate := h.estimate
  unfold quotaRoundStrict at hestimate ⊢
  rw [← hprepared.same.round_eq]
  exact hestimate

/-- The record knows what is reserved. -/
lemma finalPreConsumedQuota_eq
    (hinfo : info.finalPreConsumedQuota = 0) :
    s.relayInfo.finalPreConsumedQuota = s.reserved := by
  unfold RelayState.relayInfo RelayState.reserved
  cases hb : s.billing with
  | none =>
    obtain ⟨count, hcount⟩ := h.info_eq
    simp only [hcount, hinfo]
  | some b => exact (h.session b hb).1.synced

end

/-- However the groups of the attempts follow each other, and whatever background work runs in
between. The request is a new one, and the decimal of a zero is zero. -/
theorem retries_stay_covered (env : RelayEnv D S)
    (hdec : ∀ x, x.eq Binary64.zero = true → env.dec.newFromFloat x = 0) (info : RelayInfo)
    (ledger : Ledger) (hfresh : ledger.db.records.get? info.requestId = none)
    (entry : CachedEntry) (promptTokens maxTokens : Int) (groupRatio : Binary64)
    (labels : List RelayLabel) (s₀ s : RelayState)
    (hstart : relayStart env info ledger entry promptTokens maxTokens groupRatio = .ok s₀)
    (hrun : run (relayStep env) s₀ labels = some s) : RetriesCovered env info ledger s := by
  obtain ⟨hconsistent, hsent⟩ :=
    run_invariant' (RelayInv env.billing { info with finalPreConsumedQuota := 0 } ledger)
      (fun _ _ _ hI hstep => relayStep_inv hI hstep) (relayStart_inv hstart) hrun
  refine ⟨?_, ?_, ?_, ?_⟩
  · rintro ratio hratio
    obtain ⟨hprepared, rfl⟩ := hsent ratio hratio
    exact ⟨_, estimate_selected hconsistent hprepared, hprepared.covered⟩
  · intro ratio response result hratio hresult
    obtain ⟨hprepared, rfl⟩ := hsent ratio hratio
    exact settledQuota_eq hprepared hdec hresult
  · intro ratio response e hratio herror
    obtain ⟨hprepared, rfl⟩ := hsent ratio hratio
    refine ⟨_, estimate_selected hconsistent hprepared, ?_⟩
    rw [tryTieredSettle, herror]
    simp only [finalPreConsumedQuota_eq hconsistent rfl]
  · intro ratio response s' hratio hsettle hclean hquota
    obtain ⟨hprepared, rfl⟩ := hsent ratio hratio
    refine settleBilling_charges hconsistent hfresh ?_ hsettle hclean hquota
    intro hnone
    have hzero := settledQuota_idle hconsistent hprepared rfl hdec hnone response
    obtain ⟨count, hcount⟩ := hconsistent.info_eq
    rw [hzero, hcount]
    exact ⟨rfl, rfl⟩

end

/-! ## Concrete retries -/

/-- A dollar for a million prompt tokens, up to a million of them. -/
def uptoMillion : Node :=
  .conditional true (.binary "<=" (.identifier "p") (.integer 1000000))
    (Billingexpr.tierCall (.string "base") (.identifier "p")) (.string "unpriced")

def retryEnv : RelayEnv Empty Unit where
  billing := plainEnv
  lang := Billingexpr.plainLang
  dec := {
    newFromFloat
      | .finite neg mag _ => if neg then -(mag / 2 ^ 1074) else mag / 2 ^ 1074
      | _ => 0
    inexactFloat64 _ := .zero }
  request := Billingexpr.fastRequest
  quotaPerUnit := .ofInt 500000
  enableFreeModelPreConsume := false

lemma retryEnv_decimal_zero (x : Binary64) (h : x.eq .zero = true) :
    retryEnv.dec.newFromFloat x = 0 := by
  rcases eq_cases h with rfl | ⟨neg, -, h₀, rfl, -⟩
  · simp [retryEnv, zero]
  · simp [retryEnv]

/-- A request of a hundred tokens that starts in a group with the given ratio. -/
def retryRun (groupRatio : Binary64) (labels : List RelayLabel) : Option RelayState :=
  match relayStart retryEnv (plainInfo .walletFirst) plainLedger
    (Billingexpr.plainEntry uptoMillion) 100 1 groupRatio with
  | .error _ => none
  | .ok s₀ => run (relayStep retryEnv) s₀ labels

/-- From a free group to a dear one, and to a cheaper one. -/
theorem retries_stay_covered_free_to_paid : ∃ s,
    retryRun .zero [.attempt .zero none, .attempt (.ofInt 2) none, .attempt .one none] = some s ∧
    s.sent = some .one ∧ s.reserved = 100 ∧ s.trusted = false ∧
    RetriesCovered retryEnv (plainInfo .walletFirst) plainLedger s := by
  have hretry : (retryRun .zero [.attempt .zero none, .attempt (.ofInt 2) none,
      .attempt .one none]).map (fun s => (s.sent, s.reserved, s.trusted))
      = some (some .one, 100, false) := by
    decide +kernel
  obtain ⟨s, hs, hfacts⟩ := Option.map_eq_some_iff.mp hretry
  simp only [Prod.mk.injEq] at hfacts
  refine ⟨s, hs, hfacts.1, hfacts.2.1, hfacts.2.2, ?_⟩
  unfold retryRun at hs
  split at hs
  · cases hs
  · next s₀ hstart =>
    exact retries_stay_covered retryEnv retryEnv_decimal_zero _ _ (by decide) _ _ _ _ _ _ _ hstart hs

/-- A response beyond the million tokens that the expression prices. -/
def unpricedResponse : Response where
  params := estimateParams 2000000 1
  imageCount := none
  kind := .text 0

/-- Two requests whose response came from a group with ratio one. The expression fails for it, and
the request that had first tried a group with ratio two pays the reservation for that one. -/
theorem failed_expression_keeps_dearer_reservation : ∃ s t,
    retryRun (.ofInt 2) [.attempt (.ofInt 2) none, .attempt .one none] = some s ∧
    retryRun .one [.attempt .one none] = some t ∧
    s.sent = some .one ∧ t.sent = some .one ∧
    quotaRoundStrict (s.snapshot.estimatedQuotaBeforeGroup.mul .one) = .ok 50 ∧
    s.settledQuota retryEnv unpricedResponse = 100 ∧
    t.settledQuota retryEnv unpricedResponse = 50 ∧
    (s.settleBilling retryEnv 100).2.ledger.user.row.remain = 900 ∧
    (t.settleBilling retryEnv 50).2.ledger.user.row.remain = 950 := by
  have hdear : (retryRun (.ofInt 2) [.attempt (.ofInt 2) none, .attempt .one none]).map
      (fun s => (s.sent, (quotaRoundStrict (s.snapshot.estimatedQuotaBeforeGroup.mul .one)).toOption,
        s.settledQuota retryEnv unpricedResponse,
        (s.settleBilling retryEnv 100).2.ledger.user.row.remain))
      = some (some .one, some 50, 100, 900) := by
    decide +kernel
  have hcheap : (retryRun .one [.attempt .one none]).map
      (fun s => (s.sent, s.settledQuota retryEnv unpricedResponse,
        (s.settleBilling retryEnv 50).2.ledger.user.row.remain)) = some (some .one, 50, 950) := by
    decide +kernel
  obtain ⟨s, hs, hfacts⟩ := Option.map_eq_some_iff.mp hdear
  obtain ⟨t, ht, hfacts'⟩ := Option.map_eq_some_iff.mp hcheap
  simp only [Prod.mk.injEq] at hfacts hfacts'
  have hestimate : quotaRoundStrict (s.snapshot.estimatedQuotaBeforeGroup.mul .one) = .ok 50 := by
    have h := hfacts.2.1
    revert h
    cases quotaRoundStrict (s.snapshot.estimatedQuotaBeforeGroup.mul .one) with
    | error e | ok quota => simp [Except.toOption]
  exact ⟨s, t, hs, ht, hfacts.1, hfacts'.1, hestimate, hfacts.2.2.1, hfacts'.2.1, hfacts.2.2.2,
    hfacts'.2.2⟩

end NewApi.Service
