import NewApi.Service.BillingEnds
import NewApi.Service.Realtime

/-!
# What a realtime session is charged

Every turn is charged on both ledgers when it ends, past the billing session, and the settlement
charges the whole usage over what the billing session had pre-consumed. So a session ends charged
the quota of its total usage and, on top of it, the quota of each of its turns.
-/

namespace NewApi.Service

open Model Common Runs RealtimeUsage LedgerMoved RelayInfo RealtimeState

/-! ## Prices -/

section
variable (settings : RatioSettings)

/-- Whatever the counts and the ratios are, the amount is not negative. -/
lemma audioAmount_nonneg (info : QuotaInfo) : 0 ≤ audioAmount settings info := by
  unfold audioAmount
  dsimp only
  split_ifs with h
  · exact zero_le_one
  by_cases hratio : info.groupRatio * info.modelRatio = 0
  · rw [hratio, mul_zero]
  · have hpos := not_and.mp h hratio
    exact le_of_lt (not_le.mp hpos)

lemma calculateAudioQuota_nonneg {info : QuotaInfo} (hratio : info.usePrice = false) :
    0 ≤ (calculateAudioQuota settings info).1 := by
  rw [calculateAudioQuota, hratio, if_neg Bool.false_ne_true]
  exact quotaFromDecimalChecked_nonneg (audioAmount_nonneg settings info)

lemma turnQuota_nonneg {ws : RealtimeInfo} (hratio : ws.usePrice = false) (usage : RealtimeUsage) :
    0 ≤ turnQuota settings ws usage :=
  calculateAudioQuota_nonneg settings hratio

lemma totalQuota_nonneg {ws : RealtimeInfo} (hratio : ws.priceUsePrice = false)
    (usage : RealtimeUsage) : 0 ≤ totalQuota settings ws usage := by
  unfold totalQuota
  split_ifs with h
  · exact le_refl 0
  · exact calculateAudioQuota_nonneg settings hratio

/-- What the turns are charged one by one. -/
def turnsQuota (ws : RealtimeInfo) (turns : List RealtimeUsage) : Int :=
  (turns.map (turnQuota settings ws)).sum

lemma turnsQuota_nonneg {ws : RealtimeInfo} (hratio : ws.usePrice = false)
    (turns : List RealtimeUsage) : 0 ≤ turnsQuota settings ws turns := by
  apply List.sum_nonneg
  intro quota hquota
  obtain ⟨usage, -, rfl⟩ := List.mem_map.mp hquota
  exact turnQuota_nonneg settings hratio usage

end

/-! ## Charging a turn -/

/-- The two differ at most in the delta that is kept for the log, which is all a charge changes. -/
def RelayInfo.SameAs (info₀ info : RelayInfo) : Prop :=
  ∃ delta, info = { info₀ with subscriptionPostDelta := delta }

namespace RelayInfo.SameAs
variable {info₁ info₂ info₃ : RelayInfo}

protected lemma refl (info : RelayInfo) : info.SameAs info := ⟨info.subscriptionPostDelta, rfl⟩

protected lemma trans (h : info₁.SameAs info₂) (h' : info₂.SameAs info₃) : info₁.SameAs info₃ := by
  obtain ⟨delta, rfl⟩ := h
  obtain ⟨delta', rfl⟩ := h'
  exact ⟨delta', rfl⟩

end RelayInfo.SameAs

/-- A session that was opened, and whose `RelayInfo` names the source it charges. -/
structure Chargeable (s₀ : BillingSession) : Prop where
  quota_nonneg : 0 ≤ s₀.preConsumedQuota
  not_settled : s₀.settled = false
  not_fundingSettled : s₀.fundingSettled = false
  source : s₀.relayInfo.billingSource = some s₀.funding.source
  subscription : ∀ f, s₀.funding = .subscription f →
    s₀.relayInfo.subscriptionId = f.subscriptionId

section
variable {env : BillingEnv} {settings : RatioSettings} {ws : RealtimeInfo} {l₀ l l' : Ledger}
  {base : Nat} {x y quota : Int} {s₀ : BillingSession} {info info' : RelayInfo}

lemma consumeFunding_info (h : consumeFunding env info l quota = .ok (info', l')) :
    info.SameAs info' := by
  unfold consumeFunding at h
  split at h
  · split at h
    · cases h
    split at h
    · cases h
      exact RelayInfo.SameAs.refl info
    · split at h <;> cases h
      exact ⟨_, rfl⟩
  · split at h <;> cases h
    exact RelayInfo.SameAs.refl info

lemma preWssConsumeQuota_info (env : BillingEnv) (settings : RatioSettings) (ws : RealtimeInfo)
    (info : RelayInfo) (l : Ledger) (usage : RealtimeUsage) :
    info.SameAs (preWssConsumeQuota env settings ws info l usage).2.1 := by
  unfold preWssConsumeQuota
  split
  · exact RelayInfo.SameAs.refl info
  split
  · exact RelayInfo.SameAs.refl info
  dsimp only
  split_ifs with huser htoken
  · exact RelayInfo.SameAs.refl info
  · exact RelayInfo.SameAs.refl info
  unfold postConsumeQuota
  split
  · exact RelayInfo.SameAs.refl info
  rename_i hfunding
  have hinfo := consumeFunding_info hfunding
  split <;> exact hinfo

lemma consumeFunding_charges (hs₀ : Chargeable s₀) (hinfo : s₀.relayInfo.SameAs info)
    (hx : 0 ≤ x + quota) (hch : Charges l₀ base s₀.funding.sub? l x y)
    (h : consumeFunding env info l quota = .ok (info', l')) :
    Charges l₀ base s₀.funding.sub? l' (x + quota) y := by
  obtain ⟨delta, rfl⟩ := hinfo
  have hsource := hs₀.source
  unfold consumeFunding at h
  cases hfund : s₀.funding with
  | wallet w =>
    rw [hfund] at hsource hch
    rw [if_neg (by simp [hsource, FundingSource.source])] at h
    split at h
    · cases h
    rename_i l₁ hupd
    cases h
    unfold updateUser at hupd
    split at hupd
    · next a ha =>
      cases hupd
      have hm : LedgerMoved quota 0 l { l with user := a } := by
        refine of_user ?_ rfl
        split_ifs at ha with hpos
        · exact decreaseQuota_moved ha
        · exact increaseUserQuota_moved ha
      simpa using Charges.wallet hch hm rfl
    · cases hupd
  | subscription f =>
    rw [hfund] at hsource hch
    rw [if_pos (by simp [hsource, FundingSource.source])] at h
    split at h
    · cases h
    split at h
    · next hzero =>
      cases h
      rw [hzero, add_zero]
      exact hch
    split at h
    · cases h
    rename_i l₁ hupd
    cases h
    unfold updateDB at hupd
    split at hupd
    · next db hpost =>
      cases hupd
      rw [show s₀.relayInfo.subscriptionId = f.subscriptionId from
        hs₀.subscription f hfund] at hpost
      exact Charges.subscription hch (postConsume_held hch.2 hx hpost).1
    · cases hupd

lemma consumeToken_charges {sub : Option Nat} (hch : Charges l₀ base sub l x y)
    (h : consumeToken env info l quota = .ok l') :
    Charges l₀ base sub l' x (y + info.tokenShare quota) := by
  unfold consumeToken at h
  split at h
  · next hpg =>
    cases h
    simpa [tokenShare, hpg] using hch
  rename_i hpg
  obtain ⟨a, ha, hm⟩ := settleToken_ok env l quota
  rw [ha] at h
  cases h
  rw [tokenShare, if_neg hpg]
  exact hch.token (of_token hm rfl) rfl

/-- A charge past the session that reports no error goes through on both ledgers. -/
lemma postConsumeQuota_charges (hs₀ : Chargeable s₀) (hinfo : s₀.relayInfo.SameAs info)
    (hx : 0 ≤ x + quota) (hch : Charges l₀ base s₀.funding.sub? l x y)
    (h : (postConsumeQuota env info l quota).1 = none) :
    Charges l₀ base s₀.funding.sub? (postConsumeQuota env info l quota).2.2 (x + quota)
      (y + s₀.relayInfo.tokenShare quota) := by
  unfold postConsumeQuota at h ⊢
  split at h
  · cases h
  rename_i info₁ l₁ hfunding
  have hch₁ := consumeFunding_charges hs₀ hinfo hx hch hfunding
  obtain ⟨delta, rfl⟩ := hinfo.trans (consumeFunding_info hfunding)
  split at h
  · cases h
  · next l₂ htoken => exact consumeToken_charges hch₁ htoken

lemma getTokenRemainQuota_moved (m : StoreMode) (a : QuotaAccount) :
    Moved .token 0 a (getTokenRemainQuota m a).2 := by
  unfold getTokenRemainQuota
  split
  · exact Moved.refl .token a
  split
  · exact Moved.refl .token a
  · exact cacheFillQuota_moved .token a a.row

/-- A turn that ends without an error is charged its quota. -/
lemma preWssConsumeQuota_charges {usage : RealtimeUsage} (hratio : ws.usePrice = false)
    (hs₀ : Chargeable s₀) (hinfo : s₀.relayInfo.SameAs info) (hx : 0 ≤ x)
    (hch : Charges l₀ base s₀.funding.sub? l x y)
    (h : (preWssConsumeQuota env settings ws info l usage).1 = none) :
    Charges l₀ base s₀.funding.sub? (preWssConsumeQuota env settings ws info l usage).2.2
      (x + turnQuota settings ws usage)
      (y + s₀.relayInfo.tokenShare (turnQuota settings ws usage)) := by
  have hquota := turnQuota_nonneg settings hratio usage
  rw [preWssConsumeQuota, hratio, if_neg Bool.false_ne_true] at h ⊢
  split at h
  · cases h
  rename_i userQuota a hget
  dsimp only at h ⊢
  split_ifs at h ⊢ with huser htoken
  -- both balances were read, which may have hydrated their hashes
  have hm : LedgerMoved 0 0 l
      { l with user := a, token := (getTokenRemainQuota env.mode l.token).2 } :=
    ⟨by simpa using getUserQuota_moved hget,
      by simpa using getTokenRemainQuota_moved env.mode l.token⟩
  exact postConsumeQuota_charges hs₀ hinfo (by omega) (hch.frame hm rfl) h

end

/-! ## Runs -/

/-- What the billing session accounts for: its pre-consumption, and once it is settled the quota of
the whole usage. -/
def RealtimeState.accounted (settings : RatioSettings) (ws : RealtimeInfo) (s₀ : BillingSession)
    (st : RealtimeState) : Int :=
  if st.phase = .settled then totalQuota settings ws (.sum st.turns) else s₀.preConsumedQuota

/-- What the session has been charged, if nothing failed. -/
def RealtimeState.charged (settings : RatioSettings) (ws : RealtimeInfo) (s₀ : BillingSession)
    (st : RealtimeState) : Int :=
  st.accounted settings ws s₀ + turnsQuota settings ws st.turns

/-- What holds in every state of a session that was opened as `s₀`. -/
structure RealtimeInv (settings : RatioSettings) (ws : RealtimeInfo) (l₀ : Ledger) (base : Nat)
    (s₀ : BillingSession) (st : RealtimeState) : Prop where
  sum : st.sumUsage = .sum st.turns
  unsettled : st.phase ≠ .settled → st.settleError = none ∧
    ∃ info, s₀.relayInfo.SameAs info ∧ st.session = { s₀ with relayInfo := info }
  charges : st.errors = [] → st.settleError = none →
    Charges l₀ base s₀.funding.sub? st.ledger (st.charged settings ws s₀)
      (s₀.relayInfo.tokenShare (st.charged settings ws s₀))

section
variable {env : BillingEnv} {settings : RatioSettings} {ws : RealtimeInfo} {l₀ : Ledger}
  {base : Nat} {s₀ : BillingSession} {st st' : RealtimeState}

lemma charged_of_unsettled (hphase : st.phase ≠ .settled) :
    st.charged settings ws s₀ = s₀.preConsumedQuota + turnsQuota settings ws st.turns := by
  rw [charged, accounted, if_neg hphase]

namespace RealtimeInv

/-- A step that only counts tokens, works on the stores or lets the end go on. -/
lemma frame (h : RealtimeInv settings ws l₀ base s₀ st) (hphase : st.phase ≠ .settled)
    (hphase' : st'.phase ≠ .settled) (hsession : st'.session = st.session)
    (hsum : st'.sumUsage = st.sumUsage) (hturns : st'.turns = st.turns)
    (herrors : st'.errors = st.errors) (hsettle : st'.settleError = st.settleError)
    (hmoved : LedgerMoved 0 0 st.ledger st'.ledger ∧ st'.ledger.db = st.ledger.db) :
    RealtimeInv settings ws l₀ base s₀ st' := by
  refine ⟨?_, ?_, ?_⟩
  · rw [hsum, hturns]
    exact h.sum
  · intro _
    rw [hsettle, hsession]
    exact h.unsettled hphase
  · intro he hs
    have hch := h.charges (herrors ▸ he) (hsettle ▸ hs)
    rw [charged_of_unsettled hphase] at hch
    rw [charged_of_unsettled hphase', hturns]
    exact hch.frame hmoved.1 hmoved.2

section
variable (hratio : ws.usePrice = false) (hs₀ : Chargeable s₀)
  (h : RealtimeInv settings ws l₀ base s₀ st) (hphase : st.phase ≠ .settled)
include hratio hs₀ h hphase

/-- **Step lemma** for the end of a turn. -/
lemma preConsumeUsage (usage : RealtimeUsage) :
    RealtimeInv settings ws l₀ base s₀ (st.preConsumeUsage env settings ws usage) := by
  obtain ⟨hsettle, info, hinfo, hsession⟩ := h.unsettled hphase
  have hinfo' : s₀.relayInfo.SameAs st.session.relayInfo := by
    rw [hsession]
    exact hinfo
  refine ⟨?_, ?_, ?_⟩
  · show st.sumUsage.add usage = RealtimeUsage.sum (st.turns ++ [usage])
    rw [h.sum, RealtimeUsage.sum, RealtimeUsage.sum, List.foldl_append]
    rfl
  · intro _
    refine ⟨hsettle, _, hinfo'.trans
      (preWssConsumeQuota_info env settings ws st.session.relayInfo st.ledger usage), ?_⟩
    rw [RealtimeState.preConsumeUsage, hsession]
  · intro herrors _
    obtain ⟨herrors₀, hnone⟩ := List.append_eq_nil_iff.mp herrors
    have hch := h.charges herrors₀ hsettle
    rw [charged_of_unsettled hphase] at hch
    have hx : 0 ≤ s₀.preConsumedQuota + turnsQuota settings ws st.turns :=
      add_nonneg hs₀.quota_nonneg (turnsQuota_nonneg settings hratio st.turns)
    have hcharged := preWssConsumeQuota_charges hratio hs₀ hinfo' hx hch
      (Option.toList_eq_nil_iff.mp hnone)
    have hsplit : (st.preConsumeUsage env settings ws usage).charged settings ws s₀
        = s₀.preConsumedQuota + turnsQuota settings ws st.turns + turnQuota settings ws usage := by
      have happend : turnsQuota settings ws (st.turns ++ [usage])
          = turnsQuota settings ws st.turns + turnQuota settings ws usage := by simp [turnsQuota]
      rw [add_assoc, ← happend]
      exact charged_of_unsettled hphase
    rw [hsplit, tokenShare_add]
    exact hcharged

/-- The end of a turn, whether it is charged and cleared or reports an error. -/
lemma finishTurn (usage : RealtimeUsage) {clear : RealtimeState → RealtimeState}
    (hclear : ∀ s, s.phase ≠ .settled → RealtimeInv settings ws l₀ base s₀ s →
      RealtimeInv settings ws l₀ base s₀ (clear s)) :
    RealtimeInv settings ws l₀ base s₀ (st.finishTurn env settings ws usage clear) := by
  have hturn : RealtimeInv settings ws l₀ base s₀ (st.preConsumeUsage env settings ws usage) :=
    h.preConsumeUsage hratio hs₀ hphase usage
  unfold RealtimeState.finishTurn
  dsimp only
  split_ifs with herrors
  · exact hclear _ hphase hturn
  · exact hturn.frame hphase hphase rfl rfl rfl rfl rfl ⟨LedgerMoved.refl _, rfl⟩

/-- **Step lemma** for the settlement. -/
lemma post (hprice : ws.priceUsePrice = false) :
    RealtimeInv settings ws l₀ base s₀ (st.post env settings ws) := by
  obtain ⟨hsettle, info, ⟨delta, rfl⟩, hsession⟩ := h.unsettled hphase
  refine ⟨h.sum, fun hne => absurd rfl hne, ?_⟩
  intro herrors hnone
  have hch := h.charges herrors hsettle
  rw [charged_of_unsettled hphase] at hch
  have hturns := turnsQuota_nonneg settings hratio st.turns
  have htotal := totalQuota_nonneg settings hprice st.sumUsage
  have hcharged : (st.post env settings ws).charged settings ws s₀
      = totalQuota settings ws st.sumUsage + turnsQuota settings ws st.turns := by
    rw [h.sum]
    rfl
  rw [hcharged]
  set total := totalQuota settings ws st.sumUsage with htot
  have hx : 0 ≤ s₀.preConsumedQuota + turnsQuota settings ws st.turns
      + (total - s₀.preConsumedQuota) := by omega
  have hsum : s₀.preConsumedQuota + turnsQuota settings ws st.turns
      + (total - s₀.preConsumedQuota) = total + turnsQuota settings ws st.turns := by omega
  rcases hr : st.session.settle env st.ledger total with ⟨r, b, l'⟩
  have hpost : postWssConsumeQuota env settings ws st.session st.ledger st.sumUsage = (r, b, l') :=
    hr
  have hledger : (st.post env settings ws).ledger = l' := by
    rw [RealtimeState.post, hpost]
  have hresult : r = none := by
    rw [RealtimeState.post, hpost] at hnone
    exact hnone
  rw [hledger]
  rw [hsession] at hr
  obtain ⟨hs, -⟩ | ⟨-, heq, -, rfl⟩ | ⟨-, hne, -⟩ | ⟨-, -, -, hmoved, -⟩ :=
    settle_cases
      (s := { s₀ with relayInfo := { s₀.relayInfo with subscriptionPostDelta := delta } })
      hs₀.not_fundingSettled (.inr hx) hch hr
  · rw [hs₀.not_settled] at hs
    cases hs
  · -- the cost is what was pre-consumed, so the settlement moves nothing
    rw [heq]
    exact hch
  · exact absurd hresult hne
  · rw [← hsum, tokenShare_add]
    exact hmoved

end

end RealtimeInv

/-- **Step lemma.** -/
lemma realtimeStep_inv (hratio : ws.usePrice = false) (hprice : ws.priceUsePrice = false)
    (hs₀ : Chargeable s₀) (h : RealtimeInv settings ws l₀ base s₀ st) {label : RealtimeLabel}
    (hstep : realtimeStep env settings ws st label = some st') :
    RealtimeInv settings ws l₀ base s₀ st' := by
  have hphase : st.phase ≠ .settled := by
    intro hsettled
    rw [realtimeStep.eq_def, if_pos hsettled] at hstep
    cases hstep
  rw [realtimeStep.eq_def, if_neg hphase] at hstep
  have hstill : LedgerMoved 0 0 st.ledger st.ledger ∧ st.ledger.db = st.ledger.db :=
    ⟨LedgerMoved.refl st.ledger, rfl⟩
  cases label with dsimp only at hstep
  | client counted =>
    cases hstep
    exact h.frame hphase hphase rfl rfl rfl rfl rfl hstill
  | upstream counted =>
    split_ifs at hstep
    cases hstep
    exact h.frame hphase hphase rfl rfl rfl rfl rfl hstill
  | responseDone reported =>
    split_ifs at hstep
    cases hstep
    have hnext : RealtimeInv settings ws l₀ base s₀ { st with usage := st.usage.add reported } :=
      h.frame hphase hphase rfl rfl rfl rfl rfl hstill
    refine hnext.finishTurn hratio hs₀ hphase _ ?_
    intro s hs hinv
    exact hinv.frame hs hs rfl rfl rfl rfl rfl ⟨LedgerMoved.refl _, rfl⟩
  | responseDoneLocal counted =>
    split_ifs at hstep
    cases hstep
    have hnext : RealtimeInv settings ws l₀ base s₀
        { st with localUsage := st.localUsage.add (.ofInput counted) } :=
      h.frame hphase hphase rfl rfl rfl rfl rfl hstill
    refine hnext.finishTurn hratio hs₀ hphase _ ?_
    intro s hs hinv
    exact hinv.frame hs hs rfl rfl rfl rfl rfl ⟨LedgerMoved.refl _, rfl⟩
  | leave =>
    split_ifs at hstep
    cases hstep
    exact h.frame hphase nofun rfl rfl rfl rfl rfl hstill
  | flushUsage =>
    have hnext : RealtimeInv settings ws l₀ base s₀ { st with phase := .usageFlushed } :=
      h.frame hphase nofun rfl rfl rfl rfl rfl hstill
    split_ifs at hstep <;> cases hstep
    · exact hnext.preConsumeUsage hratio hs₀ nofun st.usage
    · exact hnext
  | flushLocalUsage =>
    have hnext : RealtimeInv settings ws l₀ base s₀ { st with phase := .localFlushed } :=
      h.frame hphase nofun rfl rfl rfl rfl rfl hstill
    split_ifs at hstep <;> cases hstep
    · exact hnext.preConsumeUsage hratio hs₀ nofun st.localUsage
    · exact hnext
  | post =>
    split_ifs at hstep
    cases hstep
    exact h.post hratio hs₀ hphase hprice
  | flush k =>
    cases hstep
    exact h.frame hphase hphase rfl rfl rfl rfl rfl (updateAccount_moved (batchUpdate_moved k))
  | cache k cached fenced =>
    cases hstep
    exact h.frame hphase hphase rfl rfl rfl rfl rfl
      (updateAccount_moved (cache_moved k cached fenced))

end

/-! ## Opened sessions -/

section
variable {env : BillingEnv} {info : RelayInfo} {quota : Int} {l₀ l l' : Ledger}
  {s : BillingSession}

lemma syncRelayInfo_billingSource (s : BillingSession) :
    s.syncRelayInfo.relayInfo.billingSource = some s.funding.source := by
  unfold BillingSession.syncRelayInfo
  split <;> rfl

/-- A new session's `RelayInfo` names the source it is charged to. -/
lemma newBillingSession_billingSource (hquota : 0 ≤ quota)
    (h : newBillingSession env info quota l₀ = (.ok s, l)) :
    s.relayInfo.billingSource = some s.funding.source := by
  obtain ⟨l₁, -, ⟨hw, -⟩ | hsub⟩ := newBillingSession_ok_cases hquota h
  · unfold tryWallet at hw
    split at hw
    · cases hw
    split_ifs at hw
    · cases hw
    · cases hw
    · obtain ⟨l₂, funding, -, -, -, rfl⟩ := preConsume_ok rfl hquota hw
      rw [syncRelayInfo_billingSource, (syncRelayInfo_fields _).1]
  · unfold trySubscription at hsub
    have hconsume : 0 ≤ (if quota ≤ 0 then 1 else quota) := by split_ifs <;> omega
    obtain ⟨l₂, funding, -, -, -, rfl⟩ := preConsume_ok rfl hconsume hsub
    rw [syncRelayInfo_billingSource, (syncRelayInfo_fields _).1]

lemma Opened.chargeable (hopen : Opened env info l₀ s l)
    (hsource : s.relayInfo.billingSource = some s.funding.source) : Chargeable s :=
  { hopen with
    quota_nonneg := hopen.counters.quota_nonneg
    source := hsource
    subscription f hf := (hopen.counters.subscription f hf).2.2.2.1 }

lemma Opened.tokenShare_eq (hopen : Opened env info l₀ s l) :
    s.relayInfo.tokenShare = info.tokenShare := by
  funext x
  rw [tokenShare, tokenShare, hopen.playground]

lemma Opened.realtimeInv (settings : RatioSettings) (ws : RealtimeInfo)
    (hopen : Opened env info l₀ s l) :
    RealtimeInv settings ws l₀ (openingUsed env l₀ s.funding) s (.start s l) where
  sum := rfl
  unsettled _ := ⟨rfl, s.relayInfo, RelayInfo.SameAs.refl _, rfl⟩
  charges _ _ := by
    have hcharged : (start s l).charged settings ws s = s.preConsumedQuota :=
      add_zero s.preConsumedQuota
    rw [hcharged, hopen.tokenShare_eq]
    exact hopen.charges

/-- The charged amount can be read off the funding source. -/
lemma FundingCharged.amount_unique {funding : FundingSource} {x x' : Int}
    (h : FundingCharged env l₀ l funding x) (h' : FundingCharged env l₀ l funding x') :
    x = x' := by
  cases funding with
  | wallet w =>
    have heq : (l₀.user.total .user).add .user (-x) = (l₀.user.total .user).add .user (-x') :=
      h.symm.trans h'
    have hremain := congrArg QuotaRow.remain heq
    simp only [QuotaRow.add] at hremain
    omega
  | subscription f =>
    obtain ⟨-, used, sub, hused, hsub, heq⟩ := h
    obtain ⟨-, used', sub', hused', hsub', heq'⟩ := h'
    obtain rfl := Option.some.inj (hused.symm.trans hused')
    obtain rfl := Option.some.inj (hsub.symm.trans hsub')
    omega

end

/-! ## The whole session -/

/-- Both ledgers end charged `actual`, up to one unit of rounding for each turn. -/
def ChargedOnce (env : BillingEnv) (info : RelayInfo) (l₀ l : Ledger) (funding : FundingSource)
    (actual : Int) (turns : Nat) : Prop :=
  ∃ x y, FundingCharged env l₀ l funding x ∧ TokenCharged l₀ l (info.tokenShare y) ∧
    |x - actual| ≤ turns ∧ |y - actual| ≤ turns

/-- The quota `calculateAudioQuota` gives for the usage of a session. -/
def usageQuota (settings : RatioSettings) (ws : RealtimeInfo) (usage : RealtimeUsage) : Int :=
  (calculateAudioQuota settings (ws.totalInfo usage)).1

/-- The turns cost no more than rounding: their own prices add up to at most one unit for each of
them. A session whose usages report no total is not charged at its end, so there the prices of the
turns have to add up to the price of the whole. -/
def TurnsWithinRounding (settings : RatioSettings) (ws : RealtimeInfo)
    (turns : List RealtimeUsage) : Prop :=
  if (RealtimeUsage.sum turns).totalTokens = 0 then
    |turnsQuota settings ws turns - usageQuota settings ws (.sum turns)| ≤ turns.length
  else turnsQuota settings ws turns ≤ turns.length

instance (settings : RatioSettings) (ws : RealtimeInfo) (turns : List RealtimeUsage) :
    Decidable (TurnsWithinRounding settings ws turns) :=
  inferInstanceAs (Decidable (if _ = 0 then _ ≤ _ else _ ≤ _))

instance (l₀ l : Ledger) : Decidable (NoFaults l₀ l) :=
  inferInstanceAs (Decidable (l.faults = l₀.faults))

section
variable {env : BillingEnv} {info : RelayInfo} {quota : Int} {l₀ l : Ledger} {s : BillingSession}
  {settings : RatioSettings} {ws : RealtimeInfo} {t : RealtimeState}

/-- **Run lemma.** -/
lemma Opened.realtimeInv_run {ls : List RealtimeLabel} (hopen : Opened env info l₀ s l)
    (hs : Chargeable s) (hratio : ws.usePrice = false) (hprice : ws.priceUsePrice = false)
    (hrun : run (realtimeStep env settings ws) (.start s l) ls = some t) :
    RealtimeInv settings ws l₀ (openingUsed env l₀ s.funding) s t :=
  run_invariant' _ (fun _ _ _ h => realtimeStep_inv hratio hprice hs h) (hopen.realtimeInv settings ws)
    hrun

/-- **Realtime sessions are charged once only if their turns cost nothing.** In every run of a
session under ratio prices, from `NewBillingSession` to the end of `PostWssConsumeQuota`, both
ledgers end charged the quota of the summed usage exactly when the turns cost no more than
rounding. -/
theorem realtime_charged_once_iff (ls : List RealtimeLabel) (hquota : 0 ≤ quota)
    (hfresh : l₀.db.records.get? info.requestId = none)
    (hnew : newBillingSession env info quota l₀ = (.ok s, l))
    (hratio : ws.usePrice = false) (hprice : ws.priceUsePrice = false)
    (hrun : run (realtimeStep env settings ws) (.start s l) ls = some t)
    (hend : t.phase = .settled) (hbalance : t.errors = [] ∧ t.settleError = none)
    (hstore : NoFaults l₀ t.ledger) :
    ChargedOnce env info l₀ t.ledger s.funding (usageQuota settings ws t.sumUsage)
        t.turns.length ↔
      TurnsWithinRounding settings ws t.turns := by
  have hopen := newBillingSession_opened hquota hfresh hnew
  have hinv := hopen.realtimeInv_run
    (hopen.chargeable (newBillingSession_billingSource hquota hnew)) hratio hprice hrun
  have hsum := hinv.sum
  -- settled without an error, the session is charged its usage and on top of it each turn
  have hch := hinv.charges hbalance.1 hbalance.2
  rw [charged, accounted, if_pos hend, ← hsum, hopen.tokenShare_eq] at hch
  obtain ⟨hfunding, htoken⟩ := hch.charged hopen hstore
  have hturns := turnsQuota_nonneg settings hratio t.turns
  have hdiff : |totalQuota settings ws t.sumUsage + turnsQuota settings ws t.turns
      - usageQuota settings ws t.sumUsage| ≤ t.turns.length ↔
      TurnsWithinRounding settings ws t.turns := by
    rw [TurnsWithinRounding, ← hsum, totalQuota]
    split_ifs with hzero
    · rw [zero_add]
    · rw [← usageQuota, add_sub_cancel_left, abs_of_nonneg hturns]
  rw [← hdiff]
  constructor
  · rintro ⟨x, y, hx, -, hle, -⟩
    rw [hfunding.amount_unique hx]
    exact hle
  · intro hle
    exact ⟨_, _, hfunding, htoken, hle, hle⟩

end

/-! ### Concrete sessions -/

/-- Every ratio is one, except that the group `free` costs nothing. -/
def unitSettings : RatioSettings where
  quotaPerUnit := 500000
  completionRatio _ := 1
  audioRatio _ := 1
  audioCompletionRatio _ := 1
  modelRatio _ := 1
  groupRatio group := if group = "free" then 0 else 1
  groupGroupRatio _ _ := none

def realtimeInfo (group : String) : RealtimeInfo where
  usePrice := false
  originModelName := "realtime"
  upstreamModelName := "realtime"
  userGroup := "default"
  usingGroup := group
  autoGroup := none
  priceUsePrice := false
  priceModelPrice := 0
  priceModelRatio := 1
  priceGroupRatio := unitSettings.groupRatio group

/-- One turn of a hundred tokens, and the end of the session. -/
def oneTurn : List RealtimeLabel :=
  [.responseDone (.ofInput { textTokens := 100, audioTokens := 0 }), .leave, .flushUsage,
    .flushLocalUsage, .post]

/-- A wallet session as it is opened, with ten units pre-consumed. -/
def walletSession : BillingSession :=
  BillingSession.syncRelayInfo { BillingSession.init
      { plainInfo .walletFirst with userQuota := 1000 } (.wallet { consumed := 10 }) with
    preConsumedQuota := 10
    tokenConsumed := 10 }

def walletSessionLedger : Ledger :=
  { plainLedger with
    user := { plainAccount 990 with row := { remain := 990, used := 0 } }
    token := { plainAccount 990 with row := { remain := 990, used := 10 } } }

/-- The state after `oneTurn`. -/
def oneTurnEnd (group : String) : RealtimeState :=
  (run (realtimeStep plainEnv unitSettings (realtimeInfo group))
    (.start walletSession walletSessionLedger) oneTurn).getD (.start walletSession plainLedger)

lemma walletSession_opened : newBillingSession plainEnv (plainInfo .walletFirst) 10 plainLedger
    = (.ok walletSession, walletSessionLedger) := rfl

lemma oneTurnEnd_eq (group : String)
    (h : (run (realtimeStep plainEnv unitSettings (realtimeInfo group))
      (.start walletSession walletSessionLedger) oneTurn).isSome = true) :
    run (realtimeStep plainEnv unitSettings (realtimeInfo group))
      (.start walletSession walletSessionLedger) oneTurn = some (oneTurnEnd group) := by
  obtain ⟨t, ht⟩ := Option.isSome_iff_exists.mp h
  rw [oneTurnEnd, ht]
  rfl

/-- A session in a free group is charged nothing, once. -/
theorem realtime_charged_once_free :
    newBillingSession plainEnv (plainInfo .walletFirst) 10 plainLedger
      = (.ok walletSession, walletSessionLedger) ∧
    run (realtimeStep plainEnv unitSettings (realtimeInfo "free"))
      (.start walletSession walletSessionLedger) oneTurn = some (oneTurnEnd "free") ∧
    ChargedOnce plainEnv (plainInfo .walletFirst) plainLedger (oneTurnEnd "free").ledger
      walletSession.funding
      (usageQuota unitSettings (realtimeInfo "free") (oneTurnEnd "free").sumUsage)
      (oneTurnEnd "free").turns.length := by
  have hrun := oneTurnEnd_eq "free" (by decide +kernel)
  refine ⟨walletSession_opened, hrun, ?_⟩
  apply (realtime_charged_once_iff oneTurn (show (0 : Int) ≤ 10 by decide) rfl
    walletSession_opened rfl rfl hrun (by decide +kernel)
    ⟨by decide +kernel, by decide +kernel⟩ (by decide +kernel)).mpr
  decide +kernel

/-- A turn of a hundred tokens at ratio one costs a hundred, and the session two hundred. -/
theorem realtime_turn_charged_twice :
    newBillingSession plainEnv (plainInfo .walletFirst) 10 plainLedger
      = (.ok walletSession, walletSessionLedger) ∧
    run (realtimeStep plainEnv unitSettings (realtimeInfo "default"))
      (.start walletSession walletSessionLedger) oneTurn = some (oneTurnEnd "default") ∧
    (oneTurnEnd "default").phase = .settled ∧ (oneTurnEnd "default").errors = [] ∧
    (oneTurnEnd "default").settleError = none ∧
    NoFaults plainLedger (oneTurnEnd "default").ledger ∧
    usageQuota unitSettings (realtimeInfo "default") (oneTurnEnd "default").sumUsage = 100 ∧
    FundingCharged plainEnv plainLedger (oneTurnEnd "default").ledger walletSession.funding 200 ∧
    ¬ ChargedOnce plainEnv (plainInfo .walletFirst) plainLedger (oneTurnEnd "default").ledger
      walletSession.funding
      (usageQuota unitSettings (realtimeInfo "default") (oneTurnEnd "default").sumUsage)
      (oneTurnEnd "default").turns.length := by
  have hrun := oneTurnEnd_eq "default" (by decide +kernel)
  have hcharged : FundingCharged plainEnv plainLedger (oneTurnEnd "default").ledger
      walletSession.funding 200 := by
    show (oneTurnEnd "default").ledger.user.total .user = _
    decide +kernel
  refine ⟨walletSession_opened, hrun, by decide +kernel, by decide +kernel, by decide +kernel,
    by decide +kernel, by decide +kernel, hcharged, ?_⟩
  rintro ⟨x, y, hx, -, hle, -⟩
  obtain rfl := hcharged.amount_unique hx
  revert hle
  decide +kernel

end NewApi.Service
