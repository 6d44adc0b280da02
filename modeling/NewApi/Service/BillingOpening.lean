import NewApi.Service.BillingEnds

/-!
# Opening a billing session, or failing to

`NewBillingSession` makes up to two attempts, each of which charges the token first and takes the
charge back when the funding source refuses. Here is what it leaves behind: nothing when it returns
an error, and the charge of one funding source and of the token when it returns a session.
-/

namespace NewApi.Service

open Model

/-! ## Statements -/

/-- Wallet, token, subscriptions and records are as before. -/
structure NothingCharged (l₀ l : Ledger) : Prop where
  wallet : l.user.total .user = l₀.user.total .user
  token : l.token.total .token = l₀.token.total .token
  db : l.db = l₀.db

/-- The subscriptions that do not pay for the session are as before, apart from resets that were
due, and a subscription session has left one record. -/
def OthersKept (env : BillingEnv) (info : RelayInfo) (l₀ l : Ledger) (s : BillingSession) : Prop :=
  match s.funding with
  | .wallet _ => l.db = l₀.db
  | .subscription f =>
    (∀ id, id ≠ f.subscriptionId → UsedKept env.cal env.preConsumeTime l₀.db l.db id) ∧
      l.db.records = l₀.db.records.save
        { requestId := info.requestId, userId := info.userId,
          userSubscriptionId := f.subscriptionId, preConsumed := s.preConsumedQuota,
          status := .consumed }

/-- The session has charged its funding source, no other one, and the token by the same amount;
playground requests have no token. -/
structure OneSourceCharged (env : BillingEnv) (info : RelayInfo) (l₀ l : Ledger)
    (s : BillingSession) : Prop where
  nonneg : 0 ≤ s.preConsumedQuota
  funding : FundingCharged env l₀ l s.funding s.preConsumedQuota
  others : OthersKept env info l₀ l s
  token : TokenCharged l₀ l (info.tokenShare s.preConsumedQuota)

/-- When the wallet pays although the subscriptions were tried first, every active subscription
lets it. -/
def OverflowRespected (env : BillingEnv) (info : RelayInfo) (l₀ : Ledger) (s : BillingSession) :
    Prop :=
  s.funding.source = .wallet → info.billingPreference ≠ .subscriptionOnly ∧
    (info.billingPreference = .subscriptionFirst →
      hasActiveUserSubscription l₀.db info.userId env.activeCheckTime = .ok true →
      ∀ sub ∈ l₀.db.subs.rows, sub.isActive info.userId env.overflowCheckTime →
        sub.allowWalletOverflow = true)

/-! ## The attempts -/

section
variable {env : BillingEnv} {info : RelayInfo} {quota : Int} {l₀ l l' : Ledger}
  {s : BillingSession}

lemma preConsume_source {funding funding' : FundingSource}
    (h : funding.preConsume env l quota = (.ok funding', l')) :
    funding'.source = funding.source := by
  cases funding with
  | wallet w | subscription f =>
    simp only [FundingSource.preConsume] at h
    split at h <;> cases h
    rfl

lemma trySubscription_source (h : trySubscription env info quota l = (.ok s, l')) :
    s.funding.source = .subscription := by
  unfold trySubscription at h
  obtain ⟨l₁, funding, -, -, hf, rfl⟩ := preConsume_ok rfl (by split <;> omega) h
  rw [(syncRelayInfo_fields _).1]
  exact preConsume_source hf

lemma tryWallet_source (hq : 0 ≤ quota) (h : tryWallet env info quota l = (.ok s, l')) :
    s.funding.source = .wallet := by
  unfold tryWallet at h
  split at h
  · cases h
  split at h
  · cases h
  split at h
  · cases h
  obtain ⟨l₁, funding, -, -, hf, rfl⟩ := preConsume_ok rfl hq h
  rw [(syncRelayInfo_fields _).1]
  exact preConsume_source hf

/-- A subscription attempt leaves the other subscriptions alone and adds its record. -/
lemma trySubscription_others (hfresh : l.db.records.get? info.requestId = none)
    (h : trySubscription env info quota l = (.ok s, l')) (hdb : l.db = l₀.db) :
    OthersKept env info l₀ l' s := by
  unfold trySubscription at h
  set q := if quota ≤ 0 then 1 else quota with hqdef
  have hq : 0 ≤ q := by
    rw [hqdef]
    split <;> omega
  obtain ⟨l₁, funding, hdb₁, -, hf, rfl⟩ := preConsume_ok rfl hq h
  rw [effectiveQuota_subscription rfl] at hf ⊢
  simp only [BillingSession.init, FundingSource.preConsume, SubscriptionFunding.preConsume] at hf ⊢
  split at hf
  · next f l₂ hpre =>
    cases hf
    split at hpre
    · cases hpre
    rename_i res db hcharge
    rw [hdb₁] at hcharge
    obtain ⟨hothers, hrecords⟩ := preConsumeUserSubscription_others hfresh hcharge
    have hsub : f.subscriptionId = res.userSubscriptionId ∧ l'.db = db := by
      split at hpre <;> cases hpre <;> exact ⟨rfl, rfl⟩
    simp only [OthersKept, syncRelayInfo_fields]
    rw [hsub.1, hsub.2, ← hdb]
    exact ⟨hothers, hrecords⟩
  · cases hf

lemma overflowRespected (h : WalletAllowed env info l₀.db) : OverflowRespected env info l₀ s := by
  intro _
  refine ⟨h.1, fun hpref hactive sub hsub hon => ?_⟩
  have hallow := h.2 hpref hactive
  unfold userActiveSubscriptionsAllowWalletOverflow at hallow
  split at hallow
  · cases hallow
  have hall : l₀.db.subs.rows.all
      (fun s => !(s.isActive info.userId env.overflowCheckTime && !s.allowWalletOverflow))
        = true := by simpa using hallow
  have hs := List.all_eq_true.mp hall sub hsub
  simpa [hon] using hs

lemma NothingCharged.of_moved (hm : LedgerMoved 0 0 l₀ l) (hdb : l.db = l₀.db)
    (hclean : NoFaults l₀ l) : NothingCharged l₀ l := by
  obtain ⟨hu, ht⟩ := faults_eq hm hclean
  refine ⟨?_, ?_, hdb⟩
  · rw [hm.user.total_eq hu]
    simp
  · rw [hm.token.total_eq ht]
    simp

lemma newBillingSession_others (hq : 0 ≤ quota) (hfresh : l₀.db.records.get? info.requestId = none)
    (h : newBillingSession env info quota l₀ = (.ok s, l')) : OthersKept env info l₀ l' s := by
  obtain ⟨l₁, hl₁, ⟨hw, -⟩ | hsub⟩ := newBillingSession_ok_cases hq h
  · have hcharges := (tryWallet_opened hq hl₁ hw).charges
    have hsource := tryWallet_source hq hw
    unfold OthersKept
    cases hfund : s.funding with
    | wallet w =>
      rw [hfund] at hcharges
      exact hcharges.2
    | subscription f =>
      rw [hfund] at hsource
      cases hsource
  · exact trySubscription_others (by rw [hl₁.2]; exact hfresh) hsub hl₁.2

lemma newBillingSession_overflow (hq : 0 ≤ quota)
    (h : newBillingSession env info quota l₀ = (.ok s, l')) : OverflowRespected env info l₀ s := by
  obtain ⟨l₁, -, ⟨-, hallowed⟩ | hsub⟩ := newBillingSession_ok_cases hq h
  · exact overflowRespected hallowed
  · intro hwallet
    rw [trySubscription_source hsub] at hwallet
    cases hwallet

end

/-! ## All or nothing -/

/-- Unless a write of the stores is reported as failed: an error leaves wallet, token,
subscriptions and records as they were; a session for a new request id has charged one funding
source and, except in the playground, the token by the same amount; and the wallet stands in for
the subscriptions only where every active one lets it. -/
theorem newBillingSession_all_or_nothing (env : BillingEnv) (info : RelayInfo) (quota : Int)
    (l₀ l : Ledger) (result : Except ErrorCode BillingSession) (hq : 0 ≤ quota)
    (h : newBillingSession env info quota l₀ = (result, l)) (hclean : NoFaults l₀ l) :
    match result with
    | .error _ => NothingCharged l₀ l
    | .ok s => OverflowRespected env info l₀ s ∧
        (l₀.db.records.get? info.requestId = none → OneSourceCharged env info l₀ l s) := by
  cases result with
  | error e =>
    obtain ⟨hdb, hm⟩ := newBillingSession_error hq h
    exact NothingCharged.of_moved hm hdb hclean
  | ok s =>
    refine ⟨newBillingSession_overflow hq h, fun hfresh => ?_⟩
    have hopen := newBillingSession_opened hq hfresh h
    obtain ⟨hfunding, htoken⟩ := hopen.charges.charged hopen hclean
    exact ⟨hopen.counters.quota_nonneg, hfunding, newBillingSession_others hq hfresh h, htoken⟩

theorem newBillingSession_all_or_nothing_plain : ∃ s l,
    newBillingSession plainEnv (plainInfo .subscriptionFirst) 10 plainLedger = (.ok s, l) ∧
      OverflowRespected plainEnv (plainInfo .subscriptionFirst) plainLedger s ∧
      OneSourceCharged plainEnv (plainInfo .subscriptionFirst) plainLedger l s := by
  refine ⟨_, _, rfl, ?_⟩
  have h := newBillingSession_all_or_nothing plainEnv (plainInfo .subscriptionFirst) 10
    plainLedger _ _ (by decide) rfl rfl
  exact ⟨h.1, h.2 rfl⟩

/-- A playground session charges the wallet and not the token. A second session for a request id
charges the token once more, but neither the wallet nor a subscription. -/
theorem playground_and_repeated_sessions :
    (∃ s l, newBillingSession plainEnv { plainInfo .walletOnly with isPlayground := true } 10
        plainLedger = (.ok s, l) ∧ NoFaults plainLedger l ∧
        FundingCharged plainEnv plainLedger l s.funding 10 ∧ ¬ TokenCharged plainLedger l 10) ∧
    ∃ s l s' l', newBillingSession plainEnv (plainInfo .subscriptionOnly) 10 plainLedger
        = (.ok s, l) ∧
      newBillingSession plainEnv (plainInfo .subscriptionOnly) 10 l = (.ok s', l') ∧
      NoFaults l l' ∧ l'.user = l.user ∧ l'.db = l.db ∧ TokenCharged l l' 10 := by
  refine ⟨⟨_, _, rfl, rfl, rfl, ?_⟩, _, _, _, _, rfl, rfl, rfl, rfl, rfl, rfl⟩
  intro h
  exact absurd (congrArg QuotaRow.remain h) (by decide)

end NewApi.Service
