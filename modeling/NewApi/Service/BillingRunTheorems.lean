import NewApi.Service.BillingSessionTheorems

/-!
# Runs of a billing session

The operations of an open session, the invariant of its runs, and what a run has charged when the
session has ended.
-/

namespace NewApi.Service

open Model Runs List
open BillingSession Charges LedgerMoved FundingSource RelayInfo RefundAction BillingState

/-! ## `Reserve` -/

/-- The funding source after a reservation of `delta` was charged to it: the checked reservation of
an image request replaces the wallet's counter. -/
def FundingSource.reserved (funding : FundingSource) (imageRequest : Bool) (delta : Int) :
    FundingSource :=
  match funding with
  | .wallet w => .wallet { w with consumed := if imageRequest then delta else w.consumed + delta }
  | .subscription f => .subscription f

/-- The funding source after a rollback of `delta`. -/
def FundingSource.unreserved (funding : FundingSource) (delta : Int) : FundingSource :=
  match funding with
  | .wallet w => .wallet { w with consumed := w.consumed - delta }
  | .subscription f => .subscription f

/-- A `Reserve` call loses what the wallet's counter held: the checked reservation of an image
request is granted to a session that holds a reservation already. -/
def BillingSession.overwritesConsumed (env : BillingEnv) (s : BillingSession) (l : Ledger)
    (targetQuota : Int) : Bool :=
  s.reserves targetQuota && s.relayInfo.imageRequest && decide (0 < s.preConsumedQuota) &&
    match s.funding with
    | .wallet _ =>
      match tryReserveUserQuota env.mode l.user (targetQuota - s.preConsumedQuota) with
      | .ok (true, _) => true
      | _ => false
    | .subscription _ => false

@[simp] lemma reserved_sub? (funding : FundingSource) (imageRequest : Bool) (delta : Int) :
    (funding.reserved imageRequest delta).sub? = funding.sub? := by
  cases funding <;> rfl

@[simp] lemma unreserved_sub? (funding : FundingSource) (delta : Int) :
    (funding.unreserved delta).sub? = funding.sub? := by
  cases funding <;> rfl

variable {imageRequest : Bool} {target : Int} {r : Option ErrorCode} {funding : FundingSource}

section
variable {env : BillingEnv} {l₀ l l' : Ledger} {s s' : BillingSession} {base : Nat}
  {x y delta : Int}

lemma subscription_of_reserved {f : SubscriptionFunding}
    (h : funding.reserved imageRequest delta = .subscription f) : funding = .subscription f := by
  cases funding with
  | wallet w => simp [reserved] at h
  | subscription f' => exact h

lemma subscription_of_unreserved {f : SubscriptionFunding}
    (h : funding.unreserved delta = .subscription f) : funding = .subscription f := by
  cases funding with
  | wallet w => simp [unreserved] at h
  | subscription f' => exact h

lemma reserveFunding_ok (hdelta : 0 < delta) (hx : 0 ≤ x)
    (hch : Charges l₀ base s.funding.sub? l x y)
    (h : s.reserveFunding env l delta imageRequest = (.ok s', l')) :
    s' = { s with funding := s.funding.reserved imageRequest delta } ∧
      Charges l₀ base s.funding.sub? l' (x + delta) y ∧ l'.db.records = l.db.records ∧
      l.faults ≤ l'.faults ∧ (∀ w, s.funding = .wallet w → imageRequest = true →
        ∃ a, tryReserveUserQuota env.mode l.user delta = .ok (true, a)) := by
  cases hfund : s.funding with
  | wallet w =>
    rw [hfund] at hch
    simp only [reserveFunding, hfund] at h
    cases imageRequest with
    | true =>
      rw [if_pos rfl] at h
      split at h
      · next w' l₁ hw =>
        cases h
        obtain ⟨hdb, ⟨hle, -⟩ | ⟨-, rfl, hm, hgrant⟩⟩ := WalletFunding.preConsume_ok hw
        · omega
        · refine ⟨rfl, by simpa using wallet hch hm hdb, by rw [hdb], hm.faults_le, ?_⟩
          exact fun _ _ _ => hgrant
      · cases h
      · cases h
    | false =>
      rw [if_neg (by simp)] at h
      split at h
      · cases h
      rename_i a hdec
      cases h
      have hm : LedgerMoved delta 0 l { l with user := a } :=
        of_user (decreaseQuota_moved hdec) rfl
      exact ⟨rfl, by simpa using wallet hch hm rfl, rfl, hm.faults_le, by simp⟩
  | subscription f =>
    rw [hfund] at hch
    simp only [reserveFunding, hfund] at h
    split at h
    · cases h
    rename_i db hpost
    cases h
    obtain ⟨hheld, hrec⟩ := postConsume_held hch.2 (by omega) hpost
    refine ⟨?_, subscription hch hheld, hrec, le_refl _, by simp⟩
    simp only [reserved, ← hfund]

lemma reserveFunding_error {e : ErrorCode}
    (h : s.reserveFunding env l delta imageRequest = (.error e, l')) :
    l'.db = l.db ∧ LedgerMoved 0 0 l l' := by
  cases hfund : s.funding with
  | wallet w =>
    simp only [BillingSession.reserveFunding, hfund] at h
    cases imageRequest with
    | true =>
      rw [if_pos rfl] at h
      split at h
      · cases h
      · next hw =>
        cases h
        exact WalletFunding.preConsume_error hw
      rename_i hw
      cases h
      exact WalletFunding.preConsume_error hw
    | false =>
      rw [if_neg (by simp)] at h
      split at h <;> cases h
      exact ⟨rfl, LedgerMoved.refl l⟩
  | subscription f =>
    simp only [BillingSession.reserveFunding, hfund] at h
    split at h <;> cases h
    exact ⟨rfl, LedgerMoved.refl l⟩

/-- A rollback takes the reservation off again, unless it was reported as failed. -/
lemma rollbackFundingReserve_ok (hdelta : 0 < delta) (hx : delta ≤ x)
    (hid : ∀ f, s.funding = .subscription f → 0 < f.subscriptionId)
    (hch : Charges l₀ base s.funding.sub? l x y)
    (h : s.rollbackFundingReserve env l delta = (s', l')) :
    Charges l₀ base s.funding.sub? l' (x - delta) y ∧ l'.db.records = l.db.records ∧
      l.faults ≤ l'.faults ∧
      (l'.faults = l.faults → s' = { s with funding := s.funding.unreserved delta }) := by
  cases hfund : s.funding with
  | wallet w =>
    rw [hfund] at hch
    simp only [rollbackFundingReserve, hfund] at h
    split at h
    · next e _ =>
      cases h
      have hm : LedgerMoved (-delta) 0 l { l with user := l.user.logged (.error e) } :=
        of_user (Moved.fault (Nat.lt_succ_self _)) rfl
      refine ⟨by simpa [sub_eq_add_neg] using wallet hch hm rfl, rfl, hm.faults_le, ?_⟩
      intro hf
      simp only [Ledger.faults, QuotaAccount.logged] at hf
      omega
    rename_i a hinc
    cases h
    have hm : LedgerMoved (-delta) 0 l { l with user := a } :=
      of_user (by simpa using increaseUserQuota_moved hinc) rfl
    exact ⟨by simpa [sub_eq_add_neg] using wallet hch hm rfl, rfl, hm.faults_le, fun _ => rfl⟩
  | subscription f =>
    rw [hfund] at hch
    simp only [rollbackFundingReserve, hfund] at h
    obtain ⟨db, hpost⟩ :=
      postConsume_lower hch.2 (hid f hfund) (show -delta ≤ 0 by omega)
    rw [hpost] at h
    cases h
    obtain ⟨hheld, hrec⟩ := postConsume_held hch.2 (by omega) hpost
    refine ⟨by simpa [sub_eq_add_neg] using subscription hch hheld, hrec, le_refl _,
      fun _ => ?_⟩
    simp only [unreserved, ← hfund]

lemma reserveToken_moved {reserved : Bool} (hdelta : 0 < delta)
    (h : s.reserveToken env l delta = (reserved, l')) :
    l'.db = l.db ∧
      LedgerMoved 0 (if reserved then s.relayInfo.tokenShare delta else 0) l l' := by
  unfold BillingSession.reserveToken at h
  split at h
  · next hor =>
    cases h
    rcases hor with hle | hpg
    · omega
    · simpa [RelayInfo.tokenShare, hpg] using LedgerMoved.refl l
  · exact preConsumeTokenQuota_moved h

/-- Where nothing is overwritten, the checked reservation leaves the wallet's counter as the
unchecked one does. -/
lemma reserved_of_not_overwrites (delta : Int) (hc : Counters s) (hres : s.reserves target = true)
    (hgrant : ∀ w, s.funding = .wallet w → s.relayInfo.imageRequest = true →
      ∃ a, tryReserveUserQuota env.mode l.user (target - s.preConsumedQuota) = .ok (true, a))
    (hno : s.overwritesConsumed env l target = false) :
    s.funding.reserved s.relayInfo.imageRequest delta = s.funding.reserved false delta := by
  cases hfund : s.funding with
  | subscription f => rfl
  | wallet w =>
    cases himg : s.relayInfo.imageRequest with
    | false => rfl
    | true =>
      obtain ⟨a, ha⟩ := hgrant w hfund himg
      have hquota : s.preConsumedQuota ≤ 0 := by
        simpa [overwritesConsumed, hres, himg, hfund, ha] using hno
      have hw := hc.wallet w hfund
      have hconsumed : w.consumed = 0 := by omega
      simp [reserved, hconsumed]

lemma reserveFunding_session (h : s.reserveFunding env l delta imageRequest = (.ok s', l')) :
    ∃ funding, s' = { s with funding := funding } := by
  unfold reserveFunding at h
  split at h
  · split at h
    all_goals
      split at h <;> cases h
      exact ⟨_, rfl⟩
  · split at h <;> cases h
    exact ⟨_, rfl⟩

lemma rollbackFundingReserve_session (h : s.rollbackFundingReserve env l delta = (s', l')) :
    ∃ funding, s' = { s with funding := funding } := by
  unfold rollbackFundingReserve at h
  split at h <;> split at h <;> cases h <;> exact ⟨_, rfl⟩

/-- `Reserve` does not end a session. -/
lemma reserve_refunded (h : s.reserve env l target = (r, s', l')) : s'.refunded = s.refunded := by
  unfold reserve at h
  split at h
  · dsimp only at h
    split at h
    · cases h
      rfl
    rename_i hfund
    obtain ⟨f₁, rfl⟩ := reserveFunding_session hfund
    split at h
    · obtain ⟨f₂, rfl⟩ := rollbackFundingReserve_session (Prod.mk.inj h).2
      rfl
    · cases h
      simp [recordReserve]
  · cases h
    rfl

/-- `Reserve` leaves a settled or refunded session alone. -/
lemma reserve_of_not_open (hopen : ¬ (s.settled = false ∧ s.refunded = false)) :
    s.reserve env l target = (none, s, l) := by
  have hno : s.reserves target = false := by
    simp only [reserves, decide_eq_false_iff_not, not_not]
    by_cases hs : s.settled = true
    · exact Or.inl hs
    refine Or.inr (Or.inl ?_)
    by_contra hr
    exact hopen ⟨by simpa using hs, by simpa using hr⟩
  rw [reserve, if_neg (by simp [hno])]

/-- What a call of `Reserve` on an open session can do. Either nothing stays charged, and at most
the wallet's counter was set and taken back; or both ledgers are charged the difference and the
session records it. -/
theorem reserve_cases (hc : Counters s)
    (hch : Charges l₀ base s.funding.sub? l s.preConsumedQuota y)
    (h : s.reserve env l target = (r, s', l')) (hf : l'.faults = l.faults) :
    l'.db.records = l.db.records ∧
    (Charges l₀ base s.funding.sub? l' s.preConsumedQuota y ∧
        (s' = s ∨ ∃ delta funding, 0 < delta ∧
          funding = s.funding.reserved s.relayInfo.imageRequest delta ∧
          (s.overwritesConsumed env l target = false → funding = s.funding.reserved false delta) ∧
          s' = { s with funding := funding.unreserved delta }) ∨
      r = none ∧ ∃ delta funding, 0 < delta ∧
        funding = s.funding.reserved s.relayInfo.imageRequest delta ∧
        (s.overwritesConsumed env l target = false → funding = s.funding.reserved false delta) ∧
        s' = recordReserve { s with funding := funding } delta ∧
        Charges l₀ base s.funding.sub? l' (s.preConsumedQuota + delta)
          (y + s.relayInfo.tokenShare delta)) := by
  unfold reserve at h
  split at h
  · next hres =>
    dsimp only at h
    have hdelta : 0 < target - s.preConsumedQuota := by
      simp only [reserves, decide_eq_true_eq, not_or] at hres
      omega
    set delta := target - s.preConsumedQuota
    split at h
    · next hfund =>
      cases h
      obtain ⟨hdb, hm⟩ := reserveFunding_error hfund
      exact ⟨by rw [hdb], Or.inl ⟨hch.frame hm hdb, Or.inl rfl⟩⟩
    rename_i s₁ l₁ hfund
    obtain ⟨rfl, hch₁, hrec₁, hf₁, hgrant⟩ :=
      reserveFunding_ok hdelta hc.quota_nonneg hch hfund
    have hkeep := reserved_of_not_overwrites delta hc hres hgrant
    split at h
    · next l₂ htok =>
      obtain ⟨-, hback⟩ := Prod.mk.inj h
      obtain ⟨hdb₂, hm₂⟩ := reserveToken_moved hdelta htok
      have hch₂ := hch₁.frame (by simpa using hm₂) hdb₂
      have hid : ∀ f, s.funding.reserved s.relayInfo.imageRequest delta = .subscription f →
          0 < f.subscriptionId :=
        fun f hfs => (hc.subscription f (subscription_of_reserved hfs)).2.1
      have hx : delta ≤ s.preConsumedQuota + delta := by
        have := hc.quota_nonneg
        omega
      rw [← reserved_sub? s.funding s.relayInfo.imageRequest delta] at hch₂
      obtain ⟨hch₃, hrec₃, hf₃, hs'⟩ := rollbackFundingReserve_ok hdelta hx hid hch₂ hback
      have hf₂ := hm₂.faults_le
      refine ⟨by rw [hrec₃, hdb₂, hrec₁], Or.inl ⟨by simpa using hch₃, Or.inr ?_⟩⟩
      exact ⟨delta, _, hdelta, rfl, hkeep, hs' (by omega)⟩
    · next l₂ htok =>
      cases h
      obtain ⟨hdb₂, hm₂⟩ := reserveToken_moved hdelta htok
      refine ⟨by rw [hdb₂, hrec₁], Or.inr ⟨rfl, delta, _, hdelta, rfl, hkeep, rfl, ?_⟩⟩
      exact hch₁.token (by simpa using hm₂) hdb₂
  · cases h
    exact ⟨rfl, Or.inl ⟨hch, Or.inl rfl⟩⟩

end

variable {s : BillingSession} {delta : Int}

lemma Counters.unreserved (hc : Counters s) (imageRequest : Bool) :
    Counters { s with funding := (s.funding.reserved imageRequest delta).unreserved delta } :=
  { hc with
    wallet := by
      intro w' hw'
      cases hfund : s.funding with
      | subscription f => simp [hfund, FundingSource.reserved, FundingSource.unreserved] at hw'
      | wallet w =>
        have hw := hc.wallet w hfund
        simp only [hfund, FundingSource.reserved, FundingSource.unreserved,
          FundingSource.wallet.injEq] at hw'
        subst hw'
        cases imageRequest <;> simp <;> omega
    subscription := by
      intro f hf
      exact hc.subscription f (subscription_of_reserved (subscription_of_unreserved hf)) }

lemma Counters.recordReserve (hc : Counters s) (imageRequest : Bool) (hdelta : 0 < delta) :
    Counters (BillingSession.recordReserve
      { s with funding := s.funding.reserved imageRequest delta } delta) where
  quota_nonneg := by
    have := hc.quota_nonneg
    simp only [BillingSession.recordReserve, syncRelayInfo_fields]
    omega
  token_eq := by simp [BillingSession.recordReserve, hc.token_eq]
  extra_nonneg := by
    have := hc.extra_nonneg
    simp only [BillingSession.recordReserve, syncRelayInfo_fields]
    omega
  wallet := by
    intro w' hw'
    simp only [BillingSession.recordReserve, syncRelayInfo_fields] at hw' ⊢
    cases hfund : s.funding with
    | subscription f => simp [hfund, FundingSource.reserved] at hw'
    | wallet w =>
      have hw := hc.wallet w hfund
      simp only [hfund, FundingSource.reserved, FundingSource.wallet.injEq] at hw'
      subst hw'
      cases imageRequest <;> simp <;> omega
  subscription := by
    intro f hf
    simp only [BillingSession.recordReserve, syncRelayInfo_fields] at hf
    obtain ⟨hpre, hid, hsum, -, hreq⟩ := hc.subscription f (subscription_of_reserved hf)
    refine ⟨hpre, hid, ?_, ?_, hreq⟩
    · simp only [BillingSession.recordReserve, syncRelayInfo_fields]
      omega
    · exact syncRelayInfo_subscriptionId _ hf

/-- Reservations leave a subscription funding source as it is, and with it its record. -/
lemma FundingRecorded.of_reserved {db db' : SubscriptionDB} {funding' : FundingSource}
    {status : RecordStatus} (h : FundingRecorded db funding status)
    (hrec : db'.records = db.records)
    (hfund : ∀ f, funding' = .subscription f → funding = .subscription f) :
    FundingRecorded db' funding' status := by
  intro f hf
  obtain ⟨record, hget, hrest⟩ := h f (hfund f hf)
  exact ⟨record, by rw [hrec]; exact hget, hrest⟩

@[simp] lemma syncRelayInfo_tokenShare (s : BillingSession) (x : Int) :
    s.syncRelayInfo.relayInfo.tokenShare x = s.relayInfo.tokenShare x := by
  simp [tokenShare]

@[simp] lemma tokenShare_add (info : RelayInfo) (x y : Int) :
    info.tokenShare (x + y) = info.tokenShare x + info.tokenShare y := by
  unfold tokenShare
  split <;> simp

/-! ## `Settle` -/

section
variable {env : BillingEnv} {l₀ l l' : Ledger} {s b : BillingSession} {base : Nat}
  {x y delta : Int}

/-- What a subscription has used cannot become negative; a wallet has no such bound. -/
lemma fundingSettle_ok (hx : funding.sub? = none ∨ 0 ≤ x + delta)
    (hch : Charges l₀ base funding.sub? l x y) (h : funding.settle env l delta = .ok l') :
    Charges l₀ base funding.sub? l' (x + delta) y ∧ l'.db.records = l.db.records := by
  cases funding with
  | wallet w =>
    have hm : LedgerMoved delta 0 l l' ∧ l'.db = l.db := by
      simp only [FundingSource.settle] at h
      split at h
      · next h0 =>
        cases h
        rw [h0]
        exact ⟨LedgerMoved.refl l, rfl⟩
      split at h
      · unfold updateUser at h
        split at h
        · next a hdec =>
          cases h
          exact ⟨LedgerMoved.of_user (decreaseQuota_moved hdec) rfl, rfl⟩
        · cases h
      unfold updateUser at h
      split at h
      · next a hinc =>
        cases h
        exact ⟨LedgerMoved.of_user (increaseUserQuota_moved hinc) rfl, rfl⟩
      · cases h
    exact ⟨by simpa using Charges.wallet hch hm.1 hm.2, by rw [hm.2]⟩
  | subscription f =>
    simp only [FundingSource.settle] at h
    split at h
    · next h0 =>
      cases h
      rw [h0, add_zero]
      exact ⟨hch, rfl⟩
    unfold updateDB at h
    split at h
    · next db hpost =>
      cases h
      have hused : 0 ≤ x + delta := hx.resolve_left (by simp)
      obtain ⟨hheld, hrec⟩ := postConsume_held hch.2 hused hpost
      exact ⟨Charges.subscription hch hheld, hrec⟩
    · cases h

/-- The token's part of a settlement has the sign its update expects, so it cannot fail. -/
lemma settleToken_ok (env : BillingEnv) (l : Ledger) (delta : Int) :
    ∃ a, settleToken env l delta = .ok a ∧ Moved .token (-delta) l.token a := by
  unfold settleToken
  split
  · next hpos =>
    have hdec : decreaseTokenQuota env.mode l.token delta
        = .ok (persistQuotaDelta env.mode .token l.token (-delta)) := by
      simp only [decreaseTokenQuota, decreaseQuota]
      rw [if_neg (by omega)]
    exact ⟨_, hdec, decreaseQuota_moved hdec⟩
  rename_i hle
  have hinc : increaseTokenQuota env.mode l.token (-delta)
      = .ok (persistQuotaDelta env.mode .token l.token (-delta)) := by
    unfold increaseTokenQuota
    rw [if_neg (by omega)]
  exact ⟨_, hinc, increaseTokenQuota_moved hinc⟩

lemma finishSettle_ok {r : Option FundingError} (h : s.finishSettle env l delta = (r, b, l')) :
    r = none ∧ l'.db = l.db ∧ LedgerMoved 0 (s.relayInfo.tokenShare delta) l l' ∧
      ∃ postDelta, b = { s with
        fundingSettled := true
        settled := true
        relayInfo := { s.relayInfo with subscriptionPostDelta := postDelta } } := by
  unfold BillingSession.finishSettle at h
  dsimp only at h
  split at h
  · next hpg =>
    cases h
    exact ⟨rfl, rfl, by simpa [RelayInfo.tokenShare, hpg] using LedgerMoved.refl l, _, rfl⟩
  rename_i hpg
  obtain ⟨a, ha, hm⟩ := settleToken_ok env l delta
  rw [ha] at h
  cases h
  refine ⟨rfl, rfl, ?_, _, rfl⟩
  simp only [RelayInfo.tokenShare, hpg]
  exact LedgerMoved.of_token hm rfl

/-- What a call of `Settle` can do: nothing on a settled session; only the flag when the cost is
what was pre-consumed; nothing when the funding source refuses the difference; otherwise both
ledgers are charged the difference. -/
theorem settle_cases {actual : Int} {r : Option FundingError} (hfs : s.fundingSettled = false)
    (hx : s.funding.sub? = none ∨ 0 ≤ x + (actual - s.preConsumedQuota))
    (hch : Charges l₀ base s.funding.sub? l x y) (h : s.settle env l actual = (r, b, l')) :
    s.settled = true ∧ b = s ∧ l' = l ∨
    s.settled = false ∧ actual = s.preConsumedQuota ∧ b = { s with settled := true } ∧ l' = l ∨
    s.settled = false ∧ r ≠ none ∧ b = s ∧ l' = l ∨
    s.settled = false ∧ actual ≠ s.preConsumedQuota ∧ l'.db.records = l.db.records ∧
      Charges l₀ base s.funding.sub? l' (x + (actual - s.preConsumedQuota))
        (y + s.relayInfo.tokenShare (actual - s.preConsumedQuota)) ∧
      ∃ postDelta, b = { s with
        fundingSettled := true
        settled := true
        relayInfo := { s.relayInfo with subscriptionPostDelta := postDelta } } := by
  unfold BillingSession.settle at h
  split at h
  · next hs =>
    cases h
    exact Or.inl ⟨hs, rfl, rfl⟩
  rename_i hs
  have hs' : s.settled = false := by simpa using hs
  dsimp only at h
  split at h
  · next h0 =>
    cases h
    exact Or.inr (Or.inl ⟨hs', by omega, rfl, rfl⟩)
  rename_i hne
  rw [BillingSession.settleFunding, if_neg (by simp [hfs])] at h
  split at h
  · cases h
    exact Or.inr (Or.inr (Or.inl ⟨hs', by simp, rfl, rfl⟩))
  rename_i l₁ hset
  obtain ⟨hch₁, hrec₁⟩ := fundingSettle_ok hx hch hset
  obtain ⟨-, hdb₂, hm₂, hb⟩ := finishSettle_ok h
  exact Or.inr (Or.inr (Or.inr ⟨hs', by omega, by rw [hdb₂, hrec₁], hch₁.token hm₂ hdb₂, hb⟩))

end

/-! ## The refund job -/

/-- What one call of the refund job returns to the funding source. -/
def RefundAction.fundingReturn (funding : FundingSource) : RefundAction → Int
  | .funding =>
    match funding with
    | .wallet w => w.consumed
    | .subscription f => f.preConsumed
  | .extra _ extraReserved =>
    match funding with
    | .wallet _ => 0
    | .subscription _ => extraReserved
  | .token _ _ => 0

/-- What one call of the refund job returns to the token. -/
def RefundAction.tokenReturn : RefundAction → Int
  | .token tokenConsumed _ => tokenConsumed
  | _ => 0

/-- The job an accepted refund starts. -/
def BillingSession.refundJob (s : BillingSession) : List RefundAction :=
  [.funding, .extra s.relayInfo.subscriptionId s.extraReserved,
    .token s.tokenConsumed s.relayInfo.isPlayground]

@[simp] lemma fundingReturn_token (funding : FundingSource) (tokenConsumed : Int)
    (isPlayground : Bool) :
    fundingReturn funding (.token tokenConsumed isPlayground) = 0 := rfl

lemma fundingReturn_extra_nonneg (funding : FundingSource) (id : Nat) {extraReserved : Int}
    (h : 0 ≤ extraReserved) : 0 ≤ fundingReturn funding (.extra id extraReserved) := by
  cases funding with
  | wallet w => exact le_refl (0 : Int)
  | subscription f => exact h

section
variable {l₀ l : Ledger} {s : BillingSession} {base : Nat} {x y : Int}

lemma refundWithRetry_eq (fn : SubscriptionDB → Except SubscriptionError SubscriptionDB)
    (retries : Nat) (db : SubscriptionDB) : refundWithRetry fn retries db = fn db := by
  induction retries with
  | zero => rfl
  | succ n ih =>
    rw [refundWithRetry, ih]
    split
    · next h => exact h.symm
    · rfl

section
variable (env : BillingEnv) (hc : Counters s) (hch : Charges l₀ base s.funding.sub? l x y)
include hc hch

/-- The first call returns what was pre-consumed, and marks the record of a subscription. -/
lemma perform_funding (hrec : FundingRecorded l.db s.funding .consumed)
    (hx : RefundAction.fundingReturn s.funding .funding ≤ x) :
    Charges l₀ base s.funding.sub? (RefundAction.perform env s.funding l .funding)
        (x - RefundAction.fundingReturn s.funding .funding) y ∧
      FundingRecorded (RefundAction.perform env s.funding l .funding).db s.funding .refunded := by
  cases hfund : s.funding with
  | wallet w =>
    rw [hfund] at hch
    have hw := hc.wallet w hfund
    have hm : LedgerMoved (-w.consumed) 0 l (RefundAction.perform env (.wallet w) l .funding) ∧
        (RefundAction.perform env (.wallet w) l .funding).db = l.db := by
      simp only [RefundAction.perform, FundingSource.refund]
      split
      · obtain h0 : w.consumed = 0 := by omega
        simpa [h0] using ⟨LedgerMoved.refl l, rfl⟩
      cases hinc : increaseUserQuota env.mode l.user w.consumed with
      | ok a =>
        have hm := increaseUserQuota_moved hinc
        exact ⟨LedgerMoved.of_user (by rw [neg_neg]; exact hm) rfl, rfl⟩
      | error e => exact ⟨LedgerMoved.of_user (Moved.fault (Nat.lt_succ_self _)) rfl, rfl⟩
    refine ⟨?_, by simp [FundingRecorded]⟩
    simpa [RefundAction.fundingReturn, sub_eq_add_neg] using Charges.wallet hch hm.1 hm.2
  | subscription f =>
    rw [hfund] at hch hx
    obtain ⟨hpre, hid, -, -, hreq⟩ := hc.subscription f hfund
    obtain ⟨db, hrefund, hheld, hrec'⟩ :=
      refundSubscriptionPreConsume_ok hreq hid hpre (hrec f hfund) hch.2 hx
    have hperform : RefundAction.perform env (.subscription f) l .funding = { l with db := db } := by
      simp only [RefundAction.perform, FundingSource.refund, refundWithRetry_eq, hrefund]
      rw [if_neg (by omega)]
      rfl
    rw [hperform]
    refine ⟨Charges.subscription hch hheld, ?_⟩
    intro f' hf'
    cases hf'
    exact hrec'

/-- The second call returns what was reserved on a subscription after its pre-consumption. -/
lemma perform_extra {id : Nat} (hid : id = s.relayInfo.subscriptionId)
    (hx : fundingReturn s.funding (.extra id s.extraReserved) ≤ x) :
    Charges l₀ base s.funding.sub?
        (perform env s.funding l (.extra id s.extraReserved))
        (x - fundingReturn s.funding (.extra id s.extraReserved)) y ∧
      (perform env s.funding l (.extra id s.extraReserved)).db.records
        = l.db.records := by
  cases hfund : s.funding with
  | wallet w =>
    rw [hfund] at hch
    simpa [perform, fundingReturn, source] using hch
  | subscription f =>
    rw [hfund] at hch hx
    obtain ⟨-, hidpos, -, hsync, -⟩ := hc.subscription f hfund
    have hextra := hc.extra_nonneg
    rw [hid, hsync] at *
    simp only [perform, fundingReturn, source] at hx ⊢
    split
    · obtain ⟨db, hpost⟩ :=
        postConsume_lower hch.2 hidpos (show -s.extraReserved ≤ 0 by omega)
      obtain ⟨hheld, hrec⟩ := postConsume_held hch.2 (by omega) hpost
      rw [hpost, sub_eq_add_neg]
      exact ⟨subscription hch hheld, hrec⟩
    rename_i hno
    obtain h0 : s.extraReserved = 0 := by
      by_contra hne
      exact hno ⟨by omega, trivial, hidpos⟩
    rw [h0, sub_zero]
    exact ⟨hch, rfl⟩

/-- The third call returns what the token was charged. -/
lemma perform_token :
    Charges l₀ base s.funding.sub?
        (perform env s.funding l (.token s.tokenConsumed s.relayInfo.isPlayground))
        x (y - s.relayInfo.tokenShare s.tokenConsumed) ∧
      (perform env s.funding l
        (.token s.tokenConsumed s.relayInfo.isPlayground)).db = l.db := by
  have hnonneg : 0 ≤ s.tokenConsumed := by
    rw [hc.token_eq]
    exact hc.quota_nonneg
  simp only [perform]
  split
  · next h =>
    refine ⟨?_, rfl⟩
    have hm := returnToken_moved env l s.tokenConsumed
    simpa [tokenShare, h.2, sub_eq_add_neg] using hch.token hm rfl
  rename_i h
  have h0 : s.relayInfo.tokenShare s.tokenConsumed = 0 := by
    unfold tokenShare
    split
    · rfl
    rename_i hpg
    by_contra hne
    exact h ⟨by omega, hpg⟩
  rw [h0, sub_zero]
  exact ⟨hch, rfl⟩

end

end

/-! ## The invariant -/

/-- What the funding source is charged in a state. -/
def BillingState.charged (s : BillingState) : Int :=
  if s.session.refunded then
    s.session.shortfall + (s.job.map (RefundAction.fundingReturn s.session.funding)).sum
  else s.settledWith.getD s.session.preConsumedQuota

/-- What the token is charged in a state, playground requests apart. -/
def BillingState.tokenCharged (s : BillingState) : Int :=
  if s.session.refunded then (s.job.map RefundAction.tokenReturn).sum
  else s.settledWith.getD s.session.preConsumedQuota

/-- The invariant of the runs of a session opened on the ledgers `l₀` with the funding source
`src`, in the playground or not. -/
structure BillingInv (l₀ : Ledger) (base : Nat) (src : Option Nat) (pg : Bool)
    (s : BillingState) : Prop where
  source : s.session.funding.sub? = src
  playground : s.session.relayInfo.isPlayground = pg
  counters : Counters s.session
  settled_of_fundingSettled : s.session.fundingSettled = true → s.session.settled = true
  settledWith_isSome : s.settledWith.isSome = s.session.settled
  charges : Charges l₀ base s.session.funding.sub? s.ledger s.charged
    (s.session.relayInfo.tokenShare s.tokenCharged)
  job : ∃ n, s.job = (if s.session.refunded then s.session.refundJob else []).drop n
  recorded : FundingRecorded s.ledger.db s.session.funding
    (if s.session.refunded ∧ .funding ∉ s.job then .refunded else .consumed)

lemma Opened.inv {env : BillingEnv} {info : RelayInfo} {l₀ l : Ledger}
    (h : Opened env info l₀ s l) :
    BillingInv l₀ (openingUsed env l₀ s.funding) s.funding.sub? info.isPlayground
      (start s l) :=
  { h with
    source := rfl
    settled_of_fundingSettled := by simp [start, h.not_fundingSettled]
    settledWith_isSome := by simp [start, h.not_settled]
    charges := by
      have := h.charges
      simpa [start, charged, tokenCharged, h.not_refunded,
        tokenShare, h.playground] using this
    job := ⟨0, by simp [start, h.not_refunded]⟩
    recorded := by simpa [start, h.not_refunded] using h.recorded }

namespace BillingInv
variable {env : BillingEnv} {l₀ l : Ledger} {base : Nat} {src : Option Nat} {pg : Bool}
  {s : BillingState}

section
variable (h : BillingInv l₀ base src pg s)
include h

lemma settledWith_eq_none (hs : s.session.settled = false) :
    s.settledWith = none := by
  have := h.settledWith_isSome
  rw [hs] at this
  simpa using this

lemma not_fundingSettled (hs : s.session.settled = false) : s.session.fundingSettled = false := by
  by_contra hne
  simp [h.settled_of_fundingSettled (by simpa using hne)] at hs

lemma job_eq_nil (hr : s.session.refunded = false) : s.job = [] := by
  obtain ⟨n, hn⟩ := h.job
  simpa [hr] using hn

/-- Background work moves nothing. -/
lemma frame (hm : LedgerMoved 0 0 s.ledger l)
    (hdb : l.db = s.ledger.db) : BillingInv l₀ base src pg { s with ledger := l } :=
  { h with
    charges := h.charges.frame hm hdb
    recorded := by
      rw [hdb]
      exact h.recorded }

/-- An open session has charged the pre-consumed quota. -/
lemma charges_of_open (hs : s.session.settled = false)
    (hr : s.session.refunded = false) :
    Charges l₀ base s.session.funding.sub? s.ledger s.session.preConsumedQuota
      (s.session.relayInfo.tokenShare s.session.preConsumedQuota) := by
  have := h.charges
  simpa [charged, tokenCharged, hr, h.settledWith_eq_none hs] using this

end

/-- Conversely, an open session is described by its counters and charges. -/
lemma of_open {b : BillingSession} (hsrc : b.funding.sub? = src)
    (hpg : b.relayInfo.isPlayground = pg) (hs : b.settled = false) (hr : b.refunded = false)
    (hfs : b.fundingSettled = false) (hw : s.settledWith = none) (hj : s.job = []) (hc : Counters b)
    (hch : Charges l₀ base b.funding.sub? l b.preConsumedQuota
      (b.relayInfo.tokenShare b.preConsumedQuota))
    (hrec : FundingRecorded l.db b.funding .consumed) :
    BillingInv l₀ base src pg { s with session := b, ledger := l } where
  source := hsrc
  playground := hpg
  counters := hc
  settled_of_fundingSettled := by simp [hfs]
  settledWith_isSome := by simp [hw, hs]
  charges := by simpa [charged, tokenCharged, hr, hw] using hch
  job := ⟨0, by simp [hj, hr]⟩
  recorded := by simpa [hr] using hrec

section
variable (h : BillingInv l₀ base src pg s)
include h

/-- `Reserve` keeps the invariant. -/
lemma reserve
    {b : BillingSession} (hres : s.session.reserve env s.ledger target = (r, b, l))
    (hf : l.faults = s.ledger.faults) :
    BillingInv l₀ base src pg { s with session := b, ledger := l } := by
  by_cases hopen : s.session.settled = false ∧ s.session.refunded = false
  · obtain ⟨hs, hr⟩ := hopen
    have hfs := h.not_fundingSettled hs
    have hrec₀ : FundingRecorded s.ledger.db s.session.funding .consumed := by
      simpa [hr] using h.recorded
    obtain ⟨hrec, ⟨hch, rfl | ⟨delta, _, hdelta, rfl, -, rfl⟩⟩ |
        ⟨-, delta, _, hdelta, rfl, -, rfl, hch⟩⟩ :=
      reserve_cases h.counters (h.charges_of_open hs hr) hres hf
    · exact of_open h.source h.playground hs hr hfs (h.settledWith_eq_none hs) (h.job_eq_nil hr)
        h.counters hch (hrec₀.of_reserved hrec fun f hf => hf)
    · refine of_open (by simpa using h.source) h.playground hs hr hfs (h.settledWith_eq_none hs)
        (h.job_eq_nil hr) (h.counters.unreserved _) (by simpa using hch) (hrec₀.of_reserved hrec fun f hf => ?_)
      exact subscription_of_reserved (subscription_of_unreserved hf)
    · refine of_open (by simpa [recordReserve] using h.source)
        (by simpa [recordReserve] using h.playground)
        (by simp [recordReserve, hs])
        (by simp [recordReserve, hr]) (by simp [recordReserve, hfs])
        (h.settledWith_eq_none hs) (h.job_eq_nil hr) (h.counters.recordReserve _ hdelta) ?_
        (hrec₀.of_reserved hrec fun f hf => subscription_of_reserved
          (by simpa [recordReserve] using hf))
      simpa [recordReserve] using hch
  · rw [reserve_of_not_open hopen] at hres
    cases hres
    exact h

/-- A handler that overwrites `ImageRequestCount` changes nothing the invariant speaks of. -/
lemma imageCount (count : Int) :
    BillingInv l₀ base src pg { s with session := { s.session with
      relayInfo := { s.session.relayInfo with imageRequestCount := count } } } :=
  { h with counters := { h.counters with } }

/-- `Settle` keeps the invariant, unless it would move money after an accepted refund. -/
lemma settle {actual : Nat} {r : Option FundingError}
    {b : BillingSession} (hset : s.session.settle env s.ledger actual = (r, b, l))
    (hguard : s.session.refunded = true →
      s.session.settled = true ∨ (actual : Int) = s.session.preConsumedQuota) :
    BillingInv l₀ base src pg { s with
      session := b
      ledger := l
      settledWith := if b.settled ∧ ¬ s.session.settled then some (actual : Int)
        else s.settledWith } := by
  by_cases hs : s.session.settled = true
  · rw [BillingSession.settle, if_pos hs] at hset
    cases hset
    simpa [hs] using h
  have hs' : s.session.settled = false := by simpa using hs
  have hfs := h.not_fundingSettled hs'
  by_cases hr : s.session.refunded = true
  · -- only a settlement without a difference is left
    have hact := (hguard hr).resolve_left hs
    rw [BillingSession.settle, if_neg hs] at hset
    simp only [hact, sub_self, if_pos] at hset
    cases hset
    refine ⟨h.source, h.playground, { h.counters with },
      by simp, by simp [hs'], ?_, ?_, ?_⟩
    · have := h.charges
      simpa [BillingState.charged, BillingState.tokenCharged, hr, BillingSession.shortfall]
        using this
    · simpa [hr, BillingSession.refundJob] using h.job
    · simpa [hr] using h.recorded
  · have hr' : s.session.refunded = false := by simpa using hr
    have hch := h.charges_of_open hs' hr'
    have hx : 0 ≤ s.session.preConsumedQuota + (actual - s.session.preConsumedQuota) := by omega
    have hrec : FundingRecorded s.ledger.db s.session.funding .consumed := by
      simpa [hr'] using h.recorded
    obtain ⟨hs₁, -⟩ | ⟨-, hact, rfl, rfl⟩ | ⟨-, -, rfl, rfl⟩ | ⟨-, -, hrecords, hch', d, rfl⟩ :=
      settle_cases hfs (.inr hx) hch hset
    · exact absurd hs₁ hs
    · refine ⟨h.source, h.playground, { h.counters with },
        by simp, by simp [hs'], ?_, ⟨0, by simp [hr', h.job_eq_nil hr']⟩, by simpa [hr'] using hrec⟩
      simpa [BillingState.charged, BillingState.tokenCharged, hr', hs', hact] using hch
    · simpa [hs'] using h
    · refine ⟨h.source, h.playground, { h.counters with },
        by simp, by simp [hs'], ?_, ⟨0, by simp [hr', h.job_eq_nil hr']⟩, ?_⟩
      · rw [← tokenShare_add, add_sub_cancel] at hch'
        simpa [BillingState.charged, BillingState.tokenCharged, hr', hs', RelayInfo.tokenShare]
          using hch'
      · simpa [hr'] using hrec.of_reserved hrecords fun f hf => hf

/-- `Refund` keeps the invariant: the job it starts owes what the session has charged. -/
lemma refund :
    BillingInv l₀ base src pg { s with
      session := s.session.refund.1
      job := s.job ++ s.session.refund.2 } := by
  unfold BillingSession.refund
  split
  · simpa using h
  rename_i hacc
  simp only [not_or, Bool.not_eq_true] at hacc
  obtain ⟨hs, hr, -⟩ := hacc
  have hfs := h.not_fundingSettled hs
  have hch := h.charges_of_open hs hr
  refine ⟨h.source, h.playground, { h.counters with },
    by simp [hfs], by simp [hs, h.settledWith_eq_none hs], ?_,
    ⟨0, by simp [BillingSession.refundJob, h.job_eq_nil hr]⟩, ?_⟩
  · -- what the three calls return, and the wallet's shortfall, add up to the charge
    have hsum : s.session.preConsumedQuota = s.session.shortfall +
        (RefundAction.fundingReturn s.session.funding .funding +
          RefundAction.fundingReturn s.session.funding
            (.extra s.session.relayInfo.subscriptionId s.session.extraReserved)) := by
      cases hfund : s.session.funding with
      | wallet w => simp [BillingSession.shortfall, RefundAction.fundingReturn, hfund]
      | subscription f =>
        simpa [BillingSession.shortfall, RefundAction.fundingReturn, hfund] using
          (h.counters.subscription f hfund).2.2.1.symm
    let t : BillingState := { s with
      session := { s.session with refunded := true }
      job := s.job ++ s.session.refundJob }
    have hx : t.charged = s.session.preConsumedQuota := by
      rw [hsum]
      simp [t, BillingState.charged, h.job_eq_nil hr, BillingSession.refundJob,
        BillingSession.shortfall, RefundAction.fundingReturn]
    have hy : t.tokenCharged = s.session.preConsumedQuota := by
      simp [t, BillingState.tokenCharged, h.job_eq_nil hr, BillingSession.refundJob,
        RefundAction.tokenReturn, h.counters.token_eq]
    show Charges l₀ base s.session.funding.sub? s.ledger t.charged
      (s.session.relayInfo.tokenShare t.tokenCharged)
    rw [hx, hy]
    exact hch
  · have := h.recorded
    simpa [hr] using this

/-- A refunded session is described by its counters and by what its job still owes. -/
lemma of_job (hr : s.session.refunded = true)
    {rest : List RefundAction} (hrest : ∃ n, rest = s.session.refundJob.drop n)
    (hch : Charges l₀ base s.session.funding.sub? l
      (s.session.shortfall + (rest.map (fundingReturn s.session.funding)).sum)
      (s.session.relayInfo.tokenShare (rest.map tokenReturn).sum))
    (hrec : FundingRecorded l.db s.session.funding .refunded) (hmem : .funding ∉ rest) :
    BillingInv l₀ base src pg { s with ledger := l, job := rest } :=
  { h with
    charges := by simpa [charged, tokenCharged, hr] using hch
    job := by simpa [hr] using hrest
    recorded := by simpa [hr, hmem] using hrec }

/-- One call of the refund job keeps the invariant. -/
lemma runJob {action : RefundAction} {rest : List RefundAction}
    (hjob : s.job = action :: rest) :
    BillingInv l₀ base src pg { s with
      ledger := perform env s.session.funding s.ledger action
      job := rest } := by
  have hr : s.session.refunded = true := by
    by_contra hr
    simp [h.job_eq_nil (by simpa using hr)] at hjob
  obtain ⟨n, hn⟩ := h.job
  have hch := h.charges
  have hrec := h.recorded
  simp only [charged, tokenCharged, hr, if_true, hjob,
    map_cons, sum_cons] at hch
  rw [hjob] at hrec
  rw [if_pos hr, hjob] at hn
  have hshort : 0 ≤ s.session.shortfall := by
    unfold shortfall
    split
    · next w hw =>
      have := h.counters.wallet w hw
      omega
    · exact le_refl _
  have hextra := fundingReturn_extra_nonneg s.session.funding s.session.relayInfo.subscriptionId
    h.counters.extra_nonneg
  -- the job is one of the three suffixes of the list `Refund` built
  match n, hn with
  | 0, hn =>
    simp only [refundJob, drop_zero, List.cons.injEq] at hn
    obtain ⟨rfl, rfl⟩ := hn
    simp only [map_cons, map_nil, sum_cons, sum_nil,
      tokenReturn, fundingReturn_token] at hch
    obtain ⟨hch', hrec'⟩ := perform_funding env h.counters hch (by simpa using hrec) (by omega)
    refine h.of_job hr ⟨1, rfl⟩ ?_ hrec' (by simp)
    rw [add_sub_assoc, add_sub_cancel_left] at hch'
    simpa [tokenReturn] using hch'
  | 1, hn =>
    simp only [refundJob, drop_succ_cons, drop_zero, List.cons.injEq] at hn
    obtain ⟨rfl, rfl⟩ := hn
    simp only [map_cons, map_nil, sum_cons, sum_nil,
      tokenReturn, fundingReturn_token] at hch
    obtain ⟨hch', hrec'⟩ := perform_extra env h.counters hch rfl (by omega)
    have hmarked : FundingRecorded s.ledger.db s.session.funding .refunded := by
      simpa [hr] using hrec
    refine h.of_job hr ⟨2, rfl⟩ ?_ (hmarked.of_reserved hrec' fun f hf => hf) (by simp)
    rw [add_sub_assoc, add_sub_cancel_left] at hch'
    simpa [tokenReturn] using hch'
  | 2, hn =>
    simp only [refundJob, drop_succ_cons, drop_zero, List.cons.injEq] at hn
    obtain ⟨rfl, rfl⟩ := hn
    simp only [map_nil, sum_nil, tokenReturn, fundingReturn_token, add_zero] at hch
    obtain ⟨hch', hdb⟩ := perform_token env h.counters hch
    have hmarked : FundingRecorded s.ledger.db s.session.funding .refunded := by
      simpa [hr] using hrec
    refine h.of_job hr ⟨3, rfl⟩ ?_ (by rwa [hdb]) (by simp)
    rw [sub_self] at hch'
    simpa [tokenShare] using hch'
  | n + 3, hn => simp [refundJob] at hn

end

end BillingInv

end NewApi.Service
