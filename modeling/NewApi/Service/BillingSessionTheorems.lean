import NewApi.Model.SubscriptionTheorems
import NewApi.Service.BillingSession

/-!
# What a billing session charges

`Charges l₀ base sub l x y` says that, since the ledgers were `l₀`, the funding source has been
charged `x` and the token `y`. Each operation of a session has one lemma that says how it moves
the two amounts.
-/

namespace NewApi.Service

open Model Runs BillingSession

/-! ## Ledgers -/

/-- The wallet was charged `w` and the token `t`, unless a write was reported as failed. -/
structure LedgerMoved (w t : Int) (l l' : Ledger) : Prop where
  user : Moved .user (-w) l.user l'.user
  token : Moved .token (-t) l.token l'.token

namespace LedgerMoved
variable {w t w' t' : Int} {l l' l'' : Ledger}

lemma of_user (h : Moved .user (-w) l.user l'.user) (ht : l'.token = l.token) :
    LedgerMoved w 0 l l' :=
  ⟨h, by rw [ht]; exact Moved.refl .token l.token⟩

lemma of_token (h : Moved .token (-t) l.token l'.token) (hu : l'.user = l.user) :
    LedgerMoved 0 t l l' :=
  ⟨by rw [hu]; exact Moved.refl .user l.user, h⟩

lemma of_eq (hu : l'.user = l.user) (ht : l'.token = l.token) : LedgerMoved 0 0 l l' :=
  of_token (by rw [ht]; exact Moved.refl .token l.token) hu

protected lemma refl (l : Ledger) : LedgerMoved 0 0 l l := of_eq rfl rfl

protected lemma trans (h : LedgerMoved w t l l') (h' : LedgerMoved w' t' l' l'') :
    LedgerMoved (w + w') (t + t') l l'' := by
  refine ⟨?_, ?_⟩
  · rw [neg_add]
    exact h.user.trans h'.user
  · rw [neg_add]
    exact h.token.trans h'.token

end LedgerMoved

/-- The number of writes reported as failed. -/
def Ledger.faults (l : Ledger) : Nat := l.user.faults + l.token.faults

lemma LedgerMoved.faults_le {w t : Int} {l l' : Ledger} (h : LedgerMoved w t l l') :
    l.faults ≤ l'.faults :=
  Nat.add_le_add h.user.faults_le h.token.faults_le

/-- The subscription behind a funding source; `none` for a wallet. -/
def FundingSource.sub? : FundingSource → Option Nat
  | .wallet _ => none
  | .subscription f => some f.subscriptionId

@[simp] lemma sub?_wallet (w : WalletFunding) : (FundingSource.wallet w).sub? = none := rfl

@[simp] lemma sub?_subscription (f : SubscriptionFunding) :
    (FundingSource.subscription f).sub? = some f.subscriptionId := rfl

/-- Since `l₀`, the funding source was charged `x` and the token `y`. A subscription is charged
over `base`, what it had used when the session was opened. -/
def Charges (l₀ : Ledger) (base : Nat) (sub : Option Nat) (l : Ledger) (x y : Int) : Prop :=
  match sub with
  | none => LedgerMoved x y l₀ l ∧ l.db = l₀.db
  | some id => LedgerMoved 0 y l₀ l ∧ Held l.db id base x

namespace Charges
variable {l₀ l l' : Ledger} {base : Nat} {sub : Option Nat} {x y w t : Int}

/-- Charges on the accounts of a wallet session. -/
lemma wallet (h : Charges l₀ base none l x y) (hm : LedgerMoved w t l l') (hdb : l'.db = l.db) :
    Charges l₀ base none l' (x + w) (y + t) :=
  ⟨h.1.trans hm, hdb.trans h.2⟩

/-- Charges on the token, whatever the funding source. -/
lemma token (h : Charges l₀ base sub l x y) (hm : LedgerMoved 0 t l l') (hdb : l'.db = l.db) :
    Charges l₀ base sub l' x (y + t) := by
  cases sub with
  | none => simpa using h.wallet hm hdb
  | some id => exact ⟨by simpa using h.1.trans hm, by rw [hdb]; exact h.2⟩

/-- Nothing is charged. -/
lemma frame (h : Charges l₀ base sub l x y) (hm : LedgerMoved 0 0 l l') (hdb : l'.db = l.db) :
    Charges l₀ base sub l' x y := by
  simpa using h.token hm hdb

/-- Charges on the subscription. -/
lemma subscription {id : Nat} {db : SubscriptionDB} {x' : Int}
    (h : Charges l₀ base (some id) l x y) (hheld : Held db id base x') :
    Charges l₀ base (some id) { l with db := db } x' y := by
  have hm : LedgerMoved 0 0 l { l with db := db } := LedgerMoved.of_eq rfl rfl
  exact ⟨by simpa using h.1.trans hm, hheld⟩

lemma faults_le (h : Charges l₀ base sub l x y) : l₀.faults ≤ l.faults := by
  cases sub with
  | none | some id => exact h.1.faults_le

end Charges

/-! ## Funding sources and the token -/

section
variable {env : BillingEnv} {l l' : Ledger}

/-- A wallet reservation either charges the amount and sets the counter to it, or charges nothing
(a non-positive amount, or an error). -/
lemma WalletFunding.preConsume_ok {w w' : WalletFunding} {amount : Int}
    (h : w.preConsume env l amount = (.ok w', l')) :
    l'.db = l.db ∧ (amount ≤ 0 ∧ w' = w ∧ l' = l ∨
      0 < amount ∧ w' = { w with consumed := amount } ∧ LedgerMoved amount 0 l l' ∧
        ∃ a, tryReserveUserQuota env.mode l.user amount = .ok (true, a)) := by
  unfold WalletFunding.preConsume at h
  split at h
  · next hle =>
    cases h
    exact ⟨rfl, Or.inl ⟨hle, rfl, rfl⟩⟩
  rename_i hpos
  split at h
  · cases h
  · cases h
  rename_i a hres
  cases h
  refine ⟨rfl, Or.inr ⟨by omega, rfl, LedgerMoved.of_user ?_ rfl, a, hres⟩⟩
  simpa using tryReserveUserQuota_moved hres

lemma WalletFunding.preConsume_error {w : WalletFunding} {amount : Int} {e : FundingError}
    (h : w.preConsume env l amount = (.error e, l')) :
    l'.db = l.db ∧ LedgerMoved 0 0 l l' := by
  unfold WalletFunding.preConsume at h
  split at h
  · cases h
  split at h
  · cases h
    exact ⟨rfl, LedgerMoved.refl l⟩
  · next a hres =>
    cases h
    exact ⟨rfl, LedgerMoved.of_user (by simpa using tryReserveUserQuota_moved hres) rfl⟩
  · cases h

/-- What a request's token is charged for `x`: nothing in the playground. -/
def RelayInfo.tokenShare (info : RelayInfo) (x : Int) : Int := if info.isPlayground then 0 else x

lemma preConsumeTokenQuota_moved {info : RelayInfo} {quota : Int} {reserved : Bool}
    (h : preConsumeTokenQuota env info l quota = (reserved, l')) :
    l'.db = l.db ∧ LedgerMoved 0 (if reserved then info.tokenShare quota else 0) l l' := by
  unfold preConsumeTokenQuota at h
  unfold RelayInfo.tokenShare
  split at h
  · cases h
    exact ⟨rfl, LedgerMoved.refl l⟩
  split at h
  · next hpg =>
    cases h
    simpa [hpg] using LedgerMoved.refl l
  rename_i hpg
  split at h
  · cases h
    exact ⟨rfl, LedgerMoved.refl l⟩
  rename_i a hres
  cases h
  refine ⟨rfl, LedgerMoved.of_token ?_ rfl⟩
  have hm := tryReserveTokenQuota_moved hres
  cases reserved <;> simpa [hpg] using hm

lemma returnToken_moved (env : BillingEnv) (l : Ledger) (amount : Int) :
    LedgerMoved 0 (-amount) l (returnToken env l amount) := by
  refine LedgerMoved.of_token ?_ rfl
  rw [neg_neg]
  exact logged_moved fun a' => increaseTokenQuota_moved

lemma readUserQuota_moved (env : BillingEnv) (l : Ledger) :
    LedgerMoved 0 0 l (readUserQuota env l) ∧ (readUserQuota env l).db = l.db := by
  unfold readUserQuota
  split
  · next h => exact ⟨LedgerMoved.of_user (by simpa using getUserQuota_moved h) rfl, rfl⟩
  · exact ⟨LedgerMoved.refl l, rfl⟩

end

/-! ## Opening a session -/

section
variable (s : BillingSession)

/-- Only the fields of the relay info that mirror the session change. -/
@[simp] lemma syncRelayInfo_fields :
    s.syncRelayInfo.funding = s.funding ∧ s.syncRelayInfo.preConsumedQuota = s.preConsumedQuota ∧
      s.syncRelayInfo.tokenConsumed = s.tokenConsumed ∧
      s.syncRelayInfo.extraReserved = s.extraReserved ∧ s.syncRelayInfo.trusted = s.trusted ∧
      s.syncRelayInfo.settled = s.settled ∧ s.syncRelayInfo.refunded = s.refunded ∧
      s.syncRelayInfo.fundingSettled = s.fundingSettled ∧
      s.syncRelayInfo.relayInfo.finalPreConsumedQuota = s.preConsumedQuota ∧
      s.syncRelayInfo.relayInfo.isPlayground = s.relayInfo.isPlayground := by
  unfold syncRelayInfo
  split <;> simp

lemma syncRelayInfo_subscriptionId {f : SubscriptionFunding} (h : s.funding = .subscription f) :
    s.syncRelayInfo.relayInfo.subscriptionId = f.subscriptionId := by
  unfold syncRelayInfo; rw [h]

end

/-- The counters that drive a refund, in step with the pre-consumed quota. A wallet's counter may
lag behind it. -/
structure Counters (s : BillingSession) : Prop where
  quota_nonneg : 0 ≤ s.preConsumedQuota
  token_eq : s.tokenConsumed = s.preConsumedQuota
  extra_nonneg : 0 ≤ s.extraReserved
  wallet : ∀ w, s.funding = .wallet w → 0 ≤ w.consumed ∧ w.consumed ≤ s.preConsumedQuota
  subscription : ∀ f, s.funding = .subscription f → 0 < f.preConsumed ∧ 0 < f.subscriptionId ∧
    f.preConsumed + s.extraReserved = s.preConsumedQuota ∧
    s.relayInfo.subscriptionId = f.subscriptionId ∧ trimSpace f.requestId ≠ ""

/-- What a refund of the funding source would leave charged. -/
def BillingSession.shortfall (s : BillingSession) : Int :=
  match s.funding with
  | .wallet w => s.preConsumedQuota - w.consumed
  | .subscription _ => 0

/-- What a subscription had used when the session was opened, after the reset that was due. -/
def openingUsed (env : BillingEnv) (l₀ : Ledger) : FundingSource → Nat
  | .wallet _ => 0
  | .subscription f => (usedAfterDueReset env.cal l₀.db f.subscriptionId env.preConsumeTime).getD 0

/-- The pre-consumption record of a subscription session has the given status. -/
def FundingRecorded (db : SubscriptionDB) (funding : FundingSource) (status : RecordStatus) :
    Prop :=
  ∀ f, funding = .subscription f →
    Recorded db f.requestId f.subscriptionId f.preConsumed status

/-- A session as `NewBillingSession` returns it. -/
structure Opened (env : BillingEnv) (info : RelayInfo) (l₀ : Ledger) (s : BillingSession)
    (l : Ledger) : Prop where
  counters : Counters s
  no_shortfall : s.shortfall = 0
  not_settled : s.settled = false
  not_refunded : s.refunded = false
  not_fundingSettled : s.fundingSettled = false
  playground : s.relayInfo.isPlayground = info.isPlayground
  charges : Charges l₀ (openingUsed env l₀ s.funding) s.funding.sub? l s.preConsumedQuota
    (info.tokenShare s.preConsumedQuota)
  recorded : FundingRecorded l.db s.funding .consumed
  opening : ∀ f, s.funding = .subscription f →
    usedAfterDueReset env.cal l₀.db f.subscriptionId env.preConsumeTime
      = some (openingUsed env l₀ s.funding)

section
variable {env : BillingEnv} {info : RelayInfo} {l l' l₀ : Ledger} {s s' : BillingSession}
  {quota : Int} {e : ErrorCode}

lemma preConsumeToken_some (h : s.preConsumeToken env l quota = (some s', l'))
    (hs : s.tokenConsumed = 0) (hq : 0 ≤ quota) :
    s' = { s with tokenConsumed := quota } ∧ l'.db = l.db ∧
      LedgerMoved 0 (s.relayInfo.tokenShare quota) l l' := by
  unfold preConsumeToken at h
  split at h
  · split at h
    · next hres =>
      cases h
      have hm := preConsumeTokenQuota_moved hres
      exact ⟨rfl, hm.1, by simpa using hm.2⟩
    · cases h
  rename_i hle
  cases h
  obtain rfl : quota = 0 := by omega
  refine ⟨?_, rfl, by simpa [RelayInfo.tokenShare] using LedgerMoved.refl l⟩
  rw [← hs]

lemma fundingPreConsume_error {funding : FundingSource} {fe : FundingError}
    (h : funding.preConsume env l quota = (.error fe, l')) :
    l'.db = l.db ∧ LedgerMoved 0 0 l l' := by
  cases funding with
  | wallet w =>
    simp only [FundingSource.preConsume] at h
    split at h
    · cases h
    rename_i hw
    cases h
    exact WalletFunding.preConsume_error hw
  | subscription f =>
    simp only [FundingSource.preConsume, SubscriptionFunding.preConsume] at h
    split at h
    · cases h
    rename_i hf
    split at hf <;> cases hf
    cases h
    exact ⟨rfl, LedgerMoved.refl l⟩

/-- The rollback returns what the token was charged. -/
lemma rollbackPreConsume_moved (env : BillingEnv) (s : BillingSession) (l : Ledger)
    (fe : FundingError) (hs : 0 ≤ s.tokenConsumed) :
    (s.rollbackPreConsume env l fe).db = l.db ∧
      LedgerMoved 0 (-s.relayInfo.tokenShare s.tokenConsumed) l (s.rollbackPreConsume env l fe) := by
  set l₁ := if 0 < s.tokenConsumed ∧ ¬ s.relayInfo.isPlayground then
      returnToken env l s.tokenConsumed else l with hl₁
  have h₁ : l₁.db = l.db ∧ LedgerMoved 0 (-s.relayInfo.tokenShare s.tokenConsumed) l l₁ := by
    rw [hl₁]
    unfold RelayInfo.tokenShare
    split
    · next h => simpa [h.2] using ⟨rfl, returnToken_moved env l s.tokenConsumed⟩
    rename_i h
    refine ⟨rfl, ?_⟩
    split
    · simpa using LedgerMoved.refl l
    rename_i hpg
    obtain h0 : s.tokenConsumed = 0 := by
      by_contra hne
      exact h ⟨by omega, hpg⟩
    simpa [h0] using LedgerMoved.refl l
  have hdef : s.rollbackPreConsume env l fe
      = if fe = .insufficientWalletQuota then readUserQuota env l₁ else l₁ := rfl
  rw [hdef]
  split
  · have h₂ := readUserQuota_moved env l₁
    exact ⟨h₂.2.trans h₁.1, by simpa using h₁.2.trans h₂.1⟩
  · exact h₁

lemma preConsumeFunding_error (h : s.preConsumeFunding env l quota = (.error e, l'))
    (hs : 0 ≤ s.tokenConsumed) :
    l'.db = l.db ∧ LedgerMoved 0 (-s.relayInfo.tokenShare s.tokenConsumed) l l' := by
  unfold preConsumeFunding at h
  split at h
  · next fe l₁ hf =>
    cases h
    obtain ⟨hdb₁, hm₁⟩ := fundingPreConsume_error hf
    obtain ⟨hdb₂, hm₂⟩ := rollbackPreConsume_moved env s l₁ fe hs
    exact ⟨hdb₂.trans hdb₁, by simpa using hm₁.trans hm₂⟩
  · cases h

lemma effectiveQuota_nonneg (env : BillingEnv) (s : BillingSession) (hq : 0 ≤ quota) :
    0 ≤ s.effectiveQuota env quota := by
  unfold effectiveQuota
  split <;> omega

/-- A failed pre-consumption charges nothing. -/
lemma preConsume_error (hs : s.tokenConsumed = 0) (hq : 0 ≤ quota)
    (h : s.preConsume env l quota = (.error e, l')) :
    l'.db = l.db ∧ LedgerMoved 0 0 l l' := by
  have heff := effectiveQuota_nonneg env s hq
  unfold preConsume at h
  dsimp only at h
  split at h
  · next htok =>
    cases h
    unfold preConsumeToken at htok
    split at htok
    · split at htok
      · cases htok
      rename_i hres
      cases htok
      have hm := preConsumeTokenQuota_moved hres
      exact ⟨hm.1, by simpa using hm.2⟩
    · cases htok
  rename_i s₁ l₁ htok
  obtain ⟨rfl, hdb₁, hm₁⟩ := preConsumeToken_some htok hs heff
  obtain ⟨hdb₂, hm₂⟩ := preConsumeFunding_error h heff
  exact ⟨hdb₂.trans hdb₁, by simpa using hm₁.trans hm₂⟩

/-- The token part of a successful pre-consumption; what is left is the funding source. -/
lemma preConsume_ok (hs : s.tokenConsumed = 0) (hq : 0 ≤ quota)
    (h : s.preConsume env l quota = (.ok s', l')) :
    ∃ l₁ funding, l₁.db = l.db ∧
      LedgerMoved 0 (s.relayInfo.tokenShare (s.effectiveQuota env quota)) l l₁ ∧
      s.funding.preConsume env l₁ (s.effectiveQuota env quota) = (.ok funding, l') ∧
      s' = syncRelayInfo { s with
        trusted := s.shouldTrust env
        tokenConsumed := s.effectiveQuota env quota
        funding := funding
        preConsumedQuota := s.effectiveQuota env quota } := by
  have heff := effectiveQuota_nonneg env s hq
  unfold preConsume at h
  dsimp only at h
  split at h
  · cases h
  rename_i s₁ l₁ htok
  obtain ⟨rfl, hdb₁, hm₁⟩ := preConsumeToken_some htok hs heff
  unfold preConsumeFunding at h
  split at h
  · cases h
  rename_i funding l₂ hf
  cases h
  exact ⟨l₁, funding, hdb₁, hm₁, hf, rfl⟩

/-- A wallet session charges the effective quota on both ledgers. -/
lemma wallet_opened (hq : 0 ≤ quota) (hl : LedgerMoved 0 0 l₀ l ∧ l.db = l₀.db) {userQuota : Int}
    (h : (init { info with userQuota := userQuota } (.wallet ⟨0⟩)).preConsume
      env l quota = (.ok s', l')) :
    Opened env info l₀ s' l' := by
  obtain ⟨l₁, funding, hdb₁, hm₁, hf, rfl⟩ := preConsume_ok rfl hq h
  set s := init { info with userQuota := userQuota } (.wallet ⟨0⟩) with hs
  have heff := effectiveQuota_nonneg env s hq
  set q := s.effectiveQuota env quota
  have hfs : s.funding = .wallet ⟨0⟩ := rfl
  rw [hfs] at hf
  simp only [FundingSource.preConsume] at hf
  split at hf
  · next w l₂ hw =>
    cases hf
    obtain ⟨hdb₂, hcase⟩ := WalletFunding.preConsume_ok hw
    have hc : w.consumed = q ∧ LedgerMoved q 0 l₁ l' := by
      rcases hcase with ⟨hle, rfl, rfl⟩ | ⟨_, rfl, hm, -⟩
      · obtain h0 : q = 0 := by omega
        rw [h0]
        exact ⟨rfl, LedgerMoved.refl _⟩
      · exact ⟨rfl, hm⟩
    have hm := (hl.1.trans hm₁).trans hc.2
    refine ⟨⟨by simpa using heff, by simp, by simp [hs, init], ?_, by simp⟩,
      by simp [shortfall, hc.1], by simp [hs, init],
      by simp [hs, init], by simp [hs, init],
      by simp [hs, init], ?_, by simp [FundingRecorded], by simp⟩
    · intro w' hw'
      simp only [syncRelayInfo_fields, FundingSource.wallet.injEq] at hw'
      subst hw'
      simpa [hc.1] using heff
    · have hdb : l'.db = l₀.db := hdb₂.trans (hdb₁.trans hl.2)
      simpa [Charges, FundingSource.sub?, hdb, RelayInfo.tokenShare, hs, init]
        using hm
  · cases hf

/-- Subscriptions never take the trust bypass. -/
lemma effectiveQuota_subscription {f : SubscriptionFunding} (hf : s.funding = .subscription f) :
    s.effectiveQuota env quota = quota := by
  have htrust : s.shouldTrust env = false := by
    simp [shouldTrust, hf, FundingSource.source]
  simp [effectiveQuota, htrust]

/-- What a subscription funding source records of its pre-consumption. -/
lemma subscriptionPreConsume_ok {f f' : SubscriptionFunding}
    (hfresh : l.db.records.get? f.requestId = none)
    (h : f.preConsume env l = (.ok f', l')) :
    ∃ base, l' = { l with db := l'.db } ∧ f'.requestId = f.requestId ∧
      f'.preConsumed = f.amount ∧ 0 < f'.subscriptionId ∧ trimSpace f.requestId ≠ "" ∧
      usedAfterDueReset env.cal l.db f'.subscriptionId env.preConsumeTime = some base ∧
      Held l'.db f'.subscriptionId base f.amount ∧
      Recorded l'.db f.requestId f'.subscriptionId f.amount .consumed := by
  unfold SubscriptionFunding.preConsume at h
  split at h
  · cases h
  rename_i res db hpre
  obtain ⟨hreq, hpos, hloop⟩ := preConsumeUserSubscription_new hfresh hpre
  obtain ⟨hamount, hid, hrec, base, hbase, hheld⟩ := consumeFirst_ok hpos rfl
    (fun s hs => Table.get?_of_mem (mem_rows_of_mem_activeSubscriptions hs)) hloop
  split at h <;> cases h <;>
    exact ⟨base, rfl, rfl, hamount, hid, hreq, hbase, hheld, hrec⟩

lemma trySubscription_opened (hl : LedgerMoved 0 0 l₀ l ∧ l.db = l₀.db)
    (hfresh : l₀.db.records.get? info.requestId = none)
    (h : trySubscription env info quota l = (.ok s', l')) : Opened env info l₀ s' l' := by
  unfold trySubscription at h
  set q := if quota ≤ 0 then 1 else quota with hqdef
  have hqpos : 0 < q := by
    rw [hqdef]
    split <;> omega
  obtain ⟨l₁, funding, hdb₁, hm₁, hf, rfl⟩ := preConsume_ok rfl hqpos.le h
  rw [effectiveQuota_subscription rfl] at hm₁ hf ⊢
  simp only [init, FundingSource.preConsume] at hf hm₁ ⊢
  split at hf
  · next f' l₂ hpre =>
    cases hf
    have hdb : l₁.db = l₀.db := hdb₁.trans hl.2
    obtain ⟨base, hl', hreq', hpre', hid, hreq, hbase, hheld, hrec⟩ :=
      subscriptionPreConsume_ok (by rw [hdb]; exact hfresh) hpre
    rw [hdb] at hbase
    dsimp only at hreq' hpre' hreq hheld hrec
    have hm := hl.1.trans hm₁
    refine ⟨⟨by simpa using hqpos.le, by simp, by simp, by simp, ?_⟩,
      by simp [shortfall], by simp, by simp, by simp, by simp, ?_, ?_, ?_⟩
    · intro f hf
      simp only [syncRelayInfo_fields, FundingSource.subscription.injEq] at hf
      subst hf
      refine ⟨by omega, hid, by simpa using hpre', ?_, by rwa [hreq']⟩
      exact syncRelayInfo_subscriptionId _ rfl
    · have hm' : LedgerMoved 0 (info.tokenShare q) l₀ l' := by
        rw [hl']
        have hdbOnly : LedgerMoved 0 0 l₁ { l₁ with db := l'.db } := LedgerMoved.of_eq rfl rfl
        simpa using hm.trans hdbOnly
      simpa [Charges, FundingSource.sub?, openingUsed, hbase] using ⟨hm', hheld⟩
    · intro f hf
      simp only [syncRelayInfo_fields, FundingSource.subscription.injEq] at hf
      subst hf
      rw [hreq', hpre']
      exact hrec
    · intro f hf
      simp only [syncRelayInfo_fields, FundingSource.subscription.injEq] at hf
      subst hf
      simp [openingUsed, hbase]
  · cases hf

lemma trySubscription_error (h : trySubscription env info quota l = (.error e, l')) :
    l'.db = l.db ∧ LedgerMoved 0 0 l l' := by
  unfold trySubscription at h
  refine preConsume_error rfl ?_ h
  split <;> omega

lemma tryWallet_opened (hq : 0 ≤ quota) (hl : LedgerMoved 0 0 l₀ l ∧ l.db = l₀.db)
    (h : tryWallet env info quota l = (.ok s', l')) : Opened env info l₀ s' l' := by
  unfold tryWallet at h
  split at h
  · cases h
  rename_i userQuota a hget
  have hm : LedgerMoved 0 0 l { l with user := a } :=
    LedgerMoved.of_user (by simpa using getUserQuota_moved hget) rfl
  split at h
  · cases h
  split at h
  · cases h
  · have hm' : LedgerMoved 0 0 l₀ { l with user := a } := by simpa using hl.1.trans hm
    exact wallet_opened hq ⟨hm', hl.2⟩ h

lemma tryWallet_error (hq : 0 ≤ quota) (h : tryWallet env info quota l = (.error e, l')) :
    l'.db = l.db ∧ LedgerMoved 0 0 l l' := by
  unfold tryWallet at h
  split at h
  · cases h
    exact ⟨rfl, LedgerMoved.refl l⟩
  rename_i userQuota a hget
  have hm : LedgerMoved 0 0 l { l with user := a } :=
    LedgerMoved.of_user (by simpa using getUserQuota_moved hget) rfl
  split at h
  · cases h
    exact ⟨rfl, hm⟩
  split at h
  · cases h
    exact ⟨rfl, hm⟩
  · obtain ⟨hdb, hm'⟩ := preConsume_error rfl hq h
    exact ⟨hdb, by simpa using hm.trans hm'⟩

/-- The wallet may pay for the request: the preference allows it, and when the user's
subscriptions were tried first, each active one lets the wallet take over. -/
def WalletAllowed (env : BillingEnv) (info : RelayInfo) (db : SubscriptionDB) : Prop :=
  info.billingPreference ≠ .subscriptionOnly ∧
    (info.billingPreference = .subscriptionFirst →
      hasActiveUserSubscription db info.userId env.activeCheckTime = .ok true →
      userActiveSubscriptionsAllowWalletOverflow db info.userId env.overflowCheckTime = .ok true)

/-- However the preference is resolved, the session comes from one attempt, and a failed attempt
before it has left no trace. -/
lemma newBillingSession_ok_cases (hq : 0 ≤ quota)
    (h : newBillingSession env info quota l₀ = (.ok s', l')) :
    ∃ l, (LedgerMoved 0 0 l₀ l ∧ l.db = l₀.db) ∧
      (tryWallet env info quota l = (.ok s', l') ∧ WalletAllowed env info l₀.db ∨
        trySubscription env info quota l = (.ok s', l')) := by
  have hl₀ : LedgerMoved 0 0 l₀ l₀ ∧ l₀.db = l₀.db := ⟨LedgerMoved.refl l₀, rfl⟩
  unfold newBillingSession at h
  split at h
  · exact ⟨l₀, hl₀, .inr h⟩
  · next hpref => exact ⟨l₀, hl₀, .inl ⟨h, by simp [WalletAllowed, hpref]⟩⟩
  · next hpref =>
    split at h
    · next l₁ hw =>
      obtain ⟨hdb, hm⟩ := tryWallet_error hq hw
      exact ⟨l₁, ⟨hm, hdb⟩, .inr h⟩
    · exact ⟨l₀, hl₀, .inl ⟨h, by simp [WalletAllowed, hpref]⟩⟩
  rename_i hpref
  split at h
  · cases h
  · next hnone => exact ⟨l₀, hl₀, .inl ⟨h, by simp [WalletAllowed, hpref, hnone]⟩⟩
  split at h
  · next l₁ hsub =>
    obtain ⟨hdb, hm⟩ := trySubscription_error hsub
    split at h
    · cases h
    · next hallow =>
      rw [hdb] at hallow
      exact ⟨l₁, ⟨hm, hdb⟩, .inl ⟨h, by simp [WalletAllowed, hpref, hallow]⟩⟩
    · cases h
  · exact ⟨l₀, hl₀, .inr h⟩

/-- When no session is created nothing is charged, however many attempts were made. -/
lemma newBillingSession_error (hq : 0 ≤ quota)
    (h : newBillingSession env info quota l₀ = (.error e, l')) :
    l'.db = l₀.db ∧ LedgerMoved 0 0 l₀ l' := by
  have hl₀ : l₀.db = l₀.db ∧ LedgerMoved 0 0 l₀ l₀ := ⟨rfl, LedgerMoved.refl l₀⟩
  unfold newBillingSession at h
  split at h
  · exact trySubscription_error h
  · exact tryWallet_error hq h
  · split at h
    · next l₁ hw =>
      obtain ⟨hdb, hm⟩ := tryWallet_error hq hw
      obtain ⟨hdb', hm'⟩ := trySubscription_error h
      exact ⟨hdb'.trans hdb, by simpa using hm.trans hm'⟩
    · exact tryWallet_error hq h
  split at h
  · cases h
    exact hl₀
  · exact tryWallet_error hq h
  split at h
  · next l₁ hsub =>
    obtain ⟨hdb, hm⟩ := trySubscription_error hsub
    split at h
    · cases h
      exact ⟨hdb, hm⟩
    · obtain ⟨hdb', hm'⟩ := tryWallet_error hq h
      exact ⟨hdb'.trans hdb, by simpa using hm.trans hm'⟩
    · cases h
      exact ⟨hdb, hm⟩
  · exact trySubscription_error h

/-- A new session has charged exactly its pre-consumed quota. -/
theorem newBillingSession_opened (hq : 0 ≤ quota)
    (hfresh : l₀.db.records.get? info.requestId = none)
    (h : newBillingSession env info quota l₀ = (.ok s', l')) : Opened env info l₀ s' l' := by
  obtain ⟨l₁, hl₁, ⟨hw, -⟩ | hsub⟩ := newBillingSession_ok_cases hq h
  · exact tryWallet_opened hq hl₁ hw
  · exact trySubscription_opened hl₁ hfresh hsub

end

end NewApi.Service
