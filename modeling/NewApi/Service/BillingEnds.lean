import NewApi.Service.BillingOutcomes

/-!
# How a billing session ends

The three ways a session can end, each over every run that leads there.
-/

namespace NewApi.Service

open Model Runs BillingSession BillingState

/-! ## Statements -/

/-- The funding source ends charged `x`. A subscription is measured from what it had used when
the session was opened, after the quota reset that was due then. -/
def FundingCharged (env : BillingEnv) (l₀ l : Ledger) (funding : FundingSource) (x : Int) : Prop :=
  match funding with
  | .wallet _ => l.user.total .user = (l₀.user.total .user).add .user (-x)
  | .subscription f => l.user.total .user = l₀.user.total .user ∧ ∃ used sub,
      usedAfterDueReset env.cal l₀.db f.subscriptionId env.preConsumeTime = some used ∧
      l.db.subs.get? f.subscriptionId = some sub ∧ (sub.amountUsed : Int) = used + x

/-- The token ends charged `x`: its remaining quota is `x` lower, its used quota `x` higher. -/
def TokenCharged (l₀ l : Ledger) (x : Int) : Prop :=
  l.token.total .token = (l₀.token.total .token).add .token (-x)

/-- Labels of a run before the session is ended: everything but `Settle` and `Refund`. -/
def BillingLabel.keepsOpen : BillingLabel → Bool
  | .settle _ => false
  | .refund => false
  | _ => true

/-- The refund job and the background work of the stores. -/
def BillingLabel.isBackground : BillingLabel → Bool
  | .runJob => true
  | .flush _ => true
  | .cache _ _ _ => true
  | _ => false

/-! ## Concrete ledgers for the runs below -/

/-- Direct writes, no trust bypass, and a charge made at second 250. -/
def plainEnv : BillingEnv where
  mode := { redisEnabled := false, batchUpdateEnabled := false }
  cal := plainCalendar
  trustQuota := 0
  activeCheckTime := 250
  preConsumeTime := 250
  overflowCheckTime := 250

def plainAccount (quota : Int) : QuotaAccount where
  row := { remain := quota, used := 0 }
  queued := 0
  cached := none
  fenced := false
  faults := 0

/-- A plan whose quota is reset every hundred seconds. -/
def hundredSecondPlan : SubscriptionPlan where
  id := 1
  title := "plan"
  durationUnit := .day
  durationValue := 1
  customSeconds := 0
  allowWalletOverflow := none
  maxPurchasePerUser := 0
  upgradeGroup := ""
  downgradeGroup := ""
  totalAmount := 1000
  quotaResetPeriod := .custom
  quotaResetCustomSeconds := 100

/-- A subscription to it with a reset due since second 200. -/
def usedSubscription : UserSubscription where
  id := 1
  userId := 1
  planId := 1
  amountTotal := 1000
  amountUsed := 80
  startTime := 100
  endTime := 86500
  status := .active
  lastResetTime := 100
  nextResetTime := 200
  upgradeGroup := ""
  prevUserGroup := ""
  downgradeGroup := ""
  allowWalletOverflow := true
  id_pos := Nat.one_pos

def plainLedger : Ledger where
  user := plainAccount 1000
  token := plainAccount 1000
  db := { plans := Table.empty.save hundredSecondPlan
          subs := Table.empty.save usedSubscription
          records := Table.empty }

def plainInfo (preference : BillingPreference) : RelayInfo where
  userId := 1
  requestId := "request"
  billingPreference := preference
  isPlayground := false
  tokenUnlimited := false
  forcePreConsume := false
  tokenQuota := 1000
  userQuota := 0
  isImageRequest := false
  imageRequestCount := 0
  finalPreConsumedQuota := 0
  billingSource := none
  subscriptionId := 0
  subscriptionPreConsumed := 0
  subscriptionPostDelta := 0
  subscriptionAmountTotal := 0
  subscriptionAmountUsedAfterPreConsume := 0
  subscriptionPlanId := 0
  subscriptionPlanTitle := ""

section
variable {env : BillingEnv} {info : RelayInfo} {quota : Int} {l₀ l : Ledger} {s : BillingSession}
  {t : BillingState} {ls : List BillingLabel} {x : Int} {l' : Ledger} {s' : BillingState}
  {label : BillingLabel}

lemma faults_eq {w : Int} {l : Ledger} (hm : LedgerMoved w x l l') (h : NoFaults l l') :
    l'.user.faults = l.user.faults ∧ l'.token.faults = l.token.faults := by
  have hu := hm.user.faults_le
  have ht := hm.token.faults_le
  simp only [NoFaults, Ledger.faults] at h
  omega

/-- What the invariant says about the ledgers, once no write was reported as failed. -/
lemma Charges.charged (hopen : Opened env info l₀ s l) {y : Int}
    (h : Charges l₀ (openingUsed env l₀ s.funding) s.funding.sub? l' x y)
    (hclean : NoFaults l₀ l') : FundingCharged env l₀ l' s.funding x ∧ TokenCharged l₀ l' y := by
  unfold FundingCharged TokenCharged
  cases hfund : s.funding with
  | wallet w =>
    rw [hfund] at h
    obtain ⟨hu, ht⟩ := faults_eq h.1 hclean
    exact ⟨h.1.user.total_eq hu, h.1.token.total_eq ht⟩
  | subscription f =>
    have hused := hopen.opening f hfund
    rw [hfund] at h hused
    obtain ⟨hu, ht⟩ := faults_eq h.1 hclean
    obtain ⟨sub, hsub, heq, -⟩ := h.2
    refine ⟨⟨?_, _, sub, hused, hsub, heq⟩, h.1.token.total_eq ht⟩
    simpa using h.1.user.total_eq hu

/-- Two ledgers charged the same agree on the funding source. -/
lemma FundingCharged.unique {l : Ledger} {funding : FundingSource}
    (h : FundingCharged env l₀ l funding x) (h' : FundingCharged env l₀ l' funding x) :
    l'.user.total .user = l.user.total .user ∧
      ∀ f, funding = .subscription f → (l'.db.subs.get? f.subscriptionId).map (·.amountUsed)
        = (l.db.subs.get? f.subscriptionId).map (·.amountUsed) := by
  cases funding with
  | wallet w => exact ⟨Eq.trans h' h.symm, nofun⟩
  | subscription f =>
    obtain ⟨huser, used, sub, hused, hsub, heq⟩ := h
    obtain ⟨huser', used', sub', hused', hsub', heq'⟩ := h'
    refine ⟨huser'.trans huser.symm, ?_⟩
    intro f' hf'
    obtain rfl := FundingSource.subscription.inj hf'
    obtain rfl := Option.some.inj (hused.symm.trans hused')
    rw [hsub, hsub', Option.map_some, Option.map_some]
    congr 1
    omega

/-- Only `Settle` settles. -/
lemma settledWith_of_ne_settle {s : BillingState}
    (hne : ∀ a, label ≠ .settle a) (h : billingStep env s label = some s') :
    s'.settledWith = s.settledWith := by
  cases label with
  | settle a => exact absurd rfl (hne a)
  | runJob =>
    simp only [billingStep] at h
    split at h <;> cases h
    rfl
  | _ => cases h; rfl

/-- Only `Refund` refunds. -/
lemma refunded_of_ne_refund {s : BillingState}
    (hne : label.keepsOpen = true) (h : billingStep env s label = some s') :
    s'.session.refunded = s.session.refunded := by
  cases label with
  | settle a | refund => cases hne
  | reserve target =>
    cases h
    exact reserve_refunded rfl
  | prepareImage count quota =>
    cases h
    unfold prepareImageBillingForRequest
    split
    · rfl
    cases quota with
    | none => rfl
    | some quota =>
      let b : BillingSession := { s.session with
        relayInfo := { s.session.relayInfo with imageRequestCount := count } }
      exact reserve_refunded (s := b) rfl
  | runJob =>
    simp only [billingStep] at h
    split at h <;> cases h
    rfl
  | _ => cases h; rfl

/-- A refund that is not accepted leaves the session alone: it was settled, or nothing was
reserved. -/
lemma refund_refused {b : BillingSession} (h : b.refund.1.refunded = false) :
    b.refund.1 = b ∧ (b.settled = true ∨ b.fundingSettled = true ∨ b.tokenConsumed ≤ 0) := by
  unfold refund at h ⊢
  split
  · next hno =>
    rw [if_pos hno] at h
    refine ⟨rfl, ?_⟩
    have hr : b.refunded = false := h
    simp only [hr, Bool.false_eq_true, false_or] at hno
    rcases hno with hs | hneed
    · exact Or.inl hs
    simp only [needsRefundLocked, hr, Bool.false_eq_true, false_or] at hneed
    split at hneed
    · next hor => exact hor.imp_right Or.inl
    split at hneed
    · exact absurd rfl hneed
    · next hle => exact Or.inr (Or.inr (by omega))
  · next hyes =>
    rw [if_neg hyes] at h
    cases h

/-- A run without `Settle` settles nothing. -/
lemma settledWith_of_run (hls : ∀ x ∈ ls, ∀ a, x ≠ .settle a)
    (hrun : run (billingStep env) (.start s l) ls = some t) : t.settledWith = none := by
  refine run_invariant (fun s => s.settledWith = none) ?_ rfl (along_of_forall_mem hls) hrun
  intro s label s' hI hne hstep
  rw [settledWith_of_ne_settle hne hstep]
  exact hI

/-- A run without `Settle` meets the settlement guard. -/
lemma settleGuard_of_ne_settle (hls : ∀ x ∈ ls, ∀ a, x ≠ .settle a) (t : BillingState) :
    Along (billingStep env) SettleGuard t ls := by
  refine (along_of_forall_mem (p := fun x => ∀ a, x ≠ .settle a) hls).mono ?_
  intro s label hne
  cases label with
  | settle a => exact absurd rfl (hne a)
  | _ => trivial

/-- After `Refund`, with background work only, nothing is settled and no counter overwritten. -/
lemma refund_tail (env : BillingEnv) {ks : List BillingLabel}
    (hks : ∀ x ∈ ks, x.isBackground = true) : ∀ x ∈ BillingLabel.refund :: ks,
      (∀ a, x ≠ .settle a) ∧ ∀ s, ¬ OverwritesConsumed env s x := by
  intro x hx
  rcases List.mem_cons.mp hx with rfl | h
  · exact ⟨by simp, fun s hs => hs⟩
  have hb := hks x h
  cases x with
  | runJob | flush k | cache k cached fenced => exact ⟨by simp, fun s hs => hs⟩
  | _ => cases hb

/-- **Refunded runs are neutral.** After `NewBillingSession`, any calls of `Reserve` (succeeding
or failing, image requests or not) and a `Refund`, once its job has run, both ledgers are where
they were. The runs left out are those in which a step overwrites the wallet's counter. -/
theorem refunded_run_neutral (ls ks : List BillingLabel) (hquota : 0 ≤ quota)
    (hfresh : l₀.db.records.get? info.requestId = none)
    (hnew : newBillingSession env info quota l₀ = (.ok s, l)) (hls : ∀ x ∈ ls, ∀ a, x ≠ .settle a)
    (hks : ∀ x ∈ ks, x.isBackground = true)
    (hrun : run (billingStep env) (.start s l) (ls ++ .refund :: ks) = some t)
    (hjob : t.job = []) (hclean : NoFaults l₀ t.ledger)
    (hslip : Along (billingStep env) (fun s label => ¬ OverwritesConsumed env s label)
      (.start s l) ls) :
    FundingCharged env l₀ t.ledger s.funding 0 ∧ TokenCharged l₀ t.ledger 0 := by
  have hopen := newBillingSession_opened hquota hfresh hnew
  have htail := refund_tail env hks
  have hall : ∀ x ∈ ls ++ .refund :: ks, ∀ a, x ≠ .settle a := by
    intro x hx
    rcases List.mem_append.mp hx with h | h
    · exact hls x h
    · exact (htail x h).1
  have hno : Along (billingStep env) (fun s label => ¬ OverwritesConsumed env s label)
      (.start s l) (ls ++ .refund :: ks) := by
    refine hslip.append ?_
    intro s' _
    have hnever : Along (billingStep env) (fun _ x => ∀ s, ¬ OverwritesConsumed env s x) s'
        (.refund :: ks) := along_of_forall_mem fun x hx => (htail x hx).2
    exact hnever.mono fun s label h => h s
  obtain ⟨hinv, hshort⟩ := billing_run hopen hclean hrun (settleGuard_of_ne_settle hall _)
  have hzero := hshort hno
  have hw := settledWith_of_run hall hrun
  -- what the refund left of the session is what the run ends with
  obtain ⟨m, -, hm⟩ := run_append.mp hrun
  obtain ⟨m', hrefund, hm'⟩ := run_cons.mp hm
  cases hrefund
  have hsession : t.session = m.session.refund.1 := by
    refine run_invariant (fun s => s.session = m.session.refund.1) ?_ rfl
      (along_of_forall_mem hks) hm'
    -- background work leaves the session alone
    intro s label s' hI hb hstep
    cases label with
    | runJob =>
      simp only [billingStep] at hstep
      split at hstep <;> cases hstep
      exact hI
    | flush k | cache k cached fenced =>
      cases hstep
      exact hI
    | _ => cases hb
  have hcharged : t.charged = 0 ∧ t.tokenCharged = 0 := by
    unfold charged tokenCharged
    rw [hjob, hzero, hw]
    cases hr : t.session.refunded with
    | true => exact ⟨rfl, rfl⟩
    | false =>
      -- the refund was not accepted, so nothing was reserved
      have hquota0 : t.session.preConsumedQuota = 0 := by
        rw [hsession] at hr
        obtain ⟨hsame, hrefused⟩ := refund_refused hr
        rw [← hsame, ← hsession] at hrefused
        have hs : t.session.settled = false := by
          have hsome := hinv.settledWith_isSome
          rw [hw] at hsome
          exact hsome.symm
        rcases hrefused with h | h | h
        · cases hs.symm.trans h
        · cases hs.symm.trans (hinv.settled_of_fundingSettled h)
        have htoken := hinv.counters.token_eq
        have hnonneg := hinv.counters.quota_nonneg
        omega
      exact ⟨hquota0, hquota0⟩
  have hch := hinv.charges
  rw [hinv.source, hcharged.1, hcharged.2] at hch
  have htoken : t.session.relayInfo.tokenShare 0 = 0 := by
    unfold RelayInfo.tokenShare
    split <;> rfl
  rw [htoken] at hch
  exact hch.charged hopen hclean

/-- A subscription session with one reservation, refunded. -/
theorem refunded_run_neutral_subscription : ∃ s l t,
    newBillingSession plainEnv (plainInfo .subscriptionFirst) 10 plainLedger = (.ok s, l) ∧
    run (billingStep plainEnv) (.start s l)
      ([.reserve 30] ++ .refund :: [.runJob, .runJob, .runJob]) = some t ∧
    FundingCharged plainEnv plainLedger t.ledger s.funding 0 ∧
      TokenCharged plainLedger t.ledger 0 := by
  refine ⟨_, _, _, rfl, rfl, ?_⟩
  exact @refunded_run_neutral plainEnv (plainInfo .subscriptionFirst) 10 plainLedger _ _ _
    [.reserve 30] [.runJob, .runJob, .runJob] (by decide) rfl rfl (by simp) (by decide) rfl rfl rfl
    ⟨by decide, trivial⟩

/-- The quota reset that is due at the pre-consumption stays: the subscription had used 80 before
the session and has used nothing after its refund. -/
theorem refunded_run_resets_usage : ∃ s l t,
    newBillingSession plainEnv (plainInfo .subscriptionFirst) 10 plainLedger = (.ok s, l) ∧
    run (billingStep plainEnv) (.start s l) [.refund, .runJob, .runJob, .runJob] = some t ∧
    t.job = [] ∧ NoFaults plainLedger t.ledger ∧
    (plainLedger.db.subs.get? 1).map (·.amountUsed) = some 80 ∧
    (t.ledger.db.subs.get? 1).map (·.amountUsed) = some 0 :=
  ⟨_, _, _, rfl, rfl, rfl, rfl, rfl, rfl⟩

-- Two image reservations on a wallet: the second overwrites `consumed`, and 10 stay charged.
example : ∃ s l t,
    newBillingSession plainEnv (plainInfo .walletFirst) 10 plainLedger = (.ok s, l) ∧
    run (billingStep plainEnv) (.start s l)
      [.prepareImage 2 (some 20), .refund, .runJob, .runJob, .runJob] = some t ∧
    t.ledger.user.total .user = (plainLedger.user.total .user).add .user (-10) :=
  ⟨_, _, _, rfl, rfl, rfl⟩

/-! ## Settled runs -/

section
variable (hopen : Opened env info l₀ s l)
include hopen

lemma faults_le_of_run
    (hrun : run (billingStep env) (.start s l) ls = some t) : l₀.faults ≤ t.ledger.faults := by
  refine run_invariant' (fun s => l₀.faults ≤ s.ledger.faults) ?_ hopen.charges.faults_le hrun
  intro s label s' hI hstep
  exact hI.trans (billingStep_faults_le hstep)

/-- A run without `Settle` and `Refund` leaves the session open, charged what it has reserved. -/
lemma open_of_run (hls : ∀ x ∈ ls, x.keepsOpen = true)
    (hrun : run (billingStep env) (.start s l) ls = some t) (hclean : NoFaults l₀ t.ledger) :
    BillingInv l₀ (openingUsed env l₀ s.funding) s.funding.sub? info.isPlayground t ∧
      t.session.refunded = false ∧ t.session.settled = false := by
  have hne : ∀ x ∈ ls, ∀ a, x ≠ .settle a := by
    intro x hx a ha
    have := hls x hx
    rw [ha] at this
    cases this
  have hinv := (billing_run hopen hclean hrun (settleGuard_of_ne_settle hne _)).1
  refine ⟨hinv, ?_, ?_⟩
  · refine run_invariant (fun s => s.session.refunded = false) ?_ hopen.not_refunded
      (along_of_forall_mem hls) hrun
    intro s label s' hI hkeep hstep
    rw [refunded_of_ne_refund hkeep hstep]
    exact hI
  · have := hinv.settledWith_isSome
    rw [settledWith_of_run hne hrun] at this
    exact this.symm

/-- A `Settle` that succeeds on an open session charges its argument. A negative one is returned in
full to a wallet only. -/
lemma settle_charges (hls : ∀ x ∈ ls, x.keepsOpen = true)
    (hrun : run (billingStep env) (.start s l) ls = some t) {actual : Int}
    (hactual : s.funding.sub? = none ∨ 0 ≤ actual) {b : BillingSession}
    (hset : t.session.settle env t.ledger actual = (none, b, l')) (hclean : NoFaults l₀ l') :
    FundingCharged env l₀ l' s.funding actual ∧ TokenCharged l₀ l' (info.tokenShare actual) := by
  have hle := faults_le_of_run hopen hrun
  have hstep := settle_faults_le hset
  have hclean' : NoFaults l₀ t.ledger := by
    unfold NoFaults at *
    omega
  obtain ⟨hinv, hr, hs⟩ := open_of_run hopen hls hrun hclean'
  have hfs : t.session.fundingSettled = false := by
    by_contra hne
    have := hinv.settled_of_fundingSettled (by simpa using hne)
    simp [hs] at this
  have hch := hinv.charges_of_open hs hr
  have hx : t.session.funding.sub? = none ∨
      0 ≤ t.session.preConsumedQuota + (actual - t.session.preConsumedQuota) := by
    rw [hinv.source, add_sub_cancel]
    exact hactual
  have hshare : ∀ x, t.session.relayInfo.tokenShare x = info.tokenShare x := by
    intro x
    unfold RelayInfo.tokenShare
    rw [hinv.playground]
  have hch' : Charges l₀ (openingUsed env l₀ s.funding) s.funding.sub? l' actual
      (info.tokenShare actual) := by
    rw [← hinv.source, ← hshare]
    obtain ⟨hset', -⟩ | ⟨-, hact, -, rfl⟩ | ⟨-, hnone, -⟩ | ⟨-, -, -, hmoved, -⟩ :=
      settle_cases hfs hx hch hset
    · simp [hs] at hset'
    · rw [hact]
      exact hch
    · exact absurd rfl hnone
    · rwa [← tokenShare_add, add_sub_cancel] at hmoved
  exact hch'.charged hopen hclean

end

/-- **Settled runs charge the actual quota.** After `NewBillingSession` and any calls of
`Reserve`, a `Settle` that succeeds leaves both ledgers charged exactly its argument; and a
`Reserve` that fails leaves them, and the session's counters, as they were. -/
theorem settled_run_charges_actual (ls : List BillingLabel) (hquota : 0 ≤ quota)
    (hfresh : l₀.db.records.get? info.requestId = none)
    (hnew : newBillingSession env info quota l₀ = (.ok s, l)) (hls : ∀ x ∈ ls, x.keepsOpen = true)
    (hrun : run (billingStep env) (.start s l) ls = some t) :
    (∀ (actual : Nat) b l', t.session.settle env t.ledger actual = (none, b, l') →
      NoFaults l₀ l' →
      FundingCharged env l₀ l' s.funding actual ∧ TokenCharged l₀ l' (info.tokenShare actual)) ∧
    (∀ target e b l', t.session.reserve env t.ledger target = (some e, b, l') →
      NoFaults l₀ l' →
      b.preConsumedQuota = t.session.preConsumedQuota ∧
      b.tokenConsumed = t.session.tokenConsumed ∧ b.extraReserved = t.session.extraReserved ∧
      l'.user.total .user = t.ledger.user.total .user ∧
      l'.token.total .token = t.ledger.token.total .token ∧
      ∀ f, s.funding = .subscription f → (l'.db.subs.get? f.subscriptionId).map (·.amountUsed)
        = (t.ledger.db.subs.get? f.subscriptionId).map (·.amountUsed)) := by
  have hopen := newBillingSession_opened hquota hfresh hnew
  have hle := faults_le_of_run hopen hrun
  refine ⟨?_, ?_⟩
  · intro actual b l' hset hclean
    exact settle_charges hopen hls hrun (.inr (Int.natCast_nonneg actual)) hset hclean
  · intro target e b l' hres hclean
    have hstep := reserve_faults_le hres
    have hclean' : NoFaults l₀ t.ledger := by
      unfold NoFaults at *
      omega
    obtain ⟨hinv, hr, hs⟩ := open_of_run hopen hls hrun hclean'
    have hch := hinv.charges_of_open hs hr
    have hf : l'.faults = t.ledger.faults := by
      unfold NoFaults at *
      omega
    obtain ⟨-, ⟨hch', hb⟩ | ⟨hnone, -⟩⟩ := reserve_cases hinv.counters hch hres hf
    · have hcounters : b.preConsumedQuota = t.session.preConsumedQuota ∧
          b.tokenConsumed = t.session.tokenConsumed ∧
          b.extraReserved = t.session.extraReserved := by
        rcases hb with rfl | ⟨_, _, -, -, -, rfl⟩ <;> exact ⟨rfl, rfl, rfl⟩
      rw [hinv.source] at hch hch'
      obtain ⟨hfund, htok⟩ := hch.charged hopen hclean'
      obtain ⟨hfund', htok'⟩ := hch'.charged hopen hclean
      have hsame := hfund.unique hfund'
      exact ⟨hcounters.1, hcounters.2.1, hcounters.2.2, hsame.1, htok'.trans htok.symm, hsame.2⟩
    · cases hnone

/-- A wallet session with one reservation, settled below it. -/
theorem settled_run_charges_actual_wallet : ∃ s l t b l',
    newBillingSession plainEnv (plainInfo .walletFirst) 10 plainLedger = (.ok s, l) ∧
    run (billingStep plainEnv) (.start s l) [.reserve 30] = some t ∧
    t.session.settle plainEnv t.ledger (25 : Nat) = (none, b, l') ∧
    FundingCharged plainEnv plainLedger l' s.funding (25 : Nat) ∧
      TokenCharged plainLedger l' ((plainInfo .walletFirst).tokenShare (25 : Nat)) := by
  refine ⟨_, _, _, _, _, rfl, rfl, rfl, ?_⟩
  exact (settled_run_charges_actual [.reserve 30] (show (0 : Int) ≤ 10 by decide) rfl rfl
    (by decide) rfl).1 25 _ _ rfl rfl

/-- With a reset due at the pre-consumption the subscription does not end 30 above the 80 it had
used, but at 30. -/
theorem settled_run_resets_usage : ∃ s l b l',
    newBillingSession plainEnv (plainInfo .subscriptionFirst) 10 plainLedger = (.ok s, l) ∧
    s.settle plainEnv l 30 = (none, b, l') ∧ NoFaults plainLedger l' ∧
    (plainLedger.db.subs.get? 1).map (·.amountUsed) = some 80 ∧
    (l'.db.subs.get? 1).map (·.amountUsed) = some 30 :=
  ⟨_, _, _, _, rfl, rfl, rfl, rfl, rfl⟩

/-! ## Any interleaving -/

/-- What a step must not do for the session to end exactly once: move money by a settlement after
an accepted refund, or overwrite the wallet's counter. -/
def EndsOnceGuard (env : BillingEnv) (s : BillingState) (label : BillingLabel) : Prop :=
  SettleGuard s label ∧ ¬ OverwritesConsumed env s label

instance (env : BillingEnv) (s : BillingState) (label : BillingLabel) :
    Decidable (EndsOnceGuard env s label) :=
  inferInstanceAs (Decidable (_ ∧ _))

/-- `settledWith` is the argument of one of the `Settle` calls. -/
lemma settledWith_mem {s₀ : BillingState} (hrun : run (billingStep env) s₀ ls = some t) {a : Int}
    (ha : t.settledWith = some a) :
    s₀.settledWith = some a ∨ ∃ actual : Nat, a = actual ∧ .settle actual ∈ ls := by
  induction ls generalizing s₀ with
  | nil =>
    cases hrun
    exact Or.inl ha
  | cons label ls ih =>
    obtain ⟨s₁, hstep, hrest⟩ := run_cons.mp hrun
    rcases ih hrest with h | ⟨actual, rfl, hmem⟩
    · cases label with
      | settle actual =>
        cases hstep
        split at h
        · cases h
          exact Or.inr ⟨actual, rfl, List.mem_cons_self⟩
        · exact Or.inl h
      | _ =>
        rw [settledWith_of_ne_settle (by simp) hstep] at h
        exact Or.inl h
    · exact Or.inr ⟨actual, rfl, List.mem_cons_of_mem _ hmem⟩

/-- **A session ends once.** In every interleaving of `Reserve`, `Settle`, `Refund` and the refund
job whose steps meet `EndsOnceGuard`: an accepted refund leaves nothing charged once its job has
run; a session settled without one is charged the argument of one of the `Settle` calls; after
an accepted refund no such `Settle` moves money, and after a `Settle` no `Refund` starts a job. -/
theorem session_ends_once (ls : List BillingLabel) (hquota : 0 ≤ quota)
    (hfresh : l₀.db.records.get? info.requestId = none)
    (hnew : newBillingSession env info quota l₀ = (.ok s, l))
    (hrun : run (billingStep env) (.start s l) ls = some t)
    (hok : Along (billingStep env) (EndsOnceGuard env) (.start s l) ls)
    (hclean : NoFaults l₀ t.ledger) :
    (t.session.refunded = true → t.job = [] →
      FundingCharged env l₀ t.ledger s.funding 0 ∧ TokenCharged l₀ t.ledger 0) ∧
    (t.session.refunded = false → ∀ a, t.settledWith = some a →
      (∃ actual : Nat, a = actual ∧ .settle actual ∈ ls) ∧
      FundingCharged env l₀ t.ledger s.funding a ∧
      TokenCharged l₀ t.ledger (info.tokenShare a)) ∧
    (t.session.refunded = true → ∀ actual : Nat, EndsOnceGuard env t (.settle actual) →
      (t.session.settle env t.ledger actual).2.2 = t.ledger) ∧
    (t.session.settled = true → t.session.refund = (t.session, [])) := by
  have hopen := newBillingSession_opened hquota hfresh hnew
  obtain ⟨hinv, hshort⟩ :=
    billing_run hopen hclean hrun (hok.mono fun s label h => h.1)
  have hzero := hshort (hok.mono fun s label h => h.2)
  have hch := hinv.charges
  rw [hinv.source] at hch
  have hshare : ∀ x, t.session.relayInfo.tokenShare x = info.tokenShare x := by
    intro x
    unfold RelayInfo.tokenShare
    rw [hinv.playground]
  refine ⟨?_, ?_, ?_, ?_⟩
  · intro hr hjob
    have hcharged : t.charged = 0 := by
      simp [charged, hr, hjob, hzero]
    have htoken : t.session.relayInfo.tokenShare t.tokenCharged = 0 := by
      simp [tokenCharged, hr, hjob, RelayInfo.tokenShare]
    rw [hcharged, htoken] at hch
    exact hch.charged hopen hclean
  · intro hr a ha
    have hcharged : t.charged = a ∧ t.tokenCharged = a := by
      simp [charged, tokenCharged, hr, ha]
    rw [hcharged.1, hcharged.2, hshare] at hch
    refine ⟨?_, hch.charged hopen hclean⟩
    rcases settledWith_mem hrun ha with h | h
    · cases h
    · exact h
  · intro hr actual hguard
    unfold settle
    split
    · rfl
    rename_i hs
    have hact := (hguard.1 hr).resolve_left hs
    simp [hact]
  · intro hs
    unfold refund
    rw [if_pos (Or.inl hs)]

/-- A wallet session reserved, settled and then refunded in vain. -/
theorem session_ends_once_settled : ∃ s l t,
    newBillingSession plainEnv (plainInfo .walletFirst) 10 plainLedger = (.ok s, l) ∧
    run (billingStep plainEnv) (.start s l) [.reserve 30, .settle 25, .refund] = some t ∧
    FundingCharged plainEnv plainLedger t.ledger s.funding 25 := by
  refine ⟨_, _, _, rfl, rfl, ?_⟩
  exact ((@session_ends_once plainEnv (plainInfo .walletFirst) 10 plainLedger _ _ _
    [.reserve 30, .settle 25, .refund] (by decide) rfl rfl rfl
    ⟨by decide, by decide, by decide, trivial⟩ rfl).2.1 rfl 25 rfl).2.1

/-- `Settle` does not look at `refunded`: after an accepted refund of 10 it still charges the
difference to 30, and with the refund the wallet ends charged 20. -/
theorem settle_after_refund_charges : ∃ s l t,
    newBillingSession plainEnv (plainInfo .walletFirst) 10 plainLedger = (.ok s, l) ∧
    run (billingStep plainEnv) (.start s l)
      [.refund, .settle 30, .runJob, .runJob, .runJob] = some t ∧
    t.job = [] ∧ NoFaults plainLedger t.ledger ∧ t.session.refunded = true ∧
    t.settledWith = some 30 ∧
    t.ledger.user.total .user = (plainLedger.user.total .user).add .user (-20) :=
  ⟨_, _, _, rfl, rfl, rfl, rfl, rfl, rfl, rfl⟩

end

end NewApi.Service
