import NewApi.Service.BillingRunTheorems

/-!
# Outcomes of a billing session

What a session has charged once it has ended, over every run: refunded, settled, or driven by any
interleaving of the three calls.

Every statement supposes that no storage write was reported as failed (`Ledger.faults` ends where
it began) and that the request id is new, as the ids of the request middleware are.
-/

namespace NewApi.Service

open Model Runs BillingSession FundingSource

/-! ## Reported failures -/

variable {r : Option ErrorCode}

section
variable {env : BillingEnv} {l l' : Ledger} {s s' : BillingSession} {delta : Int}

lemma reserveFunding_faults_le {imageRequest : Bool} {r : Except ErrorCode BillingSession}
    (h : s.reserveFunding env l delta imageRequest = (r, l')) : l.faults ≤ l'.faults := by
  cases r with
  | error e => exact (reserveFunding_error h).2.faults_le
  | ok s' =>
    cases hfund : s.funding with
    | wallet w =>
      simp only [reserveFunding, hfund] at h
      split at h
      · split at h
        · next hw =>
          cases h
          rcases (WalletFunding.preConsume_ok hw).2 with ⟨-, -, rfl⟩ | ⟨-, -, hm, -⟩
          · exact le_refl _
          · exact hm.faults_le
        · cases h
        · cases h
      split at h
      · cases h
      rename_i a hdec
      cases h
      have hm := (decreaseQuota_moved hdec).faults_le
      simp only [Ledger.faults]
      omega
    | subscription f =>
      simp only [reserveFunding, hfund] at h
      split at h <;> cases h
      exact le_refl _

lemma rollbackFundingReserve_faults_le
    (h : s.rollbackFundingReserve env l delta = (s', l')) : l.faults ≤ l'.faults := by
  cases hfund : s.funding with
  | wallet w =>
    simp only [rollbackFundingReserve, hfund] at h
    split at h
    · cases h
      simp only [Ledger.faults, QuotaAccount.logged]
      omega
    rename_i a hinc
    cases h
    have hm := (increaseUserQuota_moved hinc).faults_le
    simp only [Ledger.faults]
    omega
  | subscription f =>
    simp only [rollbackFundingReserve, hfund] at h
    split at h <;> cases h <;> exact le_refl _

lemma reserve_faults_le {target : Int}
    (h : s.reserve env l target = (r, s', l')) : l.faults ≤ l'.faults := by
  unfold reserve at h
  split at h
  · next hres =>
    have hdelta : 0 < target - s.preConsumedQuota := by
      simp only [reserves, decide_eq_true_eq, not_or] at hres
      omega
    dsimp only at h
    split at h
    · next hfund =>
      cases h
      exact reserveFunding_faults_le hfund
    rename_i s₁ l₁ hfund
    have h₁ := reserveFunding_faults_le hfund
    split at h
    · next l₂ htok =>
      have h₂ := (reserveToken_moved hdelta htok).2.faults_le
      have h₃ := rollbackFundingReserve_faults_le (Prod.mk.inj h).2
      exact h₁.trans (h₂.trans h₃)
    rename_i l₂ htok
    cases h
    exact h₁.trans (reserveToken_moved hdelta htok).2.faults_le
  · cases h
    exact le_refl _

lemma updateUser_faults_le {r : Except QuotaError QuotaAccount}
    (hr : ∀ a, r = .ok a → l.user.faults ≤ a.faults) (h : updateUser l r = .ok l') :
    l.faults ≤ l'.faults := by
  cases r with
  | error e => cases h
  | ok a =>
    cases h
    exact Nat.add_le_add_right (hr a rfl) _

lemma updateDB_faults_le {r : Except SubscriptionError SubscriptionDB}
    (h : updateDB l r = .ok l') : l.faults ≤ l'.faults := by
  cases r with
  | error e => cases h
  | ok db =>
    cases h
    exact le_refl _

lemma fundingSettle_faults_le {funding : FundingSource}
    (h : funding.settle env l delta = .ok l') : l.faults ≤ l'.faults := by
  cases funding with
  | wallet w =>
    simp only [FundingSource.settle] at h
    split at h
    · cases h
      exact le_refl _
    split at h
    · exact updateUser_faults_le (fun a ha => (decreaseQuota_moved ha).faults_le) h
    · exact updateUser_faults_le (fun a ha => (increaseUserQuota_moved ha).faults_le) h
  | subscription f =>
    simp only [FundingSource.settle] at h
    split at h
    · cases h
      exact le_refl _
    · exact updateDB_faults_le h

lemma fundingRefund_faults_le {funding : FundingSource} (h : funding.refund env l = .ok l') :
    l.faults ≤ l'.faults := by
  cases funding with
  | wallet w =>
    simp only [FundingSource.refund] at h
    split at h
    · cases h
      exact le_refl _
    · exact updateUser_faults_le (fun a ha => (increaseUserQuota_moved ha).faults_le) h
  | subscription f =>
    simp only [FundingSource.refund] at h
    split at h
    · cases h
      exact le_refl _
    · exact updateDB_faults_le h

lemma logged_faults_le {r : Except FundingError Ledger}
    (h : ∀ l', r = .ok l' → l.faults ≤ l'.faults) : l.faults ≤ (l.logged r).faults := by
  cases r with
  | ok l' => exact h l' rfl
  | error e =>
    cases e with
    | quota e =>
      simp only [Ledger.logged, Ledger.faults, QuotaAccount.logged]
      omega
    | insufficientWalletQuota | subscription e => exact le_refl _

lemma settle_faults_le {actual : Int} {r : Option FundingError}
    (h : s.settle env l actual = (r, s', l')) : l.faults ≤ l'.faults := by
  unfold BillingSession.settle at h
  split at h
  · cases h
    exact le_refl _
  dsimp only at h
  split at h
  · cases h
    exact le_refl _
  split at h
  · cases h
    exact le_refl _
  rename_i l₁ hset
  have h₂ := (finishSettle_ok h).2.2.1.faults_le
  refine le_trans ?_ h₂
  unfold BillingSession.settleFunding at hset
  split at hset
  · cases hset
    exact le_refl _
  · exact fundingSettle_faults_le hset

lemma perform_faults_le (env : BillingEnv) (funding : FundingSource) (l : Ledger)
    (action : RefundAction) : l.faults ≤ (action.perform env funding l).faults := by
  cases action with
  | funding => exact logged_faults_le fun l' => fundingRefund_faults_le
  | extra subscriptionId extraReserved =>
    simp only [RefundAction.perform]
    split
    · exact logged_faults_le fun l' => updateDB_faults_le
    · exact le_refl _
  | token tokenConsumed isPlayground =>
    simp only [RefundAction.perform]
    split
    · exact (returnToken_moved env l tokenConsumed).faults_le
    · exact le_refl _

lemma prepareImage_faults_le {count : Int} {quota : Option Int}
    (h : s.prepareImageBillingForRequest env l count quota = (r, s', l')) :
    l.faults ≤ l'.faults := by
  unfold prepareImageBillingForRequest at h
  split at h
  · cases h
    exact le_refl _
  split at h
  · cases h
    exact le_refl _
  · exact reserve_faults_le h

end

lemma updateAccount_moved {l : Ledger} {k : QuotaKind} {f : QuotaAccount → QuotaAccount}
    (h : ∀ a, Moved k 0 a (f a)) :
    LedgerMoved 0 0 l (l.updateAccount k f) ∧ (l.updateAccount k f).db = l.db := by
  cases k with
  | user => exact ⟨LedgerMoved.of_user (h l.user) rfl, rfl⟩
  | token => exact ⟨LedgerMoved.of_token (h l.token) rfl, rfl⟩

lemma cache_moved (k : QuotaKind) (cached : Option QuotaRow) (fenced : Bool) (a : QuotaAccount) :
    Moved k 0 a { a with cached := cached, fenced := fenced } :=
  Moved.of_total_eq rfl rfl

section
variable {env : BillingEnv} {s s' : BillingState} {label : BillingLabel} {base : Nat}
  {src : Option Nat} {pg : Bool}

/-- Reported failures only add up. -/
lemma billingStep_faults_le (h : billingStep env s label = some s') :
    s.ledger.faults ≤ s'.ledger.faults := by
  cases label with
  | reserve target =>
    cases h
    exact reserve_faults_le rfl
  | prepareImage count quota =>
    cases h
    exact prepareImage_faults_le rfl
  | imageCount count | refund =>
    cases h
    exact le_refl _
  | settle actual =>
    cases h
    exact settle_faults_le rfl
  | runJob =>
    simp only [billingStep] at h
    split at h <;> cases h
    exact perform_faults_le _ _ _ _
  | flush k =>
    cases h
    exact (updateAccount_moved (batchUpdate_moved k)).1.faults_le
  | cache k cached fenced =>
    cases h
    exact (updateAccount_moved (cache_moved k cached fenced)).1.faults_le

/-- The one thing the invariant asks of a step: a settlement that moves money comes before the
refund. -/
def SettleGuard (s : BillingState) : BillingLabel → Prop
  | .settle actual => s.session.refunded = true →
      s.session.settled = true ∨ (actual : Int) = s.session.preConsumedQuota
  | _ => True

instance (s : BillingState) : DecidablePred (SettleGuard s)
  | .settle _ => inferInstanceAs (Decidable (_ = true → _ = true ∨ _ = _))
  | .reserve _ => isTrue trivial
  | .prepareImage _ _ => isTrue trivial
  | .imageCount _ => isTrue trivial
  | .refund => isTrue trivial
  | .runJob => isTrue trivial
  | .flush _ => isTrue trivial
  | .cache _ _ _ => isTrue trivial

/-- **Step lemma.** -/
theorem billingStep_inv {l₀ : Ledger} (h : BillingInv l₀ base src pg s)
    (hguard : SettleGuard s label) (hf : s'.ledger.faults = s.ledger.faults)
    (hstep : billingStep env s label = some s') : BillingInv l₀ base src pg s' := by
  cases label with
  | reserve target =>
    cases hstep
    exact h.reserve rfl hf
  | prepareImage count quota =>
    cases hstep
    unfold prepareImageBillingForRequest at hf ⊢
    split
    · exact h
    rename_i hcount
    rw [if_neg hcount] at hf
    cases quota with
    | none => exact h.imageCount count
    | some quota => exact (h.imageCount count).reserve rfl hf
  | imageCount count =>
    cases hstep
    exact h.imageCount count
  | settle actual =>
    cases hstep
    exact h.settle rfl hguard
  | refund =>
    cases hstep
    exact h.refund
  | runJob =>
    simp only [billingStep] at hstep
    split at hstep
    · cases hstep
    rename_i hjob
    cases hstep
    exact h.runJob hjob
  | flush k =>
    cases hstep
    have hm := updateAccount_moved (l := s.ledger) (batchUpdate_moved k)
    exact h.frame hm.1 hm.2
  | cache k cached fenced =>
    cases hstep
    have hm := updateAccount_moved (l := s.ledger) (cache_moved k cached fenced)
    exact h.frame hm.1 hm.2

/-- The step overwrites the wallet's counter (`BillingSession.overwritesConsumed`). -/
def OverwritesConsumed (env : BillingEnv) (s : BillingState) : BillingLabel → Prop
  | .reserve targetQuota => s.session.overwritesConsumed env s.ledger targetQuota = true
  | .prepareImage count (some quota) =>
    1 ≤ count ∧ count ≤ maxImageN ∧
      BillingSession.overwritesConsumed env { s.session with
        relayInfo := { s.session.relayInfo with imageRequestCount := count } } s.ledger quota = true
  | _ => False

instance (env : BillingEnv) (s : BillingState) : DecidablePred (OverwritesConsumed env s)
  | .reserve _ => inferInstanceAs (Decidable (_ = true))
  | .prepareImage _ (some _) => inferInstanceAs (Decidable (_ ∧ _ ∧ _ = true))
  | .prepareImage _ none => isFalse id
  | .imageCount _ => isFalse id
  | .settle _ => isFalse id
  | .refund => isFalse id
  | .runJob => isFalse id
  | .flush _ => isFalse id
  | .cache _ _ _ => isFalse id

lemma shortfall_reserve {l₀ l : Ledger} (h : BillingInv l₀ base src pg s) {target : Int}
    {b : BillingSession} (hres : s.session.reserve env s.ledger target = (r, b, l))
    (hf : l.faults = s.ledger.faults)
    (hno : s.session.overwritesConsumed env s.ledger target = false)
    (hshort : s.session.shortfall = 0) : b.shortfall = 0 := by
  by_cases hopen : s.session.settled = false ∧ s.session.refunded = false
  · obtain ⟨-, ⟨-, rfl | ⟨delta, _, -, -, hkeep, rfl⟩⟩ | ⟨-, delta, _, -, -, hkeep, rfl, -⟩⟩ :=
      reserve_cases h.counters (h.charges_of_open hopen.1 hopen.2) hres hf
    · exact hshort
    · rw [hkeep hno]
      cases hfund : s.session.funding with
      | wallet w =>
        simpa [shortfall, reserved, unreserved, hfund]
          using hshort
      | subscription f => rfl
    · rw [hkeep hno]
      cases hfund : s.session.funding with
      | wallet w =>
        simp only [shortfall, hfund] at hshort
        simp only [shortfall, recordReserve, syncRelayInfo_fields, reserved]
        simp only [Bool.false_eq_true, if_false]
        omega
      | subscription f =>
        simp [shortfall, recordReserve, reserved]
  · rw [reserve_of_not_open hopen] at hres
    cases hres
    exact hshort

/-- `Settle` leaves the counters of the funding source alone. -/
lemma settle_shortfall {l l' : Ledger} {b b' : BillingSession} {actual : Int}
    {r : Option FundingError} (h : b.settle env l actual = (r, b', l')) :
    b'.shortfall = b.shortfall := by
  unfold BillingSession.settle at h
  split at h
  · cases h
    rfl
  dsimp only at h
  split at h
  · cases h
    rfl
  split at h
  · cases h
    rfl
  · obtain ⟨-, -, -, d, rfl⟩ := finishSettle_ok h
    rfl

/-- As long as no step overwrites the wallet's counter, it keeps up with the reservations. -/
theorem billingStep_shortfall {l₀ : Ledger} (h : BillingInv l₀ base src pg s)
    (hf : s'.ledger.faults = s.ledger.faults) (hno : ¬ OverwritesConsumed env s label)
    (hshort : s.session.shortfall = 0) (hstep : billingStep env s label = some s') :
    s'.session.shortfall = 0 := by
  cases label with
  | reserve target =>
    cases hstep
    exact shortfall_reserve h rfl hf (by simpa [OverwritesConsumed] using hno) hshort
  | prepareImage count quota =>
    cases hstep
    unfold BillingSession.prepareImageBillingForRequest at hf ⊢
    split
    · exact hshort
    rename_i hcount
    rw [if_neg hcount] at hf
    cases quota with
    | none => exact hshort
    | some quota =>
      refine shortfall_reserve (h.imageCount count) rfl hf ?_ hshort
      rw [not_or] at hcount
      by_contra hover
      exact hno ⟨by omega, by omega, by simpa using hover⟩
  | settle actual =>
    cases hstep
    exact (settle_shortfall rfl).trans hshort
  | refund =>
    cases hstep
    unfold BillingSession.refund
    split <;> exact hshort
  | runJob =>
    simp only [billingStep] at hstep
    split at hstep <;> cases hstep
    exact hshort
  | _ =>
    cases hstep
    exact hshort

end

/-! ## Whole runs -/

section
variable {env : BillingEnv} {info : RelayInfo} {quota : Int} {l₀ l : Ledger} {s : BillingSession}
  {t : BillingState} {ls : List BillingLabel}

/-- No storage write was reported as failed since the ledgers were `l₀`. -/
def NoFaults (l₀ l : Ledger) : Prop := l.faults = l₀.faults

/-- **Run lemma.** The invariant holds at the end of every run, from `NewBillingSession` on, in
which no settlement moves money after a refund; and as long as no step overwrites the wallet's
counter there is no shortfall. -/
theorem billing_run (hopen : Opened env info l₀ s l) (hclean : NoFaults l₀ t.ledger)
    (hrun : run (billingStep env) (.start s l) ls = some t)
    (hguard : Along (billingStep env) SettleGuard (.start s l) ls) :
    BillingInv l₀ (openingUsed env l₀ s.funding) s.funding.sub? info.isPlayground t ∧
      (Along (billingStep env) (fun s label => ¬ OverwritesConsumed env s label) (.start s l) ls →
        t.session.shortfall = 0) := by
  have hsteps := along_of_counter (f := fun s : BillingState => s.ledger.faults)
    (fun s label s' => billingStep_faults_le) hrun
    (by
      have hle := hopen.charges.faults_le
      exact le_trans (le_of_eq hclean) hle)
  have hinv := run_invariant _ (fun s label s' hI hok hstep =>
    billingStep_inv hI hok.1 (hok.2 s' hstep) hstep) hopen.inv (hguard.and hsteps) hrun
  refine ⟨hinv, ?_⟩
  intro hno
  let Inv : BillingState → Prop := fun s' =>
    BillingInv l₀ (openingUsed env l₀ s.funding) s.funding.sub? info.isPlayground s' ∧
      s'.session.shortfall = 0
  have hkeep : ∀ s label s', Inv s →
      ((SettleGuard s label ∧ ∀ s', billingStep env s label = some s' →
        s'.ledger.faults = s.ledger.faults) ∧ ¬ OverwritesConsumed env s label) →
      billingStep env s label = some s' → Inv s' := by
    intro s label s' hI hok hstep
    have hf := hok.1.2 s' hstep
    exact ⟨billingStep_inv hI.1 hok.1.1 hf hstep, billingStep_shortfall hI.1 hf hok.2 hI.2 hstep⟩
  exact (run_invariant Inv hkeep ⟨hopen.inv, hopen.no_shortfall⟩
    ((hguard.and hsteps).and hno) hrun).2

end

end NewApi.Service
