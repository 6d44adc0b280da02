import NewApi.Model.TopUp
import NewApi.Utils.Spend

/-!
# Orders and codes are credited once

Whatever calls arrive, in whatever order, an order or a code moves a wallet at most once: it is spent
while its row is open, and the same transaction closes the row.
-/

namespace NewApi.Model

open List Spend
open Common (walletQuotaFromDecimalStrict)
open Runs (run Along along_iff run_invariant')

/-! ## The statement -/

def LedgerEntry.order (e : LedgerEntry) : Option String :=
  match e.source with
  | .order tradeNo _ => some tradeNo
  | _ => none

def LedgerEntry.code (e : LedgerEntry) : Option String :=
  match e.source with
  | .code key => some key
  | _ => none

/-- The sum of a user's entries. -/
def ledgerTotal (ledger : List LedgerEntry) (userId : Nat) : Int :=
  ((ledger.filter fun e => e.userId = userId).map LedgerEntry.amount).sum

section
variable (newFromFloat : Float → ℚ)

/-- What an order is worth: what the gateway of its provider credits. -/
def ownQuota (quotaPerUnit : Float) (topUp : TopUp) : Except Common.QuotaClampKind Int :=
  walletQuotaFromDecimalStrict
    (if topUp.paymentProvider = paymentProviderStripe then moneyQuota newFromFloat quotaPerUnit topUp
    else if topUp.paymentProvider = paymentProviderCreem then topUp.amount
    else amountQuota newFromFloat quotaPerUnit topUp)

/-- The entry of an order has the order's own amount, at the unit of that time. -/
def LedgerEntry.Own (e : LedgerEntry) (topUp : TopUp) : Prop :=
  match e.source with
  | .order _ quotaPerUnit => ownQuota newFromFloat quotaPerUnit topUp = .ok e.amount
  | _ => True

instance (e : LedgerEntry) (topUp : TopUp) : Decidable (e.Own newFromFloat topUp) := by
  unfold LedgerEntry.Own
  split <;> infer_instance

/-- The provider and the order a gateway calls for. -/
def TopUpCall.gateway : TopUpCall → Option (String × String)
  | .rechargeEpay tradeNo _ _ => some (paymentProviderEpay, tradeNo)
  | .recharge referenceId _ _ => some (paymentProviderStripe, referenceId)
  | .rechargeCreem referenceId _ _ => some (paymentProviderCreem, referenceId)
  | .rechargeWaffo tradeNo _ => some (paymentProviderWaffo, tradeNo)
  | .rechargeWaffoPancake tradeNo _ => some (paymentProviderWaffoPancake, tradeNo)
  | .updatePendingTopUpStatus tradeNo expectedPaymentProvider _ =>
    if expectedPaymentProvider = "" then none else some (expectedPaymentProvider, tradeNo)
  | _ => none

/-- Orders and codes have been credited exactly once since the tables were `db₀`. -/
structure ExactlyOnce (db₀ : TopUpDB) (s : TopUpState) : Prop where
  orderOnce : ∀ tradeNo, (s.ledger.filter fun e => e.order = some tradeNo).length ≤ 1
  codeOnce : ∀ key, (s.ledger.filter fun e => e.code = some key).length ≤ 1
  orderAmount : ∀ e ∈ s.ledger, ∀ tradeNo, e.order = some tradeNo →
    ∃ topUp, s.db.topUps.get? tradeNo = some topUp ∧ topUp.userId = e.userId ∧
      e.Own newFromFloat topUp
  codeAmount : ∀ e ∈ s.ledger, ∀ key, e.code = some key →
    ∃ redemption, s.db.redemptions.get? key = some redemption ∧
      redemption.usedUserId = e.userId ∧ redemption.quota = e.amount
  success : ∀ tradeNo topUp, s.db.topUps.get? tradeNo = some topUp →
    (topUp.status = .success ↔
      (∃ topUp₀, db₀.topUps.get? tradeNo = some topUp₀ ∧ topUp₀.status = .success) ∨
        ∃ e ∈ s.ledger, e.order = some tradeNo)
  used : ∀ key redemption, s.db.redemptions.get? key = some redemption →
    (redemption.status = .used ↔
      (∃ redemption₀, db₀.redemptions.get? key = some redemption₀ ∧ redemption₀.status = .used) ∨
        ∃ e ∈ s.ledger, e.code = some key)
  /-- what was closed at the start is as it was, and was never credited -/
  closedOrder : ∀ tradeNo topUp, db₀.topUps.get? tradeNo = some topUp → topUp.status ≠ .pending →
    s.db.topUps.get? tradeNo = some topUp ∧ ∀ e ∈ s.ledger, e.order ≠ some tradeNo
  closedCode : ∀ key redemption, db₀.redemptions.get? key = some redemption →
    redemption.status ≠ .enabled →
    s.db.redemptions.get? key = some redemption ∧ ∀ e ∈ s.ledger, e.code ≠ some key
  /-- what is closed now stays as it is -/
  frozen : ∀ calls t, run (topUpStep newFromFloat) s calls = some t →
    ∀ tradeNo topUp, s.db.topUps.get? tradeNo = some topUp → topUp.status ≠ .pending →
      t.db.topUps.get? tradeNo = some topUp
  otherProvider : ∀ call provider tradeNo topUp, call.gateway = some (provider, tradeNo) →
    s.db.topUps.get? tradeNo = some topUp → topUp.paymentProvider ≠ provider →
      topUpStep newFromFloat s call = some s
  /-- nothing but the ledger's entries has moved a wallet -/
  wallet : ∀ userId, s.db.wallet userId = db₀.wallet userId + ledgerTotal s.ledger userId
  capped : ∀ e ∈ s.ledger, e.source ≠ .other → 0 < e.amount ∧ e.walletAfter ≤ maxWalletQuota

/-- The wallet of a user has room for a credit. -/
def hasRoom (db : TopUpDB) (userId : Nat) (quota : Int) : Bool :=
  match db.users.get? userId with
  | none => false
  | some user => decide (user.quota ≤ maxWalletQuota - quota)

/-- An administrator who would complete an order of Creem completes one whose amount is not changed
by the unit. -/
def manualIsOwn (quotaPerUnit : Float) (db : TopUpDB) (tradeNo : String) : Bool :=
  match db.topUps.get? tradeNo with
  | none => true
  | some topUp =>
    if topUp.status = .pending ∧ topUp.paymentProvider = paymentProviderCreem then
      match walletQuotaFromDecimalStrict (amountQuota newFromFloat quotaPerUnit topUp) with
      | .error _ => true
      | .ok quota =>
        if 0 < quota ∧ hasRoom db topUp.userId quota then
          decide (walletQuotaFromDecimalStrict topUp.amount = .ok quota)
        else true
    else true

/-- The order is pending, and is the provider's if one is named. -/
def canClose (db : TopUpDB) (tradeNo expectedPaymentProvider : String) : Bool :=
  match db.topUps.get? tradeNo with
  | none => false
  | some topUp =>
    topUp.status = .pending ∧
      (expectedPaymentProvider = "" ∨ topUp.paymentProvider = expectedPaymentProvider)

/-- A call credits an order with its own amount, and does not mark one as paid without a credit. -/
def OwnAmount (s : TopUpState) : TopUpCall → Prop
  | .manualCompleteTopUp tradeNo _ =>
    tradeNo = "" ∨ manualIsOwn newFromFloat s.quotaPerUnit s.db tradeNo = true
  | .updatePendingTopUpStatus tradeNo expectedPaymentProvider targetStatus =>
    targetStatus = .success →
      tradeNo = "" ∨ canClose s.db tradeNo expectedPaymentProvider = false
  | _ => True

instance (s : TopUpState) (call : TopUpCall) : Decidable (OwnAmount newFromFloat s call) := by
  cases call <;> (unfold OwnAmount; infer_instance)

end

/-! ## Credits -/

/-- A wallet was moved by `amount`. -/
def WalletMoved (db db' : TopUpDB) (userId : Nat) (amount : Int) : Prop :=
  ∃ user user', db.users.get? userId = some user ∧ user'.id = userId ∧
    user'.quota = user.quota + amount ∧ db'.users = db.users.save user'

/-- A credit, within the bound of a wallet. -/
structure Credit (db db' : TopUpDB) (userId : Nat) (quota : Int) : Prop where
  moved : WalletMoved db db' userId quota
  pos : 0 < quota
  room : hasRoom db userId quota = true
  capped : db'.wallet userId ≤ maxWalletQuota

section
variable {db db' : TopUpDB} {userId : Nat} {quota : Int} {updates : WalletUser → UserUpdates}
  {users' : Table WalletUser.id}

lemma WalletMoved.wallet {amount : Int} (h : WalletMoved db db' userId amount) (id : Nat) :
    db'.wallet id = db.wallet id + if userId = id then amount else 0 := by
  obtain ⟨user, user', hget, hid, hquota, hsave⟩ := h
  simp only [TopUpDB.wallet, hsave, Table.get?_save, hid]
  split_ifs with hk
  · subst hk
    simp only [hget, Option.map_some, Option.getD_some, hquota]
  · rw [add_zero]

/-- A transaction that moves a wallet credits it if there is room for a positive quota, and only
then. -/
lemma creditTopUpQuota_ok_iff :
    (∃ users', creditTopUpQuota db.users userId quota updates = .ok users') ↔
      0 < quota ∧ quota ≤ maxWalletQuota ∧ hasRoom db userId quota = true := by
  unfold creditTopUpQuota topUpQuotaMaxCurrent hasRoom
  by_cases hrange : quota ≤ 0 ∨ maxWalletQuota < quota
  · simp only [if_pos hrange, reduceCtorEq, exists_false, false_iff]
    omega
  have hin : 0 < quota ∧ quota ≤ maxWalletQuota := by omega
  simp only [if_neg hrange, hin, true_and]
  cases db.users.get? userId with
  | none => simp only [reduceCtorEq, exists_false, Bool.false_eq_true]
  | some user =>
    by_cases hroom : user.quota ≤ maxWalletQuota - quota <;> simp [hroom]

lemma creditTopUpQuota_ok (h : creditTopUpQuota db.users userId quota updates = .ok users')
    (hdb : db'.users = users') : Credit db db' userId quota := by
  have hroom := creditTopUpQuota_ok_iff.mp ⟨users', h⟩
  cases hget : db.users.get? userId with
  | none => simp [hasRoom, hget] at hroom
  | some user =>
    have hle : user.quota ≤ maxWalletQuota - quota := by simpa [hasRoom, hget] using hroom.2.2
    have hrange : ¬(quota ≤ 0 ∨ maxWalletQuota < quota) := by omega
    simp only [creditTopUpQuota, topUpQuotaMaxCurrent, if_neg hrange, hget, if_pos hle,
      Except.ok.injEq] at h
    have hid : user.id = userId := Table.key_of_get? hget
    have hmoved : WalletMoved db db' userId quota := by
      refine ⟨user, _, hget, ?_, ?_, hdb.trans h.symm⟩
      · exact hid
      · rfl
    refine ⟨hmoved, hroom.1, hroom.2.2, ?_⟩
    have hwallet : db.wallet userId = user.quota := by
      simp only [TopUpDB.wallet, hget, Option.map_some, Option.getD_some]
    rw [hmoved.wallet, if_pos rfl, hwallet]
    omega

end

/-! ## What a call can do -/

section
variable {newFromFloat : Float → ℚ} {s s' t : TopUpState} {call : TopUpCall} {db₀ : TopUpDB}
  {P : Prop} {c : Completion} {tradeNo provider : String} {topUp : TopUp}

/-- The row of an order is completed. -/
structure Completed (topUp topUp' : TopUp) : Prop where
  tradeNo : topUp'.tradeNo = topUp.tradeNo
  userId : topUp'.userId = topUp.userId
  amount : topUp'.amount = topUp.amount
  money : topUp'.money = topUp.money
  paymentProvider : topUp'.paymentProvider = topUp.paymentProvider
  status : topUp'.status = .success

/-- What a call does to the system. `P` is to hold if the call is fair. -/
inductive Effect (newFromFloat : Float → ℚ) (s : TopUpState) : TopUpState → Prop → Prop
  | unchanged {P : Prop} (hP : P) : Effect newFromFloat s s P
  | unit {P : Prop} (quotaPerUnit : Float) (hP : P) :
    Effect newFromFloat s { s with quotaPerUnit := quotaPerUnit } P
  | completed {P : Prop} {topUp topUp' : TopUp} {db' : TopUpDB} {quota : Int}
    (hget : s.db.topUps.get? topUp.tradeNo = some topUp) (hpending : topUp.status = .pending)
    (hrow : Completed topUp topUp') (htopUps : db'.topUps = s.db.topUps.save topUp')
    (hcodes : db'.redemptions = s.db.redemptions)
    (hcredit : Credit s.db db' topUp.userId quota)
    (hP : P ↔ ownQuota newFromFloat s.quotaPerUnit topUp = .ok quota) :
    Effect newFromFloat s
      (s.record (.order topUp.tradeNo s.quotaPerUnit) db' (some ⟨topUp.userId, quota⟩)) P
  | closed {P : Prop} {topUp : TopUp} (status : TopUpStatus)
    (hget : s.db.topUps.get? topUp.tradeNo = some topUp) (hpending : topUp.status = .pending)
    (hP : P ↔ status ≠ .success) :
    Effect newFromFloat s { s with
      db := { s.db with topUps := s.db.topUps.save { topUp with status := status } } } P
  | redeemed {P : Prop} {code code' : Redemption} {db' : TopUpDB} {userId : Nat}
    (hget : s.db.redemptions.get? code.key = some code) (henabled : code.status = .enabled)
    (hkey : code'.key = code.key) (hquota : code'.quota = code.quota)
    (hused : code'.status = .used) (huser : code'.usedUserId = userId)
    (htopUps : db'.topUps = s.db.topUps) (hcodes : db'.redemptions = s.db.redemptions.save code')
    (hcredit : Credit s.db db' userId code.quota) (hP : P) :
    Effect newFromFloat s (s.record (.code code.key) db' (some ⟨userId, code.quota⟩)) P
  | moved {P : Prop} {db' : TopUpDB} {userId : Nat} {amount : Int}
    (htopUps : db'.topUps = s.db.topUps) (hcodes : db'.redemptions = s.db.redemptions)
    (hmoved : WalletMoved s.db db' userId amount) (hP : P) :
    Effect newFromFloat s (s.record .other db' (some ⟨userId, amount⟩)) P

lemma complete_error (tradeNo : String) (e : TopUpError) : s.complete tradeNo (.error e) = s := rfl

/-- A gateway's own text for an error makes no difference to the system. -/
lemma complete_hideError (tradeNo : String) (r : Except TopUpError (Option Credited × TopUpDB)) :
    s.complete tradeNo (hideError r) = s.complete tradeNo r := by
  cases r <;> rfl

/-- A completion either changes nothing, or completes the order. -/
lemma complete_effect {now : Int}
    (hno : (∀ credited db', completeTopUp c s.db tradeNo now ≠ .ok (some credited, db')) → P)
    (hyes : ∀ topUp quota, s.db.topUps.get? tradeNo = some topUp → topUp.status = .pending →
      (∀ provider, c.provider = some provider → topUp.paymentProvider = provider) →
      walletQuotaFromDecimalStrict (c.quota topUp) = .ok quota →
      0 < quota → hasRoom s.db topUp.userId quota = true →
      (P ↔ ownQuota newFromFloat s.quotaPerUnit topUp = .ok quota)) :
    Effect newFromFloat s (s.complete tradeNo (completeTopUp c s.db tradeNo now)) P := by
  generalize hr : completeTopUp c s.db tradeNo now = r at hno ⊢
  unfold completeTopUp at hr
  split at hr
  · subst hr
    exact .unchanged (hno nofun)
  rename_i topUp hget
  split_ifs at hr with hprovider hrepeat hstatus
  -- an order of another provider, one that is complete, and one that was closed
  iterate 3
    subst hr
    exact .unchanged (hno nofun)
  split at hr
  · subst hr
    exact .unchanged (hno nofun)
  rename_i quota hquota
  split_ifs at hr
  · subst hr
    exact .unchanged (hno nofun)
  split at hr
  · subst hr
    exact .unchanged (hno nofun)
  rename_i users hupdate
  subst hr
  have hpending := not_not.mp hstatus
  obtain ⟨hpos, -, hroom⟩ := creditTopUpQuota_ok_iff.mp ⟨users, hupdate⟩
  obtain rfl : topUp.tradeNo = tradeNo := Table.key_of_get? hget
  refine .completed hget hpending ?_ rfl rfl (creditTopUpQuota_ok hupdate rfl)
    (hyes topUp quota hget hpending ?_ hquota hpos hroom)
  · exact ⟨rfl, rfl, rfl, rfl, rfl, rfl⟩
  · intro provider hc
    by_contra hne
    exact hprovider (by simp [hc, Ne.symm hne])

/-- A gateway credits an order of its own provider with what the order is worth. -/
lemma gateway_effect (tradeNo : String) (now : Int) (hc : c.provider = some provider)
    (hown : ∀ topUp : TopUp, topUp.paymentProvider = provider →
      walletQuotaFromDecimalStrict (c.quota topUp) = ownQuota newFromFloat s.quotaPerUnit topUp) :
    Effect newFromFloat s (s.complete tradeNo (completeTopUp c s.db tradeNo now)) True := by
  apply complete_effect
  · intro _
    trivial
  · intro topUp quota _ _ hprovider hquota _ _
    rw [hown topUp (hprovider provider hc)] at hquota
    exact iff_of_true trivial hquota

/-- A completion that an administrator could make is made. -/
lemma manual_completes {db : TopUpDB}
    {quota : Int} (now : Int) (hc : c.provider = none) (hget : db.topUps.get? tradeNo = some topUp)
    (hpending : topUp.status = .pending)
    (hquota : walletQuotaFromDecimalStrict (c.quota topUp) = .ok quota) (hpos : 0 < quota)
    (hroom : hasRoom db topUp.userId quota = true) :
    ∃ credited db', completeTopUp c db tradeNo now = .ok (some credited, db') := by
  obtain ⟨users', husers⟩ :
      ∃ users', creditTopUpQuota db.users topUp.userId quota c.updates = .ok users' :=
    creditTopUpQuota_ok_iff.mpr ⟨hpos, Common.walletQuota_le hquota, hroom⟩
  simp only [completeTopUp, hget, hc, Option.any_none, Bool.false_eq_true, if_false, hpending,
    reduceCtorEq, and_false, ne_eq, not_true_eq_false, hquota, not_le.mpr hpos, husers]
  exact ⟨_, _, rfl⟩

/-- An administrator credits an order of Creem by its amount. -/
lemma manualCompletion_creem {quotaPerUnit : Float}
    (h : topUp.paymentProvider = paymentProviderCreem) :
    (manualCompletion newFromFloat quotaPerUnit).quota topUp
      = amountQuota newFromFloat quotaPerUnit topUp := by
  simp [manualCompletion, h, paymentProviderCreem, paymentProviderStripe]

lemma manual_effect (tradeNo : String) (now : Int) :
    Effect newFromFloat s
      (s.complete tradeNo
        (completeTopUp (manualCompletion newFromFloat s.quotaPerUnit) s.db tradeNo now))
      (manualIsOwn newFromFloat s.quotaPerUnit s.db tradeNo = true) := by
  apply complete_effect
  · -- an order that the guard refuses would have been completed
    intro hno
    unfold manualIsOwn
    split
    · rfl
    rename_i topUp hget
    split_ifs with hcreem
    · split
      · rfl
      rename_i quota hquota
      split_ifs with hroom
      · rw [← manualCompletion_creem hcreem.2] at hquota
        obtain ⟨credited, db', hok⟩ :=
          manual_completes now rfl hget hcreem.1 hquota hroom.1 hroom.2
        exact absurd hok (hno credited db')
      · rfl
    · rfl
  · intro topUp quota hget hpending _ hquota hpos hroom
    by_cases hcreem : topUp.paymentProvider = paymentProviderCreem
    · rw [manualCompletion_creem hcreem] at hquota
      simp [manualIsOwn, ownQuota, hget, hpending, hcreem, hquota, hpos, hroom,
        paymentProviderCreem, paymentProviderStripe]
    have hmanual : (manualCompletion newFromFloat s.quotaPerUnit).quota topUp
        = if topUp.paymentProvider = paymentProviderStripe then
            moneyQuota newFromFloat s.quotaPerUnit topUp
          else amountQuota newFromFloat s.quotaPerUnit topUp := rfl
    have hguard : manualIsOwn newFromFloat s.quotaPerUnit s.db tradeNo = true := by
      simp [manualIsOwn, hget, hcreem]
    refine iff_of_true hguard ?_
    rw [ownQuota, if_neg hcreem, ← hmanual, hquota]

lemma updatePending_effect (tradeNo expectedPaymentProvider : String) (targetStatus : TopUpStatus)
    (h : topUpStep newFromFloat s
      (.updatePendingTopUpStatus tradeNo expectedPaymentProvider targetStatus) = some s') :
    Effect newFromFloat s s' (OwnAmount newFromFloat s
      (.updatePendingTopUpStatus tradeNo expectedPaymentProvider targetStatus)) := by
  simp only [topUpStep, updatePendingTopUpStatus] at h
  simp only [OwnAmount]
  by_cases htrade : tradeNo = ""
  · simp only [if_pos htrade, Option.some.injEq] at h
    exact h ▸ .unchanged fun _ => .inl htrade
  simp only [if_neg htrade] at h
  cases hget : s.db.topUps.get? tradeNo with
  | none =>
    simp only [hget, Option.some.injEq] at h
    exact h ▸ .unchanged fun _ => .inr (by simp only [canClose, hget])
  | some topUp =>
    have hkey := Table.key_of_get? hget
    simp only [hget] at h
    split_ifs at h with hprovider hstatus <;> simp only [Option.some.injEq] at h
    · exact h ▸ .unchanged fun _ => .inr (by simp [canClose, hget, hprovider])
    · exact h ▸ .unchanged fun _ => .inr (by simp [canClose, hget, hstatus])
    subst h
    have hpending := not_not.mp hstatus
    refine .closed targetStatus (hkey.symm ▸ hget) hpending ?_
    have hclose : canClose s.db tradeNo expectedPaymentProvider = true := by
      simp only [canClose, hget, hpending, true_and, decide_eq_true_eq]
      tauto
    simp only [htrade, hclose, Bool.true_eq_false, or_self, imp_false, ne_eq]

lemma redeem_effect (key : String) (userId : Nat) (now : Int)
    (h : topUpStep newFromFloat s (.redeem key userId now) = some s') :
    Effect newFromFloat s s' True := by
  simp only [topUpStep, redeem] at h
  split_ifs at h
  · exact Option.some.inj h ▸ .unchanged trivial
  · exact Option.some.inj h ▸ .unchanged trivial
  cases hredeem : redeemTx s.db key userId now with
  | error e =>
    simp only [hredeem, Option.some.injEq] at h
    exact h ▸ .unchanged trivial
  | ok result =>
    simp only [hredeem, Option.some.injEq] at h
    unfold redeemTx at hredeem
    split at hredeem
    · cases hredeem
    rename_i code hget
    split_ifs at hredeem with hstatus
    split at hredeem
    · cases hredeem
    rename_i users hcredit
    cases hredeem
    subst h
    obtain rfl : code.key = key := Table.key_of_get? hget
    refine .redeemed hget (not_not.mp hstatus) ?_ ?_ ?_ ?_ rfl rfl
      (creditTopUpQuota_ok hcredit rfl) trivial <;> rfl

/-- What a call can do. -/
theorem topUpStep_effect (h : topUpStep newFromFloat s call = some s') :
    Effect newFromFloat s s' (OwnAmount newFromFloat s call) := by
  cases call with
  | rechargeEpay tradeNo actualPaymentMethod now =>
    simp only [topUpStep, rechargeEpay, Option.some.injEq] at h
    split_ifs at h
    · exact h ▸ .unchanged trivial
    subst h
    refine gateway_effect tradeNo now rfl ?_
    intro topUp hprovider
    simp [epayCompletion, ownQuota, hprovider, paymentProviderEpay, paymentProviderStripe,
      paymentProviderCreem]
  | recharge tradeNo _ now | rechargeCreem tradeNo _ now | rechargeWaffo tradeNo now
  | rechargeWaffoPancake tradeNo now =>
    simp only [topUpStep, recharge, rechargeCreem, rechargeWaffo, rechargeWaffoPancake,
      Option.some.injEq] at h
    split_ifs at h
    · exact h ▸ .unchanged trivial
    rw [complete_hideError] at h
    subst h
    refine gateway_effect tradeNo now rfl ?_
    intro topUp hprovider
    simp [stripeCompletion, creemCompletion, waffoCompletion, ownQuota, hprovider,
      paymentProviderWaffo, paymentProviderWaffoPancake, paymentProviderStripe, paymentProviderCreem]
  | manualCompleteTopUp tradeNo now =>
    simp only [topUpStep, manualCompleteTopUp, Option.some.injEq] at h
    split_ifs at h with htrade
    · exact h ▸ .unchanged (.inl htrade)
    · subst h
      simpa only [OwnAmount, htrade, false_or] using manual_effect tradeNo now
  | updatePendingTopUpStatus tradeNo provider status =>
    exact updatePending_effect tradeNo provider status h
  | redeem key userId now => exact redeem_effect key userId now h
  | setQuotaPerUnit quotaPerUnit =>
    rw [topUpStep, Option.some.injEq] at h
    exact h ▸ .unit quotaPerUnit trivial
  | moveWallet userId amount =>
    rw [topUpStep] at h
    cases hget : s.db.users.get? userId with
    | none =>
      simp only [hget, Option.some.injEq] at h
      exact h ▸ .unchanged trivial
    | some user =>
      have hid : user.id = userId := Table.key_of_get? hget
      simp only [hget, Option.some.injEq] at h
      subst h
      refine .moved rfl rfl ⟨user, _, hget, ?_, ?_, rfl⟩ trivial
      · exact hid
      · rfl

/-! ## Invariants -/

/-- The row of a credited order. -/
def LedgerEntry.FitsOrder (e : LedgerEntry) (topUp : TopUp) : Prop :=
  topUp.status = .success ∧ topUp.userId = e.userId

/-- The row of a credited code. -/
def LedgerEntry.FitsCode (e : LedgerEntry) (redemption : Redemption) : Prop :=
  redemption.status = .used ∧ redemption.usedUserId = e.userId ∧ redemption.quota = e.amount

/-- What holds in every run. -/
structure LedgerInv (db₀ : TopUpDB) (s : TopUpState) : Prop where
  orders : Spend.Once (fun topUp => topUp.status = .pending) LedgerEntry.order
    LedgerEntry.FitsOrder db₀.topUps s.db.topUps s.ledger
  codes : Spend.Once (fun redemption => redemption.status = .enabled) LedgerEntry.code
    LedgerEntry.FitsCode db₀.redemptions s.db.redemptions s.ledger
  used : Spend.Accounted (fun redemption => redemption.status = .used) LedgerEntry.code
    db₀.redemptions s.db.redemptions s.ledger
  wallet : ∀ userId, s.db.wallet userId = db₀.wallet userId + ledgerTotal s.ledger userId
  capped : ∀ e ∈ s.ledger, e.source ≠ .other → 0 < e.amount ∧ e.walletAfter ≤ maxWalletQuota

/-- What holds if every call is fair: orders are credited with their own amounts, and none is paid
that was not credited. -/
structure Fair (newFromFloat : Float → ℚ) (db₀ : TopUpDB) (s : TopUpState) : Prop where
  own : Spend.Certified LedgerEntry.order (LedgerEntry.Own newFromFloat) s.db.topUps s.ledger
  success : Spend.Accounted (fun topUp => topUp.status = .success) LedgerEntry.order
    db₀.topUps s.db.topUps s.ledger

lemma ownQuota_completed {topUp' : TopUp} (h : Completed topUp topUp') (quotaPerUnit : Float) :
    ownQuota newFromFloat quotaPerUnit topUp' = ownQuota newFromFloat quotaPerUnit topUp := by
  simp only [ownQuota, moneyQuota, amountQuota, h.paymentProvider, h.amount, h.money]

/-- The ledger's sum follows a wallet that moves. -/
lemma wallet_snoc {db' : TopUpDB} {e : LedgerEntry}
    (h : ∀ id, s.db.wallet id = db₀.wallet id + ledgerTotal s.ledger id)
    (hmoved : WalletMoved s.db db' e.userId e.amount) (id : Nat) :
    db'.wallet id = db₀.wallet id + ledgerTotal (s.ledger ++ [e]) id := by
  rw [hmoved.wallet, h id, ledgerTotal, ledgerTotal, filter_append, map_append,
    sum_append, add_assoc]
  congr 2
  by_cases hid : e.userId = id <;> simp [hid]

lemma LedgerInv.effect (h : LedgerInv db₀ s) (heffect : Effect newFromFloat s s' P) :
    LedgerInv db₀ s' := by
  cases heffect with
  | unchanged hP => exact h
  | unit quotaPerUnit hP => exact { h with }
  | @completed _ topUp topUp' db' quota hget hpending hrow htopUps hcodes hcredit hP =>
    rw [← hrow.tradeNo] at hget
    constructor
    · show Spend.Once _ _ _ _ db'.topUps _
      rw [htopUps]
      refine h.orders.spend hget hpending ?_ ?_ ?_
      · exact congrArg some hrow.tradeNo.symm
      · simp only [hrow.status, reduceCtorEq, not_false_eq_true]
      · exact ⟨hrow.status, hrow.userId⟩
    · show Spend.Once _ _ _ _ db'.redemptions _
      rw [hcodes]
      exact h.codes.snoc rfl
    · show Spend.Accounted _ _ _ db'.redemptions _
      rw [hcodes]
      exact (accounted_log rfl).mpr h.used
    · exact wallet_snoc h.wallet hcredit.moved
    · intro e he hsource
      rcases mem_snoc.mp he with he | rfl
      · exact h.capped e he hsource
      · exact ⟨hcredit.pos, hcredit.capped⟩
  | @closed _ topUp status hget hpending hP =>
    exact { h with orders := h.orders.save hget hpending }
  | @redeemed _ code code' db' userId hget henabled hkey hquota hused huser htopUps hcodes hcredit hP =>
    rw [← hkey] at hget
    constructor
    · show Spend.Once _ _ _ _ db'.topUps _
      rw [htopUps]
      exact h.orders.snoc rfl
    · show Spend.Once _ _ _ _ db'.redemptions _
      rw [hcodes]
      refine h.codes.spend hget henabled ?_ ?_ ?_
      · exact congrArg some hkey.symm
      · simp only [hused, reduceCtorEq, not_false_eq_true]
      · exact ⟨hused, huser, hquota⟩
    · show Spend.Accounted _ _ _ db'.redemptions _
      rw [hcodes]
      refine (accounted_spend hget ?_ ?_).mpr h.used
      · simp only [henabled, reduceCtorEq, not_false_eq_true]
      · exact congrArg some hkey.symm
    · exact wallet_snoc h.wallet hcredit.moved
    · intro e he hsource
      rcases mem_snoc.mp he with he | rfl
      · exact h.capped e he hsource
      · exact ⟨hcredit.pos, hcredit.capped⟩
  | @moved _ db' userId amount htopUps hcodes hmoved hP =>
    constructor
    · show Spend.Once _ _ _ _ db'.topUps _
      rw [htopUps]
      exact h.orders.snoc rfl
    · show Spend.Once _ _ _ _ db'.redemptions _
      rw [hcodes]
      exact h.codes.snoc rfl
    · show Spend.Accounted _ _ _ db'.redemptions _
      rw [hcodes]
      exact (accounted_log rfl).mpr h.used
    · exact wallet_snoc h.wallet hmoved
    · intro e he hsource
      rcases mem_snoc.mp he with he | rfl
      · exact h.capped e he hsource
      · exact absurd rfl hsource

lemma not_pending_of_success (topUp : TopUp) (h : topUp.status = .success) :
    ¬ topUp.status = .pending := by
  simp only [h, reduceCtorEq, not_false_eq_true]

/-- A call keeps the system fair exactly when it is fair itself. -/
lemma Fair.effect_iff (h : LedgerInv db₀ s) (heffect : Effect newFromFloat s s' P) :
    Fair newFromFloat db₀ s' ↔ Fair newFromFloat db₀ s ∧ P := by
  have hfair : ∀ s, Fair newFromFloat db₀ s ↔
      Spend.Certified LedgerEntry.order (LedgerEntry.Own newFromFloat) s.db.topUps s.ledger ∧
        Spend.Accounted (fun topUp => topUp.status = .success) LedgerEntry.order
          db₀.topUps s.db.topUps s.ledger :=
    fun s => ⟨fun h => ⟨h.own, h.success⟩, fun h => ⟨h.1, h.2⟩⟩
  rw [hfair, hfair]
  cases heffect with
  | unchanged hP | unit quotaPerUnit hP => simp only [hP, and_true]
  | @completed _ topUp topUp' db' quota hget hpending hrow htopUps hcodes hcredit hP =>
    rw [← hrow.tradeNo] at hget
    have hspends : LedgerEntry.order ⟨.order topUp.tradeNo s.quotaPerUnit, topUp.userId, quota,
        db'.wallet topUp.userId⟩ = some topUp'.tradeNo := congrArg some hrow.tradeNo.symm
    simp only [TopUpState.record, htopUps]
    rw [certified_spend h.orders hget hpending hspends,
      accounted_spend hget (by simp [hpending]) hspends]
    simp only [LedgerEntry.Own, ownQuota_completed hrow, ← hP]
    exact and_right_comm
  | @closed _ topUp status hget hpending hP =>
    have hget' : s.db.topUps.get? ({ topUp with status := status } : TopUp).tradeNo = some topUp :=
      hget
    rw [certified_save h.orders hget' hpending,
      accounted_save h.orders not_pending_of_success hget' hpending, hP, and_assoc]
  | @redeemed _ code code' db' userId hget henabled hkey hquota hused huser htopUps hcodes hcredit
      hP =>
    simp only [TopUpState.record, htopUps, hP, and_true]
    rw [certified_log rfl, accounted_log rfl]
  | @moved _ db' userId amount htopUps hcodes hmoved hP =>
    simp only [TopUpState.record, htopUps, hP, and_true]
    rw [certified_log rfl, accounted_log rfl]

lemma LedgerInv.start (db₀ : TopUpDB) (quotaPerUnit : Float) :
    LedgerInv db₀ ⟨db₀, quotaPerUnit, []⟩ where
  orders := .nil
  codes := .nil
  used := accounted_nil
  wallet _ := by simp only [ledgerTotal, filter_nil, map_nil, sum_nil, add_zero]
  capped e he := absurd he not_mem_nil

/-- A call leaves an order alone that is not pending. -/
lemma Effect.frozen (heffect : Effect newFromFloat s s' P)
    (hget : s.db.topUps.get? tradeNo = some topUp) (hclosed : topUp.status ≠ .pending) :
    s'.db.topUps.get? tradeNo = some topUp := by
  have hne : ∀ row row' : TopUp, s.db.topUps.get? row.tradeNo = some row → row.status = .pending →
      row'.tradeNo = row.tradeNo → row'.tradeNo ≠ tradeNo := by
    rintro row row' hrow hpending hkey rfl
    rw [← hkey, hget, Option.some.injEq] at hrow
    exact hclosed (hrow ▸ hpending)
  cases heffect with
  | unchanged hP | unit quotaPerUnit hP => exact hget
  | @completed _ row row' db' quota hrow hpending hcompleted htopUps hcodes hcredit hP =>
    show db'.topUps.get? tradeNo = some topUp
    rw [htopUps, get?_save_of_ne (hne row row' hrow hpending hcompleted.tradeNo), hget]
  | @closed _ row status hrow hpending hP =>
    show (s.db.topUps.save { row with status := status }).get? tradeNo = some topUp
    rw [get?_save_of_ne (hne row { row with status := status } hrow hpending rfl), hget]
  | redeemed hrow henabled hkey hquota hused huser htopUps hcodes hcredit hP =>
    exact htopUps.symm ▸ hget
  | moved htopUps hcodes hmoved hP => exact htopUps.symm ▸ hget

/-- A gateway's completion of another provider's order fails. -/
lemma complete_otherProvider
    (hc : c.provider = some provider) (hget : s.db.topUps.get? tradeNo = some topUp)
    (hprovider : topUp.paymentProvider ≠ provider) (now : Int) :
    s.complete tradeNo (completeTopUp c s.db tradeNo now) = s := by
  have hmismatch : completeTopUp c s.db tradeNo now = .error .paymentMethodMismatch := by
    simp [completeTopUp, hget, hc, Ne.symm hprovider]
  rw [hmismatch, complete_error]

lemma topUpStep_otherProvider (hcall : call.gateway = some (provider, tradeNo))
    (hget : s.db.topUps.get? tradeNo = some topUp) (hprovider : topUp.paymentProvider ≠ provider) :
    topUpStep newFromFloat s call = some s := by
  cases call with
  | rechargeEpay no method now =>
    obtain ⟨rfl, rfl⟩ : paymentProviderEpay = provider ∧ no = tradeNo := by
      simpa [TopUpCall.gateway] using hcall
    simp only [topUpStep, rechargeEpay, Option.some.injEq]
    split_ifs
    · rfl
    · exact complete_otherProvider rfl hget hprovider now
  | recharge no _ now | rechargeCreem no _ now | rechargeWaffo no now | rechargeWaffoPancake no now =>
    simp only [TopUpCall.gateway, Option.some.injEq, Prod.mk.injEq] at hcall
    obtain ⟨rfl, rfl⟩ := hcall
    simp only [topUpStep, recharge, rechargeCreem, rechargeWaffo, rechargeWaffoPancake,
      Option.some.injEq]
    split_ifs
    · rfl
    · rw [complete_hideError]
      exact complete_otherProvider rfl hget hprovider now
  | updatePendingTopUpStatus no expected status =>
    obtain ⟨hexpected, rfl, rfl⟩ : expected ≠ "" ∧ expected = provider ∧ no = tradeNo := by
      simpa [TopUpCall.gateway] using hcall
    simp only [topUpStep, updatePendingTopUpStatus]
    by_cases htrade : no = ""
    · rw [if_pos htrade]
    · rw [if_neg htrade, hget]
      simp only [hexpected, hprovider, ne_eq, not_false_eq_true, and_self, if_true]
  | _ => simp [TopUpCall.gateway] at hcall

/-- In a run everything is as it should be, except for what fairness adds. -/
lemma LedgerInv.exactlyOnce_iff (h : LedgerInv db₀ s) :
    ExactlyOnce newFromFloat db₀ s ↔ Fair newFromFloat db₀ s := by
  constructor
  · intro hexact
    constructor
    · intro e he tradeNo horder topUp hget
      obtain ⟨row, hrow, -, hown⟩ := hexact.orderAmount e he tradeNo horder
      rw [hget, Option.some.injEq] at hrow
      exact hrow ▸ hown
    · intro tradeNo topUp hget hsuccess
      exact (hexact.success tradeNo topUp hget).mp hsuccess
  · intro hfair
    constructor
    case orderOnce => exact h.orders.once
    case codeOnce => exact h.codes.once
    case orderAmount =>
      intro e he tradeNo horder
      obtain ⟨topUp, hget, -, hfits⟩ := h.orders.closed e he tradeNo horder
      exact ⟨topUp, hget, hfits.2, hfair.own e he tradeNo horder topUp hget⟩
    case codeAmount =>
      intro e he key hcode
      obtain ⟨redemption, hget, -, hfits⟩ := h.codes.closed e he key hcode
      exact ⟨redemption, hget, hfits.2⟩
    case success =>
      intro tradeNo topUp hget
      exact ⟨hfair.success tradeNo topUp hget,
        h.orders.done_of not_pending_of_success (fun _ _ hfits => hfits.1) hget⟩
    case used =>
      intro key redemption hget
      exact ⟨h.used key redemption hget,
        h.codes.done_of (fun _ hused => by simp [hused]) (fun _ _ hfits => hfits.1) hget⟩
    case closedOrder => exact h.orders.kept
    case closedCode => exact h.codes.kept
    case frozen =>
      intro calls t hrun tradeNo topUp hget hclosed
      apply run_invariant' (fun s => s.db.topUps.get? tradeNo = some topUp) _ hget hrun
      intro s call s' hinv hstep
      exact (topUpStep_effect hstep).frozen hinv hclosed
    case otherProvider =>
      intro call provider tradeNo topUp hcall hget hprovider
      exact topUpStep_otherProvider hcall hget hprovider
    case wallet => exact h.wallet
    case capped => exact h.capped

end

/-- **Orders and codes are credited exactly once.** A run of calls keeps every promise exactly when
no administrator completes an order of Creem whose amount the unit changes, and no pending order is
marked as paid through `UpdatePendingTopUpStatus`. -/
theorem credited_exactly_once_iff (newFromFloat : Float → ℚ) (db₀ : TopUpDB) (quotaPerUnit : Float)
    (calls : List TopUpCall) (s : TopUpState)
    (hrun : run (topUpStep newFromFloat) ⟨db₀, quotaPerUnit, []⟩ calls = some s) :
    ExactlyOnce newFromFloat db₀ s ↔
      Along (topUpStep newFromFloat) (OwnAmount newFromFloat) ⟨db₀, quotaPerUnit, []⟩ calls := by
  have hinv : ∀ s call s', LedgerInv db₀ s → topUpStep newFromFloat s call = some s' →
      LedgerInv db₀ s' := fun s call s' h hstep => h.effect (topUpStep_effect hstep)
  have hstart : Fair newFromFloat db₀ ⟨db₀, quotaPerUnit, []⟩ :=
    ⟨certified_nil, accounted_nil⟩
  rw [(run_invariant' (LedgerInv db₀) hinv (.start db₀ quotaPerUnit) hrun).exactlyOnce_iff,
    along_iff (LedgerInv db₀) (Fair newFromFloat db₀) hinv
      (fun s call s' h hstep => Fair.effect_iff h (topUpStep_effect hstep))
      (.start db₀ quotaPerUnit) hrun]
  exact and_iff_right hstart

def openOrder (tradeNo provider : String) (userId : Nat) (amount : Int) : TopUp where
  tradeNo := tradeNo
  userId := userId
  amount := amount
  money := 5
  paymentMethod := "card"
  paymentProvider := provider
  createTime := 0
  completeTime := 0
  status := .pending

/-- Two users, an open order of Epay and one of Creem, and a code. -/
def openOrders : TopUpDB where
  users := ⟨[⟨1, 0, "", ""⟩, ⟨2, 100, "", ""⟩], by decide⟩
  topUps := ⟨[openOrder "e1" "epay" 1 5, openOrder "c1" "creem" 2 1000], by decide⟩
  redemptions := ⟨[⟨"code", .enabled, 300, 0, 0, 0⟩], by decide⟩

def halfMillion : Float → ℚ := fun _ => 500000

/-- The gateways call twice, an administrator steps in, and a code is tried by two users. -/
def replayedCalls : List TopUpCall :=
  [.rechargeEpay "e1" "alipay" 10, .rechargeEpay "e1" "alipay" 11, .rechargeWaffo "c1" 12,
    .rechargeCreem "c1" "a@b.c" 13, .manualCompleteTopUp "c1" 14, .manualCompleteTopUp "e1" 15,
    .updatePendingTopUpStatus "e1" "" .failed, .redeem "code" 1 16, .redeem "code" 2 17,
    .moveWallet 1 (-50)]

theorem credited_exactly_once_replayed :
    ∃ s, run (topUpStep halfMillion) ⟨openOrders, 500000, []⟩ replayedCalls = some s ∧
      s.ledger.map (fun e => (e.userId, e.amount)) = [(1, 2500000), (2, 1000), (1, 300), (1, -50)] ∧
      ExactlyOnce halfMillion openOrders s := by
  have hledger : (run (topUpStep halfMillion) ⟨openOrders, 500000, []⟩ replayedCalls).map
      (fun s => s.ledger.map fun e => (e.userId, e.amount))
        = some [(1, 2500000), (2, 1000), (1, 300), (1, -50)] := by decide +kernel
  obtain ⟨s, hrun, hs⟩ := Option.map_eq_some_iff.mp hledger
  refine ⟨s, hrun, hs, ?_⟩
  exact (credited_exactly_once_iff halfMillion openOrders 500000 replayedCalls s hrun).mpr
    (by decide +kernel)

/-- An administrator completes Creem's order of `1000`: its user is credited with `1000` units. -/
theorem manual_completion_multiplies_creem :
    ∃ s, run (topUpStep halfMillion) ⟨openOrders, 500000, []⟩ [.manualCompleteTopUp "c1" 14]
        = some s ∧
      s.ledger.map (fun e => (e.userId, e.amount)) = [(2, 500000000)] ∧
      ¬ ExactlyOnce halfMillion openOrders s := by
  have hledger : (run (topUpStep halfMillion) ⟨openOrders, 500000, []⟩
      [.manualCompleteTopUp "c1" 14]).map (fun s => s.ledger.map fun e => (e.userId, e.amount))
        = some [(2, 500000000)] := by decide +kernel
  have hother : ∀ s ∈ run (topUpStep halfMillion) ⟨openOrders, 500000, []⟩
      [.manualCompleteTopUp "c1" 14], ∃ e ∈ s.ledger, e.order = some "c1" ∧
        ∀ topUp ∈ s.db.topUps.get? "c1", ¬ e.Own halfMillion topUp := by decide +kernel
  obtain ⟨s, hrun, hs⟩ := Option.map_eq_some_iff.mp hledger
  refine ⟨s, hrun, hs, ?_⟩
  intro hexact
  obtain ⟨e, he, horder, hnot⟩ := hother s hrun
  obtain ⟨topUp, hget, -, hown⟩ := hexact.orderAmount e he "c1" horder
  exact hnot topUp hget hown

end NewApi.Model
