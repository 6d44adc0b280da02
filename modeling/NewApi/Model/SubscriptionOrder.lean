import NewApi.Utils.Runs
import NewApi.Model.SubscriptionPurchase

/-!
# Subscription orders

`CompleteSubscriptionOrder` and `ExpireSubscriptionOrder`: the callbacks of the payment gateways.
Each call is one transaction that locks the order's row, so calls on one trade number run one after
the other, in any order and any number of times.
-/

namespace NewApi.Model

open Runs Table

/-- The statuses that orders and top-ups share. -/
inductive TopUpStatus
  | pending
  | success
  | failed
  | expired
deriving DecidableEq

/-- Trade numbers are unique. -/
structure SubscriptionOrder where
  tradeNo : String
  userId : Nat
  planId : Nat
  money : Float
  paymentMethod : String
  paymentProvider : String
  status : TopUpStatus
  createTime : Int
  completeTime : Int
  providerPayload : String

structure TopUp where
  tradeNo : String
  userId : Nat
  amount : Int
  money : Float
  paymentMethod : String
  paymentProvider : String
  createTime : Int
  completeTime : Int
  status : TopUpStatus

/-- The tables a completion touches. -/
structure OrderDB where
  purchase : PurchaseDB
  orders : Table SubscriptionOrder.tradeNo
  topUps : Table TopUp.tradeNo

inductive OrderError
  | tradeNoEmpty
  | orderNotFound
  | paymentMethodMismatch
  | orderStatusInvalid
  | invalidPlanId
  | planNotFound
  | userNotFound
  | subscription (e : SubscriptionError)
deriving DecidableEq

/-- What a completion reads besides the tables it locks. -/
structure CompletionReads where
  /-- the plans, from the plan cache or the table -/
  planById : Nat → Option SubscriptionPlan
  /-- `GetDBTimestamp` -/
  dbTime : Int
  /-- `GetTimestamp` for the top-up, and later for the order -/
  topUpTime : Int
  completeTime : Int
  /-- the id of a new subscription is `rowId + 1` -/
  rowId : Nat

def getSubscriptionPlanByIdTx (reads : CompletionReads) (id : Nat) :
    Except OrderError SubscriptionPlan :=
  if id = 0 then .error .invalidPlanId
  else
    match reads.planById id with
    | none => .error .planNotFound
    | some plan => .ok plan

/-- The top-up row that mirrors an order. -/
def upsertSubscriptionTopUpTx (topUps : Table TopUp.tradeNo) (order : SubscriptionOrder)
    (now : Int) : Except OrderError (Table TopUp.tradeNo) :=
  match topUps.get? order.tradeNo with
  | none =>
    .ok (topUps.save
      { tradeNo := order.tradeNo, userId := order.userId, amount := 0, money := order.money,
        paymentMethod := order.paymentMethod, paymentProvider := "",
        createTime := order.createTime, completeTime := now, status := .success })
  | some topUp =>
    if topUp.paymentMethod ≠ "" ∧ topUp.paymentMethod ≠ order.paymentMethod then
      .error .paymentMethodMismatch
    else
      .ok (topUps.save
        { topUp with
          money := order.money
          -- the old method is empty or the same
          paymentMethod := order.paymentMethod
          createTime := if topUp.createTime = 0 then order.createTime else topUp.createTime
          completeTime := now
          status := .success })

/-- The order as it is saved at the end of a completion. An empty payload or method leaves the
order's own. -/
def SubscriptionOrder.completed (order : SubscriptionOrder)
    (providerPayload actualPaymentMethod : String) (now : Int) : SubscriptionOrder :=
  { order with
    status := .success
    completeTime := now
    providerPayload := if providerPayload ≠ "" then providerPayload else order.providerPayload
    paymentMethod := if actualPaymentMethod ≠ "" then actualPaymentMethod else order.paymentMethod }

/-- What a completion does with a pending order. -/
def fulfil (cal : Calendar) (db : OrderDB) (order : SubscriptionOrder)
    (providerPayload actualPaymentMethod : String) (reads : CompletionReads) :
    Except OrderError OrderDB :=
  match getSubscriptionPlanByIdTx reads order.planId with
  | .error e => .error e
  | .ok plan =>
    if db.purchase.users.get? order.userId = none then .error .userNotFound
    else
      match createUserSubscriptionFromPlanTx cal db.purchase order.userId plan reads.dbTime
        reads.rowId with
      | .error e => .error (.subscription e)
      | .ok purchase =>
        match upsertSubscriptionTopUpTx db.topUps order reads.topUpTime with
        | .error e => .error e
        | .ok topUps =>
          .ok { purchase := purchase
                orders := db.orders.save
                  (order.completed providerPayload actualPaymentMethod reads.completeTime)
                topUps := topUps }

/-- `CompleteSubscriptionOrder`. An empty expected provider skips that check. -/
def completeSubscriptionOrder (cal : Calendar) (db : OrderDB)
    (tradeNo providerPayload expectedPaymentProvider actualPaymentMethod : String)
    (reads : CompletionReads) : Except OrderError OrderDB :=
  if tradeNo = "" then .error .tradeNoEmpty
  else
    match db.orders.get? tradeNo with
    | none => .error .orderNotFound
    | some order =>
      if expectedPaymentProvider ≠ "" ∧ order.paymentProvider ≠ expectedPaymentProvider then
        .error .paymentMethodMismatch
      else if order.status = .success then .ok db
      else if order.status ≠ .pending then .error .orderStatusInvalid
      else fulfil cal db order providerPayload actualPaymentMethod reads

/-- `ExpireSubscriptionOrder`. -/
def expireSubscriptionOrder (db : OrderDB) (tradeNo expectedPaymentProvider : String) (now : Int) :
    Except OrderError OrderDB :=
  if tradeNo = "" then .error .tradeNoEmpty
  else
    match db.orders.get? tradeNo with
    | none => .error .orderNotFound
    | some order =>
      if expectedPaymentProvider ≠ "" ∧ order.paymentProvider ≠ expectedPaymentProvider then
        .error .paymentMethodMismatch
      else if order.status ≠ .pending then .ok db
      else
        .ok { db with orders := db.orders.save { order with status := .expired, completeTime := now } }

/-! ## The system -/

inductive OrderLabel
  | complete (tradeNo providerPayload expectedPaymentProvider actualPaymentMethod : String)
      (reads : CompletionReads)
  | expire (tradeNo expectedPaymentProvider : String) (now : Int)
  /-- anything else that happens to users and subscriptions -/
  | others (purchase : PurchaseDB)

/-- The tables, and the subscriptions that calls for one trade number have created. -/
structure OrderState where
  db : OrderDB
  created : List UserSubscription

/-- The subscriptions that are in `db'` and were not in `db`. -/
def insertedSubscriptions (db db' : OrderDB) : List UserSubscription :=
  db'.purchase.subs.rows.filter fun sub => (db.purchase.subs.get? sub.id).isNone

/-- A call that returns an error is rolled back. -/
def OrderState.commit (s : OrderState) (counts : Bool) : Except OrderError OrderDB → OrderState
  | .error _ => s
  | .ok db' =>
    { db := db'
      created := if counts then s.created ++ insertedSubscriptions s.db db' else s.created }

/-- One transaction; `created` follows the trade number `ref`. -/
def orderStep (cal : Calendar) (ref : String) (s : OrderState) : OrderLabel → Option OrderState
  | .complete tradeNo providerPayload expected actual reads =>
    -- the database gives a new row an id that is not in use
    if (s.db.purchase.subs.get? (reads.rowId + 1)).isSome then none
    else
      some (s.commit (tradeNo = ref)
        (completeSubscriptionOrder cal s.db tradeNo providerPayload expected actual reads))
  | .expire tradeNo expected now =>
    some (s.commit (tradeNo = ref) (expireSubscriptionOrder s.db tradeNo expected now))
  | .others purchase => some { s with db := { s.db with purchase := purchase } }

/-! ## What a call can do -/

/-- The result of a call on `tradeNo`: nothing, or the one change a pending order can go through. -/
inductive Called (tradeNo : String) (db : OrderDB) : OrderDB → Prop
  | unchanged : Called tradeNo db db
  | fulfilled {db' : OrderDB} {order order' : SubscriptionOrder} {topUp : TopUp}
      {sub : UserSubscription} (horder : db.orders.get? tradeNo = some order)
      (hpending : order.status = .pending) (hkey : order'.tradeNo = tradeNo)
      (hsuccess : order'.status = .success) (horders : db'.orders = db.orders.save order')
      (htopKey : topUp.tradeNo = tradeNo) (htop : topUp.status = .success)
      (htopUps : db'.topUps = db.topUps.save topUp)
      (hfresh : db.purchase.subs.get? sub.id = none)
      (hsubs : db'.purchase.subs = db.purchase.subs.save sub) : Called tradeNo db db'
  | expired {order order' : SubscriptionOrder} (horder : db.orders.get? tradeNo = some order)
      (hpending : order.status = .pending) (hkey : order'.tradeNo = tradeNo)
      (hexpired : order'.status = .expired) :
      Called tradeNo db { db with orders := db.orders.save order' }

section
variable {cal : Calendar} {db db' : OrderDB} {order : SubscriptionOrder} {tradeNo ref : String}

lemma upsertSubscriptionTopUpTx_ok {topUps topUps' : Table TopUp.tradeNo} {now : Int}
    (h : upsertSubscriptionTopUpTx topUps order now = .ok topUps') :
    ∃ topUp, topUp.tradeNo = order.tradeNo ∧ topUp.status = .success ∧
      topUps' = topUps.save topUp := by
  unfold upsertSubscriptionTopUpTx at h
  split at h
  · cases h
    exact ⟨_, rfl, rfl, rfl⟩
  rename_i topUp hget
  split at h
  · cases h
  cases h
  have hkey : topUp.tradeNo = order.tradeNo := key_of_get? hget
  refine ⟨_, ?_, ?_, rfl⟩
  · exact hkey
  · rfl

section
variable {payload actual : String} {reads : CompletionReads} (hfresh : db.purchase.subs.get?
  (reads.rowId + 1) = none)
include hfresh

lemma fulfil_called
    (horder : db.orders.get? tradeNo = some order) (hpending : order.status = .pending)
    (h : fulfil cal db order payload actual reads = .ok db') :
    Called tradeNo db db' := by
  have hkey : order.tradeNo = tradeNo := key_of_get? horder
  unfold fulfil at h
  split at h
  · cases h
  split at h
  · cases h
  split at h
  · cases h
  rename_i purchase hcreate
  split at h
  · cases h
  rename_i topUps htopUps
  cases h
  obtain ⟨sub, hid, hsubs⟩ := createUserSubscriptionFromPlanTx_subs hcreate
  obtain ⟨topUp, htopKey, htop, rfl⟩ := upsertSubscriptionTopUpTx_ok htopUps
  refine .fulfilled horder hpending ?_ ?_ rfl (htopKey.trans hkey) htop rfl ?_ hsubs
  · exact hkey
  · rfl
  · rw [hid]
    exact hfresh

lemma completeSubscriptionOrder_called {expected : String}
    (h : completeSubscriptionOrder cal db tradeNo payload expected actual reads = .ok db') :
    Called tradeNo db db' := by
  unfold completeSubscriptionOrder at h
  split at h
  · cases h
  split at h
  · cases h
  rename_i order horder
  split at h
  · cases h
  split at h
  · -- a replay of a completed order
    cases h
    exact .unchanged
  split at h
  · cases h
  next hpending => exact fulfil_called hfresh horder (not_not.mp hpending) h

end

lemma expireSubscriptionOrder_called {expected : String} {now : Int}
    (h : expireSubscriptionOrder db tradeNo expected now = .ok db') :
    Called tradeNo db db' := by
  unfold expireSubscriptionOrder at h
  split at h
  · cases h
  split at h
  · cases h
  rename_i order horder
  split at h
  · cases h
  split at h
  · cases h
    exact .unchanged
  rename_i hpending
  cases h
  have hkey : order.tradeNo = tradeNo := key_of_get? horder
  exact .expired horder (not_not.mp hpending) hkey rfl

/-- A call leaves the rows of other trade numbers alone. -/
lemma Called.other (h : Called tradeNo db db') (hne : tradeNo ≠ ref) :
    db'.orders.get? ref = db.orders.get? ref ∧ db'.topUps.get? ref = db.topUps.get? ref := by
  cases h with
  | unchanged => exact ⟨rfl, rfl⟩
  | fulfilled _ _ hkey _ horders htopKey _ htopUps _ _ =>
    rw [horders, htopUps, get?_save, get?_save, if_neg (hkey.trans_ne hne),
      if_neg (htopKey.trans_ne hne)]
    exact ⟨rfl, rfl⟩
  | expired _ _ hkey _ =>
    refine ⟨?_, rfl⟩
    rw [get?_save, if_neg (hkey.trans_ne hne)]

/-- An order that is not pending is final. -/
lemma Called.final (h : Called tradeNo db db') (horder : db.orders.get? ref = some order)
    (hfinal : order.status ≠ .pending) : db'.orders.get? ref = some order := by
  by_cases hne : tradeNo = ref
  · subst hne
    cases h with
    | unchanged => exact horder
    | fulfilled hold hpending | expired hold hpending =>
      obtain rfl := Option.some.inj (hold.symm.trans horder)
      exact absurd hpending hfinal
  · rw [(h.other hne).1]
    exact horder

/-! ## Created subscriptions -/

lemma insertedSubscriptions_of_eq (h : db'.purchase.subs = db.purchase.subs) :
    insertedSubscriptions db db' = [] := by
  unfold insertedSubscriptions
  rw [h, List.filter_eq_nil_iff]
  intro sub hsub
  rw [get?_of_mem hsub]
  exact Bool.false_ne_true

lemma insertedSubscriptions_of_save {sub : UserSubscription}
    (hfresh : db.purchase.subs.get? sub.id = none)
    (h : db'.purchase.subs = db.purchase.subs.save sub) :
    insertedSubscriptions db db' = [sub] := by
  have hold : insertedSubscriptions db db = [] := insertedSubscriptions_of_eq rfl
  unfold insertedSubscriptions at hold ⊢
  rw [h, rows_save_of_none hfresh, List.filter_append, hold, List.nil_append]
  simp [hfresh]

end

/-! ## The invariant -/

/-- The order exists; it is fulfilled, with one subscription and a successful top-up, or nothing has
been created for it. -/
def OrderInv (ref : String) (s : OrderState) : Prop :=
  ∃ order, s.db.orders.get? ref = some order ∧
    (order.status ≠ .success ∧ s.created = [] ∨
      order.status = .success ∧ (∃ sub, s.created = [sub]) ∧
        ∃ topUp, s.db.topUps.get? ref = some topUp ∧ topUp.status = .success)

section
variable {cal : Calendar} {ref : String} {s s' : OrderState} {db' : OrderDB} {label : OrderLabel}

/-- A committed call on the trade number itself. -/
lemma OrderInv.called (h : OrderInv ref s) (hcall : Called ref s.db db') :
    OrderInv ref { db := db', created := s.created ++ insertedSubscriptions s.db db' } := by
  obtain ⟨order, horder, hstage⟩ := h
  cases hcall with
  | unchanged =>
    rw [insertedSubscriptions_of_eq rfl, List.append_nil]
    exact ⟨order, horder, hstage⟩
  | @fulfilled _ _ _ _ sub hold hpending hkey hsuccess horders htopKey htop htopUps hfresh hsubs =>
    obtain rfl := Option.some.inj (hold.symm.trans horder)
    rcases hstage with ⟨-, hnone⟩ | ⟨hdone, -⟩
    swap
    · exact absurd (hpending.symm.trans hdone) nofun
    -- the first completion: nothing was created before
    rw [insertedSubscriptions_of_save hfresh hsubs, hnone, List.nil_append]
    refine ⟨_, ?_, .inr ⟨hsuccess, ⟨sub, rfl⟩, _, ?_, htop⟩⟩
    · show db'.orders.get? ref = _
      rw [horders, get?_save, if_pos hkey]
    · show db'.topUps.get? ref = _
      rw [htopUps, get?_save, if_pos htopKey]
  | @expired _ order' hold hpending hkey hexpired =>
    obtain rfl := Option.some.inj (hold.symm.trans horder)
    rcases hstage with ⟨-, hnone⟩ | ⟨hdone, -⟩
    swap
    · exact absurd (hpending.symm.trans hdone) nofun
    have hsame : insertedSubscriptions s.db
        { s.db with orders := s.db.orders.save order' } = [] := insertedSubscriptions_of_eq rfl
    rw [hsame, List.append_nil]
    refine ⟨order', ?_, .inl ⟨?_, hnone⟩⟩
    · show (s.db.orders.save order').get? ref = _
      rw [get?_save, if_pos hkey]
    · rw [hexpired]
      exact nofun

/-- Transactions that leave the rows of the trade number alone. -/
lemma OrderInv.frame (h : OrderInv ref s) (horders : db'.orders.get? ref = s.db.orders.get? ref)
    (htopUps : db'.topUps.get? ref = s.db.topUps.get? ref) :
    OrderInv ref { db := db', created := s.created } := by
  unfold OrderInv at h ⊢
  rw [horders, htopUps]
  exact h

lemma OrderInv.commit (h : OrderInv ref s) {tradeNo : String} {result : Except OrderError OrderDB}
    (hcall : ∀ db', result = .ok db' → Called tradeNo s.db db') :
    OrderInv ref (s.commit (tradeNo = ref) result) := by
  rcases result with e | db'
  · exact h
  have hdb := hcall db' rfl
  unfold OrderState.commit
  dsimp only
  by_cases href : tradeNo = ref
  · subst href
    rw [if_pos (decide_eq_true rfl)]
    exact h.called hdb
  · rw [if_neg (by simpa using href)]
    exact h.frame (hdb.other href).1 (hdb.other href).2

/-- Every transaction is a committed call, or leaves the orders and top-ups alone. -/
lemma orderStep_cases (h : orderStep cal ref s label = some s') :
    (∃ tradeNo result, s' = s.commit (tradeNo = ref) result ∧
      ∀ db', result = .ok db' → Called tradeNo s.db db') ∨
    ∃ purchase, s' = { s with db := { s.db with purchase := purchase } } := by
  cases label with
  | complete tradeNo payload expected actual reads =>
    simp only [orderStep] at h
    split at h
    · cases h
    rename_i hfree
    cases h
    have hfresh : s.db.purchase.subs.get? (reads.rowId + 1) = none := by simpa using hfree
    exact .inl ⟨tradeNo, _, rfl, fun db' => completeSubscriptionOrder_called hfresh⟩
  | expire tradeNo expected now =>
    cases h
    exact .inl ⟨tradeNo, _, rfl, fun db' => expireSubscriptionOrder_called⟩
  | others purchase =>
    cases h
    exact .inr ⟨purchase, rfl⟩

lemma OrderInv.step (h : OrderInv ref s)
    (hstep : orderStep cal ref s label = some s') : OrderInv ref s' := by
  rcases orderStep_cases hstep with ⟨tradeNo, result, rfl, hcall⟩ | ⟨purchase, rfl⟩
  · exact h.commit hcall
  · exact h.frame rfl rfl

/-- A call on the trade number `ref` that expects another provider than `provider`. -/
def OrderLabel.expectsOther (ref provider : String) : OrderLabel → Prop
  | .complete tradeNo _ expected _ _ => tradeNo = ref ∧ expected ≠ "" ∧ provider ≠ expected
  | .expire tradeNo expected _ => tradeNo = ref ∧ expected ≠ "" ∧ provider ≠ expected
  | .others _ => False

lemma orderStep_expectsOther {order : SubscriptionOrder}
    (horder : s.db.orders.get? ref = some order)
    (hother : label.expectsOther ref order.paymentProvider)
    (hstep : orderStep cal ref s label = some s') : s' = s := by
  cases label with
  | complete tradeNo payload expected actual reads =>
    obtain ⟨rfl, hexpected⟩ := hother
    have hfails : ∃ e, completeSubscriptionOrder cal s.db tradeNo payload expected actual reads =
        .error e := by
      unfold completeSubscriptionOrder
      split
      · exact ⟨_, rfl⟩
      rw [horder]
      dsimp only
      rw [if_pos hexpected]
      exact ⟨_, rfl⟩
    obtain ⟨e, he⟩ := hfails
    simp only [orderStep, he] at hstep
    split at hstep
    · cases hstep
    · exact (Option.some.inj hstep).symm
  | expire tradeNo expected now =>
    obtain ⟨rfl, hexpected⟩ := hother
    have hfails : ∃ e, expireSubscriptionOrder s.db tradeNo expected now = .error e := by
      unfold expireSubscriptionOrder
      split
      · exact ⟨_, rfl⟩
      rw [horder]
      dsimp only
      rw [if_pos hexpected]
      exact ⟨_, rfl⟩
    obtain ⟨e, he⟩ := hfails
    simp only [orderStep, he] at hstep
    exact (Option.some.inj hstep).symm
  | others purchase => exact absurd hother id

end

/-! ## Runs -/

lemma OrderInv.initial {db : OrderDB} {ref : String} {order : SubscriptionOrder}
    (horder : db.orders.get? ref = some order) (hpending : order.status = .pending) :
    OrderInv ref { db := db, created := [] } := by
  refine ⟨order, horder, .inl ⟨?_, rfl⟩⟩
  rw [hpending]
  exact nofun

/-- A pending order, under every sequence of completions and expirations of any trade numbers and
any other changes to users and subscriptions: at most one subscription is created for it, it is
successful exactly when one was and the top-up is there, a final status stays, and a call that
expects another provider changes nothing. -/
theorem order_fulfilled_once (cal : Calendar) (ref : String) (db : OrderDB)
    (order : SubscriptionOrder) (labels : List OrderLabel) (s : OrderState)
    (horder : db.orders.get? ref = some order) (hpending : order.status = .pending)
    (hrun : run (orderStep cal ref) { db := db, created := [] } labels = some s) :
    s.created.length ≤ 1 ∧ ∃ order', s.db.orders.get? ref = some order' ∧
      (order'.status = .success ↔ s.created.length = 1 ∧
        ∃ topUp, s.db.topUps.get? ref = some topUp ∧ topUp.status = .success) ∧
      (order'.status = .success ∨ order'.status = .expired →
        ∀ more s', run (orderStep cal ref) s more = some s' →
          s'.db.orders.get? ref = some order') ∧
      ∀ label s', label.expectsOther ref order'.paymentProvider →
        orderStep cal ref s label = some s' → s' = s := by
  obtain ⟨order', horder', hstage⟩ := run_invariant' (OrderInv ref)
    (fun s l s' h => h.step) (OrderInv.initial horder hpending) hrun
  have hlength : s.created.length ≤ 1 ∧ (order'.status = .success ↔ s.created.length = 1 ∧
      ∃ topUp, s.db.topUps.get? ref = some topUp ∧ topUp.status = .success) := by
    rcases hstage with ⟨hopen, hnone⟩ | ⟨hdone, ⟨sub, hone⟩, htopUp⟩
    · rw [hnone]
      simp [hopen]
    · rw [hone]
      simp [hdone, htopUp]
  refine ⟨hlength.1, order', horder', hlength.2, ?_, ?_⟩
  · intro hfinal more s' hmore
    have hnot : order'.status ≠ .pending := by
      rcases hfinal with h | h <;> simp [h]
    refine run_invariant' (fun s => s.db.orders.get? ref = some order') (fun s l s' h hstep => ?_)
      horder' hmore
    rcases orderStep_cases hstep with ⟨tradeNo, result, rfl, hcall⟩ | ⟨purchase, rfl⟩
    · rcases result with e | db'
      · exact h
      · exact (hcall db' rfl).final h hnot
    · exact h
  · exact fun label s' => orderStep_expectsOther horder'

/-- User `1` and a pending order of theirs, placed with the gateway "epay". -/
def pendingOrderDB : OrderDB where
  purchase :=
    { users := Table.empty.save { id := 1, group := "default" }
      subs := Table.empty }
  orders := Table.empty.save
    { tradeNo := "T1", userId := 1, planId := 1, money := 10, paymentMethod := "alipay",
      paymentProvider := "epay", status := .pending, createTime := 5, completeTime := 0,
      providerPayload := "" }
  topUps := Table.empty

/-- A plan of one day. -/
def dayPlan : SubscriptionPlan where
  id := 1
  title := "day"
  durationUnit := .day
  durationValue := 1
  customSeconds := 0
  allowWalletOverflow := none
  maxPurchasePerUser := 1
  upgradeGroup := ""
  downgradeGroup := ""
  totalAmount := 500
  quotaResetPeriod := .never
  quotaResetCustomSeconds := 0

/-- Reads of a completion at `now`, when the next subscription gets the id `rowId + 1`. -/
def readsAt (now : Int) (rowId : Nat) : CompletionReads where
  planById := fun id => if id = 1 then some dayPlan else none
  dbTime := now
  topUpTime := now
  completeTime := now
  rowId := rowId

/-- A callback of another gateway, the payment, a replay of it and a late expiration. -/
theorem order_fulfilled_once_replayed :
    ∃ s, run (orderStep plainCalendar "T1") { db := pendingOrderDB, created := [] }
        [.complete "T1" "" "stripe" "" (readsAt 10 0), .complete "T1" "{}" "epay" "" (readsAt 20 0),
          .complete "T1" "{}" "epay" "" (readsAt 30 1), .expire "T1" "epay" 40] = some s ∧
      s.created.length ≤ 1 ∧ s.created.map UserSubscription.id = [1] := by
  have h := order_fulfilled_once plainCalendar "T1" pendingOrderDB _
    [.complete "T1" "" "stripe" "" (readsAt 10 0), .complete "T1" "{}" "epay" "" (readsAt 20 0),
      .complete "T1" "{}" "epay" "" (readsAt 30 1), .expire "T1" "epay" 40] _ rfl rfl rfl
  exact ⟨_, rfl, h.1, rfl⟩

end NewApi.Model
