import NewApi.Model.Subscription

/-!
# Buying a subscription

`calcPlanEndTime` and `CreateUserSubscriptionFromPlanTx` of `subscription.go`: the row of a new
subscription, and the elevation of the user to the plan's upgrade group.
-/

namespace NewApi.Model

/-- The columns of a user that subscriptions read and write. -/
structure UserRow where
  id : Nat
  group : String
deriving DecidableEq

/-- The tables a purchase touches. -/
structure PurchaseDB where
  users : Table UserRow.id
  subs : Table UserSubscription.id

/-- `getUserGroupByIdTx`: a user that does not exist has no group. -/
def PurchaseDB.userGroup (db : PurchaseDB) (userId : Nat) : String :=
  ((db.users.get? userId).map UserRow.group).getD ""

/-- `UPDATE users SET group = ? WHERE id = ?`. -/
def PurchaseDB.setUserGroup (db : PurchaseDB) (userId : Nat) (group : String) : PurchaseDB :=
  match db.users.get? userId with
  | none => db
  | some user => { db with users := db.users.save { user with group := group } }

def calcPlanEndTime (cal : Calendar) (start : Int) (plan : SubscriptionPlan) :
    Except SubscriptionError Int :=
  if plan.durationValue ≤ 0 ∧ plan.durationUnit ≠ .custom then .error .durationNotPositive
  else
    match plan.durationUnit with
    | .year => .ok (cal.addDate plan.durationValue 0 start)
    | .month => .ok (cal.addDate 0 plan.durationValue start)
    | .day => .ok (addDuration start plan.durationValue (24 * 3600))
    | .hour => .ok (addDuration start plan.durationValue 3600)
    | .custom =>
      if plan.customSeconds ≤ 0 then .error .customSecondsNotPositive
      else .ok (addDuration start plan.customSeconds 1)
    | .other text => .error (.invalidDurationUnit text)

/-- The subscriptions of a user to a plan, whatever their status. -/
def purchaseCount (db : PurchaseDB) (userId planId : Nat) : Nat :=
  db.subs.rows.countP fun s => s.userId = userId ∧ s.planId = planId

/-- The checks before a purchase, and the end time they compute. -/
def checkPurchase (cal : Calendar) (db : PurchaseDB) (userId : Nat) (plan : SubscriptionPlan)
    (now : Int) : Except SubscriptionError Int :=
  if plan.id = 0 then .error .invalidPlan
  else if userId = 0 then .error .invalidUserId
  else if 0 < plan.maxPurchasePerUser ∧
      plan.maxPurchasePerUser ≤ purchaseCount db userId plan.id then
    .error .purchaseLimitReached
  else calcPlanEndTime cal now plan

/-- The group a purchase has to remember: the one it takes the user out of. -/
def elevatedFrom (db : PurchaseDB) (userId : Nat) (upgradeGroup : String) : String :=
  if upgradeGroup ≠ "" ∧ db.userGroup userId ≠ upgradeGroup then db.userGroup userId else ""

/-- The row of a new subscription. The database gives it the id `rowId + 1`. -/
def newSubscription (cal : Calendar) (db : PurchaseDB) (userId : Nat) (plan : SubscriptionPlan)
    (now endTime : Int) (rowId : Nat) : UserSubscription :=
  let nextReset := calcNextResetTime cal now plan endTime
  let upgradeGroup := trimSpace plan.upgradeGroup
  { id := rowId + 1
    userId := userId
    planId := plan.id
    amountTotal := plan.totalAmount
    amountUsed := 0
    startTime := now
    endTime := endTime
    status := .active
    lastResetTime := if 0 < nextReset then now else 0
    nextResetTime := nextReset
    upgradeGroup := upgradeGroup
    prevUserGroup := elevatedFrom db userId upgradeGroup
    downgradeGroup := trimSpace plan.downgradeGroup
    allowWalletOverflow := plan.allowWalletOverflow.getD true
    id_pos := Nat.succ_pos rowId }

def createUserSubscriptionFromPlanTx (cal : Calendar) (db : PurchaseDB) (userId : Nat)
    (plan : SubscriptionPlan) (now : Int) (rowId : Nat) : Except SubscriptionError PurchaseDB :=
  match checkPurchase cal db userId plan now with
  | .error e => .error e
  | .ok endTime =>
    let sub := newSubscription cal db userId plan now endTime rowId
    -- the user moves only if the plan upgrades to another group
    let db :=
      if sub.upgradeGroup ≠ "" ∧ db.userGroup userId ≠ sub.upgradeGroup then
        db.setUserGroup userId sub.upgradeGroup
      else db
    .ok { db with subs := db.subs.save sub }

/-! ## The group of a user -/

section
variable {db : PurchaseDB} {userId : Nat} {group : String}

@[simp] lemma PurchaseDB.setUserGroup_subs : (db.setUserGroup userId group).subs = db.subs := by
  unfold PurchaseDB.setUserGroup
  split <;> rfl

/-- A user with a group exists, so the update reaches the row. -/
lemma PurchaseDB.userGroup_setUserGroup (h : db.userGroup userId ≠ "") :
    (db.setUserGroup userId group).userGroup userId = group := by
  unfold PurchaseDB.userGroup at h
  rcases hu : db.users.get? userId with - | user
  · rw [hu] at h
    exact absurd rfl h
  · have hkey := Table.key_of_get? hu
    simp [PurchaseDB.setUserGroup, PurchaseDB.userGroup, hu, hkey]

end

/-- A purchase adds one row. -/
lemma createUserSubscriptionFromPlanTx_subs {cal : Calendar} {db db' : PurchaseDB} {userId : Nat}
    {plan : SubscriptionPlan} {now : Int} {rowId : Nat}
    (h : createUserSubscriptionFromPlanTx cal db userId plan now rowId = .ok db') :
    ∃ sub, sub.id = rowId + 1 ∧ db'.subs = db.subs.save sub := by
  unfold createUserSubscriptionFromPlanTx at h
  split at h
  · cases h
  rename_i endTime _
  cases h
  refine ⟨newSubscription cal db userId plan now endTime rowId, by simp only [newSubscription], ?_⟩
  split
  · rw [PurchaseDB.setUserGroup_subs]
  · rfl

end NewApi.Model
