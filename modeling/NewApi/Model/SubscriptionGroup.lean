import NewApi.Utils.Runs
import NewApi.Model.SubscriptionPurchase

/-!
# Group elevation by subscriptions

A plan with an upgrade group moves the user there when it is bought, and the row remembers the
group the user came from. When a subscription ends, by expiry, invalidation or deletion, the user
is moved back, as far as the remembered group of the row that is looked at allows it.
-/

namespace NewApi.Model

open Runs

/-! ## Ending a subscription -/

/-- An active unexpired subscription of the user that has an upgrade group. -/
def UserSubscription.upgrades (s : UserSubscription) (userId : Nat) (now : Int) : Bool :=
  s.userId = userId ∧ s.status = .active ∧ now < s.endTime ∧ s.upgradeGroup ≠ ""

/-- Another such subscription than the row `exceptId`; row ids are positive, so `0` excepts none. -/
def hasActiveUpgrade (db : PurchaseDB) (userId : Nat) (now : Int) (exceptId : Nat) : Bool :=
  db.subs.rows.any fun s => s.upgrades userId now && s.id ≠ exceptId

/-- Move the user back when `sub` ends; also gives the group they are moved to, if any. -/
def downgradeUserGroupForSubscriptionTx (db : PurchaseDB) (sub : UserSubscription) (now : Int) :
    String × PurchaseDB :=
  let downgradeGroup := trimSpace sub.downgradeGroup
  let upgradeGroup := trimSpace sub.upgradeGroup
  if downgradeGroup = "" ∧ upgradeGroup = "" then ("", db)
  else
    let currentGroup := db.userGroup sub.userId
    if hasActiveUpgrade db sub.userId now sub.id then ("", db)
    -- without an explicit target only a user who still is in the upgrade group is moved
    else if downgradeGroup = "" ∧ currentGroup ≠ upgradeGroup then ("", db)
    else
      let target := if downgradeGroup = "" then trimSpace sub.prevUserGroup else downgradeGroup
      if target = "" ∨ target = currentGroup then ("", db)
      else (target, db.setUserGroup sub.userId target)

def adminInvalidateUserSubscription (db : PurchaseDB) (userSubscriptionId : Nat) (now : Int) :
    Except SubscriptionError (String × PurchaseDB) :=
  if userSubscriptionId = 0 then .error .invalidUserSubscriptionId
  else
    match db.subs.get? userSubscriptionId with
    | none => .error .recordNotFound
    | some sub =>
      let cancelled := { sub with status := .cancelled, endTime := now }
      .ok (downgradeUserGroupForSubscriptionTx { db with subs := db.subs.save cancelled } sub now)

def adminDeleteUserSubscription (db : PurchaseDB) (userSubscriptionId : Nat) (now : Int) :
    Except SubscriptionError (String × PurchaseDB) :=
  if userSubscriptionId = 0 then .error .invalidUserSubscriptionId
  else
    match db.subs.get? userSubscriptionId with
    | none => .error .recordNotFound
    | some sub =>
      match downgradeUserGroupForSubscriptionTx db sub now with
      | (target, db) => .ok (target, { db with subs := db.subs.erase userSubscriptionId })

/-! ### Expiry -/

/-- `status = 'active' AND end_time > 0 AND end_time <= now`. -/
def UserSubscription.isDue (s : UserSubscription) (userId : Nat) (now : Int) : Bool :=
  s.userId = userId ∧ s.status = .active ∧ 0 < s.endTime ∧ s.endTime ≤ now

def expireRow (userId : Nat) (now : Int) (s : UserSubscription) : UserSubscription :=
  if s.isDue userId now then { s with status := .expired } else s

lemma expireRow_id (userId : Nat) (now : Int) (s : UserSubscription) :
    (expireRow userId now s).id = s.id := by
  unfold expireRow
  split <;> rfl

/-- The user's rows with the due ones marked as expired. -/
def markExpired (db : PurchaseDB) (userId : Nat) (now : Int) : PurchaseDB :=
  { db with subs := db.subs.updateAll (expireRow userId now) (expireRow_id userId now) }

/-- `ORDER BY end_time DESC, id DESC LIMIT 1`. -/
def latest : List UserSubscription → Option UserSubscription
  | [] => none
  | s :: rest =>
    match latest rest with
    | none => some s
    | some t => if t.endsBefore s then some s else some t

/-- The most recently expired subscription of the user that says anything about groups. -/
def lastExpired (db : PurchaseDB) (userId : Nat) : Option UserSubscription :=
  latest (db.subs.rows.filter fun s =>
    s.userId = userId ∧ s.status = .expired ∧ (s.downgradeGroup ≠ "" ∨ s.upgradeGroup ≠ ""))

/-- Move the user back after `last` has expired. -/
def revertExpired (db : PurchaseDB) (userId : Nat) (last : UserSubscription) : PurchaseDB :=
  let currentGroup := db.userGroup userId
  let downgradeGroup := trimSpace last.downgradeGroup
  let upgradeGroup := trimSpace last.upgradeGroup
  let prevGroup := trimSpace last.prevUserGroup
  if downgradeGroup = "" ∧ (upgradeGroup = "" ∨ prevGroup = "" ∨ currentGroup ≠ upgradeGroup) then
    db
  else
    let target := if downgradeGroup = "" then prevGroup else downgradeGroup
    if target = "" ∨ target = currentGroup then db else db.setUserGroup userId target

/-- The transaction of `ExpireDueSubscriptions` for one user. -/
def expireUserSubscriptions (db : PurchaseDB) (userId : Nat) (now : Int) : PurchaseDB :=
  let db := markExpired db userId now
  if hasActiveUpgrade db userId now 0 then db
  else
    match lastExpired db userId with
    | none => db
    | some last => revertExpired db userId last

/-! ## The system -/

/-- The subscription events of one user. -/
inductive GroupLabel
  | create (plan : SubscriptionPlan) (now : Int) (rowId : Nat)
  | expire (now : Int)
  | invalidate (id : Nat) (now : Int)
  | delete (id : Nat) (now : Int)
deriving DecidableEq

/-- The tables after a call: a call that fails is rolled back. -/
def committed {α : Type} (db : α) : Except SubscriptionError α → α
  | .ok db' => db'
  | .error _ => db

def groupStep (cal : Calendar) (userId : Nat) (db : PurchaseDB) : GroupLabel → Option PurchaseDB
  | .create plan now rowId =>
    -- the database gives a new row an id that is not in use
    if (db.subs.get? (rowId + 1)).isSome then none
    else some (committed db (createUserSubscriptionFromPlanTx cal db userId plan now rowId))
  | .expire now => some (expireUserSubscriptions db userId now)
  | .invalidate id now =>
    if (db.subs.get? id).all (·.userId = userId) then
      some (committed db ((adminInvalidateUserSubscription db id now).map Prod.snd))
    else none
  | .delete id now =>
    if (db.subs.get? id).all (·.userId = userId) then
      some (committed db ((adminDeleteUserSubscription db id now).map Prod.snd))
    else none

end NewApi.Model
