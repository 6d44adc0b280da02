import NewApi.Utils.CivilTime
import NewApi.Utils.GoInt
import NewApi.Utils.Table
import NewApi.Utils.TrimSpace

/-!
# Subscriptions

Plans, user subscriptions and pre-consumption records, with the transactions of `subscription.go`
that move `amount_used`. Every function below is one database transaction: it returns the new
tables, or an error and then nothing has changed.

Times are Unix seconds. Go computes calendar resets and month-long durations in the local time
zone; `Calendar` stands for those functions and is a parameter.
-/

namespace NewApi.Model

/-- Local-time calendar arithmetic of `time.Date` and `AddDate`. -/
structure Calendar where
  /-- 00:00 of the next day -/
  nextDay : Int → Int
  /-- 00:00 of the next Monday -/
  nextMonday : Int → Int
  /-- 00:00 of the first day of the next month -/
  nextMonth : Int → Int
  /-- `AddDate(years, months, 0)` -/
  addDate : Int → Int → Int → Int

open Civil in
/-- The calendar of a time zone. -/
def Calendar.ofZone (zone : Zone) : Calendar where
  nextDay t := zone.addDays (zone.midnight (zone.day t)) 1
  nextMonday t := zone.addDays (zone.midnight (zone.day t)) (8 - weekday (zone.day t))
  nextMonth t := zone.addMonths (zone.midnight (firstDay (dateOf (zone.day t)).1)) 1
  addDate years months t := zone.addMonths t (12 * years + months)

/-- A calendar without daylight saving and with months of thirty days. -/
def plainCalendar : Calendar where
  nextDay := fun t => t + 86400
  nextMonday := fun t => t + 604800
  nextMonth := fun t => t + 2592000
  addDate := fun years months t => t + (12 * years + months) * 2592000

/-- `t.Add(time.Duration(n) * unit)` for a unit of `unitSeconds`; the nanoseconds are an `int64`
and wrap around. -/
def addDuration (t n unitSeconds : Int) : Int :=
  t + int64 (n * (unitSeconds * 10 ^ 9)) / 10 ^ 9

inductive DurationUnit
  | year
  | month
  | day
  | hour
  | custom
  | other (text : String)
deriving DecidableEq

/-- A `quota_reset_period` after `NormalizeResetPeriod`, which reads any other text as `never`. -/
inductive ResetPeriod
  | never
  | daily
  | weekly
  | monthly
  | custom
deriving DecidableEq

structure SubscriptionPlan where
  id : Nat
  title : String
  durationUnit : DurationUnit
  durationValue : Int
  customSeconds : Int
  allowWalletOverflow : Option Bool
  maxPurchasePerUser : Int
  upgradeGroup : String
  downgradeGroup : String
  totalAmount : Int
  quotaResetPeriod : ResetPeriod
  quotaResetCustomSeconds : Int
deriving DecidableEq

inductive SubscriptionStatus
  | active
  | expired
  | cancelled
deriving DecidableEq

/-- One purchased subscription. Row ids are positive and `amount_used` is never negative. -/
structure UserSubscription where
  id : Nat
  userId : Nat
  planId : Nat
  amountTotal : Int
  amountUsed : Nat
  startTime : Int
  endTime : Int
  status : SubscriptionStatus
  lastResetTime : Int
  nextResetTime : Int
  upgradeGroup : String
  prevUserGroup : String
  downgradeGroup : String
  allowWalletOverflow : Bool
  id_pos : 0 < id
deriving DecidableEq

inductive RecordStatus
  | consumed
  | refunded
deriving DecidableEq

/-- `SubscriptionPreConsumeRecord`: the idempotency record of one request. -/
structure PreConsumeRecord where
  requestId : String
  userId : Nat
  userSubscriptionId : Nat
  preConsumed : Int
  status : RecordStatus
deriving DecidableEq

/-- The tables the subscription transactions read and write. -/
structure SubscriptionDB where
  plans : Table SubscriptionPlan.id
  subs : Table UserSubscription.id
  records : Table PreConsumeRecord.requestId

inductive SubscriptionError
  | invalidUserId
  | emptyRequestId
  | amountNotPositive
  | alreadyRefunded
  | recordNotFound
  | noActiveSubscription
  | quotaInsufficient (need : Int)
  | invalidUserSubscriptionId
  | usedExceedsTotal (used total : Int)
  | invalidPlan
  | noSubscriptionOfPlan
  | purchaseLimitReached
  | durationNotPositive
  | customSecondsNotPositive
  | invalidDurationUnit (text : String)
  /-- the catch-up loop does not end -/
  | resetLoops
deriving DecidableEq

/-! ## Quota resets -/

/-- The next reset after `base`, or `0` when there is none before the subscription ends. -/
def calcNextResetTime (cal : Calendar) (base : Int) (plan : SubscriptionPlan) (endUnix : Int) :
    Int :=
  let clip (next : Int) : Int := if 0 < endUnix ∧ endUnix < next then 0 else next
  match plan.quotaResetPeriod with
  | .never => 0
  | .daily => clip (cal.nextDay base)
  | .weekly => clip (cal.nextMonday base)
  | .monthly => clip (cal.nextMonth base)
  | .custom =>
    if plan.quotaResetCustomSeconds ≤ 0 then 0
    else clip (addDuration base plan.quotaResetCustomSeconds 1)

/-- The catch-up loop `for next > 0 && next <= now`: the last reset that is due, the one after it,
and whether the loop ran at all. `none` when `fuel` iterations were not enough. -/
def catchUp (nextOf : Int → Int) (now : Int) : Nat → Int → Int → Bool → Option (Int × Int × Bool)
  | 0, _, _, _ => none
  | fuel + 1, base, next, advanced =>
    if 0 < next ∧ next ≤ now then catchUp nextOf now fuel next (nextOf next) true
    else some (base, next, advanced)

/-- Enough iterations for a loop whose `base` moves in one direction until it leaves
`0 < base ≤ now`. -/
def catchUpFuel (now base : Int) : Nat := (now - base).toNat + base.toNat + 2

/-- Reset the used amount when a reset is due. The row is saved by the caller's transaction. -/
def maybeResetUserSubscriptionWithPlanTx (cal : Calendar) (sub : UserSubscription)
    (plan : SubscriptionPlan) (now : Int) : Except SubscriptionError UserSubscription :=
  if 0 < sub.nextResetTime ∧ now < sub.nextResetTime then .ok sub
  else if plan.quotaResetPeriod = .never then .ok sub
  else
    let base := if sub.lastResetTime ≤ 0 then sub.startTime else sub.lastResetTime
    let nextOf := fun base => calcNextResetTime cal base plan sub.endTime
    match catchUp nextOf now (catchUpFuel now base) base (nextOf base) false with
    | none => .error .resetLoops
    | some (base, next, advanced) =>
      if advanced then
        .ok { sub with amountUsed := 0, lastResetTime := base, nextResetTime := next }
      else if sub.nextResetTime = 0 ∧ 0 < next then
        .ok { sub with lastResetTime := base, nextResetTime := next }
      else .ok sub

/-- An administrative reset, which may also restart the reset period. -/
def resetUserSubscriptionTx (cal : Calendar) (sub : UserSubscription) (plan : SubscriptionPlan)
    (now : Int) (advanceResetTime : Bool) : UserSubscription :=
  let sub := { sub with amountUsed := 0 }
  if advanceResetTime then
    let nextReset := calcNextResetTime cal now plan sub.endTime
    { sub with nextResetTime := nextReset, lastResetTime := if 0 < nextReset then now else 0 }
  else sub

/-- The rows an administrative reset selects: active unexpired subscriptions of the plan, of one
user or of all users. -/
def adminResetSelects (userId : Option Nat) (planId : Nat) (now : Int) (s : UserSubscription) :
    Bool :=
  userId.all (· = s.userId) ∧ s.planId = planId ∧ s.status = .active ∧ now < s.endTime

def adminResetRow (cal : Calendar) (plan : SubscriptionPlan) (userId : Option Nat) (now : Int)
    (advanceResetTime : Bool) (s : UserSubscription) : UserSubscription :=
  if adminResetSelects userId plan.id now s then
    resetUserSubscriptionTx cal s plan now advanceResetTime
  else s

lemma adminResetRow_id (cal : Calendar) (plan : SubscriptionPlan) (userId : Option Nat)
    (now : Int) (advanceResetTime : Bool) (s : UserSubscription) :
    (adminResetRow cal plan userId now advanceResetTime s).id = s.id := by
  unfold adminResetRow
  split
  · unfold resetUserSubscriptionTx
    split <;> rfl
  · rfl

/-- Both administrative resets. The one for a single user fails when nothing is selected. -/
def adminResetSubscriptions (cal : Calendar) (db : SubscriptionDB) (userId : Option Nat)
    (planId : Nat) (now : Int) (advanceResetTime : Bool) :
    Except SubscriptionError SubscriptionDB :=
  match db.plans.get? planId with
  | none => .error .recordNotFound
  | some plan =>
    if userId.isSome ∧ ¬ db.subs.rows.any (adminResetSelects userId plan.id now) then
      .error .noSubscriptionOfPlan
    else
      let reset := adminResetRow cal plan userId now advanceResetTime
      .ok { db with subs := db.subs.updateAll reset (adminResetRow_id cal plan userId now _) }

/-- `AdminResetUserSubscriptionsByPlan`. -/
def adminResetUserSubscriptionsByPlan (cal : Calendar) (db : SubscriptionDB) (userId planId : Nat)
    (now : Int) (advanceResetTime : Bool) : Except SubscriptionError SubscriptionDB :=
  if userId = 0 ∨ planId = 0 then .error .invalidUserId
  else adminResetSubscriptions cal db (some userId) planId now advanceResetTime

/-- `AdminResetPlanSubscriptions`. -/
def adminResetPlanSubscriptions (cal : Calendar) (db : SubscriptionDB) (planId : Nat) (now : Int)
    (advanceResetTime : Bool) : Except SubscriptionError SubscriptionDB :=
  if planId = 0 then .error .invalidPlan
  else adminResetSubscriptions cal db none planId now advanceResetTime

/-- One transaction of the loop of `ResetDueSubscriptions`: the row selected earlier is locked
again and reset if it is still due. -/
def resetDueSubscription (cal : Calendar) (db : SubscriptionDB) (id : Nat) (now : Int) :
    Except SubscriptionError SubscriptionDB :=
  match db.subs.get? id with
  | none => .ok db
  | some locked =>
    match db.plans.get? locked.planId with
    | none => .ok db
    | some plan =>
      if 0 < locked.nextResetTime ∧ locked.nextResetTime ≤ now then
        match maybeResetUserSubscriptionWithPlanTx cal locked plan now with
        | .error e => .error e
        | .ok sub => .ok { db with subs := db.subs.save sub }
      else .ok db

/-! ## Pre-consumption -/

structure SubscriptionPreConsumeResult where
  userSubscriptionId : Nat
  preConsumed : Int
  amountTotal : Int
  amountUsedBefore : Nat
  amountUsedAfter : Nat
deriving DecidableEq

/-- `user_id = ? AND status = 'active' AND end_time > now`. -/
def UserSubscription.isActive (s : UserSubscription) (userId : Nat) (now : Int) : Bool :=
  s.userId = userId ∧ s.status = .active ∧ now < s.endTime

/-- `ORDER BY end_time ASC, id ASC`. -/
def UserSubscription.endsBefore (s t : UserSubscription) : Prop :=
  s.endTime < t.endTime ∨ s.endTime = t.endTime ∧ s.id ≤ t.id

instance : DecidableRel UserSubscription.endsBefore := fun _ _ =>
  inferInstanceAs (Decidable (_ ∨ _ ∧ _))

def activeSubscriptions (db : SubscriptionDB) (userId : Nat) (now : Int) : List UserSubscription :=
  (db.subs.rows.filter (·.isActive userId now)).insertionSort UserSubscription.endsBefore

/-- The loop over the candidates: each is reset first if that is due, and the first one with
enough quota left is charged. A total of `0` means unlimited. -/
def consumeFirst (cal : Calendar) (requestId : String) (userId : Nat) (amount now : Int) :
    SubscriptionDB → List UserSubscription →
      Except SubscriptionError (SubscriptionPreConsumeResult × SubscriptionDB)
  | _, [] => .error (.quotaInsufficient amount)
  | db, candidate :: rest =>
    match db.plans.get? candidate.planId with
    | none => .error .recordNotFound
    | some plan =>
      match maybeResetUserSubscriptionWithPlanTx cal candidate plan now with
      | .error e => .error e
      | .ok sub =>
        let db := { db with subs := db.subs.save sub }
        if 0 < sub.amountTotal ∧ sub.amountTotal - sub.amountUsed < amount then
          consumeFirst cal requestId userId amount now db rest
        else
          let charged := { sub with amountUsed := sub.amountUsed + amount.toNat }
          .ok ({ userSubscriptionId := sub.id, preConsumed := amount,
                 amountTotal := sub.amountTotal, amountUsedBefore := sub.amountUsed,
                 amountUsedAfter := charged.amountUsed },
               { db with
                 records := db.records.save { requestId, userId, userSubscriptionId := sub.id,
                                              preConsumed := amount, status := .consumed },
                 subs := db.subs.save charged })

/-- Charge `amount` to one of the user's active subscriptions, once per request id. -/
def preConsumeUserSubscription (cal : Calendar) (db : SubscriptionDB) (requestId : String)
    (userId : Nat) (amount now : Int) :
    Except SubscriptionError (SubscriptionPreConsumeResult × SubscriptionDB) :=
  if userId = 0 then .error .invalidUserId
  else if trimSpace requestId = "" then .error .emptyRequestId
  else if amount ≤ 0 then .error .amountNotPositive
  else
    match db.records.get? requestId with
    | some existing =>
      if existing.status = .refunded then .error .alreadyRefunded
      else
        match db.subs.get? existing.userSubscriptionId with
        | none => .error .recordNotFound
        | some sub =>
          .ok ({ userSubscriptionId := sub.id, preConsumed := existing.preConsumed,
                 amountTotal := sub.amountTotal, amountUsedBefore := sub.amountUsed,
                 amountUsedAfter := sub.amountUsed }, db)
    | none =>
      match activeSubscriptions db userId now with
      | [] => .error .noActiveSubscription
      | subs => consumeFirst cal requestId userId amount now db subs

/-- Move the used amount of one subscription: floored at zero, bounded by the total. -/
def postConsumeUserSubscriptionDelta (db : SubscriptionDB) (userSubscriptionId : Nat)
    (delta : Int) : Except SubscriptionError SubscriptionDB :=
  if userSubscriptionId = 0 then .error .invalidUserSubscriptionId
  else if delta = 0 then .ok db
  else
    match db.subs.get? userSubscriptionId with
    | none => .error .recordNotFound
    | some sub =>
      let newUsed := (sub.amountUsed + delta).toNat
      if 0 < sub.amountTotal ∧ sub.amountTotal < newUsed then
        .error (.usedExceedsTotal newUsed sub.amountTotal)
      else .ok { db with subs := db.subs.save { sub with amountUsed := newUsed } }

/-- Return what a request pre-consumed, once. -/
def refundSubscriptionPreConsume (db : SubscriptionDB) (requestId : String) :
    Except SubscriptionError SubscriptionDB :=
  if trimSpace requestId = "" then .error .emptyRequestId
  else
    match db.records.get? requestId with
    | none => .error .recordNotFound
    | some record =>
      if record.status = .refunded then .ok db
      else if record.preConsumed ≤ 0 then
        .ok { db with records := db.records.save { record with status := .refunded } }
      else
        match postConsumeUserSubscriptionDelta db record.userSubscriptionId (-record.preConsumed) with
        | .error e => .error e
        | .ok db => .ok { db with records := db.records.save { record with status := .refunded } }

/-! ## Queries -/

/-- `HasActiveUserSubscription`, by the clock of the application. -/
def hasActiveUserSubscription (db : SubscriptionDB) (userId : Nat) (now : Int) :
    Except SubscriptionError Bool :=
  if userId = 0 then .error .invalidUserId
  else .ok (db.subs.rows.any (·.isActive userId now))

/-- One active subscription that disallows it blocks the fallback to the wallet. -/
def userActiveSubscriptionsAllowWalletOverflow (db : SubscriptionDB) (userId : Nat) (now : Int) :
    Except SubscriptionError Bool :=
  if userId = 0 then .error .invalidUserId
  else .ok (db.subs.rows.all fun s => !(s.isActive userId now && !s.allowWalletOverflow))

/-- The plan id and title behind a subscription. -/
def getSubscriptionPlanInfoByUserSubscriptionId (db : SubscriptionDB) (userSubscriptionId : Nat) :
    Option (Nat × String) :=
  (db.subs.get? userSubscriptionId).bind fun sub =>
    (db.plans.get? sub.planId).map fun plan => (sub.planId, plan.title)

end NewApi.Model
