import NewApi.Utils.Runs
import NewApi.Model.SubscriptionTheorems

/-!
# Usage of a subscription across quota resets

One subscription under every interleaving of pre-consumptions, settlements, refunds and resets.
`amount_used` is a single counter: a reset clears it, and nothing says which requests its value is
made of. `PeriodLedger` keeps that beside the tables: the current net charge of every request that
was pre-consumed since the last reset, and what has been given back since then on behalf of
requests from before.
-/

namespace NewApi.Model

open Runs

/-! ## What is charged since the last reset -/

structure RequestCharge where
  requestId : String
  net : Int
deriving DecidableEq

structure PeriodLedger where
  charges : Table RequestCharge.requestId
  returned : Int

/-- The ledger right after a reset. -/
def PeriodLedger.start : PeriodLedger where
  charges := Table.empty
  returned := 0

/-- The sum of the current net charges. -/
def PeriodLedger.charged (l : PeriodLedger) : Int := (l.charges.rows.map RequestCharge.net).sum

/-- A request is pre-consumed. -/
def PeriodLedger.openCharge (l : PeriodLedger) (requestId : String) (amount : Int) : PeriodLedger :=
  { l with charges := l.charges.save { requestId := requestId, net := amount } }

/-- The charge of a request moves; a request from before the reset only counts what it gives
back. -/
def PeriodLedger.move (l : PeriodLedger) (requestId : String) (delta : Int) : PeriodLedger :=
  match l.charges.get? requestId with
  | some c => { l with charges := l.charges.save { c with net := c.net + delta } }
  | none => { l with returned := l.returned + max (-delta) 0 }

/-! ## When a reset happens -/

/-- The catch-up loop of `maybeResetUserSubscriptionWithPlanTx` advances. -/
def isResetDue (cal : Calendar) (sub : UserSubscription) (plan : SubscriptionPlan) (now : Int) :
    Bool :=
  let base := if sub.lastResetTime ≤ 0 then sub.startTime else sub.lastResetTime
  let nextOf := fun base => calcNextResetTime cal base plan sub.endTime
  ¬ (0 < sub.nextResetTime ∧ now < sub.nextResetTime) ∧ plan.quotaResetPeriod ≠ .never ∧
    (catchUp nextOf now (catchUpFuel now base) base (nextOf base) false).any fun r => r.2.2

/-- A transaction between `db` and `db'` has applied the reset of `id` that was due: the row then
has the reset times that go with it. -/
def resetApplied (cal : Calendar) (db db' : SubscriptionDB) (id : Nat) (now : Int) : Bool :=
  match db.subs.get? id, db'.subs.get? id with
  | some row, some row' =>
    match db.plans.get? row.planId with
    | none => false
    | some plan =>
      match maybeResetUserSubscriptionWithPlanTx cal row plan now with
      | .error _ => false
      | .ok sub => isResetDue cal row plan now ∧ row'.lastResetTime = sub.lastResetTime ∧
          row'.nextResetTime = sub.nextResetTime
  | _, _ => false

/-- An administrative reset selects the subscription `id`. -/
def adminResetApplied (db : SubscriptionDB) (userId : Option Nat) (planId : Nat) (id : Nat)
    (now : Int) : Bool :=
  (db.subs.get? id).any (adminResetSelects userId planId now)

/-! ## The system -/

structure UsageState where
  db : SubscriptionDB
  ledger : PeriodLedger

inductive UsageLabel
  | preConsume (requestId : String) (userId : Nat) (amount now : Int)
  /-- a settlement or an extra reservation of a request -/
  | postConsume (requestId : String) (delta : Int)
  | refund (requestId : String)
  | resetDue (now : Int)
  | adminResetUser (userId planId : Nat) (now : Int) (advanceResetTime : Bool)
  | adminResetPlan (planId : Nat) (now : Int) (advanceResetTime : Bool)
deriving DecidableEq

/-- The ledger after a transaction that may have reset the subscription. -/
def PeriodLedger.afterReset (l : PeriodLedger) (reset : Bool) : PeriodLedger :=
  if reset then .start else l

/-- What the refund of a request gives back on the subscription `id`. -/
def refundedAmount (db : SubscriptionDB) (id : Nat) (requestId : String) : Int :=
  match db.records.get? requestId with
  | some record =>
    if record.status = .consumed ∧ record.userSubscriptionId = id then max record.preConsumed 0
    else 0
  | none => 0

/-- One transaction on the tables, seen from the subscription `id`. A transaction that fails leaves
everything as it was. -/
def usageStep (cal : Calendar) (id : Nat) (s : UsageState) : UsageLabel → Option UsageState
  | .preConsume requestId userId amount now =>
    match preConsumeUserSubscription cal s.db requestId userId amount now with
    | .error _ => some s
    | .ok (res, db') =>
      let ledger := s.ledger.afterReset (resetApplied cal s.db db' id now)
      -- a repeated call for a request that has a record charges nothing
      if res.userSubscriptionId = id ∧ s.db.records.get? requestId = none then
        some { db := db', ledger := ledger.openCharge requestId amount }
      else some { db := db', ledger := ledger }
  | .postConsume requestId delta =>
    match postConsumeUserSubscriptionDelta s.db id delta with
    | .error _ => some s
    | .ok db' => some { db := db', ledger := s.ledger.move requestId delta }
  | .refund requestId =>
    match refundSubscriptionPreConsume s.db requestId with
    | .error _ => some s
    | .ok db' =>
      some { db := db'
             ledger := s.ledger.move requestId (-refundedAmount s.db id requestId) }
  | .resetDue now =>
    match resetDueSubscription cal s.db id now with
    | .error _ => some s
    | .ok db' =>
      some { db := db', ledger := s.ledger.afterReset (resetApplied cal s.db db' id now) }
  | .adminResetUser userId planId now advanceResetTime =>
    match adminResetUserSubscriptionsByPlan cal s.db userId planId now advanceResetTime with
    | .error _ => some s
    | .ok db' =>
      some { db := db'
             ledger := s.ledger.afterReset (adminResetApplied s.db (some userId) planId id now) }
  | .adminResetPlan planId now advanceResetTime =>
    match adminResetPlanSubscriptions cal s.db planId now advanceResetTime with
    | .error _ => some s
    | .ok db' =>
      some { db := db', ledger := s.ledger.afterReset (adminResetApplied s.db none planId id now) }

end NewApi.Model
