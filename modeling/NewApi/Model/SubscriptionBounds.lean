import NewApi.Model.SubscriptionRefund
import NewApi.Model.SubscriptionUsageTheorems

/-!
# The used amount of a subscription stays within its total

Every writer of `amount_used`, in any order: pre-consumptions, settlements and refunds, resets. Each
is one transaction under the row locks it takes; a refund is two, since it lowers the used amount
in a transaction of its own before it marks its record.

Amounts are `int64`. `AmountUsed + amount` cannot wrap around where a total bounds it, but
`AmountUsed + delta` can, and the check against the total comes after the sum.
-/

namespace NewApi.Model

open Runs Table Option

/-! ## Calls -/

/-- `PostConsumeUserSubscriptionDelta` with a given way to represent the sum. -/
def postConsumeDelta (represent : Int → Int) (db : SubscriptionDB) (userSubscriptionId : Nat)
    (delta : Int) : Except SubscriptionError SubscriptionDB :=
  if userSubscriptionId = 0 then .error .invalidUserSubscriptionId
  else if delta = 0 then .ok db
  else
    match db.subs.get? userSubscriptionId with
    | none => .error .recordNotFound
    | some sub =>
      let newUsed := (represent (sub.amountUsed + delta)).toNat
      if 0 < sub.amountTotal ∧ sub.amountTotal < newUsed then
        .error (.usedExceedsTotal newUsed sub.amountTotal)
      else .ok { db with subs := db.subs.save { sub with amountUsed := newUsed } }

/-- `PostConsumeUserSubscriptionDelta` with the sum that Go computes. -/
def postConsumeUserSubscriptionDeltaInt64 : SubscriptionDB → Nat → Int →
    Except SubscriptionError SubscriptionDB :=
  postConsumeDelta int64

lemma postConsumeUserSubscriptionDelta_eq :
    postConsumeUserSubscriptionDelta = postConsumeDelta fun sum => sum := rfl

variable {delta : Int}

/-- Without wrap-around the sum is the one of the integers. Refunds never wrap around. -/
lemma postConsumeInt64_eq {db : SubscriptionDB} {id : Nat}
    (h : ∀ sub ∈ db.subs.get? id, -2 ^ 63 ≤ sub.amountUsed + delta ∧
      sub.amountUsed + delta < 2 ^ 63) :
    postConsumeUserSubscriptionDeltaInt64 db id delta
      = postConsumeUserSubscriptionDelta db id delta := by
  rw [postConsumeUserSubscriptionDeltaInt64, postConsumeUserSubscriptionDelta_eq]
  unfold postConsumeDelta
  cases hget : db.subs.get? id with
  | none => rfl
  | some sub =>
    simp only [int64_eq (h sub hget).1 (h sub hget).2]

/-- The loop of a pre-consumption whose record another one has inserted since it looked for it: the
insertion fails, nothing is charged, and resets made on the way are kept. -/
def consumeDuplicate (cal : Calendar) (dup : PreConsumeRecord) (amount now : Int) :
    SubscriptionDB → List UserSubscription →
      Except SubscriptionError (SubscriptionPreConsumeResult × SubscriptionDB)
  | _, [] => .error (.quotaInsufficient amount)
  | db, candidate :: rest =>
    match db.plans.get? candidate.planId with
    | none => .error .recordNotFound
    | some plan =>
      match maybeResetUserSubscriptionWithPlanTx cal candidate plan now with
      | .error e => .error e
      | .ok sub =>
        let db := { db with subs := db.subs.save sub }
        if 0 < sub.amountTotal ∧ sub.amountTotal - sub.amountUsed < amount then
          consumeDuplicate cal dup amount now db rest
        else if dup.status = .refunded then .error .alreadyRefunded
        else
          .ok ({ userSubscriptionId := sub.id, preConsumed := dup.preConsumed,
                 amountTotal := sub.amountTotal, amountUsedBefore := sub.amountUsed,
                 amountUsedAfter := sub.amountUsed }, db)

/-- `PreConsumeUserSubscription` from its row locks on, when the record is there by then. -/
def preConsumeDuplicate (cal : Calendar) (db : SubscriptionDB) (requestId : String) (userId : Nat)
    (amount now : Int) : Except SubscriptionError (SubscriptionPreConsumeResult × SubscriptionDB) :=
  match db.records.get? requestId with
  | none => preConsumeUserSubscription cal db requestId userId amount now
  | some dup =>
    match activeSubscriptions db userId now with
    | [] => .error .noActiveSubscription
    | subs => consumeDuplicate cal dup amount now db subs

inductive SubscriptionCall
  | preConsume (requestId : String) (userId : Nat) (amount now : Int)
  | preConsumeDuplicate (requestId : String) (userId : Nat) (amount now : Int)
  | postConsume (userSubscriptionId : Nat) (delta : Int)
  /-- an attempt of `RefundSubscriptionPreConsume` starts -/
  | refund (requestId : String)
  /-- attempt `i` takes its next step, which may fail -/
  | refundStep (i : Nat) (ok : Bool)
  | resetDue (userSubscriptionId : Nat) (now : Int)
  | adminResetUser (userId planId : Nat) (now : Int) (advanceResetTime : Bool)
  | adminResetPlan (planId : Nat) (now : Int) (advanceResetTime : Bool)
deriving DecidableEq

/-- The tables, and the attempts to refund with the request each is for. -/
structure CounterState where
  db : SubscriptionDB
  refunds : List (String × RefundPc)

/-- The transaction of a call, if it is one. -/
def SubscriptionCall.transaction (cal : Calendar) (db : SubscriptionDB) :
    SubscriptionCall → Option (Except SubscriptionError SubscriptionDB)
  | .preConsume requestId userId amount now =>
    some ((preConsumeUserSubscription cal db requestId userId amount now).map Prod.snd)
  | .preConsumeDuplicate requestId userId amount now =>
    some ((NewApi.Model.preConsumeDuplicate cal db requestId userId amount now).map Prod.snd)
  | .postConsume userSubscriptionId delta =>
    some (postConsumeUserSubscriptionDeltaInt64 db userSubscriptionId delta)
  | .resetDue userSubscriptionId now => some (resetDueSubscription cal db userSubscriptionId now)
  | .adminResetUser userId planId now advanceResetTime =>
    some (adminResetUserSubscriptionsByPlan cal db userId planId now advanceResetTime)
  | .adminResetPlan planId now advanceResetTime =>
    some (adminResetPlanSubscriptions cal db planId now advanceResetTime)
  | .refund _ => none
  | .refundStep _ _ => none

/-- One transaction, or one step of a refund. A transaction that fails is rolled back. The row lock
of a refund's record is left out: overlapping refunds of one record are more than can happen. -/
def counterStep (cal : Calendar) (s : CounterState) (call : SubscriptionCall) :
    Option CounterState :=
  match call with
  | .refund requestId => some { s with refunds := s.refunds ++ [(requestId, startRefund requestId)] }
  | .refundStep i ok =>
    match s.refunds[i]? with
    | none => none
    | some (requestId, pc) =>
      match refundStep s.db requestId ok pc with
      | none => none
      | some (db', pc') => some ⟨db', s.refunds.set i (requestId, pc')⟩
  | call =>
    match call.transaction cal s.db with
    | some (.ok db') => some { s with db := db' }
    | _ => some s

/-- The call fails and changes nothing. -/
def Refused (cal : Calendar) (s : CounterState) (call : SubscriptionCall) : Prop :=
  (∃ e, call.transaction cal s.db = some (.error e)) ∧ counterStep cal s call = some s

/-! ## The invariant -/

/-- A row with the given total that does not exceed it. -/
structure Within (total : Int) (sub : UserSubscription) : Prop where
  sameTotal : sub.amountTotal = total
  used : (sub.amountUsed : Int) ≤ total

def WithinAt (id : Nat) (total : Int) (db : SubscriptionDB) : Prop :=
  ∃ sub, db.subs.get? id = some sub ∧ Within total sub

section
variable {cal : Calendar} {db db' : SubscriptionDB} {id : Nat} {total amount now : Int}
  {sub sub' : UserSubscription} {plan : SubscriptionPlan} {id' : Nat} {s : CounterState}

lemma WithinAt.of_subs (h : WithinAt id total db) (hsubs : db'.subs = db.subs) :
    WithinAt id total db' := by
  rw [WithinAt, hsubs]
  exact h

/-- A row is saved. -/
lemma WithinAt.save (h : WithinAt id total db) (hsub : sub.id = id → Within total sub) :
    WithinAt id total { db with subs := db.subs.save sub } := by
  by_cases hid : sub.id = id
  · refine ⟨sub, ?_, hsub hid⟩
    rw [get?_save, if_pos hid]
  obtain ⟨row, hrow, hwithin⟩ := h
  refine ⟨row, ?_, hwithin⟩
  rw [get?_save, if_neg hid]
  exact hrow

/-- What is read of the subscription is within its total. -/
lemma WithinAt.get (h : WithinAt id total db) (hsub : db.subs.get? id' = some sub)
    (hid : id' = id) : Within total sub := by
  obtain ⟨row, hrow, hwithin⟩ := h
  rw [hid] at hsub
  rw [hrow] at hsub
  exact some.inj hsub ▸ hwithin

/-- A reset that is due clears the used amount, and otherwise it stays. -/
lemma Within.maybeReset (h : Within total sub) (htotal : 0 ≤ total)
    (hreset : maybeResetUserSubscriptionWithPlanTx cal sub plan now = .ok sub') :
    Within total sub' := by
  obtain ⟨used, t₁, t₂, rfl, hused⟩ := maybeReset_ok hreset
  refine ⟨h.sameTotal, ?_⟩
  rcases hused with rfl | rfl
  · exact h.used
  · exact htotal

/-! ## Transactions keep it -/

section
variable {subs : List UserSubscription} {res : SubscriptionPreConsumeResult} {requestId : String}
  {userId : Nat}

section
variable (h : WithinAt id total db)
include h

/-- The candidates of a pre-consumption are rows of the table. -/
lemma WithinAt.candidates (userId : Nat) (now : Int) :
    ∀ s ∈ activeSubscriptions db userId now, s.id = id → Within total s := by
  intro s hs hid
  exact h.get (get?_of_mem (mem_rows_of_mem_activeSubscriptions hs)) hid

section
variable (htotal : 0 < total)
include htotal

/-- The loop charges what is left of the candidate it takes, at most. -/
lemma WithinAt.consumeFirst (hamount : 0 < amount)
    (hsubs : ∀ s ∈ subs, s.id = id → Within total s)
    (hok : NewApi.Model.consumeFirst cal requestId userId amount now db subs = .ok (res, db')) :
    WithinAt id total db' := by
  induction subs generalizing db with
  | nil => cases hok
  | cons candidate rest ih =>
    rw [NewApi.Model.consumeFirst] at hok
    split at hok
    · cases hok
    rename_i plan hplan
    split at hok
    · cases hok
    rename_i sub hreset
    have hsub : sub.id = id → Within total sub := by
      intro hid
      rw [maybeReset_id hreset] at hid
      exact (hsubs candidate List.mem_cons_self hid).maybeReset (le_of_lt htotal) hreset
    have hsaved := h.save hsub
    split at hok
    · exact ih hsaved (fun s hs => hsubs s (List.mem_cons_of_mem _ hs)) hok
    rename_i hfits
    cases hok
    have hcharged : sub.id = id →
        Within total { sub with amountUsed := sub.amountUsed + amount.toNat } := by
      intro hid
      have hwithin := hsub hid
      have hsum : sub.amountTotal = total := hwithin.sameTotal
      refine ⟨hsum, ?_⟩
      show ((sub.amountUsed + amount.toNat : Nat) : Int) ≤ total
      omega
    exact (hsaved.save hcharged).of_subs rfl

lemma WithinAt.consumeDuplicate {dup : PreConsumeRecord}
    (hsubs : ∀ s ∈ subs, s.id = id → Within total s)
    (hok : NewApi.Model.consumeDuplicate cal dup amount now db subs = .ok (res, db')) :
    WithinAt id total db' := by
  induction subs generalizing db with
  | nil => cases hok
  | cons candidate rest ih =>
    rw [NewApi.Model.consumeDuplicate] at hok
    split at hok
    · cases hok
    rename_i plan hplan
    split at hok
    · cases hok
    rename_i sub hreset
    have hsub : sub.id = id → Within total sub := by
      intro hid
      rw [maybeReset_id hreset] at hid
      exact (hsubs candidate List.mem_cons_self hid).maybeReset (le_of_lt htotal) hreset
    have hsaved := h.save hsub
    split at hok
    · exact ih hsaved (fun s hs => hsubs s (List.mem_cons_of_mem _ hs)) hok
    split at hok <;> cases hok
    exact hsaved

lemma WithinAt.preConsume
    (hok : preConsumeUserSubscription cal db requestId userId amount now = .ok (res, db')) :
    WithinAt id total db' := by
  by_cases hnew : db.records.get? requestId = none
  · obtain ⟨-, hamount, hok⟩ := preConsumeUserSubscription_new hnew hok
    exact h.consumeFirst htotal hamount (h.candidates userId now) hok
  · rw [preConsume_repeated hnew hok]
    exact h

lemma WithinAt.preConsumeDuplicate
    (hok : NewApi.Model.preConsumeDuplicate cal db requestId userId amount now = .ok (res, db')) :
    WithinAt id total db' := by
  unfold NewApi.Model.preConsumeDuplicate at hok
  split at hok
  · exact h.preConsume htotal hok
  split at hok
  · cases hok
  · exact h.consumeDuplicate htotal (h.candidates userId now) hok

end

end

end

section
variable (h : WithinAt id total db)
include h

section
variable (htotal : 0 < total)
include htotal

lemma WithinAt.postConsume {represent : Int → Int}
    (hok : postConsumeDelta represent db id' delta = .ok db') : WithinAt id total db' := by
  unfold postConsumeDelta at hok
  split at hok
  · cases hok
  split at hok
  · cases hok
    exact h
  split at hok
  · cases hok
  rename_i sub hsub
  dsimp only at hok
  split at hok
  · cases hok
  next hfits =>
    cases hok
    apply h.save
    intro hid
    have hkey : sub.id = id' := key_of_get? hsub
    have hsame : sub.amountTotal = total := (h.get hsub (hkey.symm.trans hid)).sameTotal
    refine ⟨hsame, ?_⟩
    dsimp only
    omega

/-- Only the inner transaction of a refund touches the subscription. -/
lemma WithinAt.refundStep {requestId : String}
    {ok : Bool} {pc pc' : RefundPc}
    (hstep : NewApi.Model.refundStep db requestId ok pc = some (db', pc')) :
    WithinAt id total db' := by
  cases pc with rw [NewApi.Model.refundStep] at hstep
  | start =>
    split_ifs at hstep
    · cases hstep
      exact h
    split at hstep
    · cases hstep
      exact h
    · split_ifs at hstep <;> cases hstep <;> exact h
  | locked record =>
    split_ifs at hstep
    · cases hstep
      exact h
    split at hstep
    · cases hstep
      exact h
    rename_i hpost
    cases hstep
    rw [postConsumeUserSubscriptionDelta_eq] at hpost
    exact h.postConsume htotal hpost
  | marking record =>
    split_ifs at hstep <;> cases hstep
    · exact h
    · exact h.of_subs rfl
  | returned ok => cases hstep

lemma WithinAt.resetDue
    (hok : resetDueSubscription cal db id' now = .ok db') : WithinAt id total db' := by
  unfold resetDueSubscription at hok
  split at hok
  · cases hok
    exact h
  rename_i locked hlocked
  split at hok
  · cases hok
    exact h
  rename_i plan hplan
  split at hok
  · split at hok
    · cases hok
    next sub hreset =>
      cases hok
      apply h.save
      intro hid
      have hkey : locked.id = id' := key_of_get? hlocked
      have hid' : id' = id := hkey.symm.trans ((maybeReset_id hreset).symm.trans hid)
      exact (h.get hlocked hid').maybeReset (le_of_lt htotal) hreset
  · cases hok
    exact h

lemma WithinAt.adminReset {userId : Option Nat}
    {planId : Nat} {advanceResetTime : Bool}
    (hok : adminResetSubscriptions cal db userId planId now advanceResetTime = .ok db') :
    WithinAt id total db' := by
  unfold adminResetSubscriptions at hok
  split at hok
  · cases hok
  rename_i plan hplan
  split at hok
  · cases hok
  cases hok
  obtain ⟨row, hrow, hwithin⟩ := h
  refine ⟨adminResetRow cal plan userId now advanceResetTime row, ?_, ?_⟩
  · rw [get?_updateAll, hrow]
    rfl
  · unfold adminResetRow
    split
    · unfold resetUserSubscriptionTx
      split <;> exact ⟨hwithin.sameTotal, le_of_lt htotal⟩
    · exact hwithin

end

end

lemma map_snd_ok {ε α β : Type} {x : Except ε (α × β)} {b : β} (h : x.map Prod.snd = .ok b) :
    ∃ a, x = .ok (a, b) := by
  cases x with
  | error e => cases h
  | ok ab => exact ⟨ab.1, by rw [← Except.ok.inj h]⟩

lemma WithinAt.transaction (h : WithinAt id total db) (htotal : 0 < total)
    {call : SubscriptionCall} (hok : call.transaction cal db = some (.ok db')) :
    WithinAt id total db' := by
  cases call with
  | preConsume requestId userId amount now =>
    obtain ⟨res, hres⟩ := map_snd_ok (some.inj hok)
    exact h.preConsume htotal hres
  | preConsumeDuplicate requestId userId amount now =>
    obtain ⟨res, hres⟩ := map_snd_ok (some.inj hok)
    exact h.preConsumeDuplicate htotal hres
  | postConsume id' delta => exact h.postConsume htotal (some.inj hok)
  | refund requestId | refundStep i ok => cases hok
  | resetDue id' now => exact h.resetDue htotal (some.inj hok)
  | adminResetUser userId planId now advanceResetTime | adminResetPlan planId now advanceResetTime =>
    have hreset := some.inj hok
    simp only [adminResetUserSubscriptionsByPlan, adminResetPlanSubscriptions] at hreset
    split at hreset
    · cases hreset
    · exact h.adminReset htotal hreset

lemma counterStep_within {s' : CounterState} (h : WithinAt id total s.db) (htotal : 0 < total)
    (call : SubscriptionCall) (hstep : counterStep cal s call = some s') :
    WithinAt id total s'.db := by
  unfold counterStep at hstep
  split at hstep
  · cases hstep
    exact h
  · split at hstep
    · cases hstep
    split at hstep
    · cases hstep
    next hrefund =>
      cases hstep
      exact h.refundStep htotal hrefund
  split at hstep
  next hok =>
    cases hstep
    exact h.transaction htotal hok
  next =>
    cases hstep
    exact h

/-! ## Calls that would exceed the total -/

/-- Every subscription the pre-consumption could charge, after the reset due to it, would exceed its
total. -/
def AllExceeded (cal : Calendar) (db : SubscriptionDB) (userId : Nat) (amount now : Int) : Prop :=
  ∀ s ∈ activeSubscriptions db userId now, ∀ plan, db.plans.get? s.planId = some plan →
    ∀ sub, maybeResetUserSubscriptionWithPlanTx cal s plan now = .ok sub →
      0 < sub.amountTotal ∧ sub.amountTotal < sub.amountUsed + amount

lemma consumeFirst_exceeded {requestId : String} {userId : Nat} {subs : List UserSubscription}
    {db₀ : SubscriptionDB} (hplans : db.plans = db₀.plans)
    (h : ∀ s ∈ subs, ∀ plan, db₀.plans.get? s.planId = some plan →
      ∀ sub, maybeResetUserSubscriptionWithPlanTx cal s plan now = .ok sub →
        0 < sub.amountTotal ∧ sub.amountTotal < sub.amountUsed + amount) :
    ∃ e, consumeFirst cal requestId userId amount now db subs = .error e := by
  induction subs generalizing db with
  | nil => exact ⟨_, rfl⟩
  | cons candidate rest ih =>
    rw [consumeFirst]
    split
    · exact ⟨_, rfl⟩
    rename_i plan hplan
    split
    · exact ⟨_, rfl⟩
    rename_i sub hreset
    rw [hplans] at hplan
    obtain ⟨hpos, hexceeds⟩ := h candidate List.mem_cons_self plan hplan sub hreset
    rw [if_pos ⟨hpos, by omega⟩]
    exact ih hplans fun s hs => h s (List.mem_cons_of_mem _ hs)

lemma preConsume_exceeded {requestId : String} {userId : Nat}
    (hnew : db.records.get? requestId = none) (h : AllExceeded cal db userId amount now) :
    ∃ e, preConsumeUserSubscription cal db requestId userId amount now = .error e := by
  unfold preConsumeUserSubscription
  split
  · exact ⟨_, rfl⟩
  split
  · exact ⟨_, rfl⟩
  split
  · exact ⟨_, rfl⟩
  rw [hnew]
  dsimp only
  split
  · exact ⟨_, rfl⟩
  · exact consumeFirst_exceeded rfl h

/-- A transaction that fails leaves everything as it was. -/
lemma refused_of_error {call : SubscriptionCall} {e : SubscriptionError}
    (h : call.transaction cal s.db = some (.error e)) : Refused cal s call := by
  refine ⟨⟨e, h⟩, ?_⟩
  unfold counterStep
  split
  · cases h
  · cases h
  · rw [h]

/-- A delta above what is left is refused exactly if the sum is an `int64`. A sum that is not wraps
around to a negative number, and the used amount becomes zero. -/
lemma postConsume_refused_iff (hsub : s.db.subs.get? id = some sub)
    (hwithin : Within total sub) (htotal : 0 < total) (hmax : total < 2 ^ 63)
    (hdelta : delta < 2 ^ 63) (hexceeds : total < sub.amountUsed + delta) :
    Refused cal s (.postConsume id delta) ↔ sub.amountUsed + delta < 2 ^ 63 := by
  have hid : id ≠ 0 := by
    rw [← key_of_get? hsub]
    exact Nat.pos_iff_ne_zero.mp sub.id_pos
  have hused := hwithin.used
  have hsame := hwithin.sameTotal
  have hne : delta ≠ 0 := by omega
  constructor
  · rintro ⟨⟨e, he⟩, -⟩
    by_contra hwraps
    have hsum : int64 (sub.amountUsed + delta) = sub.amountUsed + delta - 2 ^ 64 := by
      rw [int64, ← Int.sub_bmod_right]
      exact int64_eq (by omega) (by omega)
    have hzero : (sub.amountUsed + delta - 2 ^ 64).toNat = 0 := by omega
    have hok : postConsumeUserSubscriptionDeltaInt64 s.db id delta
        = .ok { s.db with subs := s.db.subs.save { sub with amountUsed := 0 } } := by
      rw [postConsumeUserSubscriptionDeltaInt64, postConsumeDelta, if_neg hid, if_neg hne, hsub]
      dsimp only
      rw [hsum, hzero, if_neg (by omega)]
    exact absurd (some.inj he) (by rw [hok]; exact nofun)
  · intro hfits
    apply refused_of_error
    show some (postConsumeUserSubscriptionDeltaInt64 s.db id delta) = _
    rw [postConsumeInt64_eq (by rw [hsub]; rintro _ ⟨⟩; omega), postConsumeUserSubscriptionDelta_eq,
      postConsumeDelta, if_neg hid, if_neg hne, hsub]
    dsimp only
    rw [if_pos (by omega)]

end

/-- In every run the used amount stays within the total. A pre-consumption that would exceed the
total of each subscription it could charge fails without a change, and so does a settlement that
would exceed the total, exactly if its sum is an `int64`. -/
theorem subscription_usage_within_total (cal : Calendar) (db : SubscriptionDB) (id : Nat)
    (sub : UserSubscription) (calls : List SubscriptionCall) (s : CounterState)
    (hsub : db.subs.get? id = some sub) (htotal : 0 < sub.amountTotal)
    (hmax : sub.amountTotal < 2 ^ 63) (hused : (sub.amountUsed : Int) ≤ sub.amountTotal)
    (hrun : run (counterStep cal) ⟨db, []⟩ calls = some s) :
    ∃ sub', s.db.subs.get? id = some sub' ∧ sub'.amountTotal = sub.amountTotal ∧
      0 ≤ (sub'.amountUsed : Int) ∧ (sub'.amountUsed : Int) ≤ sub'.amountTotal ∧
      (∀ delta : Int, delta < 2 ^ 63 → sub'.amountTotal < sub'.amountUsed + delta →
        (Refused cal s (.postConsume id delta) ↔ sub'.amountUsed + delta < 2 ^ 63)) ∧
      ∀ requestId userId amount now, s.db.records.get? requestId = none →
        AllExceeded cal s.db userId amount now →
        Refused cal s (.preConsume requestId userId amount now) := by
  have hinv : WithinAt id sub.amountTotal s.db :=
    run_invariant' (fun s : CounterState => WithinAt id sub.amountTotal s.db)
      (fun _ call _ h => counterStep_within h htotal call) ⟨sub, hsub, rfl, hused⟩ hrun
  obtain ⟨sub', hsub', hwithin⟩ := hinv
  have hsame := hwithin.sameTotal
  refine ⟨sub', hsub', hsame, Int.natCast_nonneg _, hsame ▸ hwithin.used, ?_, ?_⟩
  · intro delta hdelta hexceeds
    exact postConsume_refused_iff hsub' hwithin htotal hmax hdelta (hsame ▸ hexceeds)
  · intro requestId userId amount now hnew hexceeded
    obtain ⟨e, he⟩ := preConsume_exceeded hnew hexceeded
    apply refused_of_error
    show some ((preConsumeUserSubscription cal s.db requestId userId amount now).map Prod.snd) = _
    rw [he]
    rfl

/-- A request is charged and settled, another settlement would exceed the total, and a refund of the
request straddles a reset. -/
theorem subscription_usage_within_total_settled :
    ∃ s sub', run (counterStep plainCalendar) ⟨unusedDB, []⟩
        [.preConsume "a" 1 100 200, .postConsume 1 30, .postConsume 1 900, .refund "a",
          .refundStep 0 true, .resetDue 1 2592200, .preConsume "b" 1 50 2592300,
          .refundStep 0 true, .refundStep 0 true] = some s ∧
      s.db.subs.get? 1 = some sub' ∧ (sub'.amountUsed : Int) ≤ sub'.amountTotal ∧
      Refused plainCalendar s (.postConsume 1 1001) := by
  obtain ⟨sub', hsub', -, -, hused, hrefused, -⟩ := subscription_usage_within_total plainCalendar
    unusedDB 1 _
    [.preConsume "a" 1 100 200, .postConsume 1 30, .postConsume 1 900, .refund "a",
      .refundStep 0 true, .resetDue 1 2592200, .preConsume "b" 1 50 2592300,
      .refundStep 0 true, .refundStep 0 true] _ rfl (by decide) (by decide) (by decide) rfl
  obtain rfl := some.inj hsub'
  exact ⟨_, _, rfl, rfl, hused, (hrefused 1001 (by decide) (by decide)).mpr (by decide)⟩

/-- A settlement of `2 ^ 63 - 1` on a used amount of 100 wraps around: it succeeds, and nothing is
used any more. -/
theorem settlement_wraps_around :
    ∃ s sub s', run (counterStep plainCalendar) ⟨unusedDB, []⟩ [.preConsume "a" 1 100 200] = some s ∧
      s.db.subs.get? 1 = some sub ∧ sub.amountTotal = 1000 ∧ sub.amountUsed = 100 ∧
      sub.amountTotal < sub.amountUsed + (2 ^ 63 - 1) ∧
      counterStep plainCalendar s (.postConsume 1 (2 ^ 63 - 1)) = some s' ∧
      (s'.db.subs.get? 1).map UserSubscription.amountUsed = some 0 ∧
      ¬ Refused plainCalendar s (.postConsume 1 (2 ^ 63 - 1)) := by
  refine ⟨_, _, _, rfl, rfl, rfl, rfl, by decide, rfl, rfl, ?_⟩
  rintro ⟨⟨e, he⟩, -⟩
  cases he

end NewApi.Model
