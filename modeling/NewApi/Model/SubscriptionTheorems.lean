import NewApi.Model.Subscription

/-!
# What the subscription transactions do to `amount_used`

One specification for each transaction. `Held db id base x` says that the subscription `id` has
been charged `x` over the amount `base` it had used before, and stays within its total; the
billing proofs use the transactions only through what they do to it.
-/

namespace NewApi.Model

/-! ## Resets -/

variable {now x amount : Int} {cal : Calendar} {sub sub' : UserSubscription}
  {plan : SubscriptionPlan} {db db' : SubscriptionDB} {id base userId : Nat} {requestId : String}
  {res : SubscriptionPreConsumeResult}

/-- The catch-up loop returns when every reset lies after the one before it: it then passes each
second between `base` and `now` at most once. -/
theorem catchUp_isSome {nextOf : Int → Int}
    (hnext : ∀ b, 0 < nextOf b → b < nextOf b) {fuel : Nat} {base : Int} (advanced : Bool)
    (hfuel : (now - base).toNat < fuel) :
    (catchUp nextOf now fuel base (nextOf base) advanced).isSome := by
  induction fuel generalizing base advanced with
  | zero => omega
  | succ fuel ih =>
    unfold catchUp
    split
    · next h =>
      have hlt := hnext base h.1
      apply ih
      omega
    · rfl

section
variable (h : maybeResetUserSubscriptionWithPlanTx cal sub plan now = .ok sub')
include h

/-- A reset touches the used amount and the two reset times, and it either leaves the used amount
or clears it. -/
lemma maybeReset_ok :
    ∃ used t₁ t₂,
      sub' = { sub with amountUsed := used, lastResetTime := t₁, nextResetTime := t₂ } ∧
      (used = sub.amountUsed ∨ used = 0) := by
  have hsame : ∃ used t₁ t₂,
      sub = { sub with amountUsed := used, lastResetTime := t₁, nextResetTime := t₂ } ∧
      (used = sub.amountUsed ∨ used = 0) :=
    ⟨_, _, _, rfl, Or.inl rfl⟩
  unfold maybeResetUserSubscriptionWithPlanTx at h
  dsimp only at h
  split at h
  · cases h
    exact hsame
  split at h
  · cases h
    exact hsame
  split at h
  · cases h
  split at h
  · cases h
    exact ⟨_, _, _, rfl, Or.inr rfl⟩
  split at h <;> cases h
  · exact ⟨_, _, _, rfl, Or.inl rfl⟩
  · exact hsame

lemma maybeReset_id :
    sub'.id = sub.id := by
  obtain ⟨_, _, _, rfl, -⟩ := maybeReset_ok h
  rfl

end

/-- The used amount of a subscription after the quota reset that is due at `now`, if any: what a
pre-consumption at `now` adds to. -/
def usedAfterDueReset (cal : Calendar) (db : SubscriptionDB) (id : Nat) (now : Int) : Option Nat :=
  (db.subs.get? id).bind fun sub =>
    (db.plans.get? sub.planId).bind fun plan =>
      match maybeResetUserSubscriptionWithPlanTx cal sub plan now with
      | .ok sub => some sub.amountUsed
      | .error _ => none

lemma usedAfterDueReset_eq (hsub : db.subs.get? sub.id = some sub)
    (hplan : db.plans.get? sub.planId = some plan)
    (h : maybeResetUserSubscriptionWithPlanTx cal sub plan now = .ok sub') :
    usedAfterDueReset cal db sub'.id now = some sub'.amountUsed := by
  simp only [usedAfterDueReset]
  rw [maybeReset_id h, hsub, Option.bind_some, hplan, Option.bind_some, h]

/-! ## Charges -/

/-- The subscription `id` is charged `x` over `base`, within its total. -/
def Held (db : SubscriptionDB) (id base : Nat) (x : Int) : Prop :=
  ∃ sub, db.subs.get? id = some sub ∧ (sub.amountUsed : Int) = base + x ∧
    (0 < sub.amountTotal → (sub.amountUsed : Int) ≤ sub.amountTotal)

/-- Moving a charge, as long as it does not go below what was used before. -/
lemma postConsume_held {delta : Int} (hheld : Held db id base x) (hx : 0 ≤ x + delta)
    (h : postConsumeUserSubscriptionDelta db id delta = .ok db') :
    Held db' id base (x + delta) ∧ db'.records = db.records := by
  obtain ⟨sub, hsub, hused, htotal⟩ := hheld
  unfold postConsumeUserSubscriptionDelta at h
  split at h
  · cases h
  split at h
  · next hd =>
    cases h
    refine ⟨⟨sub, hsub, ?_, htotal⟩, rfl⟩
    omega
  rw [hsub] at h
  dsimp only at h
  split at h
  · cases h
  rename_i hle
  cases h
  have hkey := Table.key_of_get? hsub
  refine ⟨⟨{ sub with amountUsed := (sub.amountUsed + delta).toNat }, ?_, ?_, ?_⟩, rfl⟩
  · simp [hkey]
  · dsimp only
    omega
  · dsimp only
    omega

/-- A charge can always be lowered. -/
lemma postConsume_lower {delta : Int}
    (hheld : Held db id base x) (hid : 0 < id) (hdelta : delta ≤ 0) :
    ∃ db', postConsumeUserSubscriptionDelta db id delta = .ok db' := by
  obtain ⟨sub, hsub, hused, htotal⟩ := hheld
  unfold postConsumeUserSubscriptionDelta
  rw [if_neg (by omega)]
  split
  · exact ⟨db, rfl⟩
  rw [hsub]
  dsimp only
  rw [if_neg (by omega)]
  exact ⟨_, rfl⟩

/-! ## Pre-consumption and refund -/

/-- The pre-consumption record of a request, with its status. -/
def Recorded (db : SubscriptionDB) (requestId : String) (id : Nat) (amount : Int)
    (status : RecordStatus) : Prop :=
  ∃ record, db.records.get? requestId = some record ∧ record.userSubscriptionId = id ∧
    record.preConsumed = amount ∧ record.status = status

lemma mem_rows_of_mem_activeSubscriptions
    {s : UserSubscription} (h : s ∈ activeSubscriptions db userId now) : s ∈ db.subs.rows :=
  List.mem_of_mem_filter ((List.mem_insertionSort _).mp h)

lemma consumeFirst_ok {db₀ : SubscriptionDB} {subs : List UserSubscription} (hamount : 0 < amount)
    (hplans : db.plans = db₀.plans) (hsubs : ∀ s ∈ subs, db₀.subs.get? s.id = some s)
    (h : consumeFirst cal requestId userId amount now db subs = .ok (res, db')) :
    res.preConsumed = amount ∧ 0 < res.userSubscriptionId ∧
      Recorded db' requestId res.userSubscriptionId amount .consumed ∧
      ∃ base, usedAfterDueReset cal db₀ res.userSubscriptionId now = some base ∧
        Held db' res.userSubscriptionId base amount := by
  induction subs generalizing db with
  | nil => cases h
  | cons candidate rest ih =>
    rw [consumeFirst] at h
    split at h
    · cases h
    rename_i plan hplan
    split at h
    · cases h
    rename_i sub hreset
    split at h
    · -- too little left: the (reset) candidate is saved and the next one is tried
      refine ih ?_ ?_ h
      · exact hplans
      · exact fun s hs => hsubs s (List.mem_cons_of_mem _ hs)
    rename_i henough
    cases h
    have hdue := usedAfterDueReset_eq (hsubs candidate List.mem_cons_self)
      (hplans ▸ hplan) hreset
    refine ⟨rfl, sub.id_pos, ⟨_, Table.get?_save_self _ _, rfl, rfl, rfl⟩,
      sub.amountUsed, hdue, { sub with amountUsed := sub.amountUsed + amount.toNat },
      Table.get?_save_self _ _, ?_, ?_⟩
    · dsimp only
      omega
    · dsimp only
      omega

/-- The used amount of a subscription. -/
def used? (db : SubscriptionDB) (id : Nat) : Option Nat :=
  (db.subs.get? id).map (·.amountUsed)

/-- Apart from the reset that is due at `now`, the used amount of `id` is that of `db₀`. -/
def UsedKept (cal : Calendar) (now : Int) (db₀ db : SubscriptionDB) (id : Nat) : Prop :=
  used? db id = used? db₀ id ∨ used? db id = usedAfterDueReset cal db₀ id now

/-- The candidates that are passed over are reset if that is due, and the request gets one
record. -/
lemma consumeFirst_others {db₀ : SubscriptionDB} {subs : List UserSubscription}
    (hplans : db.plans = db₀.plans)
    (hsubs : ∀ s ∈ subs, db₀.subs.get? s.id = some s) (hkept : ∀ id, UsedKept cal now db₀ db id)
    (h : consumeFirst cal requestId userId amount now db subs = .ok (res, db')) :
    (∀ id, id ≠ res.userSubscriptionId → UsedKept cal now db₀ db' id) ∧
      db'.records = db.records.save
        { requestId, userId, userSubscriptionId := res.userSubscriptionId,
          preConsumed := amount, status := .consumed } := by
  induction subs generalizing db with
  | nil => cases h
  | cons candidate rest ih =>
    rw [consumeFirst] at h
    split at h
    · cases h
    rename_i plan hplan
    split at h
    · cases h
    rename_i sub hreset
    have hdue := usedAfterDueReset_eq (hsubs candidate List.mem_cons_self)
      (hplans ▸ hplan) hreset
    split at h
    · refine @ih { db with subs := db.subs.save sub } hplans
        (fun s hs => hsubs s (List.mem_cons_of_mem _ hs)) ?_ h
      intro id
      by_cases heq : sub.id = id
      · subst heq
        right
        rw [hdue]
        simp [used?]
      · simpa [UsedKept, used?, heq] using hkept id
    · cases h
      refine ⟨fun id hne => ?_, rfl⟩
      have hne' : sub.id ≠ id := fun heq => hne heq.symm
      simpa [UsedKept, used?, hne'] using hkept id

section
variable (hfresh : db.records.get? requestId = none)
  (h : preConsumeUserSubscription cal db requestId userId amount now = .ok (res, db'))
include hfresh h

/-- A new request id is charged by the loop over the active subscriptions. -/
lemma preConsumeUserSubscription_new :
    trimSpace requestId ≠ "" ∧ 0 < amount ∧
      consumeFirst cal requestId userId amount now db (activeSubscriptions db userId now)
        = .ok (res, db') := by
  unfold preConsumeUserSubscription at h
  rw [hfresh] at h
  split_ifs at h with _ hreq hamount
  dsimp only at h
  split at h
  · cases h
  · exact ⟨hreq, Int.not_le.mp hamount, h⟩

/-- It leaves every other subscription as it was, apart from a reset that was due, and adds the
request's record. -/
lemma preConsumeUserSubscription_others :
    (∀ id, id ≠ res.userSubscriptionId → UsedKept cal now db db' id) ∧
      db'.records = db.records.save
        { requestId, userId, userSubscriptionId := res.userSubscriptionId,
          preConsumed := amount, status := .consumed } := by
  refine consumeFirst_others rfl ?_ (fun id => Or.inl rfl)
    (preConsumeUserSubscription_new hfresh h).2.2
  intro s hs
  exact Table.get?_of_mem (mem_rows_of_mem_activeSubscriptions hs)

end

/-- Refunding a recorded charge takes it off again and marks the record. -/
lemma refundSubscriptionPreConsume_ok (hreq : trimSpace requestId ≠ "") (hid : 0 < id)
    (hamount : 0 < amount) (hrec : Recorded db requestId id amount .consumed)
    (hheld : Held db id base x) (hx : amount ≤ x) :
    ∃ db', refundSubscriptionPreConsume db requestId = .ok db' ∧
      Held db' id base (x - amount) ∧ Recorded db' requestId id amount .refunded := by
  obtain ⟨record, hget, hsub, hpre, hstatus⟩ := hrec
  obtain ⟨db', hpost⟩ := postConsume_lower hheld hid (show -amount ≤ 0 by omega)
  obtain ⟨hheld', hrecords⟩ := postConsume_held hheld (by omega) hpost
  have hkey := Table.key_of_get? hget
  refine ⟨{ db' with records := db'.records.save { record with status := .refunded } }, ?_,
    hheld', { record with status := .refunded }, ?_, hsub, hpre, rfl⟩
  · unfold refundSubscriptionPreConsume
    rw [if_neg hreq, hget]
    dsimp only
    rw [if_neg (by simp [hstatus]), if_neg (by omega), hsub, hpre, hpost]
  · simp [hkey]

end NewApi.Model
