import NewApi.Model.SubscriptionUsage

/-!
# Usage accounting survives resets, up to late returns

What a transaction does to the row of one subscription, and from it the invariant: the counter
never falls below the current charges of the requests since the last reset, less what has been
returned since then for requests from before it.
-/

namespace NewApi.Model

open Runs List Table PeriodLedger Option UserSubscription

/-! ## The ledger -/

/-- The bound that the ledger gives for the used amount. -/
def PeriodLedger.floor (l : PeriodLedger) : Int := l.charged - l.returned

section
variable {l : PeriodLedger} {requestId : String}

@[simp] lemma PeriodLedger.floor_start : start.floor = 0 := rfl

lemma PeriodLedger.floor_openCharge (hnew : l.charges.get? requestId = none) (amount : Int) :
    (l.openCharge requestId amount).floor = l.floor + amount := by
  have hsum : (l.openCharge requestId amount).charged = l.charged + amount := by
    unfold charged openCharge
    rw [sum_map_save, hnew]
    simp
  show (l.openCharge requestId amount).charged - l.returned = l.charged - l.returned + amount
  rw [hsum]
  omega

/-- A move lowers the bound by at least as much as the counter. -/
lemma PeriodLedger.floor_move_le (l : PeriodLedger) (requestId : String) (delta : Int) :
    (l.move requestId delta).floor ≤ l.floor + delta := by
  unfold move
  split
  next c hc =>
    have hkey := key_of_get? hc
    have hsum : ((l.charges.save { c with net := c.net + delta }).rows.map RequestCharge.net).sum =
        l.charged + delta := by
      rw [sum_map_save, show RequestCharge.requestId { c with net := c.net + delta } =
        requestId from hkey, hc]
      show l.charged + (c.net + delta) - c.net = l.charged + delta
      omega
    show ((l.charges.save { c with net := c.net + delta }).rows.map RequestCharge.net).sum -
      l.returned ≤ l.charged - l.returned + delta
    rw [hsum]
    omega
  · show l.charged - (l.returned + max (-delta) 0) ≤ l.charged - l.returned + delta
    omega

/-- The requests in the ledger all have a record. -/
def PeriodLedger.recorded (l : PeriodLedger) (db : SubscriptionDB) : Prop :=
  ∀ c ∈ l.charges.rows, (db.records.get? c.requestId).isSome

lemma PeriodLedger.recorded_start (db : SubscriptionDB) : start.recorded db := nofun

variable {db : SubscriptionDB}

section
variable (h : l.recorded db)
include h

lemma PeriodLedger.recorded.mono {db' : SubscriptionDB}
    (hdb : ∀ r, (db.records.get? r).isSome → (db'.records.get? r).isSome) : l.recorded db' :=
  fun c hc => hdb _ (h c hc)

/-- A request without a record is not in the ledger. -/
lemma PeriodLedger.recorded.not_charged
    (hnone : db.records.get? requestId = none) : l.charges.get? requestId = none := by
  by_contra hne
  obtain ⟨c, hc⟩ := ne_none_iff_exists'.mp hne
  have hsome := h c (mem_of_get? hc)
  rw [show c.requestId = requestId from key_of_get? hc, hnone] at hsome
  cases hsome

lemma PeriodLedger.recorded.openCharge
    (hsome : (db.records.get? requestId).isSome) (amount : Int) :
    (l.openCharge requestId amount).recorded db := by
  intro c hc
  rcases mem_save hc with rfl | ⟨hold, -⟩
  · exact hsome
  · exact h c hold

lemma PeriodLedger.recorded.move (requestId : String)
    (delta : Int) : (l.move requestId delta).recorded db := by
  unfold PeriodLedger.move
  split
  next c hc =>
    intro c' hc'
    rcases mem_save hc' with rfl | ⟨hold, -⟩
    · exact h c (mem_of_get? hc)
    · exact h c' hold
  · exact h

end

end

/-! ## What the transactions do to one row -/

variable {row' : UserSubscription}

section
variable {cal : Calendar} {db db' : SubscriptionDB} {sub sub' row : UserSubscription}
  {plan : SubscriptionPlan} {now : Int} {id : Nat} {requestId : String}

lemma maybeReset_used (h : maybeResetUserSubscriptionWithPlanTx cal sub plan now = .ok sub') :
    sub'.amountUsed = if isResetDue cal sub plan now then 0 else sub.amountUsed := by
  unfold maybeResetUserSubscriptionWithPlanTx at h
  dsimp only at h
  split at h
  next hearly =>
    cases h
    rw [if_neg (by simp [isResetDue, hearly])]
  rename_i hlate
  split at h
  next hnever =>
    cases h
    rw [if_neg (by simp [isResetDue, hnever])]
  rename_i hperiod
  split at h
  · cases h
  rename_i hloop
  split at h
  next hadvanced =>
    cases h
    rw [if_pos (by simp [isResetDue, hlate, hperiod, hloop, hadvanced])]
  rename_i hadvanced
  have hnot : ¬ isResetDue cal sub plan now = true := by
    simp [isResetDue, hloop, hadvanced]
  rw [if_neg hnot]
  split at h <;> cases h <;> rfl

/-- A settlement or refund lowers the counter by at most its delta, and only that of its own
subscription. -/
lemma postConsume_row {id' : Nat} {delta : Int}
    (h : postConsumeUserSubscriptionDelta db id' delta = .ok db')
    (hrow : db.subs.get? id = some row) :
    db'.records = db.records ∧ ∃ row', db'.subs.get? id = some row' ∧
      (row.amountUsed : Int) + (if id' = id then delta else 0) ≤ row'.amountUsed := by
  unfold postConsumeUserSubscriptionDelta at h
  split at h
  · cases h
  split at h
  next hzero =>
    cases h
    refine ⟨rfl, row, hrow, ?_⟩
    rw [hzero]
    split <;> omega
  · split at h
    · cases h
    next sub hsub =>
      dsimp only at h
      split at h
      · cases h
      cases h
      have hkey : sub.id = id' := key_of_get? hsub
      refine ⟨rfl, ?_⟩
      by_cases hid : id' = id
      · subst hid
        obtain rfl := some.inj (hsub.symm.trans hrow)
        refine ⟨{ sub with amountUsed := (sub.amountUsed + delta).toNat }, ?_, ?_⟩
        · rw [Table.get?_save, if_pos hkey]
        · rw [if_pos rfl]
          dsimp only
          omega
      refine ⟨row, ?_, ?_⟩
      · rw [Table.get?_save, if_neg (by rw [hkey]; exact hid)]
        exact hrow
      · rw [if_neg hid]
        omega

/-- What a pre-consumption does to one row: the loop does not get to it, or resets it if that is due
and goes on, or charges it. -/
inductive RowConsumed (cal : Calendar) (db : SubscriptionDB) (amount now : Int)
    (row : UserSubscription) : Bool → UserSubscription → Prop
  | untouched : RowConsumed cal db amount now row false row
  | passed {plan : SubscriptionPlan} {sub : UserSubscription}
      (hplan : db.plans.get? row.planId = some plan)
      (hreset : maybeResetUserSubscriptionWithPlanTx cal row plan now = .ok sub) :
      RowConsumed cal db amount now row false sub
  | chosen {plan : SubscriptionPlan} {sub : UserSubscription}
      (hplan : db.plans.get? row.planId = some plan)
      (hreset : maybeResetUserSubscriptionWithPlanTx cal row plan now = .ok sub) :
      RowConsumed cal db amount now row true
        { sub with amountUsed := sub.amountUsed + amount.toNat }

section
variable {userId : Nat} {amount : Int} {subs : List UserSubscription}
  {res : SubscriptionPreConsumeResult}

/-- The loop leaves a row alone that is not among the candidates. -/
lemma consumeFirst_not_mem (hid : ∀ s ∈ subs, s.id ≠ id)
    (h : consumeFirst cal requestId userId amount now db subs = .ok (res, db')) :
    res.userSubscriptionId ≠ id ∧ db'.subs.get? id = db.subs.get? id := by
  induction subs generalizing db with
  | nil => cases h
  | cons candidate rest ih =>
    rw [consumeFirst] at h
    split at h
    · cases h
    split at h
    · cases h
    rename_i sub hreset
    have hne : sub.id ≠ id := by
      rw [maybeReset_id hreset]
      exact hid candidate mem_cons_self
    have hsave : (db.subs.save sub).get? id = db.subs.get? id := by
      rw [Table.get?_save, if_neg hne]
    split at h
    · have hrest := ih (fun s hs => hid s (mem_cons_of_mem _ hs)) h
      exact ⟨hrest.1, hrest.2.trans hsave⟩
    cases h
    refine ⟨hne, ?_⟩
    show ((db.subs.save sub).save _).get? id = _
    rw [Table.get?_save, if_neg hne]
    exact hsave

lemma consumeFirst_row {db₀ : SubscriptionDB} (hplans : db.plans = db₀.plans)
    (hnodup : (subs.map UserSubscription.id).Nodup)
    (hsubs : ∀ s ∈ subs, s.id = id → s = row) (hrow : db.subs.get? id = some row)
    (h : consumeFirst cal requestId userId amount now db subs = .ok (res, db')) :
    ∃ row', db'.subs.get? id = some row' ∧
      RowConsumed cal db₀ amount now row (decide (res.userSubscriptionId = id)) row' := by
  induction subs generalizing db with
  | nil => cases h
  | cons candidate rest ih =>
    rw [consumeFirst] at h
    split at h
    · cases h
    rename_i plan hplan
    split at h
    · cases h
    rename_i sub hreset
    have hsubid : sub.id = candidate.id := maybeReset_id hreset
    have hnot : candidate.id ∉ rest.map UserSubscription.id := (nodup_cons.mp hnodup).1
    by_cases hid : candidate.id = id
    · obtain rfl := hsubs candidate mem_cons_self hid
      rw [hplans] at hplan
      split at h
      · -- reset and passed: the candidates have distinct ids, so it does not come again
        have hrest : ∀ s ∈ rest, s.id ≠ id := by
          intro s hs heq
          apply hnot
          rw [hid, ← heq]
          exact mem_map_of_mem hs
        obtain ⟨hne, hget⟩ := consumeFirst_not_mem hrest h
        refine ⟨sub, ?_, ?_⟩
        · rw [hget, Table.get?_save, if_pos (hsubid.trans hid)]
        · rw [decide_eq_false hne]
          exact .passed hplan hreset
      · cases h
        refine ⟨{ sub with amountUsed := sub.amountUsed + amount.toNat }, ?_, ?_⟩
        · show ((db.subs.save sub).save _).get? id = _
          rw [Table.get?_save, if_pos (hsubid.trans hid)]
        · rw [decide_eq_true (show sub.id = id from hsubid.trans hid)]
          exact .chosen hplan hreset
    · have hne : sub.id ≠ id := by
        rw [hsubid]
        exact hid
      have hsave : (db.subs.save sub).get? id = some row := by
        rw [Table.get?_save, if_neg hne]
        exact hrow
      split at h
      · refine ih ?_ (nodup_cons.mp hnodup).2 ?_ ?_ h
        · exact hplans
        · exact fun s hs => hsubs s (mem_cons_of_mem _ hs)
        · exact hsave
      cases h
      refine ⟨row, ?_, ?_⟩
      · show ((db.subs.save sub).save _).get? id = _
        rw [Table.get?_save, if_neg hne]
        exact hsave
      · rw [decide_eq_false hne]
        exact .untouched

end

/-- A pre-consumption of a new request: its record is saved and the row moves as the loop says. -/
lemma preConsume_row {userId : Nat} {amount : Int} {res : SubscriptionPreConsumeResult}
    (hnew : db.records.get? requestId = none) (hrow : db.subs.get? id = some row)
    (h : preConsumeUserSubscription cal db requestId userId amount now = .ok (res, db')) :
    0 < amount ∧
      (∃ record, record.requestId = requestId ∧ db'.records = db.records.save record) ∧
      ∃ row', db'.subs.get? id = some row' ∧
        RowConsumed cal db amount now row (decide (res.userSubscriptionId = id)) row' := by
  have hrecords := (preConsumeUserSubscription_others hnew h).2
  obtain ⟨-, hamount, h⟩ := preConsumeUserSubscription_new hnew h
  refine ⟨hamount, ⟨_, rfl, hrecords⟩, consumeFirst_row rfl ?_ ?_ hrow h⟩
  · have hperm := (perm_insertionSort UserSubscription.endsBefore
      (db.subs.rows.filter (·.isActive userId now))).map UserSubscription.id
    rw [activeSubscriptions, hperm.nodup_iff]
    exact db.subs.nodup.sublist (filter_sublist.map _)
  · intro s hs hid
    have hmem := mem_of_mem_filter ((mem_insertionSort _).mp hs)
    have hget := Table.get?_of_mem hmem
    rw [hid, hrow] at hget
    exact (Option.some.inj hget).symm

/-- A repeated pre-consumption changes nothing. -/
lemma preConsume_repeated {userId : Nat} {amount : Int} {res : SubscriptionPreConsumeResult}
    (hold : db.records.get? requestId ≠ none)
    (h : preConsumeUserSubscription cal db requestId userId amount now = .ok (res, db')) :
    db' = db := by
  unfold preConsumeUserSubscription at h
  split at h
  · cases h
  split at h
  · cases h
  split at h
  · cases h
  split at h
  · split at h
    · cases h
    split at h
    · cases h
    · exact (Prod.mk.inj (Except.ok.inj h)).2.symm
  next hnone => exact absurd hnone hold

/-- A refund lowers the counter by at most what its record says. -/
lemma refund_row (h : refundSubscriptionPreConsume db requestId = .ok db')
    (hrow : db.subs.get? id = some row) :
    (∀ r, (db.records.get? r).isSome → (db'.records.get? r).isSome) ∧
      ∃ row', db'.subs.get? id = some row' ∧
        (row.amountUsed : Int) - refundedAmount db id requestId ≤ row'.amountUsed := by
  have hkept : ∀ (t : Table PreConsumeRecord.requestId) record r,
      (t.get? r).isSome → ((t.save record).get? r).isSome := by
    intro t record r hr
    rw [Table.get?_save]
    split
    · rfl
    · exact hr
  unfold refundSubscriptionPreConsume at h
  split at h
  · cases h
  split at h
  · cases h
  rename_i record hrec
  have hamount : 0 ≤ refundedAmount db id requestId := by
    unfold refundedAmount
    rw [hrec]
    split <;> omega
  split at h
  · cases h
    exact ⟨fun _ hr => hr, row, hrow, by omega⟩
  rename_i hstatus
  split at h
  · cases h
    exact ⟨fun r => hkept db.records _ r, row, hrow, by omega⟩
  rename_i hpos
  split at h
  · cases h
  rename_i db₁ hpost
  cases h
  obtain ⟨hrecords, row', hrow', hused⟩ := postConsume_row hpost hrow
  refine ⟨fun r hr => hkept db₁.records _ r (hrecords ▸ hr), row', hrow', ?_⟩
  have hconsumed : record.status = .consumed := by
    cases hs : record.status with
    | consumed => rfl
    | refunded => exact absurd hs hstatus
  by_cases hid : record.userSubscriptionId = id
  · have heq : refundedAmount db id requestId = record.preConsumed := by
      simp only [refundedAmount, hrec, hconsumed, hid, and_self, if_true]
      omega
    rw [if_pos hid] at hused
    omega
  · rw [if_neg hid] at hused
    omega

/-- The loop's row in terms of the reset that was due: it has been applied, and then the counter
starts from `0`, or the counter is the old one. -/
lemma RowConsumed.used {amount : Int} {charged : Bool}
    (h : RowConsumed cal db amount now row charged row') (hamount : 0 < amount)
    (hrow : db.subs.get? id = some row) (hrow' : db'.subs.get? id = some row') :
    (row'.amountUsed : Int) =
      (if resetApplied cal db db' id now then 0 else (row.amountUsed : Int)) +
        (if charged then amount else 0) ∨
    charged = false ∧ row' = row := by
  have hused : ∀ {plan sub}, db.plans.get? row.planId = some plan →
      maybeResetUserSubscriptionWithPlanTx cal row plan now = .ok sub →
      row'.lastResetTime = sub.lastResetTime → row'.nextResetTime = sub.nextResetTime →
      (sub.amountUsed : Int) =
        if resetApplied cal db db' id now then 0 else (row.amountUsed : Int) := by
    intro plan sub hplan hreset hlast hnext
    have happlied : resetApplied cal db db' id now = isResetDue cal row plan now := by
      simp [resetApplied, hrow, hrow', hplan, hreset, hlast, hnext]
    rw [happlied, maybeReset_used hreset]
    split <;> rfl
  cases h with
  | untouched => exact .inr ⟨rfl, rfl⟩
  | passed hplan hreset =>
    refine .inl ?_
    rw [hused hplan hreset rfl rfl]
    simp
  | chosen hplan hreset =>
    refine .inl ?_
    rw [← hused hplan hreset rfl rfl]
    dsimp only
    rw [if_pos rfl]
    omega

/-- A scheduled reset clears the counter exactly when it is applied. -/
lemma resetDue_row (h : resetDueSubscription cal db id now = .ok db')
    (hrow : db.subs.get? id = some row) :
    db'.records = db.records ∧ ∃ row', db'.subs.get? id = some row' ∧
      (resetApplied cal db db' id now = false → row'.amountUsed = row.amountUsed) := by
  unfold resetDueSubscription at h
  rw [hrow] at h
  dsimp only at h
  split at h
  · cases h
    exact ⟨rfl, row, hrow, fun _ => rfl⟩
  rename_i plan hplan
  split at h
  · split at h
    · cases h
    next sub hreset =>
      cases h
      have hid : sub.id = id := (maybeReset_id hreset).trans (key_of_get? hrow)
      have hget : (db.subs.save sub).get? id = some sub := by
        rw [Table.get?_save, if_pos hid]
      refine ⟨rfl, sub, hget, ?_⟩
      intro hnot
      have hdue : isResetDue cal row plan now = false := by
        simpa [resetApplied, hrow, hget, hplan, hreset] using hnot
      rw [maybeReset_used hreset, hdue, if_neg Bool.false_ne_true]
  · cases h
    exact ⟨rfl, row, hrow, fun _ => rfl⟩

end

/-! ## The invariant -/

/-- The counter covers the ledger, and the ledger knows only requests that have a record. -/
structure UsageInv (id : Nat) (s : UsageState) : Prop where
  covered : ∃ row, s.db.subs.get? id = some row ∧ s.ledger.floor ≤ row.amountUsed
  recorded : s.ledger.recorded s.db

namespace UsageInv

variable {cal : Calendar} {id : Nat} {s s' : UsageState}

variable {row : UserSubscription} {db' : SubscriptionDB}

lemma initial {db : SubscriptionDB} (hrow : db.subs.get? id = some row) :
    UsageInv id { db := db, ledger := .start } where
  covered := ⟨row, hrow, by
    rw [floor_start]
    omega⟩
  recorded := recorded_start db

section
variable (h : UsageInv id s)
include h

/-- A reset clears the ledger together with the counter. -/
lemma reset {applied : Bool}
    (hrow : s.db.subs.get? id = some row) (hrecords : db'.records = s.db.records)
    (hrow' : db'.subs.get? id = some row')
    (hkept : applied = false → row'.amountUsed = row.amountUsed) :
    UsageInv id { db := db', ledger := s.ledger.afterReset applied } := by
  unfold afterReset
  split
  · exact initial hrow'
  rename_i hnot
  obtain ⟨r, hr, hfloor⟩ := h.covered
  obtain rfl := some.inj (hr.symm.trans hrow)
  refine ⟨⟨row', hrow', ?_⟩, ?_⟩
  · rw [hkept (by simpa using hnot)]
    exact hfloor
  · exact h.recorded.mono fun r hr => hrecords ▸ hr

/-- A move of one request's charge. -/
lemma move {delta : Int}
    (requestId : String) (hrow : s.db.subs.get? id = some row)
    (hrecords : ∀ r, (s.db.records.get? r).isSome → (db'.records.get? r).isSome)
    (hrow' : db'.subs.get? id = some row')
    (hused : (row.amountUsed : Int) + delta ≤ row'.amountUsed) :
    UsageInv id { db := db', ledger := s.ledger.move requestId delta } := by
  obtain ⟨r, hr, hfloor⟩ := h.covered
  obtain rfl := some.inj (hr.symm.trans hrow)
  have hmove := s.ledger.floor_move_le requestId delta
  refine ⟨⟨row', hrow', ?_⟩, (h.recorded.mono hrecords).move requestId delta⟩
  show (s.ledger.move requestId delta).floor ≤ row'.amountUsed
  omega

/-- A pre-consumption of a new request. -/
lemma preConsume {requestId : String} {userId : Nat} {amount now : Int}
    {res : SubscriptionPreConsumeResult}
    (hnew : s.db.records.get? requestId = none)
    (hok : preConsumeUserSubscription cal s.db requestId userId amount now = .ok (res, db')) :
    let ledger := s.ledger.afterReset (resetApplied cal s.db db' id now)
    UsageInv id { db := db'
                  ledger := if res.userSubscriptionId = id then ledger.openCharge requestId amount
                            else ledger } := by
  intro ledger
  obtain ⟨row, hrow, hfloor⟩ := h.covered
  obtain ⟨hamount, ⟨record, hrequest, hrecords⟩, row', hrow', hmoved⟩ := preConsume_row hnew hrow hok
  have hkept : ∀ r, (s.db.records.get? r).isSome → (db'.records.get? r).isSome := by
    intro r hr
    rw [hrecords, Table.get?_save]
    split
    · rfl
    · exact hr
  have hsome : (db'.records.get? requestId).isSome := by
    rw [hrecords, Table.get?_save, if_pos hrequest]
    rfl
  -- the ledger after the reset, before the charge
  have hledger : ledger.recorded s.db ∧
      ledger.floor ≤ if resetApplied cal s.db db' id now then 0 else (row.amountUsed : Int) := by
    show (s.ledger.afterReset _).recorded s.db ∧ (s.ledger.afterReset _).floor ≤ _
    unfold afterReset
    split
    · exact ⟨recorded_start s.db, floor_start.le⟩
    · exact ⟨h.recorded, hfloor⟩
  have hopen := floor_openCharge (hledger.1.not_charged hnew) amount
  rcases hmoved.used hamount hrow hrow' with hused | ⟨hother, rfl⟩
  · by_cases hid : res.userSubscriptionId = id
    · rw [if_pos hid]
      refine ⟨⟨row', hrow', ?_⟩, (hledger.1.mono hkept).openCharge hsome amount⟩
      show (ledger.openCharge requestId amount).floor ≤ row'.amountUsed
      rw [decide_eq_true hid, if_pos rfl] at hused
      rw [hopen, hused]
      exact Int.add_le_add_right hledger.2 amount
    rw [if_neg hid]
    refine ⟨⟨row', hrow', ?_⟩, hledger.1.mono hkept⟩
    show ledger.floor ≤ row'.amountUsed
    rw [decide_eq_false hid, if_neg Bool.false_ne_true, add_zero] at hused
    rw [hused]
    exact hledger.2
  · -- the loop did not get to this row
    rw [if_neg (by simpa using hother)]
    refine ⟨⟨row', hrow', ?_⟩, hledger.1.mono hkept⟩
    show ledger.floor ≤ row'.amountUsed
    refine hledger.2.trans ?_
    split <;> omega

lemma step (label : UsageLabel) (hstep : usageStep cal id s label = some s') :
    UsageInv id s' := by
  obtain ⟨row, hrow, -⟩ := h.covered
  have hfailed : some s = some s' → UsageInv id s' := fun heq => some.inj heq ▸ h
  cases label with simp only [usageStep] at hstep
  | preConsume requestId userId amount now =>
    split at hstep
    · exact hfailed hstep
    rename_i res db' hok
    by_cases hnew : s.db.records.get? requestId = none
    · have hinv := h.preConsume hnew hok
      split at hstep
      next hid =>
        cases hstep
        simpa only [if_pos hid.1] using hinv
      rename_i hother
      cases hstep
      have hid : ¬ res.userSubscriptionId = id := fun hid => hother ⟨hid, hnew⟩
      simpa only [if_neg hid] using hinv
    · rw [if_neg (fun hboth => hnew hboth.2)] at hstep
      cases hstep
      obtain rfl := preConsume_repeated hnew hok
      exact h.reset hrow rfl hrow fun _ => rfl
  | postConsume requestId delta =>
    split at hstep
    · exact hfailed hstep
    rename_i db' hok
    cases hstep
    obtain ⟨hrecords, row', hrow', hused⟩ := postConsume_row hok hrow
    rw [if_pos rfl] at hused
    exact h.move requestId hrow (fun r hr => hrecords ▸ hr) hrow' hused
  | refund requestId =>
    split at hstep
    · exact hfailed hstep
    rename_i db' hok
    cases hstep
    obtain ⟨hrecords, row', hrow', hused⟩ := refund_row hok hrow
    exact h.move requestId hrow hrecords hrow' (by omega)
  | resetDue now =>
    split at hstep
    · exact hfailed hstep
    rename_i db' hok
    cases hstep
    obtain ⟨hrecords, row', hrow', hkept⟩ := resetDue_row hok hrow
    exact h.reset hrow hrecords hrow' hkept
  | adminResetUser userId planId now advanceResetTime | adminResetPlan planId now advanceResetTime =>
    split at hstep
    · exact hfailed hstep
    rename_i db' hok
    cases hstep
    simp only [adminResetUserSubscriptionsByPlan, adminResetPlanSubscriptions] at hok
    split at hok
    · cases hok
    unfold adminResetSubscriptions at hok
    split at hok
    · cases hok
    rename_i plan hplan
    have hplanId : plan.id = planId := key_of_get? hplan
    split at hok
    · cases hok
    cases hok
    refine h.reset hrow rfl (by rw [Table.get?_updateAll, hrow]; rfl) ?_
    intro hnot
    simp only [adminResetApplied, hrow, any_some, ← hplanId] at hnot
    rw [adminResetRow, if_neg (by simp [hnot])]

end

end UsageInv

/-! ## Runs -/

/-- After every run of a subscription, its used amount is at least the current net charges of the
requests pre-consumed since the last reset, less what was returned since that reset on behalf of
requests from before it. -/
theorem usage_covers_charges_since_reset (cal : Calendar) (id : Nat) (db : SubscriptionDB)
    (row : UserSubscription) (labels : List UsageLabel) (s : UsageState)
    (hrow : db.subs.get? id = some row)
    (hrun : run (usageStep cal id) { db := db, ledger := .start } labels = some s) :
    ∃ row, s.db.subs.get? id = some row ∧
      s.ledger.charged - s.ledger.returned ≤ row.amountUsed := by
  have hinv := run_invariant' (UsageInv id) (fun s l s' h => h.step l)
    (UsageInv.initial hrow) hrun
  exact hinv.covered

/-- An unused subscription of user `1`, with its plan. -/
def unusedDB : SubscriptionDB where
  plans := Table.empty.save
    { id := 1, title := "standard", durationUnit := .month, durationValue := 1, customSeconds := 0,
      allowWalletOverflow := none, maxPurchasePerUser := 0, upgradeGroup := "",
      downgradeGroup := "", totalAmount := 1000, quotaResetPeriod := .monthly,
      quotaResetCustomSeconds := 0 }
  subs := Table.empty.save
    { id := 1, userId := 1, planId := 1, amountTotal := 1000, amountUsed := 0, startTime := 100,
      endTime := 5000000, status := .active, lastResetTime := 100, nextResetTime := 2592100,
      upgradeGroup := "", prevUserGroup := "", downgradeGroup := "", allowWalletOverflow := true,
      id_pos := Nat.one_pos }
  records := Table.empty

/-- "a" is charged 100, the reset comes, "b" is charged 50 and settles at 80, and "a" is refunded:
its 100 are all that can be missing. -/
theorem usage_covers_charges_since_reset_straddled :
    ∃ s row, run (usageStep plainCalendar 1) { db := unusedDB, ledger := .start }
        [.preConsume "a" 1 100 200, .resetDue 2592200, .preConsume "b" 1 50 2592300,
          .postConsume "b" 30, .refund "a"] = some s ∧
      s.db.subs.get? 1 = some row ∧ s.ledger.charged = 80 ∧ s.ledger.returned = 100 ∧
      s.ledger.charged - s.ledger.returned ≤ row.amountUsed := by
  obtain ⟨row, hrow, hle⟩ := usage_covers_charges_since_reset plainCalendar 1 unusedDB _
    [.preConsume "a" 1 100 200, .resetDue 2592200, .preConsume "b" 1 50 2592300,
      .postConsume "b" 30, .refund "a"] _ rfl rfl
  exact ⟨_, row, rfl, hrow, rfl, rfl, hle⟩

/-- A refund that arrives after a reset erases what was charged since: "b" is charged 50 after the
reset, and the refund of "a" leaves a used amount of 0. -/
theorem late_refund_erases_usage :
    ∃ s row, run (usageStep plainCalendar 1) { db := unusedDB, ledger := .start }
        [.preConsume "a" 1 100 200, .adminResetPlan 1 300 false, .preConsume "b" 1 50 400,
          .refund "a"] = some s ∧
      s.db.subs.get? 1 = some row ∧ s.ledger.charged = 50 ∧ row.amountUsed = 0 :=
  ⟨_, _, rfl, rfl, rfl, rfl⟩

end NewApi.Model
