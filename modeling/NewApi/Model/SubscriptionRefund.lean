import NewApi.Utils.Pool
import NewApi.Utils.Runs
import NewApi.Model.SubscriptionTheorems

/-!
# Refunds of a pre-consumption under failures

`RefundSubscriptionPreConsume` locks the record of a request, lowers the used amount and marks the
record. The lowering is done by `PostConsumeUserSubscriptionDelta`, which opens a transaction of
its own: it commits before the outer transaction does. Here the statements of an attempt are
separate steps, each of which can fail, and any number of attempts run at once; the row lock on
the record makes an attempt wait until the holder has committed or rolled back.

Everybody else who moves the used amount of the subscription (other requests, settlements, quota
resets) does so between these steps.
-/

namespace NewApi.Model

open Runs Pool List

/-! ## Attempts -/

/-- Where an attempt stands; from `locked` on it holds the record's row lock. -/
inductive RefundPc
  | start
  /-- the record is locked and says `consumed`: `PostConsumeUserSubscriptionDelta` is next -/
  | locked (record : PreConsumeRecord)
  /-- the record is about to be saved as `refunded` and the outer transaction committed -/
  | marking (record : PreConsumeRecord)
  | returned (ok : Bool)
deriving DecidableEq

def RefundPc.holdsLock : RefundPc → Bool
  | .locked _ => true
  | .marking _ => true
  | _ => false

def startRefund (requestId : String) : RefundPc :=
  if trimSpace requestId = "" then .returned false else .start

/-- The next step of an attempt. `ok` says whether the statement, and the commit of the
transaction it ends, succeeds; an outer transaction that fails is rolled back, which releases the
lock and leaves the record, but not the used amount, as it was. -/
def refundStep (db : SubscriptionDB) (requestId : String) (ok : Bool) :
    RefundPc → Option (SubscriptionDB × RefundPc)
  | .start =>
    if ok = false then some (db, .returned false)
    else
      match db.records.get? requestId with
      | none => some (db, .returned false)
      | some record =>
        if record.status = .refunded then some (db, .returned true)
        else if record.preConsumed ≤ 0 then some (db, .marking record)
        else some (db, .locked record)
  | .locked record =>
    if ok = false then some (db, .returned false)
    else
      match postConsumeUserSubscriptionDelta db record.userSubscriptionId (-record.preConsumed) with
      | .error _ => some (db, .returned false)
      | .ok db' => some (db', .marking record)
  | .marking record =>
    if ok = false then some (db, .returned false)
    else
      some ({ db with records := db.records.save { record with status := .refunded } },
        .returned true)
  | .returned _ => none

/-! ## The system -/

/-- The used amount of a subscription, `0` without one. -/
def usedAmount (db : SubscriptionDB) (id : Nat) : Nat :=
  ((db.subs.get? id).map UserSubscription.amountUsed).getD 0

/-- The tables, the attempts for one request, and the used amount before and after each decrement
that was committed on its behalf. -/
structure RefundState where
  db : SubscriptionDB
  attempts : List RefundPc
  decrements : List (Nat × Nat)

def RefundState.initial (db : SubscriptionDB) : RefundState where
  db := db
  attempts := []
  decrements := []

/-- The total subtracted from the used amount on behalf of the request. -/
def RefundState.subtracted (s : RefundState) : Int :=
  (s.decrements.map fun d => (d.1 : Int) - d.2).sum

inductive RefundLabel
  | attempt
  | step (i : Nat) (ok : Bool)
  /-- somebody else moves the used amount of a subscription -/
  | usage (id used : Nat)
deriving DecidableEq

/-- The decrement an attempt has committed with the step from `pc` to `pc'`. -/
def committedDecrement (db db' : SubscriptionDB) : RefundPc → RefundPc → List (Nat × Nat)
  | .locked record, .marking _ =>
    [(usedAmount db record.userSubscriptionId, usedAmount db' record.userSubscriptionId)]
  | _, _ => []

def refundSystemStep (requestId : String) (s : RefundState) : RefundLabel → Option RefundState
  | .attempt => some { s with attempts := s.attempts ++ [startRefund requestId] }
  | .step i ok =>
    match s.attempts[i]? with
    | none => none
    | some pc =>
      -- an attempt that has not got the lock yet waits for its holder, or gives up
      if pc = .start ∧ ok = true ∧ s.attempts.any RefundPc.holdsLock then none
      else
        match refundStep s.db requestId ok pc with
        | none => none
        | some (db', pc') =>
          some
            { db := db'
              attempts := s.attempts.set i pc'
              decrements := s.decrements ++ committedDecrement s.db db' pc pc' }
  | .usage id used =>
    match s.db.subs.get? id with
    | none => none
    | some sub =>
      some { s with db := { s.db with subs := s.db.subs.save { sub with amountUsed := used } } }

/-! ## A call without failures -/

/-- An attempt that meets no failure and no other attempt is `refundSubscriptionPreConsume`. -/
theorem refund_alone (db : SubscriptionDB) (requestId : String) :
    ∃ n db' ok,
      run (fun p _ => refundStep p.1 requestId true p.2) (db, startRefund requestId)
        (List.replicate n ()) = some (db', .returned ok) ∧
      (match refundSubscriptionPreConsume db requestId with
        | .ok db'' => ok = true ∧ db' = db''
        | .error _ => ok = false ∧ db' = db) := by
  unfold refundSubscriptionPreConsume
  by_cases hempty : trimSpace requestId = ""
  · exact ⟨0, db, false, by simp [startRefund, hempty], by simp [hempty]⟩
  rcases hrec : db.records.get? requestId with - | record
  · exact ⟨1, db, false, by simp [run, startRefund, refundStep, hempty, hrec], by simp [hempty]⟩
  by_cases hrefunded : record.status = .refunded
  · refine ⟨1, db, true, ?_, by simp [hempty, hrefunded]⟩
    simp [run, startRefund, refundStep, hempty, hrec, hrefunded]
  by_cases hpos : record.preConsumed ≤ 0
  · refine ⟨2, _, true, ?_, by simp [hempty, hrefunded, hpos]; rfl⟩
    simp [run, startRefund, refundStep, hempty, hrec, hrefunded, hpos]
  rcases hpost : postConsumeUserSubscriptionDelta db record.userSubscriptionId
    (-record.preConsumed) with e | db'
  · refine ⟨2, db, false, ?_, by simp [hempty, hrefunded, hpos, hpost]⟩
    simp [run, startRefund, refundStep, hempty, hrec, hrefunded, hpos, hpost]
  · refine ⟨3, _, true, ?_, by simp [hempty, hrefunded, hpos, hpost]; rfl⟩
    simp [run, startRefund, refundStep, hempty, hrec, hrefunded, hpos, hpost]

/-! ## The invariant -/

/-- An attempt whose decrement is committed and whose record is not marked yet. -/
def RefundPc.isDecremented : RefundPc → Bool
  | .marking record => 0 < record.preConsumed
  | _ => false

/-- No outer transaction fails after the decrement inside it was committed. -/
def MarkingCommits (s : RefundState) : RefundLabel → Prop
  | .step i ok => ∀ pc ∈ s.attempts[i]?, pc.isDecremented = true → ok = true
  | _ => True

instance (s : RefundState) : ∀ l, Decidable (MarkingCommits s l)
  | .step _ _ => inferInstanceAs (Decidable (∀ _ ∈ _, _ = true → _ = true))
  | .attempt => isTrue trivial
  | .usage _ _ => isTrue trivial

/-- The used amount before and after one decrement by `amount`, floored at zero. -/
def OneDecrement (amount : Int) (decrements : List (Nat × Nat)) : Prop :=
  ∃ used : Nat, decrements = [(used, (used - amount).toNat)]

/-- How far the refund of `record` has come; the index is the attempt that holds the row lock. -/
inductive RefundStage (requestId : String) (record : PreConsumeRecord) (s : RefundState) :
    Option RefundPc → Prop
  | untouched (row : s.db.records.get? requestId = some record) (none_ : s.decrements = []) :
      RefundStage requestId record s none
  | locked (row : s.db.records.get? requestId = some record) (none_ : s.decrements = []) :
      RefundStage requestId record s (some (.locked record))
  | decremented (row : s.db.records.get? requestId = some record)
      (one : OneDecrement record.preConsumed s.decrements) :
      RefundStage requestId record s (some (.marking record))
  | refunded (row : s.db.records.get? requestId = some { record with status := .refunded })
      (one : OneDecrement record.preConsumed s.decrements) : RefundStage requestId record s none

structure RefundInv (requestId : String) (record : PreConsumeRecord) (s : RefundState) :
    Prop where
  stage : ∃ holder, RefundStage requestId record s holder ∧
    Sole (fun pc => pc.holdsLock = true) s.attempts holder
  /-- an attempt that returned nil has found or left the record marked -/
  returned : .returned true ∈ s.attempts →
    s.db.records.get? requestId = some { record with status := .refunded }

@[simp] lemma committedDecrement_returned (db db' : SubscriptionDB) (pc : RefundPc) (ok : Bool) :
    committedDecrement db db' pc (.returned ok) = [] := by
  cases pc <;> rfl

variable {db' : SubscriptionDB}

lemma postConsume_eq {db : SubscriptionDB} {id : Nat} {delta : Int} (hdelta : delta ≠ 0)
    (h : postConsumeUserSubscriptionDelta db id delta = .ok db') :
    db'.records = db.records ∧
      usedAmount db' id = ((usedAmount db id : Int) + delta).toNat := by
  unfold postConsumeUserSubscriptionDelta at h
  rw [if_neg hdelta] at h
  split at h
  · cases h
  split at h
  · cases h
  rename_i sub hsub
  dsimp only at h
  split at h
  · cases h
  cases h
  have hkey := Table.key_of_get? hsub
  refine ⟨rfl, ?_⟩
  simp [usedAmount, hsub, hkey]

section
variable {requestId : String} {record : PreConsumeRecord} {s : RefundState} {i : Nat}
  {pc pc' : RefundPc} {holder : Option RefundPc} {r : PreConsumeRecord}

/-- A stage is about the records and the decrements only. -/
lemma RefundStage.frame (h : RefundStage requestId record s holder) {s' : RefundState}
    (hrecords : s'.db.records = s.db.records) (hdecrements : s'.decrements = s.decrements) :
    RefundStage requestId record s' holder := by
  cases h with
  | untouched hrow hnone => exact .untouched (hrecords ▸ hrow) (hdecrements ▸ hnone)
  | locked hrow hnone => exact .locked (hrecords ▸ hrow) (hdecrements ▸ hnone)
  | decremented hrow hone => exact .decremented (hrecords ▸ hrow) (hdecrements ▸ hone)
  | refunded hrow hone => exact .refunded (hrecords ▸ hrow) (hdecrements ▸ hone)

section
variable (h : RefundInv requestId record s)
include h

/-- An attempt without the lock moves without touching the tables. -/
lemma RefundInv.set_idle (hpc : s.attempts[i]? = some pc)
    (hidle : pc.holdsLock = false) (hidle' : pc'.holdsLock = false)
    (hreturned : pc' = .returned true →
      s.db.records.get? requestId = some { record with status := .refunded }) :
    RefundInv requestId record { s with attempts := s.attempts.set i pc' } := by
  obtain ⟨holder, hstage, hsole⟩ := h.stage
  refine ⟨⟨holder, hstage.frame rfl rfl, ?_⟩, ?_⟩
  · exact hsole.set_idle hpc (by simp [hidle]) (by simp [hidle'])
  · intro hmem
    rcases mem_or_eq_of_mem_set hmem with hold | hnew
    · exact h.returned hold
    · exact hreturned hnew.symm

section
variable (hconsumed : record.status = .consumed)
include hconsumed

/-- As long as the record is not marked, nobody has returned nil. -/
lemma RefundInv.not_returned
    (hrow : s.db.records.get? requestId = some record) : .returned true ∉ s.attempts := by
  intro hmem
  have hsame := Option.some.inj (hrow.symm.trans (h.returned hmem))
  rw [hsame] at hconsumed
  cases hconsumed

/-- The holder of the lock gives up: the outer transaction is rolled back before any decrement. -/
lemma RefundInv.rollback
    (hpc : s.attempts[i]? = some (.locked r)) :
    RefundInv requestId record { s with attempts := s.attempts.set i (.returned false) } := by
  obtain ⟨holder, hstage, hsole⟩ := h.stage
  obtain rfl := hsole.eq hpc rfl
  cases hstage with
  | locked hrow hnone =>
    refine ⟨⟨none, .untouched hrow hnone, hsole.release hpc (by simp [RefundPc.holdsLock])⟩, ?_⟩
    intro hmem
    rcases mem_or_eq_of_mem_set hmem with hold | hnew
    · exact absurd hold (h.not_returned hconsumed hrow)
    · cases hnew

/-- The attempt that holds the lock commits the decrement. -/
lemma RefundInv.decrement
    (hpos : 0 < record.preConsumed) (hpc : s.attempts[i]? = some (.locked r))
    (hpost : postConsumeUserSubscriptionDelta s.db r.userSubscriptionId (-r.preConsumed) =
      .ok db') :
    RefundInv requestId record
      { db := db'
        attempts := s.attempts.set i (.marking r)
        decrements := s.decrements ++ committedDecrement s.db db' (.locked r) (.marking r) } := by
  obtain ⟨holder, hstage, hsole⟩ := h.stage
  obtain rfl := hsole.eq hpc rfl
  cases hstage with
  | locked hrow hnone =>
    obtain ⟨hrecords, hused⟩ := postConsume_eq (by omega) hpost
    refine ⟨⟨_, .decremented ?_ ?_, hsole.keep hpc rfl⟩, ?_⟩
    · show db'.records.get? requestId = some record
      rw [hrecords]
      exact hrow
    · refine ⟨usedAmount s.db record.userSubscriptionId, ?_⟩
      show s.decrements ++ [(_, _)] = _
      rw [hnone, hused, ← sub_eq_add_neg]
      rfl
    · intro hmem
      rcases mem_or_eq_of_mem_set hmem with hold | hnew
      · exact absurd hold (h.not_returned hconsumed hrow)
      · cases hnew

end

/-- The attempt that holds the lock marks the record and commits. -/
lemma RefundInv.mark (hpc : s.attempts[i]? = some (.marking r)) :
    RefundInv requestId record
      { s with
        db := { s.db with records := s.db.records.save { r with status := .refunded } }
        attempts := s.attempts.set i (.returned true) } := by
  obtain ⟨holder, hstage, hsole⟩ := h.stage
  obtain rfl := hsole.eq hpc rfl
  cases hstage with
  | decremented hrow hone =>
    have hkey := Table.key_of_get? hrow
    have hrow' : (s.db.records.save { record with status := .refunded }).get? requestId =
        some { record with status := .refunded } := by
      rw [Table.get?_save, if_pos hkey]
    exact ⟨⟨none, .refunded hrow' hone, hsole.release hpc (by simp [RefundPc.holdsLock])⟩,
      fun _ => hrow'⟩

lemma RefundInv.marking_eq
    (hpc : s.attempts[i]? = some (.marking r)) : r = record := by
  obtain ⟨holder, hstage, hsole⟩ := h.stage
  obtain rfl := hsole.eq hpc rfl
  cases hstage
  rfl

/-- An attempt that gets the lock reads the record. -/
lemma RefundInv.lock (hconsumed : record.status = .consumed)
    (hpos : 0 < record.preConsumed) (hpc : s.attempts[i]? = some .start)
    (hfree : s.attempts.any RefundPc.holdsLock = false)
    (hstep : refundStep s.db requestId true .start = some (db', pc')) :
    RefundInv requestId record { s with db := db', attempts := s.attempts.set i pc' } := by
  obtain ⟨holder, hstage, hsole⟩ := h.stage
  rcases holder with - | x
  swap
  · -- somebody would be found with the lock
    obtain ⟨hlock, j, hj, -⟩ := hsole
    have hall := any_eq_false.mp hfree x (mem_of_getElem? hj)
    exact absurd hlock hall
  cases hstage with
  | untouched hrow hnone =>
    have hstatus : record.status ≠ .refunded := by simp [hconsumed]
    have hnot : ¬ record.preConsumed ≤ 0 := by omega
    simp only [refundStep, hrow, if_neg hstatus, if_neg hnot, Bool.true_eq_false, if_false] at hstep
    cases hstep
    refine ⟨⟨_, .locked hrow hnone, hsole.take hpc rfl⟩, ?_⟩
    intro hmem
    rcases mem_or_eq_of_mem_set hmem with hold | hnew
    · exact absurd hold (h.not_returned hconsumed hrow)
    · cases hnew
  | refunded hrow hone =>
    simp only [refundStep, hrow, if_true, Bool.true_eq_false, if_false] at hstep
    cases hstep
    exact h.set_idle hpc rfl rfl fun _ => hrow

lemma refundSystemStep_inv
    (hconsumed : record.status = .consumed) (hpos : 0 < record.preConsumed) (l : RefundLabel)
    (hok : MarkingCommits s l) {s' : RefundState}
    (hstep : refundSystemStep requestId s l = some s') : RefundInv requestId record s' := by
  cases l with
  | attempt =>
    cases hstep
    have hidle : (startRefund requestId).holdsLock = false ∧
        startRefund requestId ≠ .returned true := by
      unfold startRefund
      split <;> simp [RefundPc.holdsLock]
    obtain ⟨holder, hstage, hsole⟩ := h.stage
    refine ⟨⟨holder, hstage.frame rfl rfl, hsole.snoc (by simp [hidle.1])⟩, ?_⟩
    intro hmem
    rcases mem_append.mp hmem with hold | hnew
    · exact h.returned hold
    · exact absurd (mem_singleton.mp hnew).symm hidle.2
  | usage id used =>
    simp only [refundSystemStep] at hstep
    split at hstep
    · cases hstep
    cases hstep
    obtain ⟨holder, hstage, hsole⟩ := h.stage
    exact ⟨⟨holder, hstage.frame rfl rfl, hsole⟩, h.returned⟩
  | step i ok =>
    simp only [refundSystemStep] at hstep
    split at hstep
    · cases hstep
    rename_i pc hpc
    split at hstep
    · cases hstep
    rename_i hwait
    split at hstep
    · cases hstep
    rename_i db' pc' hmove
    cases hstep
    cases pc with
    | start =>
      have hnodec : committedDecrement s.db db' .start pc' = [] := rfl
      rw [hnodec, append_nil]
      cases ok with
      | false =>
        cases hmove
        exact h.set_idle hpc rfl rfl (by simp)
      | true =>
        refine h.lock hconsumed hpos hpc ?_ hmove
        rw [← Bool.not_eq_true]
        intro hany
        exact hwait ⟨rfl, rfl, hany⟩
    | locked r =>
      simp only [refundStep] at hmove
      split at hmove
      · cases hmove
        rw [committedDecrement_returned, append_nil]
        exact h.rollback hconsumed hpc
      split at hmove
      · cases hmove
        rw [committedDecrement_returned, append_nil]
        exact h.rollback hconsumed hpc
      next hpost =>
        cases hmove
        exact h.decrement hconsumed hpos hpc hpost
    | marking r =>
      have hnodec : committedDecrement s.db db' (.marking r) pc' = [] := rfl
      rw [hnodec, append_nil]
      simp only [refundStep] at hmove
      split at hmove
      next hfails =>
        -- excluded: the decrement is committed and the outer transaction fails
        have hdec : (RefundPc.marking r).isDecremented = true := by
          simpa [RefundPc.isDecremented, h.marking_eq hpc] using hpos
        cases (hok _ hpc hdec).symm.trans hfails
      · cases hmove
        exact h.mark hpc
    | returned ok' => cases hmove

end

end

/-! ## Runs -/

/-- One decrement takes the amount, or all that was used if that is less. -/
lemma OneDecrement.subtracted {amount : Int} {s : RefundState} {used : Nat}
    (h : s.decrements = [(used, (used - amount).toNat)]) :
    s.subtracted = min (used : Int) amount := by
  simp only [RefundState.subtracted, h, map_cons, map_nil, sum_cons, sum_nil]
  omega

/-- Refunds are exactly once: in a run in which no outer transaction fails after its decrement was
committed, the attempts for one request together never subtract more than was pre-consumed, and as
soon as one of them returned nil, the used amount has been lowered once, by that amount or to
zero. -/
theorem refund_exactly_once (db : SubscriptionDB) (requestId : String) (record : PreConsumeRecord)
    (ls : List RefundLabel) (s : RefundState) (hrec : db.records.get? requestId = some record)
    (hconsumed : record.status = .consumed) (hpos : 0 < record.preConsumed)
    (hok : Along (refundSystemStep requestId) MarkingCommits (.initial db) ls)
    (hrun : run (refundSystemStep requestId) (.initial db) ls = some s) :
    s.subtracted ≤ record.preConsumed ∧
      (.returned true ∈ s.attempts → ∃ used : Nat,
        s.decrements = [(used, (used - record.preConsumed).toNat)] ∧
        s.subtracted = min (used : Int) record.preConsumed) := by
  have hinv : RefundInv requestId record s :=
    run_invariant (RefundInv requestId record)
      (fun _ l _ h hl hstep => refundSystemStep_inv h hconsumed hpos l hl hstep)
      ⟨⟨none, .untouched hrec rfl, by simp [Sole, RefundState.initial]⟩,
        by simp [RefundState.initial]⟩ hok hrun
  obtain ⟨holder, hstage, -⟩ := hinv.stage
  have hzero : s.decrements = [] → s.subtracted ≤ record.preConsumed := by
    intro hnone
    simp only [RefundState.subtracted, hnone, map_nil, sum_nil]
    omega
  have hone : OneDecrement record.preConsumed s.decrements → ∃ used : Nat,
      s.decrements = [(used, (used - record.preConsumed).toNat)] ∧
      s.subtracted = min (used : Int) record.preConsumed := by
    rintro ⟨used, hdec⟩
    exact ⟨used, hdec, OneDecrement.subtracted hdec⟩
  cases hstage with
  | untouched hrow hnone | locked hrow hnone =>
    exact ⟨hzero hnone, fun hmem => absurd hmem (hinv.not_returned hconsumed hrow)⟩
  | decremented hrow h =>
    obtain ⟨used, -, hsub⟩ := hone h
    refine ⟨?_, fun hmem => absurd hmem (hinv.not_returned hconsumed hrow)⟩
    rw [hsub]
    exact min_le_right _ _
  | refunded hrow h =>
    refine ⟨?_, fun _ => hone h⟩
    obtain ⟨used, -, hsub⟩ := hone h
    rw [hsub]
    exact min_le_right _ _

/-- A subscription that has used 150, of which the request "r" pre-consumed 100. -/
def usedDB : SubscriptionDB where
  plans := Table.empty
  subs := Table.empty.save
    { id := 1, userId := 1, planId := 1, amountTotal := 0, amountUsed := 150, startTime := 0,
      endTime := 1000, status := .active, lastResetTime := 0, nextResetTime := 0,
      upgradeGroup := "", prevUserGroup := "", downgradeGroup := "", allowWalletOverflow := true,
      id_pos := Nat.one_pos }
  records := Table.empty.save
    { requestId := "r", userId := 1, userSubscriptionId := 1, preConsumed := 100,
      status := .consumed }

/-- Two attempts at once, the first of which fails before its decrement: 100 are returned once. -/
theorem refund_exactly_once_retried :
    ∃ s, run (refundSystemStep "r") (.initial usedDB)
        [.attempt, .attempt, .step 0 true, .step 0 false, .step 1 true, .step 1 true,
          .step 1 true] = some s ∧
      s.subtracted ≤ 100 ∧ usedAmount s.db 1 = 50 := by
  have h := refund_exactly_once usedDB "r"
    { requestId := "r", userId := 1, userSubscriptionId := 1, preConsumed := 100,
      status := .consumed }
    [.attempt, .attempt, .step 0 true, .step 0 false, .step 1 true, .step 1 true, .step 1 true]
    _ rfl rfl (by decide) (by decide) rfl
  exact ⟨_, rfl, h.1, rfl⟩

/-- The outer transaction of the first attempt fails after the decrement inside it was committed,
and the retry decrements again: 150 are returned for 100. -/
theorem refund_retried_after_decrement :
    ∃ s, run (refundSystemStep "r") (.initial usedDB)
        [.attempt, .step 0 true, .step 0 true, .step 0 false, .attempt, .step 1 true, .step 1 true,
          .step 1 true] = some s ∧
      ¬ s.subtracted ≤ 100 ∧ usedAmount s.db 1 = 0 :=
  ⟨_, rfl, by decide, rfl⟩

end NewApi.Model
