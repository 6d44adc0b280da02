import NewApi.Service.TaskPollingTheorems

/-!
# The recorded quota of a task and what it was charged

The quota column of a task is written in two ways: `UpdateQuota` writes it after funds were moved,
and every guarded update of the whole row writes the quota of the copy it was made from. Here the
system of `TaskPolling` runs next to a ledger of the funds that were moved for the task, and the
column is compared with it.

A task of the old system is a case of its own: the sweep clears its quota and keeps its charge.
-/

namespace NewApi.Service

open Runs Pool TaskState

/-! ## The ledger -/

/-- What the next billing step of a worker charges to the funding source; negative amounts are
returned. -/
def Worker.netCharge (billing : TaskBilling) (w : Worker) : Int :=
  match w.pc with
  | .settle u =>
    match settleTaskBillingOnComplete billing w.task.status u with
    | .settled actualQuota =>
      match actualQuota.bind (recalculateTaskQuota u w.task.quota) with
      | some quota => quota - w.task.quota
      | none => 0
    | .declined => 0
  | .refund => -w.task.quota
  | _ => 0

/-- `isLegacy` of the sweep. -/
def TaskRow.isLegacy (t : TaskRow) : Bool :=
  0 < t.submitTime && t.submitTime < taskRefundLegacyCutoff

/-- The quota that the sweep clears without a refund when it fails the task with the copy `t`. -/
def clearedBySweep (row t : TaskRow) : Int :=
  if row.status = t.status ∧ t.isLegacy then t.quota else 0

/-- The system, the net amount charged to the funding source since submission, and the part of it
that the sweep has taken off the books. -/
structure ChargedTask where
  task : TaskState
  charged : Int
  kept : Int
  deriving DecidableEq

/-- Submission has charged what it records. -/
def ChargedTask.submitted (row : TaskRow) : ChargedTask where
  task := .submitted row
  charged := row.quota
  kept := 0

/-- The moves of the system, and calls of the completion settlement and of `RefundTaskQuota` on a
copy read for that call alone. -/
inductive ChargeLabel
  | task (l : TaskLabel)
  | settle (usage : TaskUsage)
  | refund
  deriving DecidableEq

/-- The funds that a move of the system charges, and the quota it takes off the books. -/
def ledgerOf (billing : TaskBilling) (s : TaskState) : TaskLabel → Int × Int
  | .bill i =>
    match s.workers[i]? with
    | some w => (w.netCharge billing, 0)
    | none => (0, 0)
  | .sweep i _ =>
    match s.workers[i]? with
    | some w => (0, clearedBySweep s.row w.task)
    | none => (0, 0)
  | _ => (0, 0)

/-- A worker joins with a copy of the row. -/
def ChargedTask.join (s : ChargedTask) (pc : WorkerPc) : ChargedTask :=
  { s with task := { s.task with workers := s.task.workers ++ [⟨s.task.row, pc⟩] } }

def chargeStep (billing : TaskBilling) (s : ChargedTask) : ChargeLabel → Option ChargedTask
  | .task l =>
    (taskStep billing s.task l).map fun task' =>
      { task := task'
        charged := s.charged + (ledgerOf billing s.task l).1
        kept := s.kept + (ledgerOf billing s.task l).2 }
  | .settle usage => some (s.join (.settle usage))
  | .refund => if s.task.row.quota = 0 then some s else some (s.join .refund)

/-! ## Copies that are up to date -/

/-- Nobody is between moving funds and recording it. -/
def TaskState.Recorded (s : TaskState) : Prop := ∀ w ∈ s.workers, w.pc ≠ .updateQuota

instance (s : TaskState) : Decidable s.Recorded :=
  inferInstanceAs (Decidable (∀ w ∈ s.workers, w.pc ≠ .updateQuota))

/-- A copy shows the quota of the row. -/
def TaskState.Current (s : TaskState) (w : Worker) : Prop := w.task.quota = s.row.quota

instance (s : TaskState) (w : Worker) : Decidable (s.Current w) :=
  inferInstanceAs (Decidable (_ = _))

/-- The moves that work on a quota that is still the recorded one: an update of the whole row that
meets the status it expects, and a settlement or refund that is about to move funds. While someone
else is about to record a quota, updates of the row may write any: it is overwritten. -/
def CurrentQuota (billing : TaskBilling) (s : ChargedTask) : ChargeLabel → Prop
  | .task (.video i _) => ∀ w ∈ s.task.workers[i]?,
      w.task.status = s.task.row.status → s.task.Recorded → s.task.Current w
  | .task (.batch i _) => ∀ w ∈ s.task.workers[i]?,
      w.task.status = s.task.row.status → s.task.Recorded → s.task.Current w
  | .task (.fetch i _ _) => ∀ w ∈ s.task.workers[i]?,
      w.task.status = s.task.row.status → s.task.Recorded → s.task.Current w
  | .task (.sweep i _) => ∀ w ∈ s.task.workers[i]?,
      w.task.status = s.task.row.status → s.task.Recorded ∧ s.task.Current w
  | .task (.bill i) => ∀ w ∈ s.task.workers[i]?,
      w.netCharge billing ≠ 0 → s.task.Recorded ∧ s.task.Current w
  | _ => True

instance (billing : TaskBilling) (s : ChargedTask) : ∀ l, Decidable (CurrentQuota billing s l)
  | .task (.video _ _) => inferInstanceAs (Decidable (∀ _ ∈ _, _ → _ → _))
  | .task (.batch _ _) => inferInstanceAs (Decidable (∀ _ ∈ _, _ → _ → _))
  | .task (.fetch _ _ _) => inferInstanceAs (Decidable (∀ _ ∈ _, _ → _ → _))
  | .task (.sweep _ _) => inferInstanceAs (Decidable (∀ _ ∈ _, _ → _ ∧ _))
  | .task (.bill _) => inferInstanceAs (Decidable (∀ _ ∈ _, _ → _ ∧ _))
  | .task .load => isTrue trivial
  | .task .loadFetch => isTrue trivial
  | .task (.bulkFail _ _) => isTrue trivial
  | .settle _ => isTrue trivial
  | .refund => isTrue trivial

/-! ## What a move writes to the quota column -/

/-- A move that keeps the quota column or replaces it by the quota of the copy, and moves no
funds. -/
structure WritesCopy (row t : TaskRow) (r : TaskRow × Worker) : Prop where
  quota : r.1.quota = row.quota ∨ row.status = t.status ∧ r.1.quota = t.quota
  pc : r.2.pc ≠ .updateQuota
  refund : r.2.pc ≠ .refund

section
variable {row t t' : TaskRow} {p : Poll} {pc : WorkerPc}

lemma updateThen_writesCopy (hquota : t'.quota = t.quota) (hpc : pc ≠ .updateQuota)
    (hrefund : pc ≠ .refund) : WritesCopy row t (updateThen row t' t.status pc) := by
  by_cases h : row.status = t.status
  · rw [updateThen_of_eq h]
    exact ⟨.inr ⟨h, hquota⟩, hpc, hrefund⟩
  · rw [updateThen_of_ne h]
    exact ⟨.inl rfl, by simp, by simp⟩

lemma failTaskFromPoll_writesCopy (hquota : t'.quota = t.quota) :
    WritesCopy row t (failTaskFromPoll p row t' t.status) := by
  unfold failTaskFromPoll
  apply updateThen_writesCopy
  · exact hquota
  · simp
  · simp

lemma recordPollFailure_writesCopy : WritesCopy row t (recordPollFailure p row t t.status) := by
  unfold recordPollFailure
  dsimp only
  split
  · exact failTaskFromPoll_writesCopy rfl
  · exact updateThen_writesCopy rfl (by simp) (by simp)

lemma pollTask_writesCopy {accept : TaskInfo → TaskRow × Worker}
    (haccept : ∀ info, WritesCopy row t (accept info)) :
    WritesCopy row t (pollTask accept p row t) := by
  unfold pollTask
  split
  · exact recordPollFailure_writesCopy
  split
  · exact failTaskFromPoll_writesCopy rfl
  · exact recordPollFailure_writesCopy
  · exact recordPollFailure_writesCopy
  · exact recordPollFailure_writesCopy
  split
  · exact recordPollFailure_writesCopy
  split
  · exact recordPollFailure_writesCopy
  · exact haccept _

/-- A guarded update whose outcome is not looked at. -/
lemma updateWithStatus_writesCopy (hquota : t'.quota = t.quota) (hpc : pc ≠ .updateQuota)
    (hrefund : pc ≠ .refund) :
    WritesCopy row t ((updateWithStatus row t' t.status).2, ⟨t', pc⟩) := by
  unfold updateWithStatus
  split
  next h => exact ⟨.inr ⟨h, hquota⟩, hpc, hrefund⟩
  next => exact ⟨.inl rfl, hpc, hrefund⟩

/-- A result is settled or not. -/
lemma settle_or_loaded (c : Prop) [Decidable c] (u : TaskUsage) :
    (if c then WorkerPc.settle u else .loaded) ≠ .updateQuota ∧
      (if c then WorkerPc.settle u else .loaded) ≠ .refund := by
  split <;> simp

lemma acceptVideoResult_writesCopy (info : TaskInfo) :
    WritesCopy row t (acceptVideoResult p row t info) := by
  unfold acceptVideoResult
  dsimp only
  obtain ⟨hpc, hrefund⟩ := settle_or_loaded (info.status.isDone = true) p.usage
  split
  · exact updateThen_writesCopy rfl hpc hrefund
  split
  · exact updateWithStatus_writesCopy rfl hpc hrefund
  · exact ⟨.inl rfl, hpc, hrefund⟩

lemma acceptBatchResult_writesCopy (info : TaskInfo) :
    WritesCopy row t (acceptBatchResult p row t info) := by
  unfold acceptBatchResult
  apply updateThen_writesCopy
  · rfl
  · exact (settle_or_loaded _ p.usage).1
  · exact (settle_or_loaded _ p.usage).2

lemma tryRealtimeFetch_writesCopy (status : TaskStatus) (content : Nat) :
    WritesCopy row t (tryRealtimeFetch status content row t) := by
  unfold tryRealtimeFetch
  dsimp only
  split
  · exact updateWithStatus_writesCopy rfl (by simp) (by simp)
  · exact ⟨.inl rfl, by simp, by simp⟩

/-- The sweep takes the quota of a task of the old system off the books, and refunds others. -/
lemma sweepTimedOutTask_writes (row t : TaskRow) (content : Nat) :
    (row.status ≠ t.status ∧ sweepTimedOutTask content row t = (row,
      ⟨{ t with
        status := .failure
        quota := if t.isLegacy then 0 else t.quota
        content := content }, .loaded⟩)) ∨
    (row.status = t.status ∧
      (sweepTimedOutTask content row t).1.quota + clearedBySweep row t = t.quota ∧
      (sweepTimedOutTask content row t).2.pc ≠ .updateQuota ∧
      ((sweepTimedOutTask content row t).2.pc = .refund →
        (sweepTimedOutTask content row t).2.task.quota ≠ 0)) := by
  have hlegacy : (0 < t.submitTime ∧ t.submitTime < taskRefundLegacyCutoff) ↔
      t.isLegacy = true := by
    simp [TaskRow.isLegacy]
  unfold sweepTimedOutTask
  simp only [hlegacy]
  by_cases h : row.status = t.status
  · refine .inr ⟨h, ?_⟩
    rw [updateThen_of_eq h]
    by_cases hold : t.isLegacy = true
    · simp [clearedBySweep, h, hold]
    simp only [clearedBySweep, hold, and_false, if_false, Bool.false_eq_true, not_false_eq_true,
      true_and, add_zero]
    split_ifs with hquota
    · exact ⟨by simp, fun _ => hquota⟩
    · simp
  · refine .inl ⟨h, ?_⟩
    rw [updateThen_of_ne h]

end

/-! ## The invariant -/

/-- The books balance: what was charged is what is recorded, or what the one worker that has moved
funds is about to record, and what was taken off the books. -/
structure ChargeInv (s : ChargedTask) : Prop where
  balance : ∃ biller, Sole (fun w : Worker => w.pc = .updateQuota) s.task.workers biller ∧
    s.charged = (match biller with
      | some w => w.task.quota
      | none => s.task.row.quota) + s.kept
  refund : ∀ w ∈ s.task.workers, w.pc = .refund → w.task.quota ≠ 0

section
variable {billing : TaskBilling} {s s' : ChargedTask} {i : Nat} {w w' : Worker} {task' : TaskState}

section
variable (h : ChargeInv s)
include h

/-- Nobody has moved funds without recording it, so the row shows the charge. -/
lemma ChargeInv.recorded (hrec : s.task.Recorded) :
    s.charged = s.task.row.quota + s.kept := by
  obtain ⟨biller, hsole, hbalance⟩ := h.balance
  cases biller with
  | none => exact hbalance
  | some w =>
    obtain ⟨hpc, j, hj, -⟩ := hsole
    exact absurd hpc (hrec w (List.mem_of_getElem? hj))

/-- A worker moves, nobody is charged, and the row keeps its quota unless it is about to be
overwritten. -/
lemma ChargeInv.put (hw : s.task.workers[i]? = some w)
    (hpc : w.pc ≠ .updateQuota) (hpc' : w'.pc ≠ .updateQuota) {row : TaskRow}
    (hquota : s.task.Recorded → row.quota = s.task.row.quota)
    (hrefund : w'.pc = .refund → w'.task.quota ≠ 0) :
    ChargeInv { s with task := { s.task with row := row }.put i w' } where
  balance := by
    obtain ⟨biller, hsole, hbalance⟩ := h.balance
    refine ⟨biller, hsole.set_idle hw hpc hpc', ?_⟩
    cases biller with
    | none =>
      show s.charged = row.quota + s.kept
      rw [hquota hsole]
      exact hbalance
    | some v => exact hbalance
  refund := forall_mem_set h.refund hrefund

lemma ChargeInv.move {pc : WorkerPc} (hpc : pc ≠ .updateQuota)
    {f : TaskRow → TaskRow → TaskRow × Worker} (hf : ∀ row t, WritesCopy row t (f row t))
    (hok : ∀ w ∈ s.task.workers[i]?,
      w.task.status = s.task.row.status → s.task.Recorded → s.task.Current w)
    (hmove : s.task.move i pc f = some task') :
    ChargeInv { s with task := task' } := by
  obtain ⟨w, hw, hwpc, rfl⟩ := move_some hmove
  have hwrites := hf s.task.row w.task
  apply h.put hw (hwpc ▸ hpc) hwrites.pc
  · intro hrec
    rcases hwrites.quota with hsame | ⟨hstatus, hcopy⟩
    · exact hsame
    · exact hcopy.trans (hok w hw hstatus.symm hrec)
  · exact fun hrefund => absurd hrefund hwrites.refund

/-- A worker joins with a fresh copy. -/
lemma ChargeInv.join {pc : WorkerPc} (hpc : pc ≠ .updateQuota)
    (hrefund : pc = .refund → s.task.row.quota ≠ 0) : ChargeInv (s.join pc) where
  balance := by
    obtain ⟨biller, hsole, hbalance⟩ := h.balance
    exact ⟨biller, hsole.snoc hpc, hbalance⟩
  refund := forall_mem_snoc h.refund hrefund

lemma ChargeInv.sweep (content : Nat) (hok : ∀ w ∈ s.task.workers[i]?,
      w.task.status = s.task.row.status → s.task.Recorded ∧ s.task.Current w)
    (hmove : s.task.move i .loaded (sweepTimedOutTask content) = some task') :
    ChargeInv { s with
      task := task'
      kept := s.kept + (ledgerOf billing s.task (.sweep i content)).2 } := by
  obtain ⟨w, hw, hpc, rfl⟩ := move_some hmove
  have hledger : (ledgerOf billing s.task (.sweep i content)).2
      = clearedBySweep s.task.row w.task := by
    simp only [ledgerOf, hw]
  rw [hledger]
  have hpc' : w.pc ≠ .updateQuota := by
    rw [hpc]
    simp
  rcases sweepTimedOutTask_writes s.task.row w.task content with
    ⟨hlost, heq⟩ | ⟨hwon, hsum, hidle, hrefund⟩
  · have hnone : clearedBySweep s.task.row w.task = 0 := by
      rw [clearedBySweep, if_neg fun hc => hlost hc.1]
    rw [heq, hnone, add_zero]
    exact h.put hw hpc' (by simp) (fun _ => rfl) (by simp)
  obtain ⟨hrec, hcurrent⟩ := hok w hw hwon.symm
  refine ⟨⟨none, ?_, ?_⟩, forall_mem_set h.refund hrefund⟩
  · exact forall_mem_set hrec hidle
  · -- the quota of the row goes to the books or stays
    have hrow := h.recorded hrec
    have hcopy : w.task.quota = s.task.row.quota := hcurrent
    show s.charged = (sweepTimedOutTask content s.task.row w.task).1.quota
      + (s.kept + clearedBySweep s.task.row w.task)
    omega

/-- Funds are moved with a quota that is the recorded one. -/
lemma ChargeInv.charge (hw : s.task.workers[i]? = some w)
    (hok : s.task.Recorded ∧ s.task.Current w) (hpc : w'.pc = .updateQuota)
    (hworkers : task'.workers = s.task.workers) {amount : Int}
    (hamount : w'.task.quota = w.task.quota + amount) :
    ChargeInv { s with task := task'.put i w', charged := s.charged + amount } where
  balance := by
    refine ⟨some w', ?_, ?_⟩
    · rw [TaskState.put, hworkers]
      exact Sole.take hok.1 hw hpc
    · have hrow := h.recorded hok.1
      have hcopy : w.task.quota = s.task.row.quota := hok.2
      show s.charged + amount = w'.task.quota + s.kept
      omega
  refund := by
    rw [TaskState.put, hworkers]
    apply forall_mem_set h.refund
    intro hrefund
    rw [hpc] at hrefund
    cases hrefund

end

lemma ChargeInv.bill (h : ChargeInv s) (hw : s.task.workers[i]? = some w)
    (hok : w.netCharge billing ≠ 0 → s.task.Recorded ∧ s.task.Current w)
    (hstep : billTask billing s.task i w = some task') :
    ChargeInv { s with task := task', charged := s.charged + w.netCharge billing } := by
  -- a step without a charge changes neither the row nor the books
  have hidle : ∀ (v : Worker) (state : TaskState), w.pc ≠ .updateQuota → v.pc ≠ .updateQuota →
      (v.pc = .refund → v.task.quota ≠ 0) → state.workers = s.task.workers →
      state.row = s.task.row → w.netCharge billing = 0 →
      ChargeInv { s with task := state.put i v, charged := s.charged + w.netCharge billing } := by
    intro v state hpc hpc' hrefund hworkers hrow hzero
    rw [hzero, add_zero]
    have hput := h.put hw hpc hpc' (fun _ => rfl) hrefund
    exact ⟨by simpa only [TaskState.put, hworkers, hrow] using hput.balance,
      by simpa only [TaskState.put, hworkers] using hput.refund⟩
  unfold billTask at hstep
  dsimp only at hstep
  split at hstep
  next u hpc =>
    have hw' : w.pc ≠ .updateQuota := by
      rw [hpc]
      simp
    split at hstep
    next hdeclined =>
      have hzero : w.netCharge billing = 0 := by
        simp only [Worker.netCharge, hpc, hdeclined]
      split_ifs at hstep with hrefund
      · cases hstep
        exact hidle _ _ hw' (by simp) (fun _ => hrefund.2) rfl rfl hzero
      · cases hstep
        exact hidle _ _ hw' (by simp) (by simp) rfl rfl hzero
    next actualQuota hsettled =>
      split at hstep
      next quota hquota =>
        have hcharge : w.netCharge billing = quota - w.task.quota := by
          simp only [Worker.netCharge, hpc, hsettled, hquota]
        obtain ⟨actual, -, hactual⟩ := Option.bind_eq_some_iff.mp hquota
        have hne : quota - w.task.quota ≠ 0 := by
          unfold recalculateTaskQuota at hactual
          split_ifs at hactual with hneg hzero hok
          cases hactual
          exact hzero
        cases hstep
        rw [hcharge]
        refine h.charge hw (hok (hcharge ▸ hne)) rfl ?_ ?_
        · rfl
        · show quota = w.task.quota + (quota - w.task.quota)
          omega
      next hnone =>
        have hzero : w.netCharge billing = 0 := by
          simp only [Worker.netCharge, hpc, hsettled, hnone]
        cases hstep
        exact hidle _ _ hw' (by simp) (by simp) rfl rfl hzero
  next hpc =>
    have hcharge : w.netCharge billing = -w.task.quota := by
      simp only [Worker.netCharge, hpc]
    have hquota := h.refund w (List.mem_of_getElem? hw) hpc
    cases hstep
    rw [hcharge]
    refine h.charge hw (hok (by omega)) rfl ?_ ?_
    · rfl
    · show 0 = w.task.quota + -w.task.quota
      omega
  next hpc =>
    -- the quota is recorded
    have hzero : w.netCharge billing = 0 := by
      simp only [Worker.netCharge, hpc]
    obtain ⟨biller, hsole, hbalance⟩ := h.balance
    obtain rfl := hsole.eq hw hpc
    cases hstep
    refine ⟨⟨none, hsole.release hw (by simp), ?_⟩, forall_mem_set h.refund (by simp)⟩
    show s.charged + w.netCharge billing = w.task.quota + s.kept
    rw [hzero, add_zero]
    exact hbalance
  next => cases hstep

/-- Moves other than those of billing and of the sweep leave the books alone. -/
lemma ChargeInv.of_task {l : TaskLabel} (h : ChargeInv { s with task := task' })
    (hledger : ledgerOf billing s.task l = (0, 0)) :
    ChargeInv { task := task'
                charged := s.charged + (ledgerOf billing s.task l).1
                kept := s.kept + (ledgerOf billing s.task l).2 } := by
  rw [hledger, add_zero, add_zero]
  exact h

lemma taskStep_chargeInv (h : ChargeInv s) (l : TaskLabel) (hok : CurrentQuota billing s (.task l))
    (hstep : taskStep billing s.task l = some task') :
    ChargeInv { task := task'
                charged := s.charged + (ledgerOf billing s.task l).1
                kept := s.kept + (ledgerOf billing s.task l).2 } := by
  cases l with
  | load =>
    apply ChargeInv.of_task _ rfl
    simp only [taskStep] at hstep
    split_ifs at hstep
    cases hstep
    exact h.join (by simp) (by simp)
  | loadFetch =>
    apply ChargeInv.of_task _ rfl
    cases hstep
    exact h.join (by simp) (by simp)
  | video i p =>
    apply ChargeInv.of_task _ rfl
    exact h.move (by simp) (fun _ _ => pollTask_writesCopy acceptVideoResult_writesCopy) hok hstep
  | batch i p =>
    apply ChargeInv.of_task _ rfl
    exact h.move (by simp) (fun _ _ => pollTask_writesCopy acceptBatchResult_writesCopy) hok hstep
  | sweep i content =>
    have hzero : (ledgerOf billing s.task (.sweep i content)).1 = 0 := by
      simp only [ledgerOf]
      split <;> rfl
    rw [hzero, add_zero]
    exact h.sweep content hok hstep
  | bulkFail i content =>
    apply ChargeInv.of_task _ rfl
    simp only [taskStep] at hstep
    obtain ⟨w, hw, hpc, rfl⟩ := move_some hstep
    exact h.put hw (by simp [hpc]) (by simp) (fun _ => rfl) (by simp)
  | fetch i status content =>
    apply ChargeInv.of_task _ rfl
    exact h.move (by simp) (fun _ _ => tryRealtimeFetch_writesCopy status content) hok hstep
  | bill i =>
    simp only [taskStep] at hstep
    split at hstep
    · cases hstep
    rename_i w hw
    have hledger : ledgerOf billing s.task (.bill i) = (w.netCharge billing, 0) := by
      simp only [ledgerOf, hw]
    rw [hledger, add_zero]
    exact h.bill hw (hok w hw) hstep

lemma chargeStep_inv (h : ChargeInv s) (l : ChargeLabel) (hok : CurrentQuota billing s l)
    (hstep : chargeStep billing s l = some s') : ChargeInv s' := by
  cases l with
  | task l =>
    obtain ⟨task', htask, rfl⟩ := Option.map_eq_some_iff.mp hstep
    exact taskStep_chargeInv h l hok htask
  | settle usage =>
    cases hstep
    exact h.join (by simp) (by simp)
  | refund =>
    simp only [chargeStep] at hstep
    split_ifs at hstep with hquota
    · cases hstep
      exact h
    · cases hstep
      exact h.join (by simp) fun _ => hquota

end

lemma chargeInv_submitted (row : TaskRow) : ChargeInv (.submitted row) where
  balance := by
    refine ⟨none, ?_, ?_⟩
    · simp [Sole, ChargedTask.submitted, submitted]
    · show row.quota = row.quota + 0
      rw [add_zero]
  refund := by simp [ChargedTask.submitted, submitted]

/-- The recorded quota is what the task was charged, apart from what the sweep has taken off the
books of a task of the old system: in every run whose updates and settlements work on a quota that
is still the recorded one, whenever nobody is between moving funds and recording it. -/
theorem task_quota_is_charge (billing : TaskBilling) (row : TaskRow) (ls : List ChargeLabel)
    (s : ChargedTask) (hok : Along (chargeStep billing) (CurrentQuota billing) (.submitted row) ls)
    (hrun : run (chargeStep billing) (.submitted row) ls = some s) (hrec : s.task.Recorded) :
    s.charged = s.task.row.quota + s.kept := by
  have hinv : ChargeInv s :=
    run_invariant ChargeInv (fun _ l _ h => chargeStep_inv h l)
      (chargeInv_submitted row) hok hrun
  exact hinv.recorded hrec

/-- The upstream reports success, and the adaptor prices the result at 300. -/
def finishedUpstream : Poll where
  answer := .response 200 (some ⟨.success, false, 0⟩)
  content := 1
  usage := { noUsage with adjusted := 300 }
  maxFailures := 0

/-- A poll settles the task while a fetch that has read it before writes its status. -/
theorem task_quota_is_charge_settled :
    ∃ s, run (chargeStep .ratio) (.submitted queuedTask)
        [.task .loadFetch, .task .load, .task (.fetch 0 .inProgress 2), .task .load,
          .task (.video 2 finishedUpstream), .task (.video 1 finishedUpstream), .task (.bill 2),
          .task (.bill 2)] = some s ∧
      s.charged = 300 ∧ s.charged = s.task.row.quota + s.kept := by
  have h := task_quota_is_charge .ratio queuedTask
    [.task .loadFetch, .task .load, .task (.fetch 0 .inProgress 2), .task .load,
      .task (.video 2 finishedUpstream), .task (.video 1 finishedUpstream), .task (.bill 2),
      .task (.bill 2)] _ (by decide) rfl (by decide)
  exact ⟨_, rfl, rfl, h⟩

/-- The sweep clears the quota of a task of the old system and keeps its charge. And a fetch that
has read the finished task before its settlement was recorded writes the old quota back. -/
theorem task_quota_is_not_charge :
    (∃ s, run (chargeStep .ratio) (.submitted { queuedTask with submitTime := 1700000000 })
        [.task .load, .task (.sweep 0 1)] = some s ∧ s.task.Recorded ∧
      (∀ w ∈ s.task.workers, w.billing = false) ∧ s.charged = 500 ∧ s.task.row.quota = 0) ∧
    (∃ s, run (chargeStep .ratio) (.submitted queuedTask)
        [.task .load, .task (.video 0 finishedUpstream), .task .loadFetch, .task (.bill 0),
          .task (.bill 0), .task (.fetch 1 .success 2)] = some s ∧ s.task.Recorded ∧
      (∀ w ∈ s.task.workers, w.billing = false) ∧ s.charged = 300 ∧ s.task.row.quota = 500) :=
  ⟨⟨_, rfl, by decide, by decide, rfl, rfl⟩, _, rfl, by decide, by decide, rfl, rfl⟩

end NewApi.Service
