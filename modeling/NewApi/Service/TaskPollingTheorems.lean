import NewApi.Utils.Pool
import NewApi.Service.TaskPolling

/-!
# A terminal task transition is billed once

The status guard of `UpdateWithStatus` lets one worker take a task from an unfinished status to a
terminal one, and that worker bills it. This carries over to every run in which nobody else writes
a terminal status: `BillingStage` follows the task from its submission to the end of its billing.
-/

namespace NewApi.Service

open Runs Pool Worker Nat TaskState

/-! ## What one poll of an unfinished copy can do -/

/-- The outcomes of a poll, or of the sweep, that starts from the row and a copy `t` of it. -/
inductive Polled (row t : TaskRow) : TaskRow × Worker → Prop
  /-- nothing is written, or the guarded update is lost -/
  | lost (t' : TaskRow) (copy : t'.status.isDone = false → t'.quota = t.quota) :
      Polled row t (row, ⟨t', .loaded⟩)
  /-- the task stays unfinished -/
  | unfinished (t' : TaskRow) (won : row.status = t.status) (open_ : t'.status.isDone = false)
      (quota : t'.quota = t.quota) : Polled row t (t', ⟨t', .loaded⟩)
  /-- the task is finished and goes to the completion settlement -/
  | finished (t' : TaskRow) (u : TaskUsage) (won : row.status = t.status)
      (done : t'.status.isDone = true) (quota : t'.quota = t.quota) :
      Polled row t (t', ⟨t', .settle u⟩)
  /-- the sweep fails the task and refunds it -/
  | swept (t' : TaskRow) (won : row.status = t.status) (failed : t'.status = .failure)
      (quota : t'.quota = t.quota) : Polled row t (t', ⟨t', .refund⟩)
  /-- the sweep fails a task without a charge -/
  | sweptFree (t' : TaskRow) (won : row.status = t.status) (failed : t'.status = .failure)
      (quota : t'.quota = t.quota) (free : t.quota = 0) : Polled row t (t', ⟨t', .loaded⟩)
  /-- the sweep fails a task of the old system -/
  | legacy (t' : TaskRow) (won : row.status = t.status) (failed : t'.status = .failure)
      (old : t'.submitTime < taskRefundLegacyCutoff) : Polled row t (t', ⟨t', .loaded⟩)

section
variable {p : Poll} {row t t' : TaskRow} {u : TaskUsage}

lemma updateThen_of_eq (h : row.status = t.status) (pc : WorkerPc) :
    updateThen row t' t.status pc = (t', ⟨t', pc⟩) := by
  simp only [updateThen, updateWithStatus, if_pos h]

lemma updateThen_of_ne (h : row.status ≠ t.status) (pc : WorkerPc) :
    updateThen row t' t.status pc = (row, ⟨t', .loaded⟩) := by
  simp only [updateThen, updateWithStatus, if_neg h]

/-- A guarded update to an unfinished status. -/
lemma updateThen_unfinished (hopen : t'.status.isDone = false) (hquota : t'.quota = t.quota) :
    Polled row t (updateThen row t' t.status .loaded) := by
  by_cases h : row.status = t.status
  · rw [updateThen_of_eq h]
    exact .unfinished t' h hopen hquota
  · rw [updateThen_of_ne h]
    exact .lost t' fun _ => hquota

/-- A guarded update to a terminal status, with the settlement after it. -/
lemma updateThen_finished (hdone : t'.status.isDone = true) (hquota : t'.quota = t.quota) :
    Polled row t (updateThen row t' t.status (.settle u)) := by
  by_cases h : row.status = t.status
  · rw [updateThen_of_eq h]
    exact .finished t' u h hdone hquota
  · rw [updateThen_of_ne h]
    exact .lost t' fun _ => hquota

/-- From an unfinished copy every terminal result is a transition, so it is settled. -/
lemma updateThen_transition (hopen : t.status.isDone = false) (hquota : t'.quota = t.quota) :
    Polled row t (updateThen row t' t.status
      (if t'.status.isDone ∧ t.status ≠ t'.status then .settle u else .loaded)) := by
  by_cases hdone : t'.status.isDone = true
  · have hne : t.status ≠ t'.status := by
      intro h
      rw [h, hdone] at hopen
      cases hopen
    rw [if_pos ⟨hdone, hne⟩]
    exact updateThen_finished hdone hquota
  · rw [if_neg fun h => hdone h.1]
    exact updateThen_unfinished (Bool.not_eq_true _ ▸ hdone) hquota

lemma recordPollFailure_polled (hopen : t.status.isDone = false) :
    Polled row t (recordPollFailure p row t t.status) := by
  unfold recordPollFailure
  dsimp only
  split
  -- the cut-off fails the task
  · exact updateThen_finished rfl rfl
  · exact updateThen_unfinished hopen rfl

section
variable (hopen : t.status.isDone = false)
include hopen

lemma pollTask_polled {accept : TaskInfo → TaskRow × Worker}
    (haccept : ∀ info, Polled row t (accept info)) : Polled row t (pollTask accept p row t) := by
  unfold pollTask
  split
  · exact recordPollFailure_polled hopen
  split
  · exact updateThen_finished rfl rfl
  · exact recordPollFailure_polled hopen
  · exact recordPollFailure_polled hopen
  · exact recordPollFailure_polled hopen
  split
  · exact recordPollFailure_polled hopen
  split
  · exact recordPollFailure_polled hopen
  · exact haccept _

lemma acceptVideoResult_polled (info : TaskInfo) :
    Polled row t (acceptVideoResult p row t info) := by
  unfold acceptVideoResult
  dsimp only
  split
  next h =>
    rw [if_pos h.1]
    exact updateThen_finished h.1 rfl
  rename_i h
  -- what is left of the terminal results would be no transition from the unfinished copy
  have hdone : info.status.isDone = false := by
    by_contra hdone
    rw [Bool.not_eq_false] at hdone
    have hsame : t.status = info.status := by
      by_contra hne
      exact h ⟨hdone, hne⟩
    rw [hsame, hdone] at hopen
    cases hopen
  rw [hdone, if_neg Bool.false_ne_true]
  split
  · by_cases hrow : row.status = t.status
    · rw [updateWithStatus, if_pos hrow]
      exact .unfinished _ hrow hdone rfl
    · rw [updateWithStatus, if_neg hrow]
      exact .lost _ fun _ => rfl
  · exact .lost _ fun _ => rfl

lemma acceptBatchResult_polled (info : TaskInfo) :
    Polled row t (acceptBatchResult p row t info) :=
  updateThen_transition hopen rfl

end

lemma sweepTimedOutTask_polled (content : Nat) : Polled row t (sweepTimedOutTask content row t) := by
  unfold sweepTimedOutTask
  by_cases h : row.status = t.status
  · rw [updateThen_of_eq h]
    by_cases hold : 0 < t.submitTime ∧ t.submitTime < taskRefundLegacyCutoff
    · simp only [hold, and_self, not_true_eq_false, false_and, if_false]
      exact .legacy _ h rfl hold.2
    simp only [hold, if_false, not_false_eq_true, true_and]
    by_cases hfree : t.quota = 0
    · rw [if_neg (by simpa using hfree)]
      exact .sweptFree _ h rfl rfl hfree
    · rw [if_pos hfree]
      exact .swept _ h rfl rfl
  · rw [updateThen_of_ne h]
    exact .lost _ nofun

end

/-! ## The invariant -/

/-- Nothing has been given back and the row still records the charge. -/
structure Unbilled (q : Int) (s : TaskState) : Prop where
  quota : s.row.quota = q
  returned : s.returned = 0
  refunds : s.refunds = 0
  takenOver : s.takenOver = false

/-- How far the billing of a task that was charged `q` has come; the index is the worker that
bills it at the moment. -/
inductive BillingStage (q : Int) (s : TaskState) : Option Worker → Prop
  | unfinished (open_ : s.row.status.isDone = false) (unbilled : Unbilled q s)
      (settlements : s.settlements = 0) : BillingStage q s none
  | settling (w : Worker) (u : TaskUsage) (pc : w.pc = .settle u)
      (done : s.row.status.isDone = true) (status : w.task.status = s.row.status)
      (copy : w.task.quota = q) (unbilled : Unbilled q s) (settlements : s.settlements = 0) :
      BillingStage q s (some w)
  | refunding (w : Worker) (pc : w.pc = .refund) (failed : s.row.status = .failure)
      (status : w.task.status = s.row.status) (copy : w.task.quota = q)
      (unbilled : Unbilled q s) : BillingStage q s (some w)
  | clearing (w : Worker) (pc : w.pc = .updateQuota) (failed : s.row.status = .failure)
      (status : w.task.status = s.row.status) (copy : w.task.quota = 0)
      (returned : s.returned = q) (refunds : s.refunds = 1) : BillingStage q s (some w)
  | adjusting (w : Worker) (pc : w.pc = .updateQuota) (done : s.row.status.isDone = true)
      (status : w.task.status = s.row.status) (takenOver : s.takenOver = true)
      (settlements : s.settlements = 1) (refunds : s.refunds = 0) : BillingStage q s (some w)
  | refunded (failed : s.row.status = .failure) (quota : s.row.quota = 0)
      (returned : s.returned = q) (refunds : s.refunds ≤ 1) : BillingStage q s none
  | settled (done : s.row.status.isDone = true) (settlements : s.settlements = 1)
      (refunds : s.refunds = 0) (failed : s.row.status = .failure → s.takenOver = true) :
      BillingStage q s none
  | legacy (failed : s.row.status = .failure) (refunds : s.refunds = 0)
      (old : s.row.submitTime < taskRefundLegacyCutoff) : BillingStage q s none

/-- What holds in every state of a guarded run of a task that was charged `q`. -/
structure TaskInv (q : Int) (s : TaskState) : Prop where
  /-- a copy that still shows an unfinished task shows its charge -/
  copies : ∀ w ∈ s.workers, (w.pc = .loaded ∨ w.pc = .fetching) →
    w.task.status.isDone = false → w.task.quota = q
  /-- a fetch that has read a finished task shows its submit time -/
  fetched : ∀ w ∈ s.workers, w.pc = .fetching → w.task.status.isDone = true →
    s.row.status.isDone = true ∧ w.task.submitTime = s.row.submitTime
  billing : ∃ biller, BillingStage q s biller ∧ Sole (fun w => w.billing = true) s.workers biller

section
variable {q : Int} {s : TaskState} {i : Nat} {w w' : Worker} {biller : Option Worker}

section
variable (h : BillingStage q s biller)
include h

/-- Everything a stage says, but for the worker that bills, is about the other fields. -/
lemma BillingStage.of_workers (workers : List Worker) :
    BillingStage q { s with workers := workers } biller := by
  cases h with
  | unfinished h₁ h₂ h₃ => exact .unfinished h₁ { h₂ with } h₃
  | settling w u h₁ h₂ h₃ h₄ h₅ h₆ => exact .settling w u h₁ h₂ h₃ h₄ { h₅ with } h₆
  | refunding w h₁ h₂ h₃ h₄ h₅ => exact .refunding w h₁ h₂ h₃ h₄ { h₅ with }
  | clearing w h₁ h₂ h₃ h₄ h₅ h₆ => exact .clearing w h₁ h₂ h₃ h₄ h₅ h₆
  | adjusting w h₁ h₂ h₃ h₄ h₅ h₆ => exact .adjusting w h₁ h₂ h₃ h₄ h₅ h₆
  | refunded h₁ h₂ h₃ h₄ => exact .refunded h₁ h₂ h₃ h₄
  | settled h₁ h₂ h₃ h₄ => exact .settled h₁ h₂ h₃ h₄
  | legacy h₁ h₂ h₃ => exact .legacy h₁ h₂ h₃

/-- A finished task stays at its stage when columns that billing does not use are written. -/
lemma BillingStage.of_row {row : TaskRow}
    (hdone : s.row.status.isDone = true) (hstatus : row.status = s.row.status)
    (hquota : row.quota = s.row.quota) (htime : row.submitTime = s.row.submitTime) :
    BillingStage q { s with row := row } biller := by
  cases h with
  | unfinished h₁ => exact absurd (hdone.symm.trans h₁) nofun
  | settling w u h₁ h₂ h₃ h₄ h₅ h₆ =>
    exact .settling w u h₁ (hstatus ▸ h₂) (h₃.trans hstatus.symm) h₄
      ⟨hquota.trans h₅.1, h₅.2, h₅.3, h₅.4⟩ h₆
  | refunding w h₁ h₂ h₃ h₄ h₅ =>
    exact .refunding w h₁ (hstatus.trans h₂) (h₃.trans hstatus.symm) h₄
      ⟨hquota.trans h₅.1, h₅.2, h₅.3, h₅.4⟩
  | clearing w h₁ h₂ h₃ h₄ h₅ h₆ =>
    exact .clearing w h₁ (hstatus.trans h₂) (h₃.trans hstatus.symm) h₄ h₅ h₆
  | adjusting w h₁ h₂ h₃ h₄ h₅ h₆ =>
    exact .adjusting w h₁ (hstatus ▸ h₂) (h₃.trans hstatus.symm) h₄ h₅ h₆
  | refunded h₁ h₂ h₃ h₄ => exact .refunded (hstatus.trans h₁) (hquota.trans h₂) h₃ h₄
  | settled h₁ h₂ h₃ h₄ => exact .settled (hstatus ▸ h₁) h₂ h₃ fun h => h₄ (hstatus ▸ h)
  | legacy h₁ h₂ h₃ => exact .legacy (hstatus.trans h₁) h₂ (htime ▸ h₃)

/-- A task that is still unfinished has not been billed, and nobody is at it. -/
lemma BillingStage.of_unfinished (hopen : s.row.status.isDone = false) :
    biller = none ∧ Unbilled q s ∧ s.settlements = 0 := by
  cases h with
  | unfinished _ h₂ h₃ => exact ⟨rfl, h₂, h₃⟩
  | settling w u _ h₂ | adjusting w _ h₂ => exact absurd (hopen.symm.trans h₂) nofun
  | refunding w _ h₂ | clearing w _ h₂ => rw [h₂] at hopen; cases hopen
  | refunded h₁ | legacy h₁ => rw [h₁] at hopen; cases hopen
  | settled h₁ => exact absurd (hopen.symm.trans h₁) nofun

end

/-! ## Steps keep the invariant -/

section
variable (h : TaskInv q s)
include h

section
variable (hw : s.workers[i]? = some w)
include hw

/-- A worker moves and the row stays as it is. -/
lemma TaskInv.put_idle (hidle : ¬ w.billing)
    (hidle' : ¬ w'.billing) (hpc : w'.pc ≠ .fetching)
    (hcopy : w'.pc = .loaded → w'.task.status.isDone = false → w'.task.quota = q) :
    TaskInv q (s.put i w') where
  copies := forall_mem_set h.copies fun hor => hcopy (hor.resolve_right hpc)
  fetched := forall_mem_set h.fetched fun hf => absurd hf hpc
  billing := by
    obtain ⟨biller, hstage, hsole⟩ := h.billing
    exact ⟨biller, hstage.of_workers _, hsole.set_idle hw hidle hidle'⟩

/-- A worker writes the row of an unfinished task. -/
lemma TaskInv.put_won
    (hopen : s.row.status.isDone = false) (hpc : w'.pc ≠ .fetching)
    (hcopy : w'.pc = .loaded → w'.task.status.isDone = false → w'.task.quota = q) {row : TaskRow}
    (hstage : Unbilled q s → s.settlements = 0 →
      (BillingStage q { s with row := row } none ∧ ¬ w'.billing) ∨
      (BillingStage q { s with row := row } (some w') ∧ w'.billing)) :
    TaskInv q ({ s with row := row }.put i w') where
  copies := forall_mem_set h.copies fun hor => hcopy (hor.resolve_right hpc)
  fetched := by
    refine forall_mem_set (fun v hv hf hdone => ?_) fun hf => absurd hf hpc
    -- no fetch can have read a finished task before
    exact absurd ((h.fetched v hv hf hdone).1.symm.trans hopen) nofun
  billing := by
    obtain ⟨biller, hold, hsole⟩ := h.billing
    obtain ⟨rfl, hunbilled, hsettlements⟩ := hold.of_unfinished hopen
    rcases hstage hunbilled hsettlements with ⟨hnew, hidle'⟩ | ⟨hnew, hbilling⟩
    · exact ⟨none, hnew.of_workers _, forall_mem_set hsole hidle'⟩
    · exact ⟨some w', hnew.of_workers _, hsole.take hw hbilling⟩

lemma TaskInv.polled (hpc : w.pc = .loaded)
    (hopen : w.task.status.isDone = false) {r : TaskRow × Worker} (hr : Polled s.row w.task r) :
    TaskInv q ({ s with row := r.1 }.put i r.2) := by
  have hq : w.task.quota = q := h.copies w (List.mem_of_getElem? hw) (.inl hpc) hopen
  cases hr with
  | lost t' hcopy =>
    refine h.put_idle hw (by simp [Worker.billing, hpc]) (by simp [Worker.billing]) nofun ?_
    exact fun _ hdone => (hcopy hdone).trans hq
  | unfinished t' hwon hdone hquota =>
    refine h.put_won hw (hwon ▸ hopen) (by simp) (fun _ _ => hquota.trans hq) fun hu hs => .inl ?_
    exact ⟨.unfinished hdone ⟨hquota.trans hq, hu.2, hu.3, hu.4⟩ hs, by simp [Worker.billing]⟩
  | finished t' u hwon hdone hquota =>
    refine h.put_won hw (hwon ▸ hopen) (by simp) (by simp) fun hu hs => .inr ⟨?_, rfl⟩
    exact .settling _ u rfl hdone rfl (hquota.trans hq) ⟨hquota.trans hq, hu.2, hu.3, hu.4⟩ hs
  | swept t' hwon hfailed hquota =>
    refine h.put_won hw (hwon ▸ hopen) (by simp) (by simp) fun hu _ => .inr ⟨?_, rfl⟩
    exact .refunding _ rfl hfailed rfl (hquota.trans hq) ⟨hquota.trans hq, hu.2, hu.3, hu.4⟩
  | sweptFree t' hwon hfailed hquota hfree =>
    refine h.put_won hw (hwon ▸ hopen) (by simp) (fun _ _ => hquota.trans hq) fun hu _ => .inl ?_
    refine ⟨.refunded hfailed (hquota.trans hfree) ?_ ?_, by simp [Worker.billing]⟩
    · exact hu.returned.trans (hfree.symm.trans hq)
    · exact hu.refunds.trans_le (Nat.zero_le 1)
  | legacy t' hwon hfailed hold =>
    refine h.put_won hw (hwon ▸ hopen) (by simp) ?_ fun hu _ => .inl ?_
    · intro _ hdone
      rw [hfailed] at hdone
      cases hdone
    · exact ⟨.legacy hfailed hu.refunds hold, by simp [Worker.billing]⟩

lemma TaskInv.bulkFail (hpc : w.pc = .loaded)
    (hok : s.row.status = .failure ∨ (s.row.status.isDone = false ∧ s.row.quota = 0))
    (content : Nat) :
    TaskInv q ({ s with row := taskBulkFail s.row content }.put i ⟨w.task, .loaded⟩) := by
  have hcopy := h.copies w (List.mem_of_getElem? hw) (.inl hpc)
  rcases hok with hfailed | ⟨hopen, hfree⟩
  · -- a failed task stays as it is
    have hdone : s.row.status.isDone = true := by rw [hfailed]; rfl
    have hkept : TaskInv q (s.put i ⟨w.task, .loaded⟩) := by
      apply h.put_idle hw
      · simp [Worker.billing, hpc]
      · simp [Worker.billing]
      · simp
      · exact fun _ => hcopy
    obtain ⟨biller, hstage, hsole⟩ := hkept.billing
    refine ⟨hkept.copies, fun v hv hf hd => ⟨rfl, (hkept.fetched v hv hf hd).2⟩, biller, ?_, hsole⟩
    exact hstage.of_row hdone hfailed.symm rfl rfl
  · refine h.put_won hw hopen (by simp) (by simpa using hcopy) fun hu _ => .inl ?_
    refine ⟨.refunded rfl hfree ?_ (hu.refunds.trans_le (Nat.zero_le 1)), by simp [Worker.billing]⟩
    exact hu.returned.trans (hfree.symm.trans hu.quota)

lemma TaskInv.fetch (hpc : w.pc = .fetching)
    (status : TaskStatus) (content : Nat)
    (hok : w.task.status = s.row.status →
      (s.row.status.isDone = false ∧ (fetchedStatus w.task status).isDone = false) ∨
      (fetchedStatus w.task status = s.row.status ∧ w.task.quota = s.row.quota)) :
    TaskInv q ({ s with row := (tryRealtimeFetch status content s.row w.task).1 }.put i
      (tryRealtimeFetch status content s.row w.task).2) := by
  have hmem := List.mem_of_getElem? hw
  have hidle : ¬ w.billing := by simp [Worker.billing, hpc]
  have hkept : ∀ t', TaskInv q (s.put i ⟨t', .done⟩) := fun t' =>
    h.put_idle hw hidle (by simp [Worker.billing]) (by simp) (by simp)
  unfold tryRealtimeFetch
  dsimp only
  split
  swap
  · exact hkept _
  by_cases hrow : s.row.status = w.task.status
  swap
  · simp only [updateWithStatus, if_neg hrow]
    exact hkept _
  simp only [updateWithStatus, if_pos hrow]
  by_cases hdone : s.row.status.isDone = true
  · -- the fetch has read the finished task, so it writes back what billing uses
    rcases hok hrow.symm with ⟨hopen, -⟩ | ⟨hstatus, hquota⟩
    · exact absurd (hdone.symm.trans hopen) nofun
    have htime := (h.fetched w hmem hpc (hrow ▸ hdone)).2
    obtain ⟨biller, hstage, hsole⟩ := (hkept { w.task with
      status := fetchedStatus w.task status, content := content }).billing
    refine ⟨(hkept _).copies, fun v hv hf hd => ?_, biller, ?_, hsole⟩
    · exact ⟨hstatus ▸ hdone, ((hkept _).fetched v hv hf hd).2.trans htime.symm⟩
    · exact hstage.of_row hdone hstatus hquota htime
  · rw [Bool.not_eq_true] at hdone
    have hq : w.task.quota = q := h.copies w hmem (.inr hpc) (hrow ▸ hdone)
    have hopen : (fetchedStatus w.task status).isDone = false := by
      rcases hok hrow.symm with ⟨-, hopen⟩ | ⟨hstatus, -⟩
      · exact hopen
      · rw [hstatus, hdone]
    refine h.put_won hw hdone (by simp) (by simp) fun hu hs => .inl ?_
    exact ⟨.unfinished hopen ⟨hq, hu.2, hu.3, hu.4⟩ hs, by simp [Worker.billing]⟩

end

/-- A worker joins with a fresh copy. -/
lemma TaskInv.join {pc : WorkerPc} (hpc : pc = .loaded ∨ pc = .fetching) :
    TaskInv q { s with workers := s.workers ++ [⟨s.row, pc⟩] } := by
  obtain ⟨biller, hstage, hsole⟩ := h.billing
  refine ⟨?_, ?_, biller, hstage.of_workers _, ?_⟩
  · exact forall_mem_snoc h.copies fun _ hopen => (hstage.of_unfinished hopen).2.1.quota
  · exact forall_mem_snoc h.fetched fun _ hdone => ⟨hdone, rfl⟩
  · apply hsole.snoc
    rcases hpc with rfl | rfl <;> simp [Worker.billing]

/-- The worker that bills goes on to `w'` in a state that differs from `s` in what billing writes. -/
lemma TaskInv.put_biller
    (hsole : Sole (fun w => w.billing = true) s.workers (some w))
    (hw : s.workers[i]? = some w) {s' : TaskState}
    (hworkers : s'.workers = s.workers) (hstatus : s'.row.status = s.row.status)
    (htime : s'.row.submitTime = s.row.submitTime) (hpc : w'.pc ≠ .fetching)
    (hdone : w'.task.status.isDone = true)
    (hstage : (BillingStage q s' none ∧ ¬ w'.billing) ∨
      (BillingStage q s' (some w') ∧ w'.billing)) :
    TaskInv q (s'.put i w') := by
  refine ⟨?_, ?_, ?_⟩
  · rw [put, hworkers]
    exact forall_mem_set h.copies fun _ hopen => absurd (hdone.symm.trans hopen) nofun
  · rw [put, hworkers]
    refine forall_mem_set (fun v hv hf hd => ?_) fun hf => absurd hf hpc
    show s'.row.status.isDone = true ∧ v.task.submitTime = s'.row.submitTime
    rw [hstatus, htime]
    exact h.fetched v hv hf hd
  · rw [put, hworkers]
    rcases hstage with ⟨hnew, hidle⟩ | ⟨hnew, hbilling⟩
    · exact ⟨none, hnew.of_workers _, hsole.release hw hidle⟩
    · exact ⟨some w', hnew.of_workers _, hsole.keep hw hbilling⟩

lemma TaskInv.bill {billing : TaskBilling} {s' : TaskState}
    (hw : s.workers[i]? = some w) (hstep : billTask billing s i w = some s') : TaskInv q s' := by
  obtain ⟨biller, hstage, hsole⟩ := h.billing
  -- only a worker that bills has a billing step, so it is the one the stage is about
  have hbilling : w.billing := by
    unfold billTask at hstep
    unfold Worker.billing
    split at hstep <;> simp_all
  obtain rfl := hsole.eq hw hbilling
  cases hstage with
  | settling _ u hpc hdone hstatus hcopy hu hsettlements =>
    have hdone' : w.task.status.isDone = true := hstatus ▸ hdone
    have hone : s.settlements + 1 = 1 := by rw [hsettlements]
    simp only [billTask, hpc] at hstep
    split at hstep
    · split at hstep
      next hrefund =>
        cases hstep
        refine h.put_biller hsole hw rfl rfl rfl (by simp) hdone' (.inr ⟨?_, rfl⟩)
        exact .refunding _ rfl (hstatus ▸ hrefund.1) hstatus hcopy { hu with }
      next hkept =>
        cases hstep
        refine h.put_biller hsole hw rfl rfl rfl (by simp) hdone'
          (.inl ⟨?_, by simp [Worker.billing]⟩)
        by_cases hfailed : s.row.status = .failure
        · -- a failed task that keeps its charge had none
          have hfree : w.task.quota = 0 := by
            by_contra hne
            exact hkept ⟨hstatus.trans hfailed, hne⟩
          refine .refunded hfailed (hu.quota.trans (hcopy.symm.trans hfree)) ?_ ?_
          · exact hu.returned.trans (hfree.symm.trans hcopy)
          · exact hu.refunds.trans_le (Nat.zero_le 1)
        · exact .settled hdone hone hu.refunds fun hf => absurd hf hfailed
    · split at hstep
      · cases hstep
        refine h.put_biller hsole hw rfl rfl rfl (by simp) hdone' (.inr ⟨?_, rfl⟩)
        exact .adjusting _ rfl hdone hstatus rfl hone hu.refunds
      cases hstep
      refine h.put_biller hsole hw rfl rfl rfl (by simp) hdone'
        (.inl ⟨?_, by simp [Worker.billing]⟩)
      exact .settled hdone hone hu.refunds fun _ => rfl
  | refunding _ hpc hfailed hstatus hcopy hu =>
    simp only [billTask, hpc] at hstep
    cases hstep
    refine h.put_biller hsole hw rfl rfl rfl (by simp)
      (by rw [hstatus, hfailed]; rfl) (.inr ⟨?_, rfl⟩)
    refine .clearing _ rfl hfailed hstatus rfl ?_ ?_
    · show s.returned + w.task.quota = q
      rw [hu.returned, hcopy, zero_add]
    · show s.refunds + 1 = 1
      rw [hu.refunds]
  | clearing _ hpc hfailed hstatus hcopy hreturned hrefunds =>
    simp only [billTask, hpc] at hstep
    cases hstep
    refine h.put_biller hsole hw rfl rfl rfl (by simp)
      (by rw [hstatus, hfailed]; rfl) (.inl ⟨?_, by simp [Worker.billing]⟩)
    exact .refunded hfailed hcopy hreturned (Nat.le_of_eq hrefunds)
  | adjusting _ hpc hdone hstatus htaken hsettlements hrefunds =>
    simp only [billTask, hpc] at hstep
    cases hstep
    refine h.put_biller hsole hw rfl rfl rfl (by simp)
      (by rw [hstatus]; exact hdone) (.inl ⟨?_, by simp [Worker.billing]⟩)
    exact .settled hdone hsettlements hrefunds fun _ => htaken

end

end

/-! ## Runs -/

/-- The moves that leave a terminal status, and the billing that goes with it, to the winner of the
status guard: no copy is polled again after it was brought to a terminal status, the bulk update
fails only tasks that are failed already or carry no charge, and a user's fetch neither finishes
nor reopens the task nor restores a charge that was settled meanwhile. -/
def LeavesBillingToPoller (s : TaskState) : TaskLabel → Prop
  | .video i _ => ∀ w ∈ s.workers[i]?, w.task.status.isDone = false
  | .batch i _ => ∀ w ∈ s.workers[i]?, w.task.status.isDone = false
  | .sweep i _ => ∀ w ∈ s.workers[i]?, w.task.status.isDone = false
  | .bulkFail _ _ => s.row.status = .failure ∨ (s.row.status.isDone = false ∧ s.row.quota = 0)
  | .fetch i status _ => ∀ w ∈ s.workers[i]?, w.task.status = s.row.status →
      (s.row.status.isDone = false ∧ (fetchedStatus w.task status).isDone = false) ∨
      (fetchedStatus w.task status = s.row.status ∧ w.task.quota = s.row.quota)
  | _ => True

instance (s : TaskState) : ∀ l, Decidable (LeavesBillingToPoller s l)
  | .video _ _ => inferInstanceAs (Decidable (∀ _ ∈ _, _ = _))
  | .batch _ _ => inferInstanceAs (Decidable (∀ _ ∈ _, _ = _))
  | .sweep _ _ => inferInstanceAs (Decidable (∀ _ ∈ _, _ = _))
  | .bulkFail _ _ => inferInstanceAs (Decidable (_ ∨ _))
  | .fetch _ _ _ => inferInstanceAs (Decidable (∀ _ ∈ _, _ → (_ ∧ _) ∨ (_ ∧ _)))
  | .load => isTrue trivial
  | .loadFetch => isTrue trivial
  | .bill _ => isTrue trivial

section
variable {billing : TaskBilling} {s s' : TaskState} {i : Nat} {pc : WorkerPc}

lemma TaskState.move_some {f : TaskRow → TaskRow → TaskRow × Worker}
    (h : s.move i pc f = some s') : ∃ w, s.workers[i]? = some w ∧ w.pc = pc ∧
      s' = ({ s with row := (f s.row w.task).1 }.put i (f s.row w.task).2) := by
  unfold move at h
  split at h
  · cases h
  rename_i w hw
  split at h
  next hpc => exact ⟨w, hw, hpc, (Option.some.inj h).symm⟩
  next => cases h

/-- A poll, or the sweep, of a copy that shows the task unfinished. -/
lemma TaskInv.move_polled {q : Int} (h : TaskInv q s) {f : TaskRow → TaskRow → TaskRow × Worker}
    (hf : ∀ row t, t.status.isDone = false → Polled row t (f row t))
    (hok : ∀ w ∈ s.workers[i]?, w.task.status.isDone = false)
    (hmove : s.move i .loaded f = some s') : TaskInv q s' := by
  obtain ⟨w, hw, hpc, rfl⟩ := move_some hmove
  exact h.polled hw hpc (hok w hw) (hf _ _ (hok w hw))

lemma taskStep_inv {q : Int} (h : TaskInv q s) (l : TaskLabel) (hok : LeavesBillingToPoller s l)
    (hstep : taskStep billing s l = some s') : TaskInv q s' := by
  cases l with simp only [taskStep] at hstep
  | load =>
    split at hstep <;> cases hstep
    exact h.join (.inl rfl)
  | loadFetch =>
    cases hstep
    exact h.join (.inr rfl)
  | video i p =>
    exact h.move_polled (fun _ _ ht => pollTask_polled ht (acceptVideoResult_polled ht)) hok hstep
  | batch i p =>
    exact h.move_polled (fun _ _ ht => pollTask_polled ht (acceptBatchResult_polled ht)) hok hstep
  | sweep i content =>
    exact h.move_polled (fun _ _ _ => sweepTimedOutTask_polled content) hok hstep
  | bulkFail i content =>
    obtain ⟨w, hw, hpc, rfl⟩ := move_some hstep
    exact h.bulkFail hw hpc hok content
  | fetch i status content =>
    obtain ⟨w, hw, hpc, rfl⟩ := move_some hstep
    exact h.fetch hw hpc status content (hok w hw)
  | bill i =>
    split at hstep
    · cases hstep
    next w hw => exact h.bill hw hstep

lemma taskInv_submitted {row : TaskRow} (hopen : row.status.isDone = false) :
    TaskInv row.quota (.submitted row) where
  copies := by simp [submitted]
  fetched := by simp [submitted]
  billing := by
    refine ⟨none, .unfinished hopen ⟨rfl, rfl, rfl, rfl⟩ rfl, ?_⟩
    simp [Sole, submitted]

/-- A refund is made at most once. -/
lemma TaskInv.refunds_le {q : Int} (h : TaskInv q s) : s.refunds ≤ 1 := by
  obtain ⟨biller, hstage, -⟩ := h.billing
  cases hstage with
  | unfinished _ hu | settling _ _ _ _ _ _ hu => exact hu.refunds.trans_le (zero_le 1)
  | refunding _ _ _ _ _ hu => exact hu.refunds.trans_le (zero_le 1)
  | clearing _ _ _ _ _ _ hone => exact le_of_eq hone
  | adjusting _ _ _ _ _ _ hzero | settled _ _ hzero => exact hzero.trans_le (zero_le 1)
  | refunded _ _ _ hle => exact hle
  | legacy _ hzero => exact hzero.trans_le (zero_le 1)

/-- When nobody bills any more, a finished task has come to the end of its billing. -/
lemma TaskInv.ended {q : Int} (h : TaskInv q s) (hidle : ∀ w ∈ s.workers, w.billing = false) :
    (s.row.status = .failure → taskRefundLegacyCutoff ≤ s.row.submitTime → s.takenOver = false →
      s.returned = q ∧ s.row.quota = 0) ∧
    (s.row.status = .success → s.settlements = 1) := by
  obtain ⟨biller, hstage, hsole⟩ := h.billing
  rcases biller with - | b
  · cases hstage with
    | unfinished hopen =>
      constructor <;> (intro hst; rw [hst] at hopen; exact absurd hopen nofun)
    | refunded hfailed hquota hreturned =>
      exact ⟨fun _ _ _ => ⟨hreturned, hquota⟩, fun hst => absurd (hfailed.symm.trans hst) nofun⟩
    | settled _ hone _ htaken =>
      exact ⟨fun hf _ hnot => absurd ((htaken hf).symm.trans hnot) nofun, fun _ => hone⟩
    | legacy hfailed _ hold =>
      exact ⟨fun _ hnew => absurd hold (Int.not_lt.mpr hnew),
        fun hst => absurd (hfailed.symm.trans hst) nofun⟩
  · obtain ⟨hbilling, j, hj, -⟩ := hsole
    exact absurd hbilling (by simp [hidle b (List.mem_of_getElem? hj)])

end

/-- Every terminal transition is billed once: in a run in which a terminal status is left to the
winner of the status guard, a task is refunded at most once, and once no worker is at it any more,
a failed task whose settlement declined has got its whole charge back and records none, and a
successful one has been settled exactly once. -/
theorem finished_task_billed_once (billing : TaskBilling) (row : TaskRow) (ls : List TaskLabel)
    (s : TaskState) (hopen : row.status.isDone = false)
    (hok : Along (taskStep billing) LeavesBillingToPoller (.submitted row) ls)
    (hrun : run (taskStep billing) (.submitted row) ls = some s) :
    s.refunds ≤ 1 ∧
    ((∀ w ∈ s.workers, w.billing = false) →
      (s.row.status = .failure → taskRefundLegacyCutoff ≤ s.row.submitTime →
        s.takenOver = false → s.returned = row.quota ∧ s.row.quota = 0) ∧
      (s.row.status = .success → s.settlements = 1)) := by
  have hinv : TaskInv row.quota s :=
    run_invariant (TaskInv row.quota) (fun _ l _ h => taskStep_inv h l)
      (taskInv_submitted hopen) hok hrun
  exact ⟨hinv.refunds_le, hinv.ended⟩

/-- A queued task that was charged 500. -/
def queuedTask : TaskRow where
  status := .queued
  quota := 500
  submitTime := 1780000000
  pollFailures := 0
  content := 0

/-- A price calculation without usage data. -/
def noUsage : TaskUsage where
  evaluated := none
  adjusted := 0
  totalTokens := 0
  completionTokens := 0
  recalculated := none
  fundingOk := true

/-- The upstream answers that it does not know the task. -/
def unknownUpstream : Poll where
  answer := .response 404 none
  content := 1
  usage := noUsage
  maxFailures := 0

/-- Two polling passes race for a task the upstream has lost: one of them fails and refunds it. -/
theorem finished_task_billed_once_race :
    ∃ s, run (taskStep .ratio) (.submitted queuedTask)
        [.load, .load, .video 0 unknownUpstream, .video 1 unknownUpstream, .bill 0, .bill 0,
          .bill 0] = some s ∧
      s.row.status = .failure ∧ s.returned = 500 ∧ s.row.quota = 0 ∧ s.refunds ≤ 1 := by
  have h := finished_task_billed_once .ratio queuedTask
    [.load, .load, .video 0 unknownUpstream, .video 1 unknownUpstream, .bill 0, .bill 0, .bill 0]
    _ rfl (by decide) rfl
  have hend := (h.2 (by decide)).1 rfl (by decide) rfl
  exact ⟨_, rfl, rfl, hend.1, hend.2, h.1⟩

/-- The bulk update for a task whose channel is gone fails it without returning its charge. -/
theorem bulk_failed_task_not_refunded :
    ∃ s, run (taskStep .ratio) (.submitted queuedTask) [.load, .bulkFail 0 1] = some s ∧
      (∀ w ∈ s.workers, w.billing = false) ∧ s.row.status = .failure ∧
      taskRefundLegacyCutoff ≤ s.row.submitTime ∧ s.takenOver = false ∧
      ¬ (s.returned = 500 ∧ s.row.quota = 0) :=
  ⟨_, rfl, by decide, rfl, by decide, rfl, by decide⟩

-- A user's fetch can finish a task too, and then nobody settles it.
example : (run (taskStep .ratio) (.submitted queuedTask) [.loadFetch, .fetch 0 .success 1]).map
    (fun s => (s.row.status, s.settlements)) = some (.success, 0) := by decide

end NewApi.Service
