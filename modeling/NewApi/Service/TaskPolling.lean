import NewApi.Utils.Runs

/-!
# Polling and billing of asynchronous tasks

`service/task_polling.go`, the task part of `service/task_billing.go`, the row updates of
`model/task.go` and `tryRealtimeFetch` of `relay/relay_task.go`.

The system is one task row and any number of workers. A worker holds the copy of the row it has
loaded; every database statement is one step, and so is every step of billing after a terminal
update. Answers of the upstream and of the price calculation are part of the labels.
-/

namespace NewApi.Service

/-! ## The task row -/

/-- `model.TaskStatus`: a string column, so an upstream can also write a value outside the list. -/
inductive TaskStatus
  | notStart
  | submitted
  | queued
  | inProgress
  | failure
  | success
  | unknown
  | other (text : String)
  deriving DecidableEq, Repr

/-- `SUCCESS` and `FAILURE`, the statuses that no query for unfinished tasks selects. -/
def TaskStatus.isDone : TaskStatus → Bool
  | .failure => true
  | .success => true
  | _ => false

def knownPollStatus : TaskStatus → Bool
  | .unknown => false
  | .other _ => false
  | _ => true

def isNonTerminalPollStatus : TaskStatus → Bool
  | .notStart => true
  | .submitted => true
  | .queued => true
  | .inProgress => true
  | _ => false

/-- The columns of a task that billing reads or a whole-row update can destroy. `content` stands
for the remaining columns of `taskSnapshot` (progress, times, reason, result, plugin state). -/
structure TaskRow where
  status : TaskStatus
  quota : Int
  submitTime : Int
  pollFailures : Nat
  content : Nat
  deriving DecidableEq, Repr

/-- `taskSnapshot.Equal` of the snapshots of two copies; quota and submit time are not in it. -/
def TaskRow.snapshotEqual (t t' : TaskRow) : Bool :=
  t.status = t'.status && t.content = t'.content && t.pollFailures = t'.pollFailures

/-- `UpdateWithStatus`: the whole copy is written if the row still has `fromStatus`. -/
def updateWithStatus (row t : TaskRow) (fromStatus : TaskStatus) : Bool × TaskRow :=
  if row.status = fromStatus then (true, t) else (false, row)

/-- The update of `TaskBulkUpdateByID` in the polling pass: no status guard, no other columns. -/
def taskBulkFail (row : TaskRow) (content : Nat) : TaskRow :=
  { row with status := .failure, content := content }

/-- `TaskRefundLegacyCutoff`. -/
def taskRefundLegacyCutoff : Int := 1771718400

/-! ## Settlement of a finished task -/

/-- How the task was priced at submission (`PrivateData.BillingContext`). -/
inductive TaskBilling
  | tiered
  | perCall
  | ratio
  deriving DecidableEq, Repr

/-- What the price calculation answers for one result: `EvaluateTaskCompletionUsage`,
`AdjustBillingOnComplete`, the token counts, which it may set, the quota
`RecalculateTaskQuotaByTokens` computes (`none` where it declines), and whether the funding source
accepts the difference. -/
structure TaskUsage where
  evaluated : Option Int
  adjusted : Int
  totalTokens : Int
  completionTokens : Int
  recalculated : Option Int
  fundingOk : Bool
  deriving DecidableEq, Repr

/-- The answer of `settleTaskBillingOnComplete`: whether it took the billing over, and then the
quota it hands to `RecalculateTaskQuota`, if any. -/
inductive TaskSettlement
  | declined
  | settled (actualQuota : Option Int)
  deriving DecidableEq, Repr

def settleTaskBillingOnComplete (billing : TaskBilling) (status : TaskStatus) (u : TaskUsage) :
    TaskSettlement :=
  match billing with
  | .tiered =>
    -- the usage expression is for successful tasks only; an evaluation error keeps the charge
    if status = .failure then .declined else .settled u.evaluated
  | .perCall => .declined
  | .ratio =>
    if 0 < u.adjusted then .settled (some u.adjusted)
    else
      let tokens :=
        if u.totalTokens = 0 ∧ 0 < u.completionTokens then u.completionTokens else u.totalTokens
      if 0 < tokens then
        match u.recalculated with
        | some actualQuota => .settled (some actualQuota)
        | none => .declined
      else .declined

/-- The quota that `RecalculateTaskQuota` writes back, if it moves funds at all. -/
def recalculateTaskQuota (u : TaskUsage) (quota actualQuota : Int) : Option Int :=
  if actualQuota < 0 then none
  else if actualQuota - quota = 0 then none
  else if u.fundingOk then some actualQuota
  else none

/-! ## Workers -/

/-- What a worker does next with its copy. -/
inductive WorkerPc
  /-- a copy of a polling pass or of the timeout sweep -/
  | loaded
  /-- a copy of a user's fetch, which is used once -/
  | fetching
  /-- `settleTaskBillingOnComplete` is next -/
  | settle (usage : TaskUsage)
  /-- `RefundTaskQuota` is next -/
  | refund
  /-- `UpdateQuota` is next -/
  | updateQuota
  | done
  deriving DecidableEq, Repr

structure Worker where
  task : TaskRow
  pc : WorkerPc
  deriving DecidableEq, Repr

/-- The worker still has to bill the task. -/
def Worker.billing (w : Worker) : Bool :=
  match w.pc with
  | .settle _ => true
  | .refund => true
  | .updateQuota => true
  | _ => false

/-- A guarded update after which the winner goes on to `pc`; a loser keeps its changed copy. -/
def updateThen (row t : TaskRow) (fromStatus : TaskStatus) (pc : WorkerPc) : TaskRow × Worker :=
  match updateWithStatus row t fromStatus with
  | (true, row') => (row', ⟨t, pc⟩)
  | (false, row') => (row', ⟨t, .loaded⟩)

/-! ## One poll of one task -/

inductive PollClass
  | ok
  | notFound
  | auth
  | transient
  | otherClient
  deriving DecidableEq, Repr

def classifyPollHTTP (statusCode : Int) : PollClass :=
  if 200 ≤ statusCode ∧ statusCode < 300 then .ok
  else if statusCode = 404 ∨ statusCode = 410 then .notFound
  else if statusCode = 401 ∨ statusCode = 403 then .auth
  else if statusCode = 429 ∨ 500 ≤ statusCode then .transient
  else if 400 ≤ statusCode ∧ statusCode < 500 then .otherClient
  else .transient

/-- A parsed result. Only a batch answer has a submit time (zero: not given). -/
structure TaskInfo where
  status : TaskStatus
  hasReason : Bool
  submitTime : Int
  deriving DecidableEq, Repr

/-- What the request to the upstream gives: no readable answer, or an HTTP status with the result
the adaptor parses from the body, if it can. -/
inductive PollAnswer
  | transportError
  | response (statusCode : Int) (result : Option TaskInfo)
  deriving DecidableEq, Repr

/-- Everything outside the process that one poll depends on; `content` are the values it writes to
the columns of that name, `maxFailures` is `TaskPollMaxFailures`. -/
structure Poll where
  answer : PollAnswer
  content : Nat
  usage : TaskUsage
  maxFailures : Int
  deriving DecidableEq, Repr

def failTaskFromPoll (p : Poll) (row t : TaskRow) (fromStatus : TaskStatus) : TaskRow × Worker :=
  updateThen row { t with status := .failure, content := p.content } fromStatus
    (.settle p.usage)

def recordPollFailure (p : Poll) (row t : TaskRow) (fromStatus : TaskStatus) : TaskRow × Worker :=
  let t' := { t with pollFailures := t.pollFailures + 1, content := p.content }
  if 0 < p.maxFailures ∧ p.maxFailures ≤ t'.pollFailures then failTaskFromPoll p row t' fromStatus
  else updateThen row t' fromStatus .loaded

/-- What the single and the batch poll share: every answer that is not an accepted result counts
as a poll failure, and a task the upstream does not know is failed. -/
def pollTask (accept : TaskInfo → TaskRow × Worker) (p : Poll) (row t : TaskRow) :
    TaskRow × Worker :=
  match p.answer with
  | .transportError => recordPollFailure p row t t.status
  | .response statusCode result =>
    match classifyPollHTTP statusCode, result with
    | .notFound, _ => failTaskFromPoll p row t t.status
    | .auth, _ => recordPollFailure p row t t.status
    | .transient, _ => recordPollFailure p row t t.status
    | _, none => recordPollFailure p row t t.status
    | httpClass, some info =>
      if ¬ knownPollStatus info.status then recordPollFailure p row t t.status
      else if httpClass = .otherClient ∧ isNonTerminalPollStatus info.status then
        recordPollFailure p row t t.status
      else accept info

/-- The failure counter of a copy after an accepted result. -/
def pollFailuresAfter (t : TaskRow) (status : TaskStatus) : Nat :=
  if isNonTerminalPollStatus status then 0 else t.pollFailures

/-- The part of `updateVideoSingleTask` after the result is accepted. -/
def acceptVideoResult (p : Poll) (row t : TaskRow) (info : TaskInfo) : TaskRow × Worker :=
  let t' := { t with
    status := info.status
    pollFailures := pollFailuresAfter t info.status
    content := p.content }
  let shouldFinalizeBilling : WorkerPc := if info.status.isDone then .settle p.usage else .loaded
  if t'.status.isDone ∧ t.status ≠ t'.status then
    updateThen row t' t.status shouldFinalizeBilling
  else if ¬ t.snapshotEqual t' then
    -- the outcome of this update is not looked at, so a done task is billed even if it is lost
    ((updateWithStatus row t' t.status).2, ⟨t', shouldFinalizeBilling⟩)
  else (row, ⟨t', shouldFinalizeBilling⟩)

def updateVideoSingleTask (p : Poll) (row t : TaskRow) : TaskRow × Worker :=
  pollTask (acceptVideoResult p row t) p row t

/-- The part of `updateBatchTasks` after the result of one task is accepted: a reason makes the
task a failed one whatever its status says. -/
def acceptBatchResult (p : Poll) (row t : TaskRow) (info : TaskInfo) : TaskRow × Worker :=
  let t' := { t with
    status := if info.hasReason ∨ info.status = .failure then .failure else info.status
    submitTime := if info.submitTime ≠ 0 then info.submitTime else t.submitTime
    pollFailures := pollFailuresAfter t info.status
    content := p.content }
  let terminalTransition := t'.status.isDone ∧ t.status ≠ t'.status
  updateThen row t' t.status (if terminalTransition then .settle p.usage else .loaded)

def updateBatchTasks (p : Poll) (row t : TaskRow) : TaskRow × Worker :=
  pollTask (acceptBatchResult p row t) p row t

/-- `sweepTimedOutTasks` for one task: a task of the old system loses its quota with the update
and is not refunded. -/
def sweepTimedOutTask (content : Nat) (row t : TaskRow) : TaskRow × Worker :=
  let isLegacy := 0 < t.submitTime ∧ t.submitTime < taskRefundLegacyCutoff
  let t' := { t with
    status := .failure
    quota := if isLegacy then 0 else t.quota
    content := content }
  updateThen row t' t.status (if ¬ isLegacy ∧ t'.quota ≠ 0 then .refund else .loaded)

/-- The status of a fetched copy: what the upstream says, unless that is empty. -/
def fetchedStatus (t : TaskRow) (status : TaskStatus) : TaskStatus :=
  if status = .other "" then t.status else status

/-- `tryRealtimeFetch`: the upstream's status goes into the row and no billing follows. -/
def tryRealtimeFetch (status : TaskStatus) (content : Nat) (row t : TaskRow) : TaskRow × Worker :=
  let t' := { t with status := fetchedStatus t status, content := content }
  if ¬ t.snapshotEqual t' then ((updateWithStatus row t' t.status).2, ⟨t', .done⟩)
  else (row, ⟨t', .done⟩)

/-! ## The system -/

/-- The task row, the workers and what has been done for the task: the amount returned to its
funding source, the calls of `RefundTaskQuota` and of the completion settlement, and whether the
latter took the billing over. -/
structure TaskState where
  row : TaskRow
  workers : List Worker
  returned : Int
  refunds : Nat
  settlements : Nat
  takenOver : Bool
  deriving DecidableEq, Repr

/-- A task right after submission, held by no worker. -/
def TaskState.submitted (row : TaskRow) : TaskState where
  row := row
  workers := []
  returned := 0
  refunds := 0
  settlements := 0
  takenOver := false

/-- Worker `i` is `w` from now on. -/
def TaskState.put (s : TaskState) (i : Nat) (w : Worker) : TaskState :=
  { s with workers := s.workers.set i w }

/-- One billing step of a worker with its copy `t`: the amounts it reads are those of the copy. -/
def billTask (billing : TaskBilling) (s : TaskState) (i : Nat) (w : Worker) : Option TaskState :=
  let t := w.task
  match w.pc with
  | .settle u =>
    let s' := { s with settlements := s.settlements + 1 }
    match settleTaskBillingOnComplete billing t.status u with
    | .declined =>
      if t.status = .failure ∧ t.quota ≠ 0 then some (s'.put i ⟨t, .refund⟩)
      else some (s'.put i ⟨t, .loaded⟩)
    | .settled actualQuota =>
      let s' := { s' with takenOver := true }
      match actualQuota.bind (recalculateTaskQuota u t.quota) with
      | some quota => some (s'.put i ⟨{ t with quota := quota }, .updateQuota⟩)
      | none => some (s'.put i ⟨t, .loaded⟩)
  | .refund =>
    let s' := { s with returned := s.returned + t.quota, refunds := s.refunds + 1 }
    some (s'.put i ⟨{ t with quota := 0 }, .updateQuota⟩)
  | .updateQuota =>
    let s' := { s with row := { s.row with quota := t.quota } }
    some (s'.put i ⟨t, .loaded⟩)
  | _ => none

/-- Who moves. -/
inductive TaskLabel
  /-- a polling pass or the sweep selects the unfinished task -/
  | load
  /-- a user's fetch reads the task, finished or not -/
  | loadFetch
  | video (i : Nat) (p : Poll)
  | batch (i : Nat) (p : Poll)
  | sweep (i : Nat) (content : Nat)
  /-- the task has no upstream id or its channel is gone -/
  | bulkFail (i : Nat) (content : Nat)
  | fetch (i : Nat) (status : TaskStatus) (content : Nat)
  | bill (i : Nat)
  deriving DecidableEq, Repr

/-- Worker `i` moves with `f` if it is at `pc`. -/
def TaskState.move (s : TaskState) (i : Nat) (pc : WorkerPc)
    (f : TaskRow → TaskRow → TaskRow × Worker) : Option TaskState :=
  match s.workers[i]? with
  | none => none
  | some w =>
    if w.pc = pc then
      let (row', w') := f s.row w.task
      some ({ s with row := row' }.put i w')
    else none

def taskStep (billing : TaskBilling) (s : TaskState) : TaskLabel → Option TaskState
  | .load =>
    if s.row.status.isDone then none
    else some { s with workers := s.workers ++ [⟨s.row, .loaded⟩] }
  | .loadFetch => some { s with workers := s.workers ++ [⟨s.row, .fetching⟩] }
  | .video i p => s.move i .loaded (updateVideoSingleTask p)
  | .batch i p => s.move i .loaded (updateBatchTasks p)
  | .sweep i content => s.move i .loaded (sweepTimedOutTask content)
  | .bulkFail i content => s.move i .loaded fun row t => (taskBulkFail row content, ⟨t, .loaded⟩)
  | .fetch i status content => s.move i .fetching (tryRealtimeFetch status content)
  | .bill i =>
    match s.workers[i]? with
    | none => none
    | some w => billTask billing s i w

end NewApi.Service
