import NewApi.Utils.Pool
import NewApi.Utils.Runs
import NewApi.Utils.Table

/-!
# Redemption codes of the platform

`platform/redemption.go`: codes that assign a hosting plan to a workspace, each with a number of
uses. `consumeRedemption` runs inside a transaction of `redeem` or of `createTenant`, and with it
`assignWorkspacePlan`.

The system is the committed database and any number of redeem transactions. Each statement of a
transaction is one step, and time may pass before it. Until it commits, what a transaction has
written is part of the transaction, and the rows it has written are locked. A transaction may roll
back at any point. The other writers (`createRedemptions`, `disableRedemption`, `assignPlan`, and
whatever creates or changes a workspace) commit in one step, and wait for rows that are locked.
-/

namespace NewApi.Platform

/-! ## Tables -/

inductive RedemptionStatus
  | active
  | disabled
deriving DecidableEq

/-- Times are in nanoseconds. -/
structure Redemption where
  id : Int
  codeHash : String
  planID : Int
  durationMonths : Int
  status : RedemptionStatus
  maxUses : Int
  used : Int
  expiresAt : Option Int
deriving DecidableEq

structure RedemptionUse where
  redemptionID : Int
  tenantID : Int
  platformUserID : Int
  assignmentID : Int
  createdAt : Int
deriving DecidableEq

/-- The columns of the unique index `platform_redemption_workspace`. -/
def RedemptionUse.key (u : RedemptionUse) : Int × Int := (u.redemptionID, u.tenantID)

inductive AssignmentSource
  | manual
  | redeem
deriving DecidableEq

structure Assignment where
  id : Int
  tenantID : Int
  planID : Int
  administratorID : Int
  platformUserID : Int
  source : AssignmentSource
  redemptionID : Option Int
  expiresAt : Int
deriving DecidableEq

inductive WorkspaceStatus
  | active
  | suspended
deriving DecidableEq

structure Workspace where
  id : Int
  ownerPlatformUserID : Int
  planID : Int
  status : WorkspaceStatus
  planExpiresAt : Option Int
deriving DecidableEq

/-- The committed tables, and the identifiers that are given out next. -/
structure PlatformDB where
  redemptions : Table Redemption.id
  uses : Table RedemptionUse.key
  assignments : Table Assignment.id
  workspaces : Table Workspace.id
  nextRedemptionID : Int
  nextAssignmentID : Int

/-- The calendar of `time.Date` and `AddDate`: months are added as `assignWorkspacePlan` does, to
the last day of a month that is too short. -/
structure Calendar where
  addMonths : Int → Int → Int
  addYears : Int → Int → Int

/-! ## Codes -/

/-- The condition of the conditional increment. -/
def Redemption.redeemable (r : Redemption) (now : Int) : Prop :=
  r.status = .active ∧ r.used < r.maxUses ∧ ∀ expiresAt ∈ r.expiresAt, now < expiresAt

instance (r : Redemption) (now : Int) : Decidable (r.redeemable now) :=
  inferInstanceAs (Decidable (_ ∧ _ ∧ _))

structure RedemptionBatch where
  planID : Int
  durationMonths : Int
  /-- the digests of the new codes, `count` of them -/
  codeHashes : List String
  maxUses : Int
  expiresAt : Option Int
deriving DecidableEq

def RedemptionBatch.valid (cal : Calendar) (batch : RedemptionBatch) (now : Int) : Prop :=
  0 < batch.planID ∧ 1 ≤ batch.durationMonths ∧ batch.durationMonths ≤ 36 ∧
    1 ≤ batch.codeHashes.length ∧ batch.codeHashes.length ≤ 100 ∧
    1 ≤ batch.maxUses ∧ batch.maxUses ≤ 1000 ∧
    ∀ expiresAt ∈ batch.expiresAt, now < expiresAt ∧ expiresAt ≤ cal.addYears 10 now

instance (cal : Calendar) (batch : RedemptionBatch) (now : Int) : Decidable (batch.valid cal now) :=
  inferInstanceAs (Decidable (_ ∧ _ ∧ _ ∧ _ ∧ _ ∧ _ ∧ _ ∧ _))

def PlatformDB.insertRedemption (db : PlatformDB) (batch : RedemptionBatch) (codeHash : String) :
    PlatformDB :=
  { db with
    redemptions := db.redemptions.save
      { id := db.nextRedemptionID, codeHash := codeHash, planID := batch.planID
        durationMonths := batch.durationMonths, status := .active, maxUses := batch.maxUses
        used := 0, expiresAt := batch.expiresAt }
    nextRedemptionID := db.nextRedemptionID + 1 }

/-- `createRedemptions`; `planOk` says that the plan is there and readable. A digest that is there
already violates the unique index, and nothing is inserted. -/
def createRedemptions (cal : Calendar) (db : PlatformDB) (batch : RedemptionBatch) (planOk : Bool)
    (now : Int) : PlatformDB :=
  if batch.valid cal now ∧ planOk ∧ batch.codeHashes.Nodup ∧
      ∀ r ∈ db.redemptions.rows, r.codeHash ∉ batch.codeHashes then
    batch.codeHashes.foldl (fun db codeHash => db.insertRedemption batch codeHash) db
  else db

def disableRedemption (db : PlatformDB) (id : Int) : PlatformDB :=
  match db.redemptions.get? id with
  | none => db
  | some entry =>
    { db with redemptions := db.redemptions.save { entry with status := .disabled } }

/-! ## Assignments -/

/-- A renewal of the same plan starts when the current term ends, any other plan now. -/
def Workspace.renewalBase (workspace : Workspace) (planID now : Int) : Int :=
  match workspace.planExpiresAt with
  | some expiresAt => if workspace.planID = planID ∧ now < expiresAt then expiresAt else now
  | none => now

/-- `assignWorkspacePlan` after it has locked and read the workspace: the assignment it inserts, or
`none` where it fails. -/
def assignWorkspacePlan (cal : Calendar) (workspace : Workspace) (tenantID planID months actor : Int)
    (source : AssignmentSource) (redemptionID : Option Int) (planOk : Bool) (id now : Int) :
    Option Assignment :=
  if months < 1 ∨ months > 36 then none
  else if source = .redeem ∧
      (workspace.ownerPlatformUserID ≠ actor ∨ workspace.status ≠ .active) then none
  else if !planOk then none
  else
    let expires := cal.addMonths months (workspace.renewalBase planID now)
    if cal.addYears 100 now < expires then none
    else
      some
        { id := id, tenantID := tenantID, planID := planID
          administratorID := if source = .manual then actor else 0
          platformUserID := actor, source := source, redemptionID := redemptionID
          expiresAt := expires }

/-- The workspace with the plan of the assignment. -/
def Workspace.renewed (workspace : Workspace) (assignment : Assignment) : Workspace :=
  { workspace with planID := assignment.planID, planExpiresAt := some assignment.expiresAt }

/-- `assignPlan`, by an administrator. -/
def assignPlan (cal : Calendar) (db : PlatformDB) (tenantID planID months actor : Int)
    (planOk : Bool) (now : Int) : PlatformDB :=
  match db.workspaces.get? tenantID with
  | none => db
  | some workspace =>
    match assignWorkspacePlan cal workspace tenantID planID months actor .manual none planOk
        db.nextAssignmentID now with
    | none => db
    | some assignment =>
      { db with
        workspaces := db.workspaces.save (workspace.renewed assignment)
        assignments := db.assignments.save assignment
        nextAssignmentID := db.nextAssignmentID + 1 }

/-! ## Redeem transactions -/

/-- The code as it was read, and when the conditional increment was issued. -/
structure Grant where
  entry : Redemption
  checkedAt : Int
deriving DecidableEq

inductive RedeemPc
  | lookup
  | increment (grant : Grant)
  | lockWorkspace (grant : Grant)
  | assign (grant : Grant)
  | record (grant : Grant) (assignment : Assignment)
  | commit (grant : Grant) (assignment : Assignment) (use : RedemptionUse)
  | committed
  | rolledBack
deriving DecidableEq

structure RedeemTx where
  /-- the digest of the trimmed code in lower case -/
  codeHash : String
  tenantID : Int
  /-- zero for `redeem`, which takes a code for any plan -/
  expectedPlanID : Int
  actor : Int
  /-- the workspace that `createTenant` has inserted in this transaction -/
  own : Option Workspace
  pc : RedeemPc
deriving DecidableEq

/-- The grant of a transaction whose increment is made. -/
def RedeemPc.grant? : RedeemPc → Option Grant
  | .lockWorkspace grant => some grant
  | .assign grant => some grant
  | .record grant _ => some grant
  | .commit grant _ _ => some grant
  | _ => none

/-- The assignment of a transaction that has inserted it. -/
def RedeemPc.assignment? : RedeemPc → Option Assignment
  | .record _ assignment => some assignment
  | .commit _ assignment _ => some assignment
  | _ => none

def RedeemPc.use? : RedeemPc → Option RedemptionUse
  | .commit _ _ use => some use
  | _ => none

def RedeemPc.isOpen : RedeemPc → Bool
  | .committed => false
  | .rolledBack => false
  | _ => true

/-- Whether the transaction has locked the row of its workspace. -/
def RedeemPc.locksWorkspace : RedeemPc → Bool
  | .assign _ => true
  | .record _ _ => true
  | .commit _ _ _ => true
  | _ => false

inductive Row
  | redemption (id : Int)
  | workspace (id : Int)
  | assignment (id : Int)
deriving DecidableEq

/-- The rows that the transaction has written or locked. -/
def RedeemTx.holds (tx : RedeemTx) : Row → Prop
  | .redemption id => ∃ grant ∈ tx.pc.grant?, grant.entry.id = id
  | .workspace id =>
    tx.tenantID = id ∧ (tx.pc.locksWorkspace ∨ tx.own.isSome ∧ tx.pc.isOpen)
  | .assignment id => ∃ assignment ∈ tx.pc.assignment?, assignment.id = id

instance (tx : RedeemTx) : ∀ row : Row, Decidable (tx.holds row)
  | .redemption _ => inferInstanceAs (Decidable (∃ _ ∈ _, _ = _))
  | .workspace _ => inferInstanceAs (Decidable (_ ∧ (_ ∨ _ ∧ _)))
  | .assignment _ => inferInstanceAs (Decidable (∃ _ ∈ _, _ = _))

/-- The workspace as the transaction reads it. -/
def RedeemTx.workspace (tx : RedeemTx) (db : PlatformDB) : Option Workspace :=
  match tx.own with
  | some workspace => some workspace
  | none => db.workspaces.get? tx.tenantID

structure PlatformState where
  db : PlatformDB
  now : Int
  txs : List RedeemTx

def PlatformState.init : PlatformState where
  db :=
    { redemptions := Table.empty, uses := Table.empty, assignments := Table.empty
      workspaces := Table.empty, nextRedemptionID := 1, nextAssignmentID := 1 }
  now := 0
  txs := []

/-- No transaction has locked the row. -/
def PlatformState.free (s : PlatformState) (row : Row) : Prop :=
  ∀ tx ∈ s.txs, ¬ tx.holds row

instance (s : PlatformState) (row : Row) : Decidable (s.free row) :=
  inferInstanceAs (Decidable (∀ tx ∈ s.txs, ¬ tx.holds row))

/-- `First` with the digest. -/
def lookupRedemption (db : PlatformDB) (codeHash : String) : Option Redemption :=
  db.redemptions.rows.find? fun r => r.codeHash = codeHash

/-- What the transaction has written becomes the committed state. -/
def RedeemTx.commit (tx : RedeemTx) (db : PlatformDB) (grant : Grant) (assignment : Assignment)
    (use : RedemptionUse) : PlatformDB :=
  { db with
    redemptions :=
      match db.redemptions.get? grant.entry.id with
      | some r => db.redemptions.save { r with used := r.used + 1 }
      | none => db.redemptions
    workspaces :=
      match tx.workspace db with
      | some workspace => db.workspaces.save (workspace.renewed assignment)
      | none => db.workspaces
    assignments := db.assignments.save assignment
    uses := db.uses.save use }

/-- The next statement of a transaction: where it goes on, and the database; `none` while it waits
for a lock. -/
def RedeemTx.statement (cal : Calendar) (s : PlatformState) (tx : RedeemTx) (planOk : Bool) :
    Option (PlatformDB × RedeemPc) :=
  match tx.pc with
  | .lookup =>
    match lookupRedemption s.db tx.codeHash with
    | none => some (s.db, .rolledBack)
    | some entry =>
      if 0 < tx.expectedPlanID ∧ entry.planID ≠ tx.expectedPlanID then some (s.db, .rolledBack)
      else some (s.db, .increment { entry := entry, checkedAt := s.now })
  | .increment grant =>
    if s.free (.redemption grant.entry.id) then
      match s.db.redemptions.get? grant.entry.id with
      | none => some (s.db, .rolledBack)
      | some r =>
        if r.redeemable grant.checkedAt then some (s.db, .lockWorkspace grant)
        else some (s.db, .rolledBack)
    else none
  | .lockWorkspace grant =>
    match tx.workspace s.db with
    | none => some (s.db, .rolledBack)
    | some _ =>
      if tx.own.isSome ∨ s.free (.workspace tx.tenantID) then some (s.db, .assign grant) else none
  | .assign grant =>
    match tx.workspace s.db with
    | none => some (s.db, .rolledBack)
    | some workspace =>
      match assignWorkspacePlan cal workspace tx.tenantID grant.entry.planID
          grant.entry.durationMonths tx.actor .redeem (some grant.entry.id) planOk
          s.db.nextAssignmentID s.now with
      | none => some (s.db, .rolledBack)
      | some assignment =>
        some ({ s.db with nextAssignmentID := s.db.nextAssignmentID + 1 }, .record grant assignment)
  | .record grant assignment =>
    match s.db.uses.get? (grant.entry.id, tx.tenantID) with
    | some _ => some (s.db, .rolledBack)
    | none =>
      some (s.db, .commit grant assignment
        { redemptionID := grant.entry.id, tenantID := tx.tenantID, platformUserID := tx.actor
          assignmentID := assignment.id, createdAt := s.now })
  | .commit grant assignment use => some (tx.commit s.db grant assignment use, .committed)
  | .committed => none
  | .rolledBack => none

inductive PlatformLabel
  | redeem (codeHash : String) (tenantID actor : Int)
  /-- `createTenant` with a code, after it has inserted the workspace -/
  | createTenant (codeHash : String) (tenantID planID actor : Int)
  | statement (i : Nat) (planOk : Bool)
  | rollback (i : Nat)
  | wait (duration : Nat)
  | createRedemptions (batch : RedemptionBatch) (planOk : Bool)
  | disableRedemption (id : Int)
  | assignPlan (tenantID planID months actor : Int) (planOk : Bool)
  /-- a workspace is created, transferred, suspended or otherwise changed -/
  | saveWorkspace (workspace : Workspace)
deriving DecidableEq

def platformStep (cal : Calendar) (s : PlatformState) : PlatformLabel → Option PlatformState
  | .redeem codeHash tenantID actor =>
    some { s with txs := s.txs ++
      [{ codeHash := codeHash, tenantID := tenantID, expectedPlanID := 0, actor := actor
         own := none, pc := .lookup }] }
  | .createTenant codeHash tenantID planID actor =>
    -- the identifier of the new workspace is not in use
    if s.free (.workspace tenantID) ∧ s.db.workspaces.get? tenantID = none then
      some { s with txs := s.txs ++
        [{ codeHash := codeHash, tenantID := tenantID, expectedPlanID := planID, actor := actor
           own := some { id := tenantID, ownerPlatformUserID := actor, planID := planID
                         status := .active, planExpiresAt := none }
           pc := .lookup }] }
    else none
  | .statement i planOk =>
    match s.txs[i]? with
    | none => none
    | some tx =>
      match tx.statement cal s planOk with
      | none => none
      | some (db, pc) => some { s with db := db, txs := s.txs.set i { tx with pc := pc } }
  | .rollback i =>
    match s.txs[i]? with
    | none => none
    | some tx =>
      if tx.pc.isOpen then some { s with txs := s.txs.set i { tx with pc := .rolledBack } }
      else none
  | .wait duration => some { s with now := s.now + duration }
  | .createRedemptions batch planOk =>
    some { s with db := createRedemptions cal s.db batch planOk s.now }
  | .disableRedemption id =>
    if s.free (.redemption id) then some { s with db := disableRedemption s.db id } else none
  | .assignPlan tenantID planID months actor planOk =>
    if s.free (.workspace tenantID) then
      some { s with db := assignPlan cal s.db tenantID planID months actor planOk s.now }
    else none
  | .saveWorkspace workspace =>
    if s.free (.workspace workspace.id) then
      some { s with db := { s.db with workspaces := s.db.workspaces.save workspace } }
    else none

end NewApi.Platform
