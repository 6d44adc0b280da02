import NewApi.Utils.Table
import NewApi.Utils.TrimSpace

/-!
# One-time authentication flows

`model/auth_flow.go`: tokens that are created, looked at and consumed once, and assertions of external
providers that are recorded as consumed. A token or an assertion is stored as its hash, which is unique
in a workspace; `hash` is `authFlowTokenHash`.

Each function that writes is one transaction: it returns the new table, or an error and then nothing
has changed. Times are in nanoseconds.
-/

namespace NewApi.Model

structure AuthFlow where
  tenantId : Int
  tokenHash : String
  purpose : String
  provider : String
  intent : String
  userId : Int
  sessionId : String
  payload : String
  expiresAt : Int
  consumedAt : Option Int
deriving DecidableEq

/-- The unique index on the owner and the hash. -/
def AuthFlow.key (flow : AuthFlow) : Int × String := (flow.tenantId, flow.tokenHash)

abbrev AuthFlows : Type := Table AuthFlow.key

structure AuthFlowCreate where
  purpose : String
  provider : String
  intent : String
  userId : Int
  sessionId : String
  payload : String
  expiresAt : Int

structure AuthFlowMatch where
  purpose : String
  provider : String
  intent : String
  userId : Int
  sessionId : String

inductive AuthFlowError
  | invalid
  | expired
  | consumed
  /-- an error of the database, such as a second row with the same hash -/
  | database
  /-- an error of the action that comes with a consumption -/
  | action (message : String)
deriving DecidableEq

/-- `time.Time{}`. -/
def zeroTime : Int := -62135596800 * 10 ^ 9

/-- `AuthFlowDefaultCleanupRetention`. -/
def authFlowDefaultCleanupRetention : Int := 24 * 3600 * 10 ^ 9

/-- `applyAuthFlowMatch` on a row with the right hash. -/
def AuthFlowMatch.accepts (m : AuthFlowMatch) (flow : AuthFlow) : Bool :=
  flow.purpose = m.purpose &&
    (m.provider = "" || flow.provider = m.provider) &&
    (m.intent = "" || flow.intent = m.intent) &&
    (m.userId = 0 || flow.userId = m.userId) &&
    (m.sessionId = "" || flow.sessionId = m.sessionId)

section
variable (hash : String → String) (rows : AuthFlows) (tenant : Int)

/-- The row that a flow with a new token becomes. -/
def AuthFlowCreate.row (input : AuthFlowCreate) (token : String) : AuthFlow where
  tenantId := tenant
  tokenHash := hash token
  purpose := input.purpose
  provider := input.provider
  intent := input.intent
  userId := input.userId
  sessionId := input.sessionId
  payload := input.payload
  expiresAt := input.expiresAt
  consumedAt := none

/-- `createAuthFlowWithTx`; the random token is an argument. -/
def createAuthFlow (now : Int) (token : String) (input : AuthFlowCreate) :
    Except AuthFlowError AuthFlows :=
  if trimSpace input.purpose = "" ∨ input.expiresAt = zeroTime ∨ ¬ now < input.expiresAt then
    .error .invalid
  else
    match rows.get? (tenant, hash token) with
    | some _ => .error .database
    | none => .ok (rows.save (input.row hash tenant token))

/-- What of an assertion is hashed. -/
def externalText (purpose assertion : String) : String := "external:" ++ purpose ++ ":" ++ assertion

/-- The row that records an assertion as consumed. -/
def externalRow (now : Int) (purpose assertion : String) (expiresAt : Int) : AuthFlow where
  tenantId := tenant
  tokenHash := hash (externalText purpose assertion)
  purpose := purpose
  provider := ""
  intent := ""
  userId := 0
  sessionId := ""
  payload := ""
  expiresAt := expiresAt
  consumedAt := some now

def claimExternalAuthAssertion (now : Int) (purpose assertion : String) (expiresAt : Int) :
    Except AuthFlowError AuthFlows :=
  let purpose := trimSpace purpose
  let assertion := trimSpace assertion
  if purpose = "" ∨ assertion = "" ∨ ¬ now < expiresAt then .error .invalid
  else
    -- a conflict inserts nothing
    match rows.get? (tenant, hash (externalText purpose assertion)) with
    | some _ => .error .consumed
    | none => .ok (rows.save (externalRow hash tenant now purpose assertion expiresAt))

/-- What an action does to the flows in the transaction of a consumption. -/
inductive FlowOp
  | create (token : String) (input : AuthFlowCreate)
  | claim (purpose assertion : String) (expiresAt : Int)

/-- The action of a consumption: what it does to the flows, and the error it ends with. -/
structure FlowAction where
  ops : List FlowOp
  error : Option String

def FlowOp.apply (now : Int) (op : FlowOp) : Except AuthFlowError AuthFlows :=
  match op with
  | .create token input => createAuthFlow hash rows tenant now token input
  | .claim purpose assertion expiresAt =>
    claimExternalAuthAssertion hash rows tenant now purpose assertion expiresAt

/-- The operations of an action, up to the first one that fails. -/
def applyOps (now : Int) : AuthFlows → List FlowOp → Except AuthFlowError AuthFlows
  | rows, [] => .ok rows
  | rows, op :: ops =>
    match op.apply hash rows tenant now with
    | .error e => .error e
    | .ok rows => applyOps now rows ops

def FlowAction.run (now : Int) (action : FlowAction) : Except AuthFlowError AuthFlows :=
  match applyOps hash tenant now rows action.ops with
  | .error e => .error e
  | .ok rows =>
    match action.error with
    | some message => .error (.action message)
    | none => .ok rows

/-- The conditional update: the row that it writes, if it finds one. -/
def consumedRow (now : Int) (token : String) (m : AuthFlowMatch) : Option AuthFlow :=
  match rows.get? (tenant, hash token) with
  | none => none
  | some flow =>
    if m.accepts flow ∧ flow.consumedAt = none ∧ now < flow.expiresAt then
      some { flow with consumedAt := some now }
    else none

/-- `first` and `second` are the times at the update and at the check after it. -/
def consumeAuthFlowWithAction (first second : Int) (token : String) (m : AuthFlowMatch)
    (action : FlowAction) : Except AuthFlowError (AuthFlows × AuthFlow) :=
  if token = "" ∨ m.purpose = "" then .error .invalid
  else
    let updated := consumedRow hash rows tenant first token m
    let rows := match updated with
      | some flow => rows.save flow
      | none => rows
    match (rows.get? (tenant, hash token)).filter m.accepts with
    | none => .error .invalid
    | some consumed =>
      if updated = none ∧ consumed.consumedAt ≠ none then .error .consumed
      else if ¬ second < consumed.expiresAt then .error .expired
      else if updated = none then .error .invalid
      else
        match action.run hash rows tenant second with
        | .error e => .error e
        | .ok rows => .ok (rows, consumed)

/-- The rows of one workspace that a clean-up keeps, and all others. -/
def deleteExpiredAuthFlows (now : Int) : AuthFlows :=
  let cutoff := now - authFlowDefaultCleanupRetention
  rows.filter fun flow =>
    !(flow.tenantId = tenant && (flow.expiresAt < cutoff || flow.consumedAt.any (· < cutoff)))

end

/-! ## Histories -/

/-- A consumption that was committed. -/
structure Consumption where
  key : Int × String
  matched : AuthFlowMatch
  checkedAt : Int

/-- An assertion that was accepted. -/
structure Acceptance where
  tenant : Int
  purpose : String
  assertion : String
  acceptedAt : Int
  expiresAt : Int
deriving DecidableEq

structure AuthFlowState where
  clock : Int
  rows : AuthFlows
  /-- the rows as they were created -/
  created : List AuthFlow
  consumptions : List Consumption
  acceptances : List Acceptance

/-- A call by some node, in the workspace of its context. -/
inductive AuthFlowLabel
  | tick (now : Int)
  | create (tenant : Int) (token : String) (input : AuthFlowCreate)
  /-- `GetAuthFlow`, which only reads -/
  | get (tenant : Int) (token : String) (m : AuthFlowMatch)
  /-- `second` is the time at the second check -/
  | consume (tenant : Int) (token : String) (m : AuthFlowMatch) (action : FlowAction) (second : Int)
  | claim (tenant : Int) (purpose assertion : String) (expiresAt : Int)
  /-- a clean-up with a time that was read before -/
  | cleanup (tenant : Int) (now : Int)

section
variable (hash : String → String)

/-- The flows that the operations create. -/
def createdBy (tenant : Int) (ops : List FlowOp) : List AuthFlow :=
  ops.filterMap fun op =>
    match op with
    | .create token input => some (input.row hash tenant token)
    | .claim _ _ _ => none

/-- The assertions that the operations claim. -/
def acceptedBy (tenant now : Int) (ops : List FlowOp) : List Acceptance :=
  ops.filterMap fun op =>
    match op with
    | .create _ _ => none
    | .claim purpose assertion expiresAt =>
      some ⟨tenant, trimSpace purpose, trimSpace assertion, now, expiresAt⟩

/-- The new tokens are 32 random bytes: none of them was one before. -/
def FreshTokens (s : AuthFlowState) (flows : List AuthFlow) : Prop :=
  (flows.map AuthFlow.key).Nodup ∧ ∀ flow ∈ flows, flow.key ∉ s.created.map AuthFlow.key

instance (s : AuthFlowState) (flows : List AuthFlow) : Decidable (FreshTokens s flows) :=
  inferInstanceAs (Decidable (_ ∧ _))

/-- The state after operations in a transaction of their own, or none if they fail. -/
def AuthFlowState.transact (s : AuthFlowState) (tenant now : Int) (ops : List FlowOp) :
    Option AuthFlowState :=
  match applyOps hash tenant now s.rows ops with
  | .error _ => none
  | .ok rows =>
    some { s with
      rows := rows
      created := s.created ++ createdBy hash tenant ops
      acceptances := s.acceptances ++ acceptedBy tenant now ops }

/-- The state after a consumption and its action, or none if it is rolled back. -/
def AuthFlowState.consume (s : AuthFlowState) (tenant : Int) (token : String) (m : AuthFlowMatch)
    (action : FlowAction) (second : Int) : Option AuthFlowState :=
  match consumeAuthFlowWithAction hash s.rows tenant s.clock second token m action with
  | .error _ => none
  | .ok (rows, _) =>
    some { s with
      rows := rows
      created := s.created ++ createdBy hash tenant action.ops
      consumptions := s.consumptions ++ [⟨(tenant, hash token), m, second⟩]
      acceptances := s.acceptances ++ acceptedBy tenant second action.ops }

/-- A call that fails leaves the state as it was. -/
def authFlowStep (s : AuthFlowState) : AuthFlowLabel → Option AuthFlowState
  | .tick now => if s.clock ≤ now then some { s with clock := now } else none
  | .create tenant token input =>
    if FreshTokens s [input.row hash tenant token] then
      some ((s.transact hash tenant s.clock [.create token input]).getD s)
    else none
  | .get _ _ _ => some s
  | .consume tenant token m action second =>
    if s.clock ≤ second ∧ FreshTokens s (createdBy hash tenant action.ops) then
      some { (s.consume hash tenant token m action second).getD s with clock := second }
    else none
  | .claim tenant purpose assertion expiresAt =>
    some ((s.transact hash tenant s.clock [.claim purpose assertion expiresAt]).getD s)
  | .cleanup tenant now =>
    if now ≤ s.clock then some { s with rows := deleteExpiredAuthFlows s.rows tenant now } else none

/-- A history starts with any table. -/
def authFlowStart (clock : Int) (rows : AuthFlows) : AuthFlowState where
  clock := clock
  rows := rows
  created := rows.rows
  consumptions := []
  acceptances := []

end

end NewApi.Model
