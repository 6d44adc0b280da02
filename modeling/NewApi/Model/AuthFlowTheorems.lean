import NewApi.Model.AuthFlow
import NewApi.Utils.Runs

/-!
# Authentication flows are used once

A token is consumed by a conditional update of its row, and its row is never made open again: not by
the clean-up, which only deletes, and not by a new flow, which has a new token. An assertion is accepted
by inserting a row that is consumed already, and is refused as long as that row is there.
-/

namespace NewApi.Model

open Runs List Table AuthFlow

/-! ## The statement -/

def Acceptance.key (hash : String → String) (a : Acceptance) : Int × String :=
  (a.tenant, hash (externalText a.purpose a.assertion))

/-- The same assertion, in one workspace. -/
def Acceptance.same (a b : Acceptance) : Prop :=
  a.tenant = b.tenant ∧ a.purpose = b.purpose ∧ a.assertion = b.assertion

instance (a b : Acceptance) : Decidable (a.same b) := inferInstanceAs (Decidable (_ ∧ _ ∧ _))

section
variable (hash : String → String)

/-- What is promised of a history that has led to `s`. -/
structure UsedOnce (s : AuthFlowState) : Prop where
  consumed_once : (s.consumptions.map (·.key)).Nodup
  /-- a consumption is of a flow that was created open, was checked before its expiry and had the
  bindings it asked for -/
  consumed_valid : ∀ c ∈ s.consumptions, ∃ flow ∈ s.created, flow.key = c.key ∧
    flow.consumedAt = none ∧ c.matched.accepts flow = true ∧ c.checkedAt < flow.expiresAt
  /-- an action that fails leaves the table as it is -/
  failed : ∀ tenant token m action second s', action.error ≠ none →
    authFlowStep hash s (.consume tenant token m action second) = some s' →
    s'.rows = s.rows ∧ s'.consumptions = s.consumptions
  accepted_once : s.acceptances.Pairwise fun a b => a.same b → a.expiresAt ≤ b.acceptedAt

/-- The assertions that a call has accepted. -/
def AuthFlowLabel.accepts (s : AuthFlowState) : AuthFlowLabel → List Acceptance
  | .claim tenant purpose assertion expiresAt =>
    if (s.transact hash tenant s.clock [.claim purpose assertion expiresAt]).isSome then
      acceptedBy tenant s.clock [.claim purpose assertion expiresAt]
    else []
  | .consume tenant token m action second =>
    if (s.consume hash tenant token m action second).isSome then
      acceptedBy tenant second action.ops
    else []
  | _ => []

/-- An assertion that is accepted and was accepted before, with an expiry that is still ahead, has its
record in the table. -/
def RecordKept (s : AuthFlowState) (label : AuthFlowLabel) : Prop :=
  ∀ b ∈ label.accepts hash s, ∀ a ∈ s.acceptances, a.same b → b.acceptedAt < a.expiresAt →
    (s.rows.get? (a.key hash)).isSome

instance (s : AuthFlowState) (label : AuthFlowLabel) : Decidable (RecordKept hash s label) :=
  inferInstanceAs (Decidable (∀ _ ∈ _, ∀ _ ∈ _, _ → _ < _ → _ = true))

end

/-! ## What the functions do to the table -/

variable {ops : List FlowOp} {row : AuthFlow} {second : Int} {token : String} {m : AuthFlowMatch}
  {action : FlowAction}

section
variable {hash : String → String} {rows rows' : AuthFlows} {tenant now : Int}

/-- A row is inserted: an open one for a new token, or a consumed one for an assertion. -/
inductive Inserts (hash : String → String) (tenant now : Int) (rows : AuthFlows) :
    FlowOp → AuthFlows → Prop
  | create (token : String) (input : AuthFlowCreate)
      (absent : rows.get? (tenant, hash token) = none) :
      Inserts hash tenant now rows (.create token input)
        (rows.save (input.row hash tenant token))
  | claim (purpose assertion : String) (expiresAt : Int) (ahead : now < expiresAt)
      (absent : rows.get?
        (tenant, hash (externalText (trimSpace purpose) (trimSpace assertion))) = none) :
      Inserts hash tenant now rows (.claim purpose assertion expiresAt)
        (rows.save (externalRow hash tenant now (trimSpace purpose) (trimSpace assertion) expiresAt))

lemma apply_inserts {op : FlowOp} (h : op.apply hash rows tenant now = .ok rows') :
    Inserts hash tenant now rows op rows' := by
  cases op with
  | create token input =>
    simp only [FlowOp.apply, createAuthFlow] at h
    split_ifs at h
    split at h
    · cases h
    rename_i habsent
    cases h
    exact .create token input habsent
  | claim purpose assertion expiresAt =>
    simp only [FlowOp.apply, claimExternalAuthAssertion] at h
    split_ifs at h with hinvalid
    split at h
    · cases h
    rename_i habsent
    cases h
    have hahead : now < expiresAt := by
      by_contra hle
      exact hinvalid (.inr (.inr hle))
    exact .claim purpose assertion expiresAt hahead habsent

lemma Inserts.absent {op : FlowOp} (h : Inserts hash tenant now rows op rows') :
    ∃ row, rows.get? row.key = none ∧ rows' = rows.save row := by
  cases h with
  | create token input habsent => exact ⟨input.row hash tenant token, habsent, rfl⟩
  | claim purpose assertion expiresAt hahead habsent =>
    exact ⟨externalRow hash tenant now _ _ expiresAt, habsent, rfl⟩

/-- Rows are inserted, never overwritten. -/
lemma applyOps_mono (h : applyOps hash tenant now rows ops = .ok rows')
    {k : Int × String} (hget : rows.get? k = some row) :
    rows'.get? k = some row := by
  induction ops generalizing rows with
  | nil =>
    cases h
    exact hget
  | cons op ops ih =>
    rw [applyOps] at h
    split at h
    · cases h
    rename_i rows₁ happly
    obtain ⟨new, habsent, rfl⟩ := (apply_inserts happly).absent
    have hne : new.key ≠ k := by
      rintro rfl
      rw [habsent] at hget
      cases hget
    refine ih h ?_
    rw [get?_save, if_neg hne]
    exact hget

/-- The assertions that a transaction accepts had no record before, and have one after. -/
lemma applyOps_accepted (h : applyOps hash tenant now rows ops = .ok rows') :
    (∀ b ∈ acceptedBy tenant now ops, rows.get? (b.key hash) = none ∧ b.acceptedAt = now ∧
      ∃ row, rows'.get? (b.key hash) = some row ∧ row.consumedAt = some now ∧
        row.expiresAt = b.expiresAt) ∧
      (acceptedBy tenant now ops).Pairwise fun a b => a.key hash ≠ b.key hash := by
  induction ops generalizing rows with
  | nil => simp [acceptedBy]
  | cons op ops ih =>
    rw [applyOps] at h
    split at h
    · cases h
    rename_i rows₁ happly
    obtain ⟨hrest, hpairwise⟩ := ih h
    -- what has no record after the first operation had none before
    have hbefore : ∀ new : AuthFlow, rows₁ = rows.save new → ∀ b ∈ acceptedBy tenant now ops,
        rows.get? (b.key hash) = none ∧ new.key ≠ b.key hash := by
      rintro new rfl b hb
      have habsent := (hrest b hb).1
      rw [get?_save] at habsent
      split_ifs at habsent with hk
      exact ⟨habsent, hk⟩
    cases apply_inserts happly with
    | create token input habsent =>
      refine ⟨?_, hpairwise⟩
      intro b hb
      exact ⟨(hbefore _ rfl b hb).1, (hrest b hb).2⟩
    | claim purpose assertion expiresAt hahead habsent =>
      have hcons : acceptedBy tenant now (.claim purpose assertion expiresAt :: ops)
          = ⟨tenant, trimSpace purpose, trimSpace assertion, now, expiresAt⟩
            :: acceptedBy tenant now ops := rfl
      rw [hcons]
      constructor
      · intro b hb
        rcases mem_cons.mp hb with rfl | hb
        · refine ⟨habsent, rfl, externalRow hash tenant now (trimSpace purpose)
            (trimSpace assertion) expiresAt, ?_, rfl, rfl⟩
          exact applyOps_mono h (get?_save_self rows _)
        · exact ⟨(hbefore _ rfl b hb).1, (hrest b hb).2⟩
      · refine pairwise_cons.mpr ⟨?_, hpairwise⟩
        intro b hb
        exact (hbefore _ rfl b hb).2

/-- What a consumption that is committed has found and written. -/
lemma consume_ok {first : Int} {consumed : AuthFlow}
    (h : consumeAuthFlowWithAction hash rows tenant first second token m action
      = .ok (rows', consumed)) :
    ∃ flow, rows.get? (tenant, hash token) = some flow ∧ m.accepts flow = true ∧
      flow.consumedAt = none ∧ second < flow.expiresAt ∧
      applyOps hash tenant second (rows.save { flow with consumedAt := some first }) action.ops
        = .ok rows' ∧ action.error = none := by
  unfold consumeAuthFlowWithAction at h
  split_ifs at h with hinvalid
  cases hupdated : consumedRow hash rows tenant first token m with
  | none =>
    simp only [hupdated] at h
    split at h
    · cases h
    · split_ifs at h
  | some flow' =>
    have hrow := hupdated
    unfold consumedRow at hrow
    split at hrow
    · cases hrow
    rename_i flow hget
    split_ifs at hrow with hmatch
    cases hrow
    obtain ⟨haccepts, hopen, hahead⟩ := hmatch
    have hkey : flow.key = (tenant, hash token) := key_of_get? hget
    have hread : (rows.save { flow with consumedAt := some first }).get? (tenant, hash token)
        = some { flow with consumedAt := some first } := by
      rw [← hkey]
      exact get?_save_self rows { flow with consumedAt := some first }
    have haccepts' : m.accepts { flow with consumedAt := some first } = true := haccepts
    simp only [hupdated, hread, Option.filter_some, haccepts', if_true, reduceCtorEq, false_and,
      if_false] at h
    split_ifs at h with hahead'
    · unfold FlowAction.run at h
      split at h
      · cases h
      rename_i rows₁ hrun
      split at hrun
      · cases hrun
      rename_i rows₂ hops
      split at hrun
      · cases hrun
      rename_i herror
      cases hrun
      cases h
      exact ⟨flow, hget, haccepts, hopen, hahead', hops, herror⟩

end

/-! ## Tokens -/

/-- Open rows are as they were created, and no consumed token has one. -/
structure TokenInv (rows : AuthFlows) (created : List AuthFlow) (consumptions : List Consumption) :
    Prop where
  created_of_open : ∀ k row, rows.get? k = some row → row.consumedAt = none → row ∈ created
  spent : ∀ c ∈ consumptions, ∀ row, rows.get? c.key = some row → row.consumedAt ≠ none
  once : (consumptions.map (·.key)).Nodup
  valid : ∀ c ∈ consumptions, ∃ flow ∈ created, flow.key = c.key ∧ flow.consumedAt = none ∧
    c.matched.accepts flow = true ∧ c.checkedAt < flow.expiresAt

section
variable {hash : String → String} {rows rows' : AuthFlows} {tenant now : Int}
  {created : List AuthFlow} {consumptions : List Consumption}

section
variable (h : TokenInv rows created consumptions)
include h

lemma TokenInv.insert_open
    (hfresh : row.key ∉ created.map key) :
    TokenInv (rows.save row) (created ++ [row]) consumptions where
  created_of_open := by
    intro k r hget hopen
    rw [get?_save] at hget
    split_ifs at hget with hk
    · cases hget
      exact mem_append_right _ mem_cons_self
    · exact mem_append_left _ (h.created_of_open k r hget hopen)
  spent := by
    intro c hc r hget
    -- a consumed token was created before, and the new one was not
    obtain ⟨flow, hflow, hkey, -⟩ := h.valid c hc
    have hne : row.key ≠ c.key := by
      rw [← hkey]
      exact fun heq => hfresh (heq ▸ mem_map_of_mem hflow)
    rw [get?_save, if_neg hne] at hget
    exact h.spent c hc r hget
  once := h.once
  valid := by
    intro c hc
    obtain ⟨flow, hflow, hrest⟩ := h.valid c hc
    exact ⟨flow, mem_append_left _ hflow, hrest⟩

lemma TokenInv.insert_consumed
    (hconsumed : row.consumedAt ≠ none) : TokenInv (rows.save row) created consumptions where
  created_of_open := by
    intro k r hget hopen
    rw [get?_save] at hget
    split_ifs at hget with hk
    · cases hget
      exact absurd hopen hconsumed
    · exact h.created_of_open k r hget hopen
  spent := by
    intro c hc r hget
    rw [get?_save] at hget
    split_ifs at hget with hk
    · cases hget
      exact hconsumed
    · exact h.spent c hc r hget
  once := h.once
  valid := h.valid

/-- A consumption closes an open row for good. -/
lemma TokenInv.consume {flow : AuthFlow}
    {first : Int} (hget : rows.get? flow.key = some flow)
    (hopen : flow.consumedAt = none) (haccepts : m.accepts flow = true)
    (hahead : second < flow.expiresAt) :
    TokenInv (rows.save { flow with consumedAt := some first }) created
      (consumptions ++ [⟨flow.key, m, second⟩]) := by
  have hclosed : TokenInv (rows.save { flow with consumedAt := some first }) created consumptions :=
    h.insert_consumed (by simp)
  refine ⟨hclosed.created_of_open, ?_, ?_, ?_⟩
  · intro c hc r hr
    rcases mem_append.mp hc with hc | hc
    · exact hclosed.spent c hc r hr
    rw [mem_singleton.mp hc] at hr
    have hself := get?_save_self rows { flow with consumedAt := some first }
    rw [show key { flow with consumedAt := some first } = flow.key from rfl, hr] at hself
    cases hself
    simp
  · rw [map_append, nodup_append]
    refine ⟨h.once, by simp, ?_⟩
    intro k hk k' hk'
    obtain ⟨c, hc, rfl⟩ := mem_map.mp hk
    rw [map_singleton, mem_singleton] at hk'
    rintro rfl
    exact h.spent c hc flow (hk' ▸ hget) hopen
  · intro c hc
    rcases mem_append.mp hc with hc | hc
    · exact h.valid c hc
    · rw [mem_singleton.mp hc]
      exact ⟨flow, h.created_of_open _ _ hget hopen, rfl, hopen, haccepts, hahead⟩

end

/-- The operations of a transaction. -/
lemma TokenInv.applyOps (happly : applyOps hash tenant now rows ops = .ok rows')
    (h : TokenInv rows created consumptions)
    (hnodup : ((createdBy hash tenant ops).map key).Nodup)
    (hfresh : ∀ flow ∈ createdBy hash tenant ops, flow.key ∉ created.map key) :
    TokenInv rows' (created ++ createdBy hash tenant ops) consumptions := by
  induction ops generalizing rows created with
  | nil =>
    cases happly
    simpa [createdBy] using h
  | cons op ops ih =>
    rw [Model.applyOps] at happly
    split at happly
    · cases happly
    rename_i rows₁ hop
    cases apply_inserts hop with
    | create token input habsent =>
      have hcons : createdBy hash tenant (.create token input :: ops)
          = input.row hash tenant token :: createdBy hash tenant ops := rfl
      rw [hcons] at hnodup hfresh ⊢
      rw [map_cons, nodup_cons] at hnodup
      rw [append_cons]
      refine ih happly (h.insert_open (hfresh _ mem_cons_self)) hnodup.2 ?_
      intro flow hflow
      rw [map_append, mem_append, not_or]
      refine ⟨hfresh flow (mem_cons_of_mem _ hflow), ?_⟩
      rw [map_singleton, mem_singleton]
      exact fun heq => hnodup.1 (heq ▸ mem_map_of_mem hflow)
    | claim purpose assertion expiresAt hahead habsent =>
      exact ih happly (h.insert_consumed (by simp [externalRow])) hnodup hfresh

/-- A clean-up opens nothing. -/
lemma TokenInv.filter (h : TokenInv rows created consumptions) (p : AuthFlow → Bool) :
    TokenInv (rows.filter p) created consumptions :=
  { h with
    created_of_open := fun k row hget => h.created_of_open k row (get?_filter.mp hget).1
    spent := fun c hc row hget => h.spent c hc row (get?_filter.mp hget).1 }

end

/-! ## Steps -/

section
variable {hash : String → String} {s s' : AuthFlowState} {label : AuthFlowLabel}

lemma transact_some {tenant now : Int} (h : s.transact hash tenant now ops = some s') :
    ∃ rows, applyOps hash tenant now s.rows ops = .ok rows ∧
      s' = { s with
        rows := rows
        created := s.created ++ createdBy hash tenant ops
        acceptances := s.acceptances ++ acceptedBy tenant now ops } := by
  unfold AuthFlowState.transact at h
  split at h
  · cases h
  rename_i rows hops
  cases h
  exact ⟨rows, hops, rfl⟩

lemma consume_some {tenant : Int} (h : s.consume hash tenant token m action second = some s') :
    ∃ flow rows, s.rows.get? flow.key = some flow ∧ flow.key = (tenant, hash token) ∧
      m.accepts flow = true ∧ flow.consumedAt = none ∧ second < flow.expiresAt ∧
      action.error = none ∧
      applyOps hash tenant second (s.rows.save { flow with consumedAt := some s.clock }) action.ops
        = .ok rows ∧
      s' = { s with
        rows := rows
        created := s.created ++ createdBy hash tenant action.ops
        consumptions := s.consumptions ++ [⟨flow.key, m, second⟩]
        acceptances := s.acceptances ++ acceptedBy tenant second action.ops } := by
  unfold AuthFlowState.consume at h
  split at h
  · cases h
  rename_i rows consumed hok
  obtain ⟨flow, hget, haccepts, hopen, hahead, hops, herror⟩ := consume_ok hok
  have hkey : flow.key = (tenant, hash token) := key_of_get? hget
  cases h
  rw [← hkey] at hget ⊢
  exact ⟨flow, rows, hget, rfl, haccepts, hopen, hahead, herror, hops, rfl⟩

/-- What a step does, by the assertions it accepts. -/
inductive AuthFlowMove (hash : String → String) (s : AuthFlowState) :
    List Acceptance → AuthFlowState → Prop
  /-- also a call that fails -/
  | idle {now : Int} (hle : s.clock ≤ now) : AuthFlowMove hash s [] { s with clock := now }
  | transact {tenant : Int} {ops : List FlowOp} {rows : AuthFlows}
      (hops : applyOps hash tenant s.clock s.rows ops = .ok rows)
      (hfresh : FreshTokens s (createdBy hash tenant ops)) :
      AuthFlowMove hash s (acceptedBy tenant s.clock ops)
        { s with
          rows := rows
          created := s.created ++ createdBy hash tenant ops
          acceptances := s.acceptances ++ acceptedBy tenant s.clock ops }
  | consume {tenant second : Int} {flow : AuthFlow} {m : AuthFlowMatch} {action : FlowAction}
      {rows : AuthFlows} (hget : s.rows.get? flow.key = some flow) (haccepts : m.accepts flow = true)
      (hopen : flow.consumedAt = none) (hahead : second < flow.expiresAt)
      (hops : applyOps hash tenant second (s.rows.save { flow with consumedAt := some s.clock })
        action.ops = .ok rows)
      (hle : s.clock ≤ second) (hfresh : FreshTokens s (createdBy hash tenant action.ops)) :
      AuthFlowMove hash s (acceptedBy tenant second action.ops)
        { s with
          clock := second
          rows := rows
          created := s.created ++ createdBy hash tenant action.ops
          consumptions := s.consumptions ++ [⟨flow.key, m, second⟩]
          acceptances := s.acceptances ++ acceptedBy tenant second action.ops }
  | cleanup {tenant now : Int} (hle : now ≤ s.clock) :
      AuthFlowMove hash s [] { s with rows := deleteExpiredAuthFlows s.rows tenant now }

lemma authFlowStep_move (hstep : authFlowStep hash s label = some s') :
    ∃ new, label.accepts hash s = new ∧ AuthFlowMove hash s new s' := by
  refine ⟨_, rfl, ?_⟩
  cases label with simp only [authFlowStep] at hstep
  | tick now =>
    split_ifs at hstep with hle
    cases hstep
    exact .idle hle
  | create tenant token input =>
    split_ifs at hstep with hfresh
    cases hstep
    cases h : s.transact hash tenant s.clock [.create token input] with
    | none => exact .idle (Int.le_refl _)
    | some s₁ =>
      obtain ⟨rows, hops, rfl⟩ := transact_some h
      exact .transact hops hfresh
  | get tenant token m =>
    cases hstep
    exact .idle (Int.le_refl _)
  | consume tenant token m action second =>
    split_ifs at hstep with hguard
    cases hstep
    simp only [AuthFlowLabel.accepts]
    cases h : s.consume hash tenant token m action second with
    | none => exact .idle hguard.1
    | some s₁ =>
      obtain ⟨flow, rows, hget, -, haccepts, hopen, hahead, -, hops, rfl⟩ := consume_some h
      exact .consume hget haccepts hopen hahead hops hguard.1 hguard.2
  | claim tenant purpose assertion expiresAt =>
    cases hstep
    simp only [AuthFlowLabel.accepts]
    cases h : s.transact hash tenant s.clock [.claim purpose assertion expiresAt] with
    | none => exact .idle (Int.le_refl _)
    | some s₁ =>
      obtain ⟨rows, hops, rfl⟩ := transact_some h
      exact .transact hops ⟨nodup_nil, nofun⟩
  | cleanup tenant now =>
    split_ifs at hstep with hle
    cases hstep
    exact .cleanup hle

lemma tokenInv_step (h : TokenInv s.rows s.created s.consumptions)
    (hstep : authFlowStep hash s label = some s') :
    TokenInv s'.rows s'.created s'.consumptions := by
  obtain ⟨_, -, hmove⟩ := authFlowStep_move hstep
  cases hmove with
  | idle => exact h
  | transact hops hfresh => exact h.applyOps hops hfresh.1 hfresh.2
  | consume hget haccepts hopen hahead hops hle hfresh =>
    exact (h.consume hget hopen haccepts hahead).applyOps hops hfresh.1 hfresh.2
  | cleanup => exact h.filter _

/-- What a step adds to the accepted assertions: none of them had a record before. -/
structure AcceptStep (hash : String → String) (s s' : AuthFlowState) (new : List Acceptance) :
    Prop where
  acceptances : s'.acceptances = s.acceptances ++ new
  absent : ∀ b ∈ new, s.rows.get? (b.key hash) = none
  distinct : new.Pairwise fun a b => a.key hash ≠ b.key hash
  /-- they are accepted at a time of the step, and recorded -/
  recorded : ∀ b ∈ new, s.clock ≤ b.acceptedAt ∧ ∃ row, s'.rows.get? (b.key hash) = some row ∧
    row.consumedAt = some b.acceptedAt ∧ row.expiresAt = b.expiresAt

lemma acceptStep_nil (h : s'.acceptances = s.acceptances) : AcceptStep hash s s' [] :=
  ⟨by simp [h], by simp, .nil, by simp⟩

lemma acceptStep (hstep : authFlowStep hash s label = some s') :
    AcceptStep hash s s' (label.accepts hash s) := by
  obtain ⟨new, hnew, hmove⟩ := authFlowStep_move hstep
  rw [hnew]
  cases hmove with
  | transact hops =>
    obtain ⟨haccepted, hdistinct⟩ := applyOps_accepted hops
    refine ⟨rfl, fun b hb => (haccepted b hb).1, hdistinct, fun b hb => ?_⟩
    obtain ⟨-, hat, hrow⟩ := haccepted b hb
    rw [hat]
    exact ⟨Int.le_refl _, hrow⟩
  | consume hget haccepts hopen hahead hops hle =>
    obtain ⟨haccepted, hdistinct⟩ := applyOps_accepted hops
    refine ⟨rfl, ?_, hdistinct, ?_⟩
    · intro b hb
      have habsent := (haccepted b hb).1
      rw [get?_save] at habsent
      split_ifs at habsent
      exact habsent
    · intro b hb
      obtain ⟨-, hat, hrow⟩ := haccepted b hb
      rw [hat]
      exact ⟨hle, hrow⟩
  | _ => exact acceptStep_nil rfl

lemma Acceptance.same.key_eq {a b : Acceptance} (h : a.same b) : a.key hash = b.key hash := by
  simp only [Acceptance.key, h.1, h.2.1, h.2.2]

/-- Assertions stay accepted once as long as each one that is accepted again has expired or has its
record. -/
lemma accepted_once_step (hstep : authFlowStep hash s label = some s') :
    s'.acceptances.Pairwise (fun a b => a.same b → a.expiresAt ≤ b.acceptedAt) ↔
      s.acceptances.Pairwise (fun a b => a.same b → a.expiresAt ≤ b.acceptedAt) ∧
        RecordKept hash s label := by
  obtain ⟨hacceptances, habsent, hdistinct, -⟩ := acceptStep hstep
  have hnew : (label.accepts hash s).Pairwise fun a b => a.same b → a.expiresAt ≤ b.acceptedAt :=
    hdistinct.imp fun hne hsame => absurd hsame.key_eq hne
  rw [hacceptances, pairwise_append]
  constructor
  · rintro ⟨hold, -, hcross⟩
    refine ⟨hold, fun b hb a ha hsame hahead => ?_⟩
    have hle := hcross a ha b hb hsame
    omega
  · rintro ⟨hold, hkept⟩
    refine ⟨hold, hnew, fun a ha b hb hsame => ?_⟩
    by_contra hlt
    have hsome := hkept b hb a ha hsame (by omega)
    rw [hsame.key_eq, habsent b hb] at hsome
    cases hsome

/-! ## Assertions that expire within the retention -/

/-- An assertion whose expiry is ahead has the record of its acceptance. -/
def AllRecorded (hash : String → String) (s : AuthFlowState) : Prop :=
  ∀ a ∈ s.acceptances, s.clock < a.expiresAt → ∃ row, s.rows.get? (a.key hash) = some row ∧
    row.consumedAt = some a.acceptedAt ∧ row.expiresAt = a.expiresAt

lemma clock_le_of_step (hstep : authFlowStep hash s label = some s') : s.clock ≤ s'.clock := by
  obtain ⟨_, -, hmove⟩ := authFlowStep_move hstep
  cases hmove with
  | idle hle | consume _ _ _ _ _ hle => exact hle
  | _ => exact Int.le_refl _

/-- The record of an acceptance stays until the clean-up of a day later. -/
lemma record_step (hstep : authFlowStep hash s label = some s') {k : Int × String}
    {at' : Int} (hget : s.rows.get? k = some row) (hconsumed : row.consumedAt = some at')
    (hkept : s.clock ≤ at' + authFlowDefaultCleanupRetention)
    (hkept' : s.clock ≤ row.expiresAt + authFlowDefaultCleanupRetention) :
    s'.rows.get? k = some row := by
  obtain ⟨_, -, hmove⟩ := authFlowStep_move hstep
  cases hmove with
  | idle => exact hget
  | transact hops => exact applyOps_mono hops hget
  | @consume _ _ flow _ _ _ hflow haccepts hopen hahead hops =>
    -- the row that is consumed was open
    have hne : flow.key ≠ k := by
      rintro rfl
      rw [hget, Option.some.injEq] at hflow
      rw [hflow, hopen] at hconsumed
      cases hconsumed
    refine applyOps_mono hops ?_
    rw [get?_save, show key { flow with consumedAt := some s.clock } = flow.key
      from rfl, if_neg hne]
    exact hget
  | @cleanup _ now hle =>
    refine get?_filter.mpr ⟨hget, ?_⟩
    have hexpiry : ¬ row.expiresAt < now - authFlowDefaultCleanupRetention := by omega
    have hat : ¬ at' < now - authFlowDefaultCleanupRetention := by omega
    simp [hconsumed, hexpiry, hat]

lemma recorded_step (h : AllRecorded hash s) (hstep : authFlowStep hash s label = some s')
    (hshort : ∀ a ∈ s'.acceptances,
      a.expiresAt ≤ a.acceptedAt + authFlowDefaultCleanupRetention) : AllRecorded hash s' := by
  obtain ⟨hacceptances, -, -, hrecorded⟩ := acceptStep hstep
  have hclock := clock_le_of_step hstep
  have hretention : 0 ≤ authFlowDefaultCleanupRetention := by decide
  intro a ha hahead
  have hlimit := hshort a ha
  rw [hacceptances] at ha
  rcases mem_append.mp ha with hold | hnew
  · obtain ⟨row, hget, hconsumed, hexpires⟩ := h a hold (by omega)
    exact ⟨row, record_step hstep hget hconsumed (by omega) (by omega), hconsumed, hexpires⟩
  · exact (hrecorded a hnew).2

lemma acceptances_subset_of_run {labels : List AuthFlowLabel} {t : AuthFlowState}
    (hrun : run (authFlowStep hash) s labels = some t) :
    ∀ a ∈ s.acceptances, a ∈ t.acceptances := by
  refine run_invariant' (fun t => ∀ a ∈ s.acceptances, a ∈ t.acceptances) ?_ (fun _ h => h) hrun
  intro t₁ label t₂ hI hstep a ha
  rw [(acceptStep hstep).acceptances]
  exact mem_append_left _ (hI a ha)

/-- If every assertion expires within a day of its acceptance, its record is there for as long as it
is needed. -/
lemma recordKept_of_short {labels : List AuthFlowLabel} {t : AuthFlowState} (h : AllRecorded hash s)
    (hrun : run (authFlowStep hash) s labels = some t) (hshort : ∀ a ∈ t.acceptances,
      a.expiresAt ≤ a.acceptedAt + authFlowDefaultCleanupRetention) :
    Along (authFlowStep hash) (RecordKept hash) s labels := by
  induction labels generalizing s with
  | nil => trivial
  | cons label labels ih =>
    obtain ⟨s₁, hstep, hrest⟩ := run_cons.mp hrun
    rw [along_cons hstep]
    constructor
    · intro b hb a ha _ hahead
      have hle := ((acceptStep hstep).recorded b hb).1
      obtain ⟨row, hget, -⟩ := h a ha (by omega)
      rw [hget]
      rfl
    · refine ih (recorded_step h hstep ?_) hrest
      intro a ha
      exact hshort a (acceptances_subset_of_run hrest a ha)

/-! ## The result -/

/-- Whatever calls follow each other, from any table: tokens are consumed once, and assertions are
accepted once until they expire if and only if the record of none is deleted before and missed by a
second call. That is so if they expire within a day. -/
theorem auth_flows_used_once_iff (hash : String → String) (clock : Int) (rows : AuthFlows)
    (labels : List AuthFlowLabel) (s : AuthFlowState)
    (hrun : run (authFlowStep hash) (authFlowStart clock rows) labels = some s) :
    (UsedOnce hash s ↔
      Along (authFlowStep hash) (RecordKept hash) (authFlowStart clock rows) labels) ∧
    ((∀ a ∈ s.acceptances, a.expiresAt ≤ a.acceptedAt + authFlowDefaultCleanupRetention) →
      Along (authFlowStep hash) (RecordKept hash) (authFlowStart clock rows) labels) := by
  have hstart : TokenInv (authFlowStart clock rows).rows (authFlowStart clock rows).created
      (authFlowStart clock rows).consumptions :=
    ⟨fun _ _ hget _ => mem_of_get? hget, by simp [authFlowStart], by simp [authFlowStart],
      by simp [authFlowStart]⟩
  have htokens : TokenInv s.rows s.created s.consumptions :=
    run_invariant' (fun s => TokenInv s.rows s.created s.consumptions)
      (fun _ _ _ => tokenInv_step) hstart hrun
  have haccepted := along_iff (fun _ => True)
    (fun s : AuthFlowState => s.acceptances.Pairwise fun a b => a.same b → a.expiresAt ≤ b.acceptedAt)
    (fun _ _ _ _ _ => trivial) (fun _ _ _ _ => accepted_once_step) trivial hrun
  have hnone : (authFlowStart clock rows).acceptances.Pairwise
      fun a b => a.same b → a.expiresAt ≤ b.acceptedAt := .nil
  constructor
  · constructor
    · intro h
      exact (haccepted.mp h.accepted_once).2
    · intro h
      refine ⟨htokens.once, htokens.valid, fun tenant token m action second s' herror hstep => ?_,
        haccepted.mpr ⟨hnone, h⟩⟩
      -- a consumption whose action fails is rolled back
      simp only [authFlowStep] at hstep
      split_ifs at hstep
      cases hstep
      cases h : s.consume hash tenant token m action second with
      | none => exact ⟨rfl, rfl⟩
      | some s₁ =>
        obtain ⟨flow, rows, -, -, -, -, -, hnone, -⟩ := consume_some h
        exact absurd hnone herror
  · intro hshort
    refine recordKept_of_short ?_ hrun hshort
    intro a ha
    cases ha

/-! ### Concrete histories -/

def loginFlow : AuthFlowCreate where
  purpose := "oauth"
  provider := "telegram"
  intent := "login"
  userId := 0
  sessionId := ""
  payload := ""
  expiresAt := 600 * 10 ^ 9

def loginMatch : AuthFlowMatch where
  purpose := "oauth"
  provider := "telegram"
  intent := "login"
  userId := 0
  sessionId := ""

/-- A login whose action fails at first, whose second attempt accepts an assertion, and that is tried
once more; the assertion is replayed. -/
def loginHistory : List AuthFlowLabel :=
  [.create 1 "token" loginFlow,
    .consume 1 "token" loginMatch ⟨[.claim "telegram_assertion" "signed" (600 * 10 ^ 9)],
      some "no such user"⟩ 1,
    .consume 1 "token" loginMatch ⟨[.claim "telegram_assertion" "signed" (600 * 10 ^ 9)], none⟩ 2,
    .consume 1 "token" loginMatch ⟨[], none⟩ 3,
    .claim 1 "telegram_assertion" "signed" (600 * 10 ^ 9)]

theorem auth_flows_used_once_login : ∃ s,
    run (authFlowStep id) (authFlowStart 0 Table.empty) loginHistory = some s ∧
    s.consumptions.length = 1 ∧ s.acceptances.length = 1 ∧ UsedOnce id s := by
  have hrun : (run (authFlowStep id) (authFlowStart 0 empty) loginHistory).map
      (fun s => (s.consumptions.length, s.acceptances)) = some (1,
        [⟨1, "telegram_assertion", "signed", 2, 600 * 10 ^ 9⟩]) := by
    decide +kernel
  obtain ⟨s, hs, hfacts⟩ := Option.map_eq_some_iff.mp hrun
  simp only [Prod.mk.injEq] at hfacts
  obtain ⟨hiff, hshort⟩ := auth_flows_used_once_iff id 0 empty loginHistory s hs
  refine ⟨s, hs, hfacts.1, by rw [hfacts.2]; rfl, hiff.mpr (hshort ?_)⟩
  rw [hfacts.2]
  decide

/-- An assertion that is valid for a week is accepted, its record is deleted after a day, and it is
accepted again on the second day. -/
theorem assertion_accepted_twice : ∃ s,
    run (authFlowStep id) (authFlowStart 0 Table.empty)
      [.claim 1 "telegram_assertion" "signed" (7 * 86400 * 10 ^ 9),
        .tick (2 * 86400 * 10 ^ 9),
        .cleanup 1 (2 * 86400 * 10 ^ 9),
        .claim 1 "telegram_assertion" "signed" (7 * 86400 * 10 ^ 9)] = some s ∧
    s.acceptances = [⟨1, "telegram_assertion", "signed", 0, 7 * 86400 * 10 ^ 9⟩,
      ⟨1, "telegram_assertion", "signed", 2 * 86400 * 10 ^ 9, 7 * 86400 * 10 ^ 9⟩] := by
  have hrun : (run (authFlowStep id) (authFlowStart 0 empty)
      [.claim 1 "telegram_assertion" "signed" (7 * 86400 * 10 ^ 9),
        .tick (2 * 86400 * 10 ^ 9),
        .cleanup 1 (2 * 86400 * 10 ^ 9),
        .claim 1 "telegram_assertion" "signed" (7 * 86400 * 10 ^ 9)]).map (·.acceptances)
      = some [⟨1, "telegram_assertion", "signed", 0, 7 * 86400 * 10 ^ 9⟩,
        ⟨1, "telegram_assertion", "signed", 2 * 86400 * 10 ^ 9, 7 * 86400 * 10 ^ 9⟩] := by
    decide +kernel
  exact Option.map_eq_some_iff.mp hrun

end

end NewApi.Model
