import NewApi.Tenant.Context
import NewApi.Utils.Pool
import NewApi.Utils.Runs
import NewApi.Utils.Table

/-!
# Monthly metering of a hosting plan

`Reserve` and `ReserveEmail` of `plan/plan.go`, which share `reserveColumn`: the usage row of the
workspace and month is created unless it is there, its counter is incremented unless it has reached
the limit, and the callback takes the increment back when the request has failed.

The system is the usage table and any number of calls, of any replicas. Each statement is one step,
and a statement can fail. A call keeps the month it was made in, so that its callback may run in a
later one. `ServeWorkspace` and `sendWorkspaceMail` run the callback once, when they return.
-/

namespace NewApi.Plan

open Runs Tenant List

/-! ## The usage table -/

inductive Column
  | requests
  | emails
deriving DecidableEq

structure Usage where
  tenantID : Int
  month : String
  requests : Int
  emails : Int
deriving DecidableEq

def Usage.key (u : Usage) : Int × String := (u.tenantID, u.month)

def Usage.get (u : Usage) : Column → Int
  | .requests => u.requests
  | .emails => u.emails

def Usage.set (u : Usage) (column : Column) (n : Int) : Usage :=
  match column with
  | .requests => { u with requests := n }
  | .emails => { u with emails := n }

/-- `INSERT ... ON CONFLICT DO NOTHING` of a row without usage. -/
def createUsage (usage : Table Usage.key) (tenantID : Int) (month : String) : Table Usage.key :=
  match usage.get? (tenantID, month) with
  | some _ => usage
  | none => usage.save { tenantID := tenantID, month := month, requests := 0, emails := 0 }

/-- `UpdateColumn` of the row with key `key` if its counter meets `cond`, and whether it did. -/
def updateColumn (usage : Table Usage.key) (key : Int × String) (column : Column)
    (cond : Int → Bool) (delta : Int) : Table Usage.key × Bool :=
  match usage.get? key with
  | none => (usage, false)
  | some u =>
    if cond (u.get column) then (usage.save (u.set column (u.get column + delta)), true)
    else (usage, false)

/-! ## Calls -/

inductive ReserveError
  | context (e : ScopeError)
  | database
  | exhausted (column : Column)
  | counterMissing
deriving DecidableEq

/-- The text of the error; that of the database is not ours. -/
def ReserveError.message : ReserveError → String
  | .context e => e.message
  | .database => ""
  | .exhausted .requests =>
    "monthly request limit reached; ask the platform administrator to upgrade your plan"
  | .exhausted .emails =>
    "monthly platform email limit reached; ask the platform administrator to upgrade your plan"
  | .counterMissing => "hosting plan usage counter missing"

inductive ReservePc
  /-- the row is created next -/
  | create
  /-- the counter is incremented next -/
  | increment
  | refused (e : ReserveError)
  /-- granted, the request is being served -/
  | held
  /-- the request has succeeded -/
  | consumed
  /-- the request has failed, the counter is decremented next -/
  | releasing
  | released
  /-- the statement that would have released it has failed -/
  | unreleased
deriving DecidableEq

structure Reservation where
  column : Column
  tenantID : Int
  /-- `now.UTC().Format("2006-01")` of the call -/
  month : String
  limit : Int
  pc : ReservePc
deriving DecidableEq

def reserveColumn (column : Column) (ctx : Option Identity) (limit : Int) (month : String) :
    Except ReserveError Reservation :=
  match fromContext ctx with
  | .error e => .error (.context e)
  | .ok identity =>
    .ok { column := column, tenantID := identity.id, month := month, limit := limit, pc := .create }

def reserve : Option Identity → Int → String → Except ReserveError Reservation :=
  reserveColumn .requests

def reserveEmail : Option Identity → Int → String → Except ReserveError Reservation :=
  reserveColumn .emails

def Reservation.key (call : Reservation) : Int × String := (call.tenantID, call.month)

/-- The conditional increment. -/
def Reservation.increment (call : Reservation) (usage : Table Usage.key) : Table Usage.key × Bool :=
  updateColumn usage call.key call.column (fun n => call.limit ≤ 0 || n < call.limit) 1

/-- The decrement of the callback; a counter that is zero stays. -/
def Reservation.release (call : Reservation) (usage : Table Usage.key) : Table Usage.key × Bool :=
  updateColumn usage call.key call.column (fun n => 0 < n) (-1)

/-- The next statement of a call; `ok` says whether the database carries it out. -/
def Reservation.statement (call : Reservation) (usage : Table Usage.key) (ok : Bool) :
    Option (Table Usage.key × ReservePc) :=
  match call.pc with
  | .create =>
    if ok then some (createUsage usage call.tenantID call.month, .increment)
    else some (usage, .refused .database)
  | .increment =>
    if ok then
      some ((call.increment usage).1, if (call.increment usage).2 then .held
        else .refused (if 0 < call.limit then .exhausted call.column else .counterMissing))
    else some (usage, .refused .database)
  | .releasing =>
    -- it is not an error when no row is affected
    if ok then some ((call.release usage).1, .released)
    else some (usage, .unreleased)
  | _ => none

structure MeterState where
  usage : Table Usage.key
  calls : List Reservation

def MeterState.init : MeterState where
  usage := Table.empty
  calls := []

inductive MeterLabel
  | reserve (column : Column) (ctx : Option Identity) (limit : Int) (month : String)
  | statement (i : Nat) (ok : Bool)
  | complete (i : Nat) (success : Bool)
deriving DecidableEq

def MeterState.move (s : MeterState) (i : Nat) (call : Reservation) (pc : ReservePc) : MeterState :=
  { s with calls := s.calls.set i { call with pc := pc } }

def meterStep (s : MeterState) : MeterLabel → Option MeterState
  | .reserve column ctx limit month =>
    match reserveColumn column ctx limit month with
    | .error _ => some s
    | .ok call => some { s with calls := s.calls ++ [call] }
  | .statement i ok =>
    match s.calls[i]? with
    | none => none
    | some call =>
      match call.statement s.usage ok with
      | none => none
      | some (usage, pc) => some { s.move i call pc with usage := usage }
  | .complete i success =>
    match s.calls[i]? with
    | none => none
    | some call =>
      if call.pc = .held then some (s.move i call (if success then .consumed else .releasing))
      else none

/-! ## What is counted -/

def ReservePc.isGranted : ReservePc → Bool
  | .create => false
  | .increment => false
  | .refused _ => false
  | _ => true

def ReservePc.isReleased (pc : ReservePc) : Bool := pc = .released

/-- Held or consumed. -/
def ReservePc.isOutstanding (pc : ReservePc) : Bool := pc.isGranted && !pc.isReleased

def Reservation.isFor (call : Reservation) (column : Column) (key : Int × String) : Bool :=
  call.column = column && call.key = key

/-- The reservations of a workspace and month with the property `p`. -/
def MeterState.reservations (s : MeterState) (column : Column) (key : Int × String)
    (p : ReservePc → Bool) : Nat :=
  s.calls.countP fun call => call.isFor column key && p call.pc

/-- The stored counter, zero before there is a row. -/
def counterOf (usage : Table Usage.key) (column : Column) (key : Int × String) : Int :=
  ((usage.get? key).map (Usage.get · column)).getD 0

/-! ## Statements and the counter -/

variable {cond : Int → Bool} {delta : Int} {pc : ReservePc}

section
variable {usage usage' : Table Usage.key} {column column' : Column} {key key' : Int × String}

@[simp] lemma Usage.key_set (u : Usage) (column : Column) (n : Int) :
    (u.set column n).key = u.key := by
  cases column <;> rfl

lemma Usage.get_set (u : Usage) (column column' : Column) (n : Int) :
    (u.set column n).get column' = if column = column' then n else u.get column' := by
  cases column <;> cases column' <;> rfl

lemma counterOf_of_get? {u : Usage} (h : usage.get? key = some u) :
    counterOf usage column key = u.get column := by
  rw [counterOf, h]
  rfl

/-- A new row counts as much as none. -/
lemma counterOf_createUsage (tenantID : Int) (month : String) :
    counterOf (createUsage usage tenantID month) column key = counterOf usage column key := by
  unfold createUsage
  split
  · rfl
  rename_i hnone
  rw [counterOf, counterOf, Table.get?_save]
  split
  · next hkey =>
    have hkey : (tenantID, month) = key := hkey
    rw [← hkey, hnone]
    cases column <;> rfl
  · rfl

lemma isSome_createUsage (tenantID : Int) (month : String) :
    ((createUsage usage tenantID month).get? (tenantID, month)).isSome := by
  unfold createUsage
  split
  · next u hu =>
    rw [hu]
    rfl
  · simp [Usage.key]

/-- Rows are never deleted. -/
lemma isSome_of_createUsage (tenantID : Int) (month : String) (h : (usage.get? key).isSome) :
    ((createUsage usage tenantID month).get? key).isSome := by
  unfold createUsage
  split
  · exact h
  rw [Table.get?_save]
  split
  · rfl
  · exact h

lemma updateColumn_eq_true (h : (updateColumn usage key column cond delta).2 = true) :
    cond (counterOf usage column key) = true := by
  unfold updateColumn at h
  split at h
  · cases h
  rename_i u hu
  split at h
  · next hcond =>
    rw [counterOf_of_get? hu]
    exact hcond
  · cases h

lemma updateColumn_eq_false (h : (updateColumn usage key column cond delta).2 = false) :
    usage.get? key = none ∨ cond (counterOf usage column key) = false := by
  unfold updateColumn at h
  split at h
  · next hnone => exact .inl hnone
  rename_i u hu
  split at h
  · cases h
  rename_i hcond
  rw [counterOf_of_get? hu]
  exact .inr (Bool.eq_false_iff.mpr hcond)

/-- The counter of the row moves by `delta` if the update is made, and no other counter moves. -/
lemma counterOf_updateColumn (cond : Int → Bool) (delta : Int) :
    counterOf (updateColumn usage key column cond delta).1 column' key' =
      counterOf usage column' key' +
        if (updateColumn usage key column cond delta).2 ∧ column = column' ∧ key = key' then delta
        else 0 := by
  unfold updateColumn
  split
  · simp
  rename_i u hu
  split
  · have hkey : u.key = key := Table.key_of_get? hu
    simp only [counterOf, Table.get?_save, Usage.key_set, hkey, true_and]
    by_cases hk : key = key'
    · subst hk
      simp only [if_pos, hu, Option.map_some, Option.getD_some, Usage.get_set, and_true]
      split
      · next hc =>
        subst hc
        rfl
      · omega
    · simp [hk]
  · simp

lemma isSome_updateColumn (cond : Int → Bool) (delta : Int) (h : (usage.get? key').isSome) :
    ((updateColumn usage key column cond delta).1.get? key').isSome := by
  unfold updateColumn
  split
  · exact h
  split
  · rw [Table.get?_save]
    split
    · rfl
    · exact h
  · exact h

end

/-! ## One step -/

/-- The ways in which a call moves, with what they do to the table. -/
inductive CallMove (usage : Table Usage.key) (call : Reservation) :
    Table Usage.key → ReservePc → Prop
  | create (h : call.pc = .create) :
      CallMove usage call (createUsage usage call.tenantID call.month) .increment
  | granted (h : call.pc = .increment) (hdone : (call.increment usage).2 = true) :
      CallMove usage call (call.increment usage).1 .held
  | refused (h : call.pc = .increment) (hnot : (call.increment usage).2 = false)
      (e : ReserveError) : CallMove usage call usage (.refused e)
  | failed (h : call.pc = .create ∨ call.pc = .increment) :
      CallMove usage call usage (.refused .database)
  | completed (h : call.pc = .held) (success : Bool) :
      CallMove usage call usage (if success then .consumed else .releasing)
  | released (h : call.pc = .releasing) : CallMove usage call (call.release usage).1 .released
  | unreleased (h : call.pc = .releasing) : CallMove usage call usage .unreleased

inductive MeterMove (s : MeterState) : MeterState → Prop
  | same : MeterMove s s
  | join (call : Reservation) (h : call.pc = .create) :
      MeterMove s { s with calls := s.calls ++ [call] }
  | moved (i : Nat) (call : Reservation) (usage : Table Usage.key) (pc : ReservePc)
      (hi : s.calls[i]? = some call) (h : CallMove s.usage call usage pc) :
      MeterMove s { s.move i call pc with usage := usage }

lemma updateColumn_fst_of_false {usage : Table Usage.key} {key : Int × String} {column : Column}
    (h : (updateColumn usage key column cond delta).2 = false) :
    (updateColumn usage key column cond delta).1 = usage := by
  unfold updateColumn at h ⊢
  split at h
  · rfl
  split at h
  · cases h
  · next hcond => rw [if_neg hcond]

lemma callMove_of_statement {call : Reservation} {usage usage' : Table Usage.key} {ok : Bool}
    (h : call.statement usage ok = some (usage', pc)) :
    CallMove usage call usage' pc := by
  unfold Reservation.statement at h
  split at h
  · next hpc =>
    split at h <;> cases h
    · exact .create hpc
    · exact .failed (.inl hpc)
  · next hpc =>
    split at h <;> cases h
    · split
      · next hdone => exact .granted hpc hdone
      rename_i hnot
      have hnot : (call.increment usage).2 = false := Bool.eq_false_iff.mpr hnot
      rw [show (call.increment usage).1 = usage from updateColumn_fst_of_false hnot]
      exact .refused hpc hnot _
    · exact .failed (.inr hpc)
  · next hpc =>
    split at h <;> cases h
    · exact .released hpc
    · exact .unreleased hpc
  · cases h

theorem meterMove_of_step {s s' : MeterState} {l : MeterLabel} (h : meterStep s l = some s') :
    MeterMove s s' := by
  cases l with
  | reserve column ctx limit month =>
    simp only [meterStep, reserveColumn] at h
    split at h
    · cases h
      exact .same
    rename_i call hcall
    split at hcall
    · cases hcall
    cases hcall
    cases h
    exact .join _ rfl
  | statement i ok =>
    simp only [meterStep] at h
    split at h
    · cases h
    rename_i call hi
    split at h
    · cases h
    rename_i usage pc hstatement
    cases h
    exact .moved i call usage pc hi (callMove_of_statement hstatement)
  | complete i success =>
    simp only [meterStep] at h
    split at h
    · cases h
    rename_i call hi
    split at h
    · next hheld =>
      cases h
      exact .moved i call s.usage _ hi (.completed hheld success)
    · cases h

/-! ## The counter is exact -/

section
variable {s s' : MeterState} {column : Column} {key : Int × String} {call : Reservation} {i : Nat}
  {L : Int}

lemma reservations_join (h : call.pc = .create) {p : ReservePc → Bool} (hp : p .create = false) :
    MeterState.reservations { s with calls := s.calls ++ [call] } column key p =
      s.reservations column key p := by
  show (s.calls ++ [call]).countP _ = s.calls.countP _
  rw [countP_append, countP_singleton, h, hp]
  simp

variable (column key) in
/-- A move counts for the reservations of its own counter only. -/
lemma reservations_move (hi : s.calls[i]? = some call) (pc : ReservePc) (p : ReservePc → Bool) :
    (s.move i call pc).reservations column key p +
        (if call.isFor column key && p call.pc then 1 else 0) =
      s.reservations column key p + if call.isFor column key && p pc then 1 else 0 :=
  Pool.countP_set _ hi

lemma reservations_pos (hi : s.calls[i]? = some call) (hfor : call.isFor column key)
    {p : ReservePc → Bool} (hp : p call.pc) : 0 < s.reservations column key p := by
  apply countP_pos_iff.mpr
  exact ⟨call, mem_of_getElem? hi, by rw [hfor, hp]; rfl⟩

/-- Every granted reservation is released or outstanding. -/
lemma reservations_granted (s : MeterState) (column : Column) (key : Int × String) :
    s.reservations column key ReservePc.isGranted =
      s.reservations column key ReservePc.isOutstanding +
        s.reservations column key ReservePc.isReleased := by
  unfold MeterState.reservations
  induction s.calls with
  | nil => rfl
  | cons call calls ih =>
    have hsplit : ∀ pc : ReservePc, (if pc.isGranted then 1 else 0) =
        (if pc.isOutstanding then 1 else 0) + if pc.isReleased then 1 else 0 := by
      intro pc
      cases pc <;> rfl
    have := hsplit call.pc
    rw [countP_cons, countP_cons, countP_cons, ih]
    by_cases hfor : call.isFor column key
    · simp only [hfor, Bool.true_and]
      omega
    · simp [hfor]

/-- The stored counter is the number of outstanding reservations, within the limit if there has been
one limit for it. -/
structure Metered (column : Column) (key : Int × String) (s : MeterState) : Prop where
  counter : counterOf s.usage column key = s.reservations column key ReservePc.isOutstanding
  row : ∀ call ∈ s.calls, call.pc = .increment → (s.usage.get? call.key).isSome
  bound : ∀ L, 0 < L → (∀ call ∈ s.calls, call.isFor column key → call.limit = L) →
    counterOf s.usage column key ≤ L

lemma Metered.init : Metered column key .init where
  counter := rfl
  row := nofun
  bound := by
    intro L hL _
    show (0 : Int) ≤ L
    omega

lemma Reservation.isFor_iff :
    call.isFor column key = true ↔ call.column = column ∧ call.key = key := by
  simp [Reservation.isFor]

variable {usage : Table Usage.key}

/-- A release lowers the counter of its reservation, which is not zero, and no other. -/
lemma counterOf_release
    (hpos : call.isFor column key → 0 < counterOf usage column key) :
    counterOf (call.release usage).1 column key =
      counterOf usage column key + if call.isFor column key then -1 else 0 := by
  rw [Reservation.release, counterOf_updateColumn]
  by_cases hfor : call.isFor column key
  · obtain ⟨rfl, rfl⟩ := Reservation.isFor_iff.mp hfor
    have hdone : (updateColumn usage call.key call.column (fun n => 0 < n) (-1)).2 = true := by
      rw [← Bool.not_eq_false]
      intro hnot
      rcases updateColumn_eq_false hnot with hnone | hcond
      · have hzero : counterOf usage call.column call.key = 0 := by
          rw [counterOf, hnone]
          rfl
        have := hpos hfor
        omega
      · exact of_decide_eq_false hcond (hpos hfor)
    simp [hdone, hfor]
  · rw [if_neg hfor, if_neg]
    rintro ⟨-, hcolumn, hkey⟩
    exact hfor (Reservation.isFor_iff.mpr ⟨hcolumn, hkey⟩)

/-- The counter moves as the reservation does. -/
lemma CallMove.counterOf_eq (hm : Metered column key s) (hi : s.calls[i]? = some call)
    (h : CallMove s.usage call usage pc) :
    counterOf usage column key + (if call.isFor column key && call.pc.isOutstanding then 1 else 0) =
      counterOf s.usage column key +
        if call.isFor column key && pc.isOutstanding then 1 else 0 := by
  have hidle : ∀ pc : ReservePc, pc.isOutstanding = false →
      (call.isFor column key && pc.isOutstanding) = false := by
    intro pc hpc
    rw [hpc, Bool.and_false]
  have hlive : ∀ pc : ReservePc, pc.isOutstanding = true →
      (call.isFor column key && pc.isOutstanding) = call.isFor column key := by
    intro pc hpc
    rw [hpc, Bool.and_true]
  cases h with
  | create h =>
    rw [h, counterOf_createUsage, hidle _ rfl, hidle _ rfl]
  | granted h hdone =>
    rw [Reservation.increment] at hdone ⊢
    rw [h, counterOf_updateColumn, hdone, hidle .increment rfl, hlive .held rfl]
    simp [Reservation.isFor_iff]
  | refused h hnot e =>
    rw [h, hidle _ rfl, hidle _ rfl]
  | failed h =>
    rcases h with h | h <;> rw [h, hidle _ rfl, hidle _ rfl]
  | completed h success =>
    cases success <;> rw [h, hlive _ rfl, hlive _ rfl]
  | released h =>
    have hpos : call.isFor column key → 0 < counterOf s.usage column key := by
      intro hfor
      have := reservations_pos hi hfor (p := ReservePc.isOutstanding) (by rw [h]; rfl)
      rw [hm.counter]
      omega
    rw [h, counterOf_release hpos, hlive .releasing rfl, hidle .released rfl]
    split <;> simp
  | unreleased h => rw [h, hlive _ rfl, hlive _ rfl]

lemma CallMove.isSome {usage' : Table Usage.key}
    (h : CallMove usage call usage' pc) (hkey : (usage.get? key).isSome) :
    (usage'.get? key).isSome := by
  cases h with
  | create _ => exact isSome_of_createUsage _ _ hkey
  | granted _ _ | released _ => exact isSome_updateColumn _ _ hkey
  | _ => exact hkey

/-- A reservation that becomes outstanding found the counter below its limit. -/
lemma CallMove.lt_limit {usage' : Table Usage.key}
    (h : CallMove usage call usage' pc) (hfor : call.isFor column key) (hlimit : 0 < call.limit)
    (hold : call.pc.isOutstanding = false) (hnew : pc.isOutstanding = true) :
    counterOf usage column key < call.limit := by
  obtain ⟨rfl, rfl⟩ := Reservation.isFor_iff.mp hfor
  cases h with
  | granted _ hdone =>
    have hcond := updateColumn_eq_true hdone
    rw [Bool.or_eq_true, decide_eq_true_eq, decide_eq_true_eq] at hcond
    omega
  | completed h success | unreleased h =>
    rw [h] at hold
    cases hold
  | _ => cases hnew

/-- Calls keep their limits. -/
lemma limits_of_move (hi : s.calls[i]? = some call)
    (h : ∀ c ∈ (s.move i call pc).calls, c.isFor column key → c.limit = L) :
    ∀ c ∈ s.calls, c.isFor column key → c.limit = L := by
  intro c hc hfor
  obtain ⟨j, hj⟩ := mem_iff_getElem?.mp hc
  by_cases hij : i = j
  · subst hij
    obtain rfl := Option.some.inj (hi.symm.trans hj)
    exact h { call with pc := pc } (mem_of_getElem? (Pool.getElem?_set_of_some hi)) hfor
  apply h c _ hfor
  apply mem_of_getElem? (i := j)
  rw [← hj]
  exact List.getElem?_set_ne hij

lemma Metered.move (hm : Metered column key s) (h : MeterMove s s') : Metered column key s' := by
  cases h with
  | same => exact hm
  | join call hcreate =>
    refine ⟨?_, ?_, ?_⟩
    · rw [reservations_join hcreate rfl]
      exact hm.counter
    · apply Pool.forall_mem_snoc hm.row
      rw [hcreate]
      exact nofun
    · intro L hL hlimits
      exact hm.bound L hL fun c hc => hlimits c (mem_append_left _ hc)
  | moved i call usage pc hi h =>
    have hcounter := h.counterOf_eq hm hi
    refine ⟨?_, ?_, ?_⟩
    · have hmoved := congrArg (Nat.cast : Nat → Int)
        (reservations_move column key hi pc ReservePc.isOutstanding)
      push_cast at hmoved
      rw [hm.counter] at hcounter
      show counterOf usage column key =
        ((s.move i call pc).reservations column key ReservePc.isOutstanding : Int)
      omega
    · apply Pool.forall_mem_set
      · exact fun c hc hpc => h.isSome (hm.row c hc hpc)
      · intro hpc
        cases h with
        | create _ => exact isSome_createUsage _ _
        | completed _ success => cases success <;> cases hpc
        | _ => cases hpc
    · intro L hL hlimits
      have hlimits' := limits_of_move hi hlimits
      have hle := hm.bound L hL hlimits'
      show counterOf usage column key ≤ L
      -- only a reservation that becomes outstanding moves the counter up
      by_cases hup : (call.isFor column key && pc.isOutstanding) = true ∧
          (call.isFor column key && call.pc.isOutstanding) = false
      · rw [if_pos hup.1, hup.2] at hcounter
        obtain ⟨hfor, hnew⟩ := (Bool.and_eq_true _ _).mp hup.1
        have hold := hup.2
        rw [hfor, Bool.true_and] at hold
        have hlimit := hlimits' call (mem_of_getElem? hi) hfor
        have hlt := h.lt_limit hfor (by omega) hold hnew
        simp only [Bool.false_eq_true, if_false] at hcounter
        omega
      split at hcounter
      · split at hcounter <;> omega
      rename_i hbefore
      rw [if_neg fun hafter => hup ⟨hafter, Bool.eq_false_iff.mpr hbefore⟩] at hcounter
      omega

/-- A call that is refused for the limit found the counter there. -/
lemma CallMove.limit_le (hm : Metered column key s) (hi : s.calls[i]? = some call)
    (h : CallMove s.usage call usage (.refused (.exhausted column))) (hfor : call.isFor column key) : call.limit ≤ counterOf s.usage column key := by
  obtain ⟨rfl, rfl⟩ := Reservation.isFor_iff.mp hfor
  generalize hpc : ReservePc.refused (.exhausted call.column) = pc at h
  cases h with
  | refused hincrement hnot e =>
    have hrow := hm.row call (mem_of_getElem? hi) hincrement
    rcases updateColumn_eq_false hnot with hnone | hcond
    · rw [hnone] at hrow
      cases hrow
    · rw [Bool.or_eq_false_iff, decide_eq_false_iff_not, decide_eq_false_iff_not] at hcond
      omega
  | completed _ success => cases success <;> cases hpc
  | _ => cases hpc

/-- The call `i` is refused for the limit by the step from `s` to `s'`. -/
def RefusedBy (s s' : MeterState) (i : Nat) (column : Column) (key : Int × String) : Prop :=
  ∃ call, s'.calls[i]? = some call ∧ call.isFor column key ∧
    call.pc = .refused (.exhausted column) ∧ s.calls[i]? ≠ some call

lemma RefusedBy.callMove (hmove : MeterMove s s') (h : RefusedBy s s' i column key) :
    ∃ call usage, s.calls[i]? = some call ∧ call.isFor column key ∧
      CallMove s.usage call usage (.refused (.exhausted column)) := by
  obtain ⟨call, hcall, hfor, hpc, hnew⟩ := h
  cases hmove with
  | same => exact absurd hcall hnew
  | join joined hcreate =>
    rw [List.getElem?_append] at hcall
    split at hcall
    · exact absurd hcall hnew
    obtain rfl : call = joined := mem_singleton.mp (mem_of_getElem? hcall)
    rw [hcreate] at hpc
    cases hpc
  | moved j moved usage pc hj h =>
    by_cases hij : j = i
    · subst hij
      obtain rfl := Pool.eq_of_getElem?_set hcall
      obtain rfl : pc = .refused (.exhausted column) := hpc
      exact ⟨moved, usage, hj, hfor, h⟩
    · exact absurd ((List.getElem?_set_ne hij).symm.trans hcall) hnew

/-- **Metering never overshoots and never leaks.** In every interleaving of `Reserve` calls and their
callbacks, with one limit for a workspace and month: the stored counter is the number of granted
reservations without the released ones, it is neither negative nor above the limit, and the next
step refuses a call for the limit only if as many reservations as the limit allows are held or
consumed. -/
theorem metering_exact (ls : List MeterLabel) (s : MeterState)
    (hrun : run meterStep .init ls = some s) (column : Column) (key : Int × String) (L : Int)
    (hL : 0 < L) (hlimit : ∀ call ∈ s.calls, call.isFor column key → call.limit = L) :
    counterOf s.usage column key =
        s.reservations column key ReservePc.isGranted -
          s.reservations column key ReservePc.isReleased ∧
      0 ≤ counterOf s.usage column key ∧ counterOf s.usage column key ≤ L ∧
      ∀ (l : MeterLabel) (s' : MeterState) (i : Nat), meterStep s l = some s' →
        RefusedBy s s' i column key → s.reservations column key ReservePc.isOutstanding = L := by
  have hm : Metered column key s :=
    run_invariant' (Metered column key) (fun s l s' hs h => hs.move (meterMove_of_step h))
      Metered.init hrun
  have hgranted := reservations_granted s column key
  have hcounter := hm.counter
  have hbound := hm.bound L hL hlimit
  refine ⟨by omega, by omega, hbound, ?_⟩
  intro l s' i hstep hrefused
  obtain ⟨call, usage, hi, hfor, hmove⟩ := hrefused.callMove (meterMove_of_step hstep)
  have hle := hmove.limit_le hm hi hfor
  rw [hlimit call (mem_of_getElem? hi) hfor] at hle
  omega

end

/-- Two calls with limit one and a third after the first has failed in the next month. -/
def meteredRun : List MeterLabel :=
  let reserve := MeterLabel.reserve .requests (some { id := 1, slug := "" }) 1 "2026-01"
  [reserve, reserve, .statement 0 true, .statement 1 true, .statement 0 true, .statement 1 true,
    .reserve .requests (some { id := 1, slug := "" }) 1 "2026-02", .complete 0 false,
    .statement 0 true, reserve, .statement 3 true, .statement 3 true]

theorem metering_exact_limit_one :
    ∃ s, run meterStep .init meteredRun = some s ∧
      counterOf s.usage .requests (1, "2026-01") =
        s.reservations .requests (1, "2026-01") ReservePc.isGranted -
          s.reservations .requests (1, "2026-01") ReservePc.isReleased ∧
      counterOf s.usage .requests (1, "2026-01") ≤ 1 := by
  obtain ⟨s, hs, hlimits⟩ : ∃ s, run meterStep .init meteredRun = some s ∧
      ∀ call ∈ s.calls, call.isFor .requests (1, "2026-01") → call.limit = 1 :=
    ⟨_, rfl, by decide⟩
  obtain ⟨hcounter, -, hbound, -⟩ :=
    metering_exact meteredRun s hs .requests (1, "2026-01") 1 (by decide) hlimits
  exact ⟨s, hs, hcounter, hbound⟩

end NewApi.Plan
