import NewApi.Model.BatchUpdate
import NewApi.Utils.Pool

/-!
# Where batched updates are

`Attributed` says that the numbers in the stores, in the calls of `batchUpdate` and in the database
are the sums of the recorded changes that are there. It holds in every state of every run
(`BatchInv`), and what the database has and what is pending follow from it: each change is in one
place at a time.
-/

namespace NewApi.Model.Batch

open Runs List Function Pool Flush Location BatchType Phase

/-! ## Statements -/

/-- The loop `p` runs before the loop `q`. -/
def Phase.precedes : Phase → Phase → Bool
  | .tokens, .channels => true
  | .tokens, .users => true
  | .channels, .users => true
  | _, _ => false

/-- What a call has taken of a type and an id, and not yet written. -/
def Flush.pending (type : BatchType) (id : Nat) : Flush → Int
  | .checking _ => 0
  | .taking stores _ => (stores type).at id
  | .writing stores phase rest =>
    if type.phase = phase then if id ∈ rest then (stores type).at id else 0
    else if phase.precedes type.phase then (stores type).at id else 0
  | .finished => 0

/-- What is still to be written of a type and an id: queued, or with a call. -/
def BatchState.pending (s : BatchState) (type : BatchType) (id : Nat) : Int :=
  (s.stores type).at id + (s.flushes.map (·.pending type id)).sum

/-- The column that a type stands for. -/
def DB.column (db : DB) (type : BatchType) (id : Nat) : Option Int :=
  match type with
  | .userQuota => (db.users id).map (·.quota)
  | .tokenQuota => (db.tokens id).map (·.remainQuota)
  | .usedQuota => (db.users id).map (·.usedQuota)
  | .channelUsedQuota => (db.channels id).map (·.usedQuota)
  | .requestCount => (db.users id).map (·.requestCount)

/-- What a label records for a type and an id. -/
def BatchLabel.delta (type : BatchType) (id : Nat) : BatchLabel → Int
  | .record t k value => if t = type ∧ k = id then value else 0
  | _ => 0

/-- The sum of what a run records for a type and an id. -/
def recorded (ls : List BatchLabel) (type : BatchType) (id : Nat) : Int :=
  (ls.map (·.delta type id)).sum

/-- The sums of `addNewRecord` stay within the `int` range. -/
def Fits (s : BatchState) : BatchLabel → Prop
  | .record type id value =>
    minInt ≤ (s.stores type).at id + value ∧ (s.stores type).at id + value ≤ maxInt
  | _ => True

instance (s : BatchState) : ∀ label, Decidable (Fits s label)
  | .record _ _ _ => inferInstanceAs (Decidable (_ ∧ _))
  | .call => isTrue trivial
  | .advance _ => isTrue trivial
  | .write _ _ _ => isTrue trivial

def Location.isApplied : Location → Bool
  | .applied _ => true
  | _ => false

/-- What a record contributes to the sum over a type and an id at some locations. -/
def Record.part (p : Location → Bool) (type : BatchType) (id : Nat) (r : Record) : Int :=
  if r.type = type ∧ r.id = id ∧ p r.location then r.value else 0

def sumWhere (records : List Record) (p : Location → Bool) (type : BatchType) (id : Nat) : Int :=
  (records.map (·.part p type id)).sum

/-- Every number is the sum of the changes that are there. -/
structure Attributed (db₀ : DB) (s : BatchState) : Prop where
  queued : ∀ type id, (s.stores type).at id = sumWhere s.records (· = .queued) type id
  taken : ∀ i f, s.flushes[i]? = some f → ∀ type id,
    f.pending type id = sumWhere s.records (· = .taken i) type id
  applied : ∀ type id, s.db.column type id
    = (db₀.column type id).map (· + sumWhere s.records Location.isApplied type id)

/-! ## Stores -/

section
variable {store : Store} {id k : Nat} {value : Int}

@[simp] lemma at_empty (id : Nat) : Store.at Table.empty id = 0 := rfl

lemma at_save (store : Store) (id k : Nat) (value : Int) :
    Store.at (store.save (id, value)) k = if id = k then value else store.at k := by
  unfold Store.at
  rw [Table.get?_save]
  split <;> rfl

lemma at_of_not_mem (h : id ∉ store.ids) : store.at id = 0 := by
  have hnone : store.get? id = none := by
    by_contra hsome
    obtain ⟨entry, hentry⟩ := Option.ne_none_iff_exists'.mp hsome
    have hmem := mem_map_of_mem (f := Prod.fst) (Table.mem_of_get? hentry)
    rw [Table.key_of_get? hentry] at hmem
    exact h hmem
  simp [Store.at, hnone]

lemma mem_ids_save (store : Store) (id k : Nat) (value : Int) :
    k ∈ Store.ids (store.save (id, value)) ↔ k ∈ store.ids ∨ k = id :=
  Table.mem_map_saveRows

/-- An entry is never taken away by a record. -/
lemma mem_ids_addNewRecord (h : k ∈ store.ids ∨ k = id) :
    k ∈ Store.ids (addNewRecord store id value) := by
  unfold addNewRecord
  split
  · exact (mem_ids_save ..).mpr h
  · dsimp only
    split <;> exact (mem_ids_save ..).mpr h

/-- Within the `int` range a record adds its value to its entry. -/
lemma at_addNewRecord (h : minInt ≤ store.at id + value ∧ store.at id + value ≤ maxInt) :
    (addNewRecord store id value).at k = store.at k + if id = k then value else 0 := by
  have hadd : ∀ v, v = store.at id + value →
      Store.at (store.save (id, v)) k = store.at k + if id = k then value else 0 := by
    rintro v rfl
    rw [at_save]
    split
    · next heq => rw [heq]
    · omega
  unfold addNewRecord
  split
  · next hnone =>
    apply hadd
    simp [Store.at, hnone]
  rename_i old hold
  have hat : store.at id = old := by simp [Store.at, hold]
  rw [hat] at h
  rw [int64_eq h.1 (Int.lt_of_le_sub_one h.2), if_neg (by omega)]
  apply hadd
  rw [hat]

/-- The `int` values. -/
def IsInt (x : Int) : Prop := minInt ≤ x ∧ x ≤ maxInt

/-- The queue of a single account is an entry of the store: both add within the `int` range and
saturate outside. -/
theorem addNewRecord_account {a : QuotaAccount} (hqueued : store.at id = a.queued)
    (hold : IsInt a.queued) (hvalue : IsInt value) :
    (addNewRecord store id value).at id = (Model.addNewRecord a value).queued := by
  by_cases hfits : minInt ≤ a.queued + value ∧ a.queued + value ≤ maxInt
  · rw [at_addNewRecord (by rwa [hqueued]), hqueued, if_pos rfl]
    simp only [Model.addNewRecord]
    rw [if_neg (by omega), if_neg (by omega)]
  have hmin : minInt = -2 ^ 63 := rfl
  have hmax : maxInt = 2 ^ 63 - 1 := rfl
  simp only [IsInt] at hold hvalue
  unfold addNewRecord Model.addNewRecord
  split
  · next hnone =>
    -- without an entry the value is stored as it is, and it fits
    have hzero : store.at id = 0 := by simp [Store.at, hnone]
    omega
  rename_i old hget
  have hat : store.at id = old := by simp [Store.at, hget]
  rw [hat] at hqueued
  subst hqueued
  have hwrap : int64 (a.queued + value) = a.queued + value - 2 ^ 64 ∧ 0 < value ∨
      int64 (a.queued + value) = a.queued + value + 2 ^ 64 ∧ value < 0 := by
    simp only [int64, Int.bmod]
    omega
  rw [if_pos (by omega), at_save, if_pos rfl]
  rcases hwrap with ⟨-, hpos⟩ | ⟨-, hneg⟩
  · rw [if_pos hpos, if_pos (by omega)]
  · rw [if_neg (by omega), if_neg (by omega), if_pos (by omega)]

theorem addNewRecord_account_full :
    (addNewRecord (Table.empty.save (1, maxInt)) 1 5).at 1 = maxInt :=
  @addNewRecord_account _ 1 5 ⟨⟨0, 0⟩, maxInt, none, false, 0⟩ rfl ⟨by decide, le_rfl⟩
    ⟨by decide, by decide⟩

end

/-! ## What a step does -/

/-- The steps of a call that touch nothing but the call. -/
inductive FlushMove (stores : Stores) : Flush → Flush → Prop
  | nothing : FlushMove stores (.checking []) .finished
  | none_here {type rest} (h : (stores type).rows = []) :
      FlushMove stores (.checking (type :: rest)) (.checking rest)
  | some_here {type rest} :
      FlushMove stores (.checking (type :: rest)) (.taking .empty BatchType.all)
  | all_taken {taken} :
      FlushMove stores (.taking taken []) (.writing taken .tokens (Phase.tokens.ids taken))
  | next {taken phase phase'} (h : Phase.next phase = some phase') :
      FlushMove stores (.writing taken phase []) (.writing taken phase' (phase'.ids taken))
  | done {taken phase} (h : Phase.next phase = none) :
      FlushMove stores (.writing taken phase []) .finished

/-- Everything a step can do. -/
inductive BatchMove (s : BatchState) : BatchLabel → BatchState → Prop
  | record (type : BatchType) (id : Nat) (value : Int) :
      BatchMove s (.record type id value) { s with
        stores := Function.update s.stores type (addNewRecord (s.stores type) id value)
        records := s.records ++ [{ type, id, value, location := .queued }] }
  | call : BatchMove s .call { s with flushes := s.flushes ++ [.checking BatchType.all] }
  | move {i f f'} (hi : s.flushes[i]? = some f) (hmove : FlushMove s.stores f f') :
      BatchMove s (.advance i) { s with flushes := s.flushes.set i f' }
  | take {i taken type rest} (hi : s.flushes[i]? = some (.taking taken (type :: rest))) :
      BatchMove s (.advance i) (s.take i taken type rest)
  | write {i taken phase rest id now} (hi : s.flushes[i]? = some (.writing taken phase rest))
      (hid : id ∈ rest) : BatchMove s (.write i id now) (s.write i taken phase rest id now)

lemma batchStep_move {s s' : BatchState} {label : BatchLabel} (h : batchStep s label = some s') :
    BatchMove s label s' := by
  cases label with
  | record type id value =>
    cases h
    exact .record type id value
  | call =>
    cases h
    exact .call
  | advance i =>
    obtain ⟨f, hi, hf⟩ := Option.bind_eq_some_iff.mp h
    unfold BatchState.advance at hf
    split at hf
    · cases hf
      exact .move hi .nothing
    · split at hf
      · next hrows =>
        cases hf
        exact .move hi (.none_here hrows)
      · cases hf
        exact .move hi .some_here
    · cases hf
      exact .move hi .all_taken
    · cases hf
      exact .take hi
    · split at hf
      · next hnext =>
        cases hf
        exact .move hi (.next hnext)
      rename_i hnext
      cases hf
      exact .move hi (.done hnext)
    · cases hf
    · cases hf
  | write i id now =>
    simp only [batchStep] at h
    split at h
    · next taken phase rest hi =>
      split at h
      · next hid =>
        cases h
        exact .write hi hid
      · cases h
    · cases h

/-! ## Sums over the records -/

section
variable {records : List Record} {p q : Location → Bool} {type : BatchType} {id : Nat}
  {c : Record → Prop} [DecidablePred c] {location : Location}

lemma sumWhere_snoc (records : List Record) (r : Record) (p : Location → Bool) (type : BatchType)
    (id : Nat) : sumWhere (records ++ [r]) p type id
      = sumWhere records p type id + r.part p type id := by
  simp [sumWhere]

lemma sumWhere_eq_zero (h : ∀ r ∈ records, r.type = type → r.id = id → p r.location = false) :
    sumWhere records p type id = 0 := by
  apply sum_eq_zero
  intro x hx
  obtain ⟨r, hr, rfl⟩ := mem_map.mp hx
  refine if_neg fun hp => ?_
  rw [h r hr hp.1 hp.2.1] at hp
  exact absurd hp.2.2 Bool.false_ne_true

lemma mem_relocate {x : Record} (h : x ∈ relocate records c location) :
    (∃ r ∈ records, c r ∧ x = { r with location }) ∨ x ∈ records ∧ ¬ c x := by
  obtain ⟨r, hr, rfl⟩ := mem_map.mp h
  by_cases hc : c r
  · rw [if_pos hc]
    exact .inl ⟨r, hr, hc, rfl⟩
  · rw [if_neg hc]
    exact .inr ⟨hr, hc⟩

/-- A sum in which the records that move count after as before. -/
lemma sumWhere_relocate (h : ∀ r, c r → r.type = type → r.id = id → p r.location = p location) :
    sumWhere (relocate records c location) p type id = sumWhere records p type id := by
  unfold sumWhere relocate
  rw [map_map]
  refine congrArg List.sum (map_congr_left fun r _ => ?_)
  by_cases hc : c r
  · by_cases hr : r.type = type ∧ r.id = id
    · simp [Record.part, hc, hr, h r hc hr.1 hr.2]
    · simp only [comp_apply, Record.part, hc, if_true]
      rw [if_neg fun hp => hr ⟨hp.1, hp.2.1⟩, if_neg fun hp => hr ⟨hp.1, hp.2.1⟩]
  · simp [hc]

/-- All the records of a sum move away. -/
lemma sumWhere_relocate_away (hto : p location = false)
    (hc : ∀ r, r.type = type → r.id = id → p r.location = true → c r) :
    sumWhere (relocate records c location) p type id = 0 := by
  apply sumWhere_eq_zero
  intro r' hr' htype hid
  obtain ⟨r, -, rfl⟩ := mem_map.mp hr'
  by_cases hcr : c r
  · rwa [if_pos hcr]
  rw [if_neg hcr] at htype hid ⊢
  rw [Bool.eq_false_iff]
  exact fun hp => hcr (hc r htype hid hp)

/-- The records at `q` move to `p` and bring their sum along. -/
lemma sumWhere_relocate_to (hto : p location = true)
    (hc : ∀ r, r.type = type → r.id = id → (c r ↔ q r.location = true))
    (hpq : ∀ loc, q loc = true → p loc = false) :
    sumWhere (relocate records c location) p type id
      = sumWhere records p type id + sumWhere records q type id := by
  unfold sumWhere relocate
  rw [map_map, ← sum_map_add]
  refine congrArg List.sum (map_congr_left fun r _ => ?_)
  by_cases hr : r.type = type ∧ r.id = id
  · have hiff := hc r hr.1 hr.2
    by_cases hcr : c r
    · have hq := hiff.mp hcr
      simp [Record.part, hcr, hr, hto, hq, hpq _ hq]
    have hq : q r.location = false := by
      rw [Bool.eq_false_iff]
      exact fun hq => hcr (hiff.mpr hq)
    simp [Record.part, hcr, hr, hq]
  have hzero : ∀ (p : Location → Bool) (x : Record), x.type = r.type → x.id = r.id →
      x.part p type id = 0 := by
    intro p x htype hid
    refine if_neg fun hp => hr ⟨htype ▸ hp.1, hid ▸ hp.2.1⟩
  rw [hzero p r rfl rfl, hzero q r rfl rfl]
  by_cases hcr : c r
  · simp only [comp_apply, hcr, if_true]
    exact hzero p _ rfl rfl
  · simp only [comp_apply, hcr, if_false]
    exact hzero p r rfl rfl

end

/-! ## The invariant -/

/-- A call that is taking stores has those that remain still to take, once each. -/
def Flush.Ok : Flush → Prop
  | .taking stores rest => rest.Nodup ∧ ∀ type ∈ rest, stores type = Table.empty
  | _ => True

/-- The call has a change of this type and id in hand. -/
def Flush.Owes (type : BatchType) (id : Nat) : Flush → Prop
  | .taking stores rest => type ∉ rest ∧ id ∈ (stores type).ids
  | .writing stores phase rest =>
    type.phase = phase ∧ id ∈ rest ∨ phase.precedes type.phase ∧ id ∈ (stores type).ids
  | _ => False

structure BatchInv (db₀ : DB) (s : BatchState) : Prop where
  attributed : Attributed db₀ s
  ok : ∀ f ∈ s.flushes, f.Ok
  stored : ∀ r ∈ s.records, r.location = .queued → r.id ∈ (s.stores r.type).ids
  owed : ∀ r ∈ s.records, ∀ i, r.location = .taken i →
    ∃ f, s.flushes[i]? = some f ∧ f.Owes r.type r.id

section
variable {db₀ : DB} {s s' : BatchState} {f f' : Flush} {stores taken : Stores}
  {type : BatchType} {id : Nat} {phase phase' : Phase}

lemma mem_ids_of_phase (h : type.phase = phase) (hid : id ∈ (taken type).ids) :
    id ∈ phase.ids taken := by
  subst h
  cases type <;> simp [phase, ids, hid]

lemma pending_ids (h : type.phase = phase) :
    (if id ∈ phase.ids taken then (taken type).at id else 0) = (taken type).at id := by
  split
  · rfl
  · next hid => exact (at_of_not_mem fun hmem => hid (mem_ids_of_phase h hmem)).symm

/-- The loops are in the order of `next`. -/
lemma precedes_iff (h : phase.next = some phase') (q : Phase) :
    phase.precedes q = true ↔ q = phase' ∨ phase'.precedes q = true := by
  cases phase <;> cases h <;> cases q <;> decide

lemma precedes_of_next_none (h : phase.next = none) (q : Phase) : phase.precedes q = false := by
  cases phase <;> cases h
  cases q <;> rfl

lemma tokens_first (q : Phase) : q = .tokens ∨ tokens.precedes q = true := by
  cases q <;> decide

/-- A loop that starts has everything of its types before it. -/
lemma pending_writing_ids (h : type.phase = phase ∨ phase.precedes type.phase = true) :
    (writing taken phase (phase.ids taken)).pending type id = (taken type).at id := by
  simp only [pending]
  split
  · next heq => exact pending_ids heq
  · next hne => rw [if_pos (h.resolve_left hne)]

/-- Steps within a call change nothing of what is pending. -/
lemma FlushMove.pending_eq (h : FlushMove stores f f') (type : BatchType) (id : Nat) :
    f'.pending type id = f.pending type id := by
  cases h with
  | all_taken => exact pending_writing_ids (tokens_first _)
  | @next taken phase phase' hnext =>
    -- the loop that ends has visited every id, the one that starts none
    have hiff := precedes_iff hnext type.phase
    by_cases hq : type.phase = phase' ∨ phase'.precedes type.phase = true
    · rw [pending_writing_ids hq]
      have hprec := hiff.mpr hq
      have hne : type.phase ≠ phase := by
        intro heq
        rw [heq] at hprec
        revert hprec
        cases phase <;> decide
      simp only [pending]
      rw [if_neg hne, if_pos hprec]
    · have hprec : ¬ phase.precedes type.phase = true := fun hp => hq (hiff.mp hp)
      rw [not_or] at hq
      simp only [pending]
      rw [if_neg hq.1, if_neg hq.2, if_neg hprec]
      simp
  | done hnext => simp [pending, precedes_of_next_none hnext]
  | _ => rfl

/-- They lose nothing that the call has in hand either. -/
lemma FlushMove.owes (h : FlushMove stores f f') (howes : f.Owes type id) : f'.Owes type id := by
  have hstart : ∀ (taken : Stores) (phase : Phase), id ∈ (taken type).ids →
      (type.phase = phase ∨ phase.precedes type.phase = true) →
      (writing taken phase (phase.ids taken)).Owes type id := by
    intro taken phase hid hq
    exact hq.imp (fun heq => ⟨heq, mem_ids_of_phase heq hid⟩) fun hprec => ⟨hprec, hid⟩
  cases h with
  | nothing | none_here _ => exact howes
  | some_here => exact False.elim howes
  | all_taken => exact hstart _ _ howes.2 (tokens_first _)
  | next hnext =>
    rcases howes with ⟨-, hnil⟩ | ⟨hprec, hid⟩
    · cases hnil
    · exact hstart _ _ hid ((precedes_iff hnext _).mp hprec)
  | done hnext =>
    rcases howes with ⟨-, hnil⟩ | ⟨hprec, -⟩
    · cases hnil
    · rw [precedes_of_next_none hnext] at hprec
      cases hprec

lemma FlushMove.ok (h : FlushMove stores f f') : f'.Ok := by
  cases h with
  | some_here => exact ⟨by decide, fun _ _ => rfl⟩
  | _ => trivial

lemma updateWhereId_apply {ρ : Type} (rows : Nat → Option ρ) (key id : Nat) (f : ρ → ρ) :
    updateWhereId rows key f id = if id = key then (rows id).map f else rows id := by
  unfold updateWhereId
  by_cases h : id = key
  · subst h
    simp
  · simp [h]

/-- What a statement adds to each column. -/
lemma column_write (taken : Stores) (db : DB) (key : Nat) (now : Int) (phase : Phase)
    (type : BatchType) (id : Nat) :
    (phase.write taken db key now).column type id = (db.column type id).map
      (· + if type.phase = phase ∧ id = key then (taken type).at id else 0) := by
  by_cases hid : id = key
  · subst hid
    cases phase with
    | tokens =>
      cases type <;>
        simp [write, increaseTokenQuota, DB.column, phase, updateWhereId_apply,
          comp_def]
    | channels =>
      cases type <;>
        simp [write, updateChannelUsedQuota, DB.column, phase, updateWhereId_apply,
          comp_def]
    | users =>
      simp only [write, updateUserQuotaUsedQuotaAndRequestCount]
      split
      · next hzero =>
        -- the statement is not issued, and there is nothing to add
        cases type <;> simp [phase, hzero]
      · cases type <;>
          simp [DB.column, phase, updateWhereId_apply, comp_def]
  · have hsame : (phase.write taken db key now).column type id = db.column type id := by
      cases phase with
      | tokens =>
        cases type <;>
          simp [write, increaseTokenQuota, DB.column, updateWhereId_apply, hid]
      | channels =>
        cases type <;>
          simp [write, updateChannelUsedQuota, DB.column, updateWhereId_apply, hid]
      | users =>
        simp only [write, updateUserQuotaUsedQuotaAndRequestCount]
        split
        · rfl
        · cases type <;> simp [DB.column, updateWhereId_apply, hid]
    simp [hsame, hid]

end

section
variable {db₀ : DB} {s : BatchState} {i : Nat}

section
variable (h : BatchInv db₀ s)
include h

lemma BatchInv.record {type : BatchType} {id : Nat} {value : Int}
    (hfits : minInt ≤ (s.stores type).at id + value ∧ (s.stores type).at id + value ≤ maxInt) :
    BatchInv db₀ { s with
      stores := Function.update s.stores type (addNewRecord (s.stores type) id value)
      records := s.records ++ [{ type, id, value, location := .queued }] } := by
  refine ⟨⟨?_, ?_, ?_⟩, h.ok, ?_, ?_⟩
  · intro t k
    dsimp only
    rw [sumWhere_snoc, ← h.attributed.queued t k]
    by_cases ht : t = type
    · subst ht
      rw [update_self, at_addNewRecord hfits]
      simp [Record.part]
    · rw [update_of_ne ht]
      simp [Record.part, Ne.symm ht]
  · intro j f hj t k
    rw [sumWhere_snoc, h.attributed.taken j f hj t k]
    simp [Record.part]
  · intro t k
    rw [sumWhere_snoc, h.attributed.applied t k]
    simp [Record.part, isApplied]
  · -- the entry is there afterwards, and no other goes away
    intro r hr hq
    dsimp only at hr ⊢
    by_cases ht : r.type = type
    · rw [ht, update_self]
      apply mem_ids_addNewRecord
      rcases mem_append.mp hr with hold | hnew
      · left
        rw [← ht]
        exact h.stored r hold hq
      · right
        rw [mem_singleton.mp hnew]
    rw [update_of_ne ht]
    rcases mem_append.mp hr with hold | hnew
    · exact h.stored r hold hq
    · rw [mem_singleton.mp hnew] at ht
      exact absurd rfl ht
  · intro r hr j hj
    rcases mem_append.mp hr with hold | hnew
    · exact h.owed r hold j hj
    · rw [mem_singleton.mp hnew] at hj
      cases hj

lemma BatchInv.call :
    BatchInv db₀ { s with flushes := s.flushes ++ [.checking all] } := by
  refine ⟨{ h.attributed with taken := ?_ }, ?_, h.stored, ?_⟩
  · intro j f hj t k
    rw [List.getElem?_append] at hj
    split at hj
    · exact h.attributed.taken j f hj t k
    rename_i hge
    -- nothing can be with a call that has just begun
    obtain rfl := mem_singleton.mp (mem_of_getElem? hj)
    refine (sumWhere_eq_zero fun r hr _ _ => ?_).symm
    rw [decide_eq_false_iff_not]
    intro hloc
    obtain ⟨f, hf, -⟩ := h.owed r hr j hloc
    have hlt := (List.getElem?_eq_some_iff.mp hf).1
    omega
  · exact forall_mem_snoc h.ok trivial
  · intro r hr j hj
    obtain ⟨f, hf, howes⟩ := h.owed r hr j hj
    have hlt := (List.getElem?_eq_some_iff.mp hf).1
    exact ⟨f, by rw [List.getElem?_append_left hlt, hf], howes⟩

lemma BatchInv.move {f f' : Flush} (hi : s.flushes[i]? = some f)
    (hmove : FlushMove s.stores f f') : BatchInv db₀ { s with flushes := s.flushes.set i f' } := by
  refine ⟨{ h.attributed with taken := ?_ }, ?_, h.stored, ?_⟩
  · intro j g hj t k
    by_cases hij : j = i
    · subst hij
      obtain rfl := eq_of_getElem?_set hj
      rw [hmove.pending_eq, h.attributed.taken j f hi t k]
    · rw [List.getElem?_set_ne (Ne.symm hij)] at hj
      exact h.attributed.taken j g hj t k
  · exact forall_mem_set h.ok hmove.ok
  · intro r hr j hj
    obtain ⟨g, hg, howes⟩ := h.owed r hr j hj
    by_cases hij : j = i
    · subst hij
      obtain rfl : f = g := Option.some.inj (hi.symm.trans hg)
      exact ⟨f', Pool.getElem?_set_of_some hi, hmove.owes howes⟩
    · exact ⟨g, by dsimp only; rw [List.getElem?_set_ne (Ne.symm hij), hg], howes⟩

lemma BatchInv.take {taken : Stores} {type : BatchType} {rest : List BatchType}
    (hi : s.flushes[i]? = some (.taking taken (type :: rest))) :
    BatchInv db₀ (s.take i taken type rest) := by
  obtain ⟨hnodup, hempty⟩ := h.ok _ (mem_of_getElem? hi)
  obtain ⟨hnot, hnodup'⟩ := nodup_cons.mp hnodup
  have htaken := h.attributed.taken i _ hi
  refine ⟨⟨?_, ?_, ?_⟩, ?_, ?_, ?_⟩
  · intro t k
    simp only [BatchState.take]
    by_cases ht : t = type
    · subst ht
      rw [update_self, at_empty]
      refine (sumWhere_relocate_away rfl ?_).symm
      intro r htype _ hq
      exact ⟨htype, of_decide_eq_true hq⟩
    rw [update_of_ne ht, h.attributed.queued t k]
    refine (sumWhere_relocate ?_).symm
    intro r hr htype
    exact absurd (htype.symm.trans hr.1) ht
  · intro j f hj t k
    simp only [BatchState.take] at hj ⊢
    by_cases hij : j = i
    · subst hij
      obtain rfl := eq_of_getElem?_set hj
      simp only [pending] at htaken ⊢
      by_cases ht : t = type
      · -- what was queued is with the call now
        subst ht
        have hzero : sumWhere s.records (· = .taken j) t k = 0 := by
          rw [← htaken t k, hempty t mem_cons_self, at_empty]
        rw [update_self, h.attributed.queued t k, sumWhere_relocate_to (q := (· = .queued)),
          hzero, zero_add]
        · simp
        · intro r htype _
          simp [htype]
        · intro loc hloc
          simp [of_decide_eq_true hloc]
      · rw [update_of_ne ht, htaken t k]
        refine (sumWhere_relocate ?_).symm
        intro r hr htype
        exact absurd (htype.symm.trans hr.1) ht
    · rw [List.getElem?_set_ne (Ne.symm hij)] at hj
      rw [h.attributed.taken j f hj t k]
      refine (sumWhere_relocate ?_).symm
      intro r hr _ _
      simp [hr.2, Ne.symm hij]
  · intro t k
    simp only [BatchState.take]
    rw [h.attributed.applied t k, sumWhere_relocate]
    intro r hr _ _
    rw [hr.2]
    rfl
  · refine forall_mem_set h.ok ⟨hnodup', fun t ht => ?_⟩
    have hne : t ≠ type := fun heq => hnot (heq ▸ ht)
    rw [update_of_ne hne]
    exact hempty t (mem_cons_of_mem _ ht)
  · intro r' hr' hq
    simp only [BatchState.take] at hr' ⊢
    rcases mem_relocate hr' with ⟨r, hr, -, rfl⟩ | ⟨hr, hstay⟩
    · cases hq
    have hne : r'.type ≠ type := fun heq => hstay ⟨heq, hq⟩
    rw [update_of_ne hne]
    exact h.stored r' hr hq
  · intro r' hr' j hj
    simp only [BatchState.take] at hr' ⊢
    rcases mem_relocate hr' with ⟨r, hr, ⟨rfl, hq⟩, rfl⟩ | ⟨hr, -⟩
    · obtain rfl : i = j := Location.taken.inj hj
      refine ⟨_, Pool.getElem?_set_of_some hi, hnot, ?_⟩
      rw [update_self]
      exact h.stored r hr hq
    obtain ⟨f, hf, howes⟩ := h.owed r' hr j hj
    by_cases hij : j = i
    · subst hij
      obtain rfl := Option.some.inj (hi.symm.trans hf)
      obtain ⟨htype, hid⟩ := howes
      rw [mem_cons, not_or] at htype
      refine ⟨_, Pool.getElem?_set_of_some hi, htype.2, ?_⟩
      rw [update_of_ne htype.1]
      exact hid
    · exact ⟨f, by rw [List.getElem?_set_ne (Ne.symm hij), hf], howes⟩

end

lemma BatchInv.write {taken : Stores} {phase : Phase} {rest : List Nat} {id : Nat} (now : Int)
    (h : BatchInv db₀ s) (hi : s.flushes[i]? = some (.writing taken phase rest))
    (hid : id ∈ rest) : BatchInv db₀ (s.write i taken phase rest id now) := by
  have htaken := h.attributed.taken i _ hi
  refine ⟨⟨?_, ?_, ?_⟩, ?_, ?_, ?_⟩
  · intro t k
    simp only [BatchState.write]
    rw [h.attributed.queued t k]
    refine (sumWhere_relocate ?_).symm
    intro r hr _ _
    simp [hr.2.2]
  · intro j f hj t k
    simp only [BatchState.write] at hj ⊢
    by_cases hij : j = i
    · subst hij
      obtain rfl := eq_of_getElem?_set hj
      by_cases hk : t.phase = phase ∧ k = id
      · -- what was written is no longer with the call
        obtain ⟨ht, rfl⟩ := hk
        have hzero : (writing taken phase (rest.filter (· ≠ k))).pending t k = 0 := by
          simp [pending, ht]
        rw [hzero]
        refine (sumWhere_relocate_away (by simp) ?_).symm
        intro r htype hrid hloc
        exact ⟨by rw [htype, ht], hrid, of_decide_eq_true hloc⟩
      have hsame : (writing taken phase (rest.filter (· ≠ id))).pending t k
          = (writing taken phase rest).pending t k := by
        simp only [pending]
        by_cases ht : t.phase = phase
        · have hne : k ≠ id := fun heq => hk ⟨ht, heq⟩
          simp [hne]
        · rw [if_neg ht, if_neg ht]
      rw [hsame, htaken t k]
      refine (sumWhere_relocate ?_).symm
      rintro r hr rfl rfl
      exact absurd ⟨hr.1, hr.2.1⟩ hk
    · rw [List.getElem?_set_ne (Ne.symm hij)] at hj
      rw [h.attributed.taken j f hj t k]
      refine (sumWhere_relocate ?_).symm
      intro r hr _ _
      simp [hr.2.2, Ne.symm hij]
  · intro t k
    simp only [BatchState.write]
    rw [column_write, h.attributed.applied t k, Option.map_map]
    refine congrArg (Option.map · _) (funext fun v => ?_)
    simp only [comp_apply]
    rw [add_assoc]
    congr 1
    by_cases hk : t.phase = phase ∧ k = id
    · obtain ⟨ht, rfl⟩ := hk
      have hpending : (taken t).at k = sumWhere s.records (· = .taken i) t k := by
        rw [← htaken t k]
        simp [pending, ht, hid]
      rw [if_pos ⟨ht, rfl⟩, hpending, sumWhere_relocate_to (q := (· = .taken i)) rfl]
      · intro r htype hrid
        simp [htype, hrid, ht]
      · intro loc hloc
        rw [of_decide_eq_true hloc]
        rfl
    · rw [if_neg hk, add_zero]
      refine (sumWhere_relocate ?_).symm
      rintro r hr rfl rfl
      exact absurd ⟨hr.1, hr.2.1⟩ hk
  · exact forall_mem_set h.ok trivial
  · intro r' hr' hq
    simp only [BatchState.write] at hr' ⊢
    rcases mem_relocate hr' with ⟨r, hr, -, rfl⟩ | ⟨hr, -⟩
    · cases hq
    · exact h.stored r' hr hq
  · intro r' hr' j hj
    simp only [BatchState.write] at hr' ⊢
    rcases mem_relocate hr' with ⟨r, hr, -, rfl⟩ | ⟨hr, hstay⟩
    · cases hj
    obtain ⟨f, hf, howes⟩ := h.owed r' hr j hj
    by_cases hij : j = i
    · subst hij
      obtain rfl := Option.some.inj (hi.symm.trans hf)
      refine ⟨_, Pool.getElem?_set_of_some hi, ?_⟩
      rcases howes with ⟨hphase, hrest⟩ | hlater
      · left
        refine ⟨hphase, mem_filter.mpr ⟨hrest, ?_⟩⟩
        rw [decide_eq_true_eq]
        exact fun heq => hstay ⟨hphase, heq, hj⟩
      · exact .inr hlater
    · exact ⟨f, by rw [List.getElem?_set_ne (Ne.symm hij), hf], howes⟩

lemma BatchInv.step {s' : BatchState} {label : BatchLabel} (h : BatchInv db₀ s)
    (hfits : Fits s label) (hstep : batchStep s label = some s') : BatchInv db₀ s' := by
  cases batchStep_move hstep with
  | record type id value => exact h.record hfits
  | call => exact h.call
  | move hi hmove => exact h.move hi hmove
  | take hi => exact h.take hi
  | write hi hid => exact h.write _ hi hid

lemma batchInv_start (db₀ : DB) : BatchInv db₀ (.start db₀) := by
  refine ⟨⟨fun _ _ => rfl, ?_, ?_⟩, ?_, ?_, ?_⟩
  · intro i f hf
    cases hf
  · intro type id
    simp [BatchState.start, sumWhere]
  · exact nofun
  · exact nofun
  · exact nofun

end

/-! ## Conservation -/

/-- A sum over the pool, by the places in it. -/
lemma sum_map_eq_sum_range {α : Type*} {l : List α} {g : α → Int} {G : Nat → Int}
    (h : ∀ (i : Nat) (x : α), l[i]? = some x → g x = G i) :
    (l.map g).sum = ∑ i ∈ Finset.range l.length, G i := by
  induction l generalizing G with
  | nil => rfl
  | cons x l ih =>
    rw [map_cons, sum_cons, length_cons, Finset.sum_range_succ', add_comm]
    rw [ih (G := fun i => G (i + 1)) fun i y hy => h (i + 1) y hy, h 0 x rfl]

lemma sumWhere_cons (r : Record) (records : List Record) (p : Location → Bool) (type : BatchType)
    (id : Nat) : sumWhere (r :: records) p type id
      = r.part p type id + sumWhere records p type id := by
  simp [sumWhere]

/-- Each record is queued, with one of the calls, or applied. -/
lemma sumWhere_partition {records : List Record} {n : Nat} (type : BatchType) (id : Nat)
    (h : ∀ r ∈ records, ∀ i, r.location = .taken i → i < n) :
    sumWhere records (fun _ => true) type id = sumWhere records (· = .queued) type id
      + ∑ i ∈ Finset.range n, sumWhere records (· = .taken i) type id
      + sumWhere records isApplied type id := by
  induction records with
  | nil => simp [sumWhere]
  | cons r records ih =>
    have hr : r.part (fun _ => true) type id = r.part (· = .queued) type id
        + ∑ i ∈ Finset.range n, r.part (· = .taken i) type id
        + r.part isApplied type id := by
      by_cases hmatch : r.type = type ∧ r.id = id
      · cases hloc : r.location with
        | queued | applied j => simp [Record.part, hmatch, hloc, isApplied]
        | taken j =>
          have hj : j < n := h r mem_cons_self j hloc
          simp [Record.part, hmatch, hloc, isApplied, hj]
      have hzero : ∀ p, r.part p type id = 0 :=
        fun p => if_neg fun hp => hmatch ⟨hp.1, hp.2.1⟩
      simp [hzero]
    have hrest := ih fun x hx => h x (mem_cons_of_mem _ hx)
    simp only [sumWhere_cons]
    rw [hr, hrest, Finset.sum_add_distrib]
    abel

section
variable {db₀ : DB} {s : BatchState} {ls : List BatchLabel}

lemma BatchInv.pending_eq (h : BatchInv db₀ s) (type : BatchType) (id : Nat) :
    sumWhere s.records (fun _ => true) type id
      = s.pending type id + sumWhere s.records isApplied type id := by
  have hlt : ∀ r ∈ s.records, ∀ i, r.location = .taken i → i < s.flushes.length := by
    intro r hr i hi
    obtain ⟨f, hf, -⟩ := h.owed r hr i hi
    exact (List.getElem?_eq_some_iff.mp hf).1
  have hflushes := sum_map_eq_sum_range (g := (·.pending type id))
    fun i f hf => h.attributed.taken i f hf type id
  rw [sumWhere_partition type id hlt, BatchState.pending, h.attributed.queued type id, hflushes]

/-- The changes that are kept are those that the labels record. -/
lemma records_step {s' : BatchState} {label : BatchLabel} (hstep : batchStep s label = some s')
    (type : BatchType) (id : Nat) : sumWhere s'.records (fun _ => true) type id
      = sumWhere s.records (fun _ => true) type id + label.delta type id := by
  cases batchStep_move hstep with
  | record t k value =>
    rw [sumWhere_snoc]
    simp [Record.part, BatchLabel.delta]
  | call | move hi hmove => simp [BatchLabel.delta]
  | take hi =>
    simp only [BatchState.take, BatchLabel.delta, add_zero]
    exact sumWhere_relocate fun _ _ _ _ => rfl
  | write hi hid =>
    simp only [BatchState.write, BatchLabel.delta, add_zero]
    exact sumWhere_relocate fun _ _ _ _ => rfl

lemma records_run {s' : BatchState} (hrun : run batchStep s ls = some s') (type : BatchType)
    (id : Nat) : sumWhere s'.records (fun _ => true) type id
      = sumWhere s.records (fun _ => true) type id + recorded ls type id := by
  induction ls generalizing s with
  | nil =>
    cases hrun
    simp [recorded]
  | cons label ls ih =>
    obtain ⟨s₁, h₁, h₂⟩ := run_cons.mp hrun
    rw [ih h₂, records_step h₁]
    simp only [recorded, map_cons, sum_cons]
    abel

end

end NewApi.Model.Batch
