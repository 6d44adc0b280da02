import NewApi.Model.BatchUpdateInvariant

/-!
# Batched updates lose and duplicate nothing

A recorded change only moves on, from the store of its type to the call that takes it and from there
to the database. `Fate` follows one change through a run, and says which calls can get it and which
calls have still to come to it.
-/

namespace NewApi.Model.Batch

open Runs List

/-! ## What becomes of a record -/

/-- The call has still to come to the store of a type. -/
def Flush.ToTake (type : BatchType) : Flush → Prop
  | .checking rest => type ∈ rest
  | .taking _ rest => type ∈ rest
  | _ => False

/-- The call is past the store of a type. -/
def Flush.Past (type : BatchType) : Flush → Prop
  | .checking _ => False
  | .taking _ rest => type ∉ rest
  | _ => True

/-- The change with number `n` is where it can be: not with a call that was past its store when it
was recorded, and in the store only as long as every call begun since (those from `calls` on) has
still to come to it. -/
structure Fate (n calls : Nat) (missed : Nat → Prop) (r : Record) (s : BatchState) : Prop where
  at_n : s.records[n]? = some r
  toTake : r.location = .queued → ∀ (i : Nat) (f : Flush), calls ≤ i → s.flushes[i]? = some f →
    f.ToTake r.type
  past : ∀ i, missed i → ∃ f, s.flushes[i]? = some f ∧ f.Past r.type
  notMissed : ∀ i, missed i → r.location ≠ .taken i ∧ r.location ≠ .applied i

section
variable {stores : Stores} {f f' : Flush} {type : BatchType} {id : Nat}

lemma mem_all (type : BatchType) : type ∈ BatchType.all := by
  cases type <;> decide

lemma FlushMove.past (h : FlushMove stores f f') (hpast : f.Past type) : f'.Past type := by
  cases h with
  | none_here _ => exact hpast
  | some_here => exact False.elim hpast
  | _ => trivial

/-- A call does not pass over a store with an entry. -/
lemma FlushMove.toTake (h : FlushMove stores f f') (hid : id ∈ (stores type).ids)
    (htake : f.ToTake type) : f'.ToTake type := by
  cases h with
  | nothing | all_taken => cases htake
  | none_here hrows =>
    rcases mem_cons.mp htake with rfl | hrest
    · rw [Store.ids, hrows] at hid
      cases hid
    · exact hrest
  | some_here => exact mem_all type
  | next _ | done _ => exact htake

end

variable {ls : List BatchLabel}

section
variable {db₀ : DB} {s s' : BatchState} {n calls : Nat} {missed : Nat → Prop} {r : Record} {i : Nat}
  {taken : Stores}

lemma getElem?_relocate (records : List Record) (c : Record → Prop) [DecidablePred c]
    (location : Location) (h : records[n]? = some r) :
    (relocate records c location)[n]? = some (if c r then { r with location } else r) := by
  simp [relocate, h]

lemma Fate.toTake_set {f f' : Flush} (h : Fate n calls missed r s)
    (hi : s.flushes[i]? = some f) (hq : r.location = .queued)
    (htake : f.ToTake r.type → f'.ToTake r.type) (j : Nat) (g : Flush) (hj : calls ≤ j)
    (hg : (s.flushes.set i f')[j]? = some g) : g.ToTake r.type := by
  by_cases hij : j = i
  · subst hij
    obtain rfl := Pool.eq_of_getElem?_set hg
    exact htake (h.toTake hq j f hj hi)
  · rw [List.getElem?_set_ne (Ne.symm hij)] at hg
    exact h.toTake hq j g hj hg

lemma Fate.past_set {f f' : Flush} (h : Fate n calls missed r s)
    (hi : s.flushes[i]? = some f) (hpast : f.Past r.type → f'.Past r.type) (j : Nat)
    (hj : missed j) : ∃ g, (s.flushes.set i f')[j]? = some g ∧ g.Past r.type := by
  obtain ⟨g, hg, hgpast⟩ := h.past j hj
  by_cases hij : j = i
  · subst hij
    obtain rfl := Option.some.inj (hi.symm.trans hg)
    exact ⟨f', Pool.getElem?_set_of_some hi, hpast hgpast⟩
  · exact ⟨g, by rw [List.getElem?_set_ne (Ne.symm hij), hg], hgpast⟩

variable {type : BatchType} {rest : List BatchType}

lemma past_taking {taken' : Stores} {t : BatchType}
    (h : (Flush.taking taken (type :: rest)).Past t) : (Flush.taking taken' rest).Past t :=
  fun hmem => h (mem_cons_of_mem _ hmem)

lemma Fate.take
    (h : Fate n calls missed r s) (hi : s.flushes[i]? = some (.taking taken (type :: rest))) :
    ∃ location, Fate n calls missed { r with location } (s.take i taken type rest) := by
  have hat := getElem?_relocate s.records
    (fun r => r.type = type ∧ r.location = .queued) (.taken i) h.at_n
  by_cases hc : r.type = type ∧ r.location = .queued
  · -- the record goes with the call, which is not one that was past its store
    rw [if_pos hc] at hat
    have hfirst : ¬ missed i := by
      intro hmissed
      obtain ⟨f, hf, hpast⟩ := h.past i hmissed
      obtain rfl := Option.some.inj (hi.symm.trans hf)
      exact hpast (hc.1 ▸ mem_cons_self)
    refine ⟨.taken i, hat, ?_, h.past_set hi past_taking, ?_⟩
    · intro hq
      cases hq
    · intro j hj
      refine ⟨fun heq => hfirst (Location.taken.inj heq ▸ hj), ?_⟩
      intro heq
      cases heq
  · rw [if_neg hc] at hat
    refine ⟨r.location, hat, ?_, h.past_set hi past_taking, h.notMissed⟩
    intro hq
    refine h.toTake_set hi hq ?_
    exact fun hfirst => (mem_cons.mp hfirst).resolve_left fun heq => hc ⟨heq, hq⟩

lemma Fate.write {phase : Phase} {rest : List Nat} {id : Nat} (now : Int)
    (h : Fate n calls missed r s) (hi : s.flushes[i]? = some (.writing taken phase rest)) :
    ∃ location, Fate n calls missed { r with location } (s.write i taken phase rest id now) := by
  have hat := getElem?_relocate s.records
    (fun r => r.type.phase = phase ∧ r.id = id ∧ r.location = .taken i) (.applied i) h.at_n
  by_cases hc : r.type.phase = phase ∧ r.id = id ∧ r.location = .taken i
  · rw [if_pos hc] at hat
    refine ⟨.applied i, hat, ?_, h.past_set hi fun _ => trivial, ?_⟩
    · intro hq
      cases hq
    · intro j hj
      refine ⟨Location.noConfusion, ?_⟩
      intro heq
      obtain rfl : i = j := Location.applied.inj heq
      exact (h.notMissed i hj).1 hc.2.2
  · rw [if_neg hc] at hat
    refine ⟨r.location, hat, ?_, h.past_set hi fun _ => trivial, h.notMissed⟩
    intro hq
    exact h.toTake_set hi hq fun hfalse => hfalse

/-- **Step lemma.** A step leaves the record where it is or moves it on. -/
lemma Fate.step {label : BatchLabel} (h : Fate n calls missed r s) (hinv : BatchInv db₀ s)
    (hstep : batchStep s label = some s') :
    ∃ location, Fate n calls missed { r with location } s' := by
  have hmem := mem_of_getElem? h.at_n
  cases batchStep_move hstep with
  | record type id value =>
    refine ⟨r.location, ?_, h.toTake, h.past, h.notMissed⟩
    have hlt := (List.getElem?_eq_some_iff.mp h.at_n).1
    rw [List.getElem?_append_left hlt, h.at_n]
  | call =>
    refine ⟨r.location, h.at_n, fun hq i f hi hf => ?_, fun i hi => ?_, h.notMissed⟩
    · rw [List.getElem?_append] at hf
      split at hf
      · exact h.toTake hq i f hi hf
      · obtain rfl := mem_singleton.mp (mem_of_getElem? hf)
        exact mem_all _
    · obtain ⟨f, hf, hpast⟩ := h.past i hi
      have hlt := (List.getElem?_eq_some_iff.mp hf).1
      exact ⟨f, by dsimp only; rw [List.getElem?_append_left hlt, hf], hpast⟩
  | move hi hmove =>
    refine ⟨r.location, h.at_n, ?_, h.past_set hi hmove.past, h.notMissed⟩
    intro hq
    exact h.toTake_set hi hq (hmove.toTake (hinv.stored r hmem hq))
  | take hi => exact h.take hi
  | write hi _ => exact h.write _ hi

/-- **Run lemma.** -/
lemma Fate.run (h : Fate n calls missed r s) (hinv : BatchInv db₀ s)
    (hfits : Along batchStep Fits s ls) (hrun : Runs.run batchStep s ls = some s') :
    BatchInv db₀ s' ∧ ∃ location, Fate n calls missed { r with location } s' := by
  refine run_invariant
    (fun s => BatchInv db₀ s ∧ ∃ location, Fate n calls missed { r with location } s) ?_
    ⟨hinv, r.location, h⟩ hfits hrun
  rintro s label s' ⟨hinv, location, hfate⟩ hok hstep
  exact ⟨hinv.step hok hstep, hfate.step hinv hstep⟩

end

/-! ## The theorem -/

/-- For every entity, what the database has and what is pending add up to what the database had
and what was recorded. -/
def Conserved (db₀ : DB) (ls : List BatchLabel) (s : BatchState) : Prop :=
  ∀ type id v₀, db₀.column type id = some v₀ → ∃ v, s.db.column type id = some v ∧
    v + s.pending type id = v₀ + recorded ls type id

/-- A change recorded in the state `s₁` is in one place in the later state `s`. A call that was past
its store does not get it; one that took it and has not written it is still running; and once a call
begun after it and all the others have ended, it has been applied by one of them. -/
def AppliedOnce (s₁ s : BatchState) (type : BatchType) (id : Nat) (value : Int) : Prop :=
  ∃ location, s.records[s₁.records.length]? = some { type, id, value, location } ∧
    (∀ (i : Nat) (f : Flush), s₁.flushes[i]? = some f → f.Past type →
      location ≠ .taken i ∧ location ≠ .applied i) ∧
    (∀ i, location = .taken i → ∃ f, s.flushes[i]? = some f ∧ f ≠ .finished) ∧
    (s₁.flushes.length < s.flushes.length → (∀ f ∈ s.flushes, f = .finished) →
      ∃ i, location = .applied i)

/-- What a token has left and what it has used move against each other. -/
def TokensBalanced (db₀ db : DB) : Prop :=
  ∀ id, (db.tokens id).map (fun row => row.remainQuota + row.usedQuota)
    = (db₀.tokens id).map fun row => row.remainQuota + row.usedQuota

variable {db₀ : DB} {s : BatchState}

lemma TokensBalanced.write {db : DB} (h : TokensBalanced db₀ db) (taken : Stores) (key : Nat)
    (now : Int) (phase : Phase) : TokensBalanced db₀ (phase.write taken db key now) := by
  intro id
  rw [← h id]
  cases phase with
  | tokens =>
    simp only [Phase.write, increaseTokenQuota, updateWhereId_apply]
    split
    · simp [Function.comp_def]
    · rfl
  | channels => rfl
  | users =>
    simp only [Phase.write, updateUserQuotaUsedQuotaAndRequestCount]
    split <;> rfl

lemma tokensBalanced_run
    (hrun : run batchStep (.start db₀) ls = some s) : TokensBalanced db₀ s.db := by
  refine run_invariant' (fun s => TokensBalanced db₀ s.db) ?_ (fun _ => rfl) hrun
  intro s label s' h hstep
  cases batchStep_move hstep with
  | write hi hid => exact h.write _ _ _ _
  | _ => exact h

lemma batchInv_run (hrun : run batchStep (.start db₀) ls = some s)
    (hfits : Along batchStep Fits (.start db₀) ls) : BatchInv db₀ s :=
  run_invariant (BatchInv db₀) (fun _ _ _ h => h.step) (batchInv_start db₀)
    hfits hrun

lemma appliedOnce_of_run {s₁ : BatchState} {type : BatchType} {id : Nat} {value : Int}
    (hinv : BatchInv db₀ s₁) (hfits : Along batchStep Fits s₁ (.record type id value :: ls))
    (hrun : run batchStep s₁ (.record type id value :: ls) = some s) :
    AppliedOnce s₁ s type id value := by
  obtain ⟨s₂, hrecord, hrun₂⟩ := run_cons.mp hrun
  rw [along_cons hrecord] at hfits
  have hinv₂ := hinv.step hfits.1 hrecord
  have hs₂ := Option.some.inj hrecord
  have hbegin : Fate s₁.records.length s₁.flushes.length
      (fun i => ∃ f, s₁.flushes[i]? = some f ∧ f.Past type)
      { type, id, value, location := .queued } s₂ := by
    subst hs₂
    refine ⟨?_, fun _ i f hi hf => ?_, fun i hi => hi, fun i _ => ?_⟩
    · simp
    · have hlt := (List.getElem?_eq_some_iff.mp hf).1
      dsimp only at hlt
      omega
    · exact ⟨Location.noConfusion, Location.noConfusion⟩
  obtain ⟨hinv', location, hfate⟩ := hbegin.run hinv₂ hfits.2 hrun₂
  have howed := hinv'.owed _ (mem_of_getElem? hfate.at_n)
  refine ⟨location, hfate.at_n, fun i f hf hpast => hfate.notMissed i ⟨f, hf, hpast⟩, ?_, ?_⟩
  · intro i hi
    obtain ⟨f, hf, howes⟩ := howed i hi
    refine ⟨f, hf, ?_⟩
    rintro rfl
    exact howes
  · intro hlater hall
    cases location with
    | queued =>
      -- the call begun after it has ended, so it cannot have left the record in the store
      obtain ⟨f, hf⟩ : ∃ f, s.flushes[s₁.flushes.length]? = some f :=
        ⟨_, List.getElem?_eq_getElem hlater⟩
      have htake := hfate.toTake rfl _ f (le_refl _) hf
      rw [hall f (mem_of_getElem? hf)] at htake
      exact False.elim htake
    | taken i =>
      obtain ⟨f, hf, howes⟩ := howed i rfl
      rw [hall f (mem_of_getElem? hf)] at howes
      exact False.elim howes
    | applied i => exact ⟨i, rfl⟩

/-- **Batched updates lose and duplicate nothing.** After every run of calls of `addNewRecord` and
`batchUpdate`, whatever their interleaving: nothing is lost between the database, the stores and
the calls; every number is the sum of the changes that are there; and every change recorded on the
way is applied at most once, and at last by a call that came to its store after it. -/
theorem batched_updates_exact (db₀ : DB) (ls : List BatchLabel) (s : BatchState)
    (hrun : run batchStep (.start db₀) ls = some s) (hfits : Along batchStep Fits (.start db₀) ls) :
    Conserved db₀ ls s ∧ TokensBalanced db₀ s.db ∧ Attributed db₀ s ∧
      ∀ ls₁ type id value ls₂ s₁, ls = ls₁ ++ .record type id value :: ls₂ →
        run batchStep (.start db₀) ls₁ = some s₁ → AppliedOnce s₁ s type id value := by
  have hinv := batchInv_run hrun hfits
  refine ⟨?_, tokensBalanced_run hrun, hinv.attributed, ?_⟩
  · intro type id v₀ h₀
    refine ⟨v₀ + sumWhere s.records Location.isApplied type id, ?_, ?_⟩
    · rw [hinv.attributed.applied, h₀, Option.map_some]
    · have hsplit := hinv.pending_eq type id
      have hall := records_run hrun type id
      have hnone : sumWhere (BatchState.start db₀).records (fun _ => true) type id = 0 := rfl
      omega
  · rintro ls₁ type id value ls₂ s₁ rfl hrun₁
    obtain ⟨s₁', hrun₁', hrest⟩ := run_append.mp hrun
    obtain rfl : s₁ = s₁' := Option.some.inj (hrun₁.symm.trans hrun₁')
    obtain ⟨hfits₁, hfits'⟩ := hfits.of_append hrun₁
    exact appliedOnce_of_run (batchInv_run hrun₁ hfits₁) hfits' hrest

/-- One user with a quota of 100. -/
def oneUser : DB where
  users := fun id => if id = 1 then some ⟨100, 0, 0⟩ else none
  tokens := fun _ => none
  channels := fun _ => none

/-- A call of `batchUpdate` from its first check to the end of its loops, for one user. -/
def wholeCall (i : Nat) : List BatchLabel :=
  .call :: List.replicate 9 (.advance i) ++ [.write i 1 0, .advance i]

theorem batched_updates_exact_one_call : ∃ s,
    run batchStep (.start oneUser) (.record .userQuota 1 5 :: wholeCall 0) = some s ∧
      s.pending .userQuota 1 = 0 ∧
      Conserved oneUser (.record .userQuota 1 5 :: wholeCall 0) s := by
  refine ⟨_, rfl, rfl, ?_⟩
  exact (batched_updates_exact oneUser (.record .userQuota 1 5 :: wholeCall 0) _ rfl
    (by decide)).1

/-- A change that is recorded while a call is running, and before the call comes to its store, is
applied by that call and not by a later one. -/
theorem running_call_applies_record : ∃ s₁ f s,
    run batchStep (.start oneUser) [.record .userQuota 1 5, .call, .advance 0, .advance 0]
      = some s₁ ∧ s₁.flushes = [f] ∧ f ≠ .finished ∧
    run batchStep s₁ (.record .requestCount 1 1 ::
      List.replicate 7 (.advance 0) ++ [.write 0 1 0, .advance 0]) = some s ∧
    Along batchStep Fits s₁ (.record .requestCount 1 1 ::
      List.replicate 7 (.advance 0) ++ [.write 0 1 0, .advance 0]) ∧
    s.flushes = [.finished] ∧
    s.records[s₁.records.length]? = some ⟨.requestCount, 1, 1, .applied 0⟩ := by
  refine ⟨_, _, _, rfl, rfl, Flush.noConfusion, rfl, by decide, rfl, rfl⟩

end NewApi.Model.Batch
