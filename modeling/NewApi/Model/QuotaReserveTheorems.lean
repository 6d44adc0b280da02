import NewApi.Utils.Pool
import NewApi.Model.QuotaReserve

/-!
# No overdraft by reservation

The script grants an amount only against the cached balance, so no run overdraws the account as
long as the cached balance stays below what is really available. Two steps can break that: a fill
that publishes a database snapshot without the reservations that have not reached the row, and a
grant of the database row itself. `CoveredStep` asks of these two steps that they do not.
-/

namespace NewApi.Model

open Runs Pool List ReserveCall QuotaRow QuotaAccount ReserveState

/-! ## What one step of a call can do -/

/-- The outcomes of `reserveStep`: the account and the call after it. -/
inductive ReserveOutcome (m : StoreMode) (k : QuotaKind) (a : QuotaAccount) (c : ReserveCall)
    (ok : Bool) : QuotaAccount → ReserveCall → Prop
  /-- the call goes on, or is refused, and the account stays as it is -/
  | idle (c' : ReserveCall) (amount : c'.amount = c.amount) (reserved : c'.reserved = c.reserved)
      (granted : c'.granted = c.granted) : ReserveOutcome m k a c ok a c'
  | filled (snapshot : QuotaRow) (pc : c.pc = .fill snapshot) (works : ok = true)
      (open_ : a.fenced = false) (cold : a.cached = none) :
      ReserveOutcome m k a c ok { a with cached := some snapshot } { c with pc := .script true }
  | scripted (second : Bool) (r : QuotaRow) (pc : c.pc = .script second)
      (cached : a.cached = some r) (enough : c.amount ≤ r.remain) :
      ReserveOutcome m k a c ok { a with cached := some (r.add k (-c.amount)) }
        { c with pc := .persist }
  | persisted (pc : c.pc = .persist) :
      ReserveOutcome m k a c ok (persistQuotaDelta m k a (-c.amount)) { c with pc := .returned true }
  /-- the reservation is given up, and the hash gets the amount back if that works -/
  | compensated (a' : QuotaAccount) (pc : c.pc = .compensate)
      (account : a' = a ∨ a' = (cacheApplyQuotaDelta k a c.amount).2) :
      ReserveOutcome m k a c ok a' { c with pc := .returned false }
  | fellBack (pc : c.pc = .fallback) (works : ok = true) (enough : c.amount ≤ a.row.remain) :
      ReserveOutcome m k a c ok { a with row := a.row.add k (-c.amount) }
        { c with pc := .returned true }

@[simp] lemma QuotaRow.add_remain (k : QuotaKind) (r : QuotaRow) (x : Int) :
    (r.add k x).remain = r.remain + x := by
  cases k <;> rfl

section
variable {m : StoreMode} {k : QuotaKind} {a a' : QuotaAccount} {c c' : ReserveCall} {ok : Bool}

lemma reserveStep_outcome (h : reserveStep m k a c ok = some (a', c')) :
    ReserveOutcome m k a c ok a' c' := by
  -- a call that goes on to `pc` and neither reserves nor grants
  have idle : ∀ {pc₀} pc, c.pc = pc₀ →
      ({ c with pc := pc } : ReserveCall).reserved = ({ c with pc := pc₀ } : ReserveCall).reserved →
      ({ c with pc := pc } : ReserveCall).granted = ({ c with pc := pc₀ } : ReserveCall).granted →
      ReserveOutcome m k a c ok a { c with pc := pc } := by
    rintro _ pc rfl hreserved hgranted
    exact .idle _ rfl hreserved hgranted
  unfold reserveStep at h
  split at h
  next second hpc =>
    split at h
    · cases h
      exact idle _ hpc rfl rfl
    unfold cacheTryReserveQuota at h
    split at h
    next hscript =>
      split at hscript
      · cases hscript
      rename_i r hcached
      split at hscript
      · cases hscript
      rename_i henough
      cases hscript
      cases h
      exact .scripted second r hpc hcached (Int.not_lt.mp henough)
    next hscript =>
      split at hscript
      · cases hscript
      split at hscript <;> cases hscript
      cases h
      exact idle _ hpc rfl rfl
    next hscript =>
      split at hscript
      · cases hscript
        cases h
        cases second <;> exact idle _ hpc rfl rfl
      · split at hscript <;> cases hscript
  next hpc =>
    split at h
    · cases h
      exact idle _ hpc rfl rfl
    · split at h <;> cases h <;> exact idle _ hpc rfl rfl
  next snapshot hpc =>
    split at h
    · cases h
      exact idle _ hpc rfl rfl
    rename_i hok
    split at h
    · cases h
      exact idle _ hpc rfl rfl
    cases h
    unfold cacheFillQuota
    split
    · exact idle _ hpc rfl rfl
    rename_i hopen
    split
    · exact idle _ hpc rfl rfl
    next hcold =>
      exact .filled snapshot hpc (Bool.not_eq_false _ ▸ hok) (Bool.not_eq_true _ ▸ hopen) hcold
  next hpc =>
    split at h
    · cases h
      exact idle _ hpc rfl rfl
    rename_i hok
    unfold reserveQuotaDB at h
    split at h
    next granted b hdb =>
      split at hdb
      next henough =>
        cases hdb
        cases h
        exact .fellBack hpc (Bool.not_eq_false _ ▸ hok) henough
      · cases hdb
        cases h
        exact idle _ hpc rfl rfl
  next hpc =>
    split at h
    · cases h
      exact .persisted hpc
    cases h
    -- the reservation stays until it is compensated
    refine .idle _ rfl ?_ ?_
    · simp [ReserveCall.reserved, hpc]
    · simp [ReserveCall.granted, hpc]
  next hpc =>
    split at h <;> cases h
    · exact .compensated _ hpc (.inr rfl)
    · exact .compensated _ hpc (.inl rfl)
  next => cases h

lemma reserveStep_running (h : reserveStep m k a c ok = some (a', c')) (granted : Bool) :
    c.pc ≠ .returned granted := by
  intro hpc
  simp [reserveStep, hpc] at h

end

/-! ## A call that runs alone -/

section
variable (m : StoreMode) (k : QuotaKind) (a : QuotaAccount) (q : Int)

/-- From a script that does not send the call to the hydration, the rest is `finishReserve`. -/
lemma reserve_script_alone {second : Bool} (h : second = true ∨ a.cached ≠ none) :
    ∃ n, run (fun p ok => reserveStep m k p.1 p.2 ok) (a, ⟨q, .script second⟩)
        (List.replicate n true) =
      some ((finishReserve m k q (cacheTryReserveQuota k a q)).2,
        ⟨q, .returned (finishReserve m k q (cacheTryReserveQuota k a q)).1⟩) := by
  rcases hscript : cacheTryReserveQuota k a q with ⟨result, a'⟩
  cases result with
  | insufficient =>
    refine ⟨1, ?_⟩
    simp [run, reserveStep, hscript, finishReserve]
  | ok =>
    refine ⟨2, ?_⟩
    simp [run, reserveStep, hscript, finishReserve]
  | miss =>
    have hsecond : second = true := by
      rcases h with h | h
      · exact h
      rcases hcached : a.cached with - | r
      · exact absurd hcached h
      · simp only [cacheTryReserveQuota, hcached] at hscript
        split at hscript <;> cases (Prod.mk.inj hscript).1
    refine ⟨2, ?_⟩
    simp [run, reserveStep, hscript, finishReserve, hsecond]

/-- Without interference the steps of a call add up to `tryReserveLimited`, which the billing
session uses. -/
theorem reserve_alone (hq : 0 < q) :
    ∃ n, run (fun p ok => reserveStep m k p.1 p.2 ok) (a, startReserve m q)
        (List.replicate n true) =
      some ((tryReserveLimited m k a q).2, ⟨q, .returned (tryReserveLimited m k a q).1⟩) := by
  have hstart : startReserve m q =
      ⟨q, if m.redisEnabled then .script false else .fallback⟩ := by
    rw [startReserve, if_neg (by omega), if_neg (by omega)]
  rw [hstart]
  by_cases hredis : m.redisEnabled = true
  swap
  · -- the conditional update is the only step
    refine ⟨1, ?_⟩
    simp [run, reserveStep, tryReserveLimited, hredis]
  rw [if_pos hredis]
  rcases hcached : a.cached with - | r
  swap
  · have hwarm : a.cached ≠ none := by simp [hcached]
    have hlimited : tryReserveLimited m k a q =
        finishReserve m k q (cacheTryReserveQuota k a q) := by
      by_cases hless : r.remain < q
      all_goals simp [tryReserveLimited, hredis, cacheTryReserveQuota, hcached, hless]
    rw [hlimited]
    exact reserve_script_alone m k a q (.inr hwarm)
  have hmiss : cacheTryReserveQuota k a q = (.miss, a) := by rw [cacheTryReserveQuota, hcached]
  have hlimited : tryReserveLimited m k a q =
      finishReserve m k q (cacheTryReserveQuota k (cacheFillQuota a a.row) q) := by
    simp only [tryReserveLimited, hredis, hmiss, Bool.true_eq_false, if_false]
  rw [hlimited]
  by_cases hfenced : k = .user ∧ a.fenced = true
  · -- the fence keeps the snapshot out, so the database decides
    obtain ⟨rfl, hfence⟩ := hfenced
    refine ⟨4, ?_⟩
    have hfill : cacheFillQuota a a.row = a := by rw [cacheFillQuota, if_pos hfence]
    rw [hfill, hmiss]
    simp [run, reserveStep, hmiss, hfence, finishReserve]
  obtain ⟨n, hn⟩ := reserve_script_alone m k (cacheFillQuota a a.row) q (.inl rfl)
  refine ⟨3 + n, ?_⟩
  rw [replicate_add, run_append]
  refine ⟨_, ?_, hn⟩
  simp [run, reserveStep, hmiss, hcached, hfenced]

theorem reserve_alone_cold :
    ∃ n, run (fun p ok => reserveStep ⟨true, true⟩ .user p.1 p.2 ok)
        (⟨⟨9, 0⟩, 0, none, false, 0⟩, startReserve ⟨true, true⟩ 4) (List.replicate n true) =
      some (⟨⟨9, 0⟩, -4, some ⟨5, 0⟩, false, 0⟩, ⟨4, .returned true⟩) :=
  reserve_alone _ _ _ _ (by decide)

end

/-! ## The invariant -/

/-- What holds in every state of a guarded run from the row `row₀`. -/
structure ReserveInv (k : QuotaKind) (row₀ : QuotaRow) (s : ReserveState) : Prop where
  /-- row, batch store and flushes together have lost what was granted -/
  conserved : (s.account.total k).add k s.flushes.sum = row₀.add k (-s.granted)
  covered : 0 ≤ s.available
  cached : ∀ r ∈ s.account.cached, r.remain ≤ s.available
  amounts : ∀ c ∈ s.calls, 0 ≤ c.amount ∨ c.pc = .returned false
  queued : s.account.queued ≤ 0
  flushes : ∀ delta ∈ s.flushes, delta ≤ 0
  row : s.account.row.remain ≤ row₀.remain

section
variable {m : StoreMode} {k : QuotaKind} {row₀ : QuotaRow} {s : ReserveState}
  {a' : QuotaAccount} {c c' : ReserveCall} {i : Nat}

lemma ReserveCall.reserved_nonneg (h : 0 ≤ c.amount ∨ c.pc = .returned false) : 0 ≤ c.reserved := by
  unfold reserved
  rcases h with h | h
  · split <;> first | exact h | exact le_refl 0
  · rw [h]

section
variable (h : ReserveInv k row₀ s)
include h

/-- The balance the state accounts for, in terms of what was granted. -/
lemma ReserveInv.remain_eq :
    s.account.row.remain + s.account.queued + s.flushes.sum = row₀.remain - s.granted := by
  have hrow := congrArg remain h.conserved
  simp only [total, add_remain] at hrow
  omega

lemma ReserveInv.reserved_nonneg :
    0 ≤ (s.calls.map ReserveCall.reserved).sum := by
  apply sum_nonneg
  intro x hx
  obtain ⟨c, hc, rfl⟩ := mem_map.mp hx
  exact ReserveCall.reserved_nonneg (h.amounts c hc)

/-- What was granted, with a reservation that is still to be written, is covered by the row. -/
lemma ReserveInv.granted_add_reserved_le :
    s.granted + (s.calls.map reserved).sum ≤ row₀.remain := by
  have hcovered := h.covered
  have hremain := h.remain_eq
  unfold available at hcovered
  omega

/-- A call moves: its part of the balance changes by what it is granted and what it reserves. -/
lemma ReserveInv.of_call (hc : s.calls[i]? = some c)
    (htotal : a'.total k = (s.account.total k).add k (c.granted - c'.granted))
    (hcovered : 0 ≤ s.available + (c.granted + c.reserved) - (c'.granted + c'.reserved))
    (hcached : ∀ r ∈ a'.cached,
      r.remain ≤ s.available + (c.granted + c.reserved) - (c'.granted + c'.reserved))
    (hamount : 0 ≤ c'.amount) (hqueued : a'.queued ≤ 0) (hrow : a'.row.remain ≤ row₀.remain) :
    ReserveInv k row₀ { s with account := a', calls := s.calls.set i c' } := by
  have hgranted : ((s.calls.set i c').map ReserveCall.granted).sum =
      s.granted + (c'.granted - c.granted) := sum_map_set _ hc
  have hreserved : ((s.calls.set i c').map ReserveCall.reserved).sum =
      (s.calls.map ReserveCall.reserved).sum + (c'.reserved - c.reserved) := sum_map_set _ hc
  have havailable : ReserveState.available { s with account := a', calls := s.calls.set i c' } =
      s.available + (c.granted + c.reserved) - (c'.granted + c'.reserved) := by
    have hremain := congrArg QuotaRow.remain htotal
    simp only [QuotaAccount.total, QuotaRow.add_remain] at hremain
    simp only [ReserveState.available, hreserved]
    omega
  refine ⟨?_, ?_, ?_, ?_, hqueued, h.flushes, hrow⟩
  · show (a'.total k).add k s.flushes.sum =
      row₀.add k (-((s.calls.set i c').map ReserveCall.granted).sum)
    have hconserved := congrArg (QuotaRow.add k · (c.granted - c'.granted)) h.conserved
    simp only [QuotaRow.add_add] at hconserved
    rw [htotal, hgranted, QuotaRow.add_add, add_comm, hconserved]
    congr 1
    omega
  · rw [havailable]
    exact hcovered
  · rw [havailable]
    exact hcached
  · exact forall_mem_set h.amounts (.inl hamount)

/-- The write of a granted amount stays within the `int` range, so it is not cut off. -/
lemma ReserveInv.persist_queued (hmax : row₀.remain ≤ maxInt)
    {amount : Int} (hamount : 0 ≤ amount)
    (hcovered : amount ≤ (s.calls.map reserved).sum) :
    addNewRecord s.account (-amount) =
      { s.account with queued := s.account.queued - amount } := by
  have hqueued := h.queued
  have hrow := h.row
  have hremain := h.remain_eq
  have hle := h.granted_add_reserved_le
  have hflushes : s.flushes.sum ≤ 0 := by
    simpa using sum_le_card_nsmul s.flushes 0 h.flushes
  have hmin : -maxInt > minInt := by decide
  unfold addNewRecord
  rw [if_neg (by omega), if_neg (by omega), ← sub_eq_add_neg]

end

/-- The snapshot a call is about to publish. -/
def ReservePc.snapshot? : ReservePc → Option QuotaRow
  | .fill snapshot => some snapshot
  | _ => none

/-- The steps that can publish or grant more than is available: a fill that takes effect publishes
at most what is available, and a grant of the database row leaves the cached balance covered. -/
def CoveredStep (s : ReserveState) : ReserveLabel → Prop
  | .step i ok => ∀ c ∈ s.calls[i]?, ok = true →
      (∀ snapshot ∈ c.pc.snapshot?, s.account.fenced = false → s.account.cached = none →
        snapshot.remain ≤ s.available) ∧
      (c.pc = .fallback → c.amount ≤ s.account.row.remain →
        c.amount ≤ s.available ∧ ∀ r ∈ s.account.cached, r.remain ≤ s.available - c.amount)
  | _ => True

instance (s : ReserveState) : ∀ l, Decidable (CoveredStep s l)
  | .step _ _ => inferInstanceAs (Decidable
      (∀ _ ∈ _, _ → (∀ _ ∈ _, _ → _ → _) ∧ (_ → _ → _ ∧ ∀ _ ∈ _, _)))
  | .call _ => isTrue trivial
  | .expire => isTrue trivial
  | .fence _ => isTrue trivial
  | .flushTake => isTrue trivial
  | .flushApply _ => isTrue trivial

lemma ReserveCall.granted_of_ne (h : c.pc ≠ .returned true) : c.granted = 0 := by
  unfold granted
  split
  · contradiction
  · rfl

lemma ReserveInv.outcome (h : ReserveInv k row₀ s) (hmax : row₀.remain ≤ maxInt)
    (hc : s.calls[i]? = some c) (hrunning : ∀ g, c.pc ≠ .returned g) {ok : Bool}
    (hguard : CoveredStep s (.step i ok)) (hout : ReserveOutcome m k s.account c ok a' c') :
    ReserveInv k row₀ { s with account := a', calls := s.calls.set i c' } := by
  have hmem := mem_of_getElem? hc
  have hamount : 0 ≤ c.amount := (h.amounts c hmem).resolve_right (hrunning false)
  have hgranted : c.granted = 0 := ReserveCall.granted_of_ne (hrunning true)
  have hcovered := h.covered
  have hrow := h.row
  -- the totals of a step that grants nothing, and of one that charges the row
  have hkept : s.account.total k = (s.account.total k).add k (c.granted - 0) := by
    rw [hgranted]
    exact (QuotaRow.add_zero k _).symm
  have hcharged : (s.account.row.add k (-c.amount)).add k s.account.queued
      = (s.account.total k).add k (c.granted - c.amount) := by
    rw [hgranted, QuotaAccount.total, QuotaRow.add_add, QuotaRow.add_add]
    congr 1
    omega
  have hlower : (s.account.row.add k (-c.amount)).remain ≤ row₀.remain := by
    rw [QuotaRow.add_remain]
    omega
  cases hout with
  | idle _ hsame hreserved hgranted' =>
    refine h.of_call hc ?_ ?_ ?_ (hsame ▸ hamount) h.queued h.row
    · rw [hgranted', sub_self, QuotaRow.add_zero]
    · omega
    · intro r hr
      have := h.cached r hr
      omega
  | filled snapshot hpc hworks hopen hcold =>
    have hreserved : c.reserved = 0 := by simp [ReserveCall.reserved, hpc]
    have hle : snapshot.remain ≤ s.available :=
      (hguard c hc hworks).1 snapshot (by rw [hpc]; rfl) hopen hcold
    refine h.of_call hc hkept ?_ ?_ hamount h.queued h.row
    · show 0 ≤ s.available + (c.granted + c.reserved) - (0 + 0)
      omega
    · intro r hr
      obtain rfl : snapshot = r := Option.some.inj hr
      show snapshot.remain ≤ s.available + (c.granted + c.reserved) - (0 + 0)
      omega
  | scripted second r hpc hcached henough =>
    have hreserved : c.reserved = 0 := by simp [ReserveCall.reserved, hpc]
    have hle := h.cached r hcached
    refine h.of_call hc hkept ?_ ?_ hamount h.queued h.row
    · show 0 ≤ s.available + (c.granted + c.reserved) - (0 + c.amount)
      omega
    · intro r' hr'
      obtain rfl : r.add k (-c.amount) = r' := Option.some.inj hr'
      show (r.add k (-c.amount)).remain ≤ s.available + (c.granted + c.reserved) - (0 + c.amount)
      rw [QuotaRow.add_remain]
      omega
  | persisted hpc =>
    have hreserved : c.reserved = c.amount := by simp [ReserveCall.reserved, hpc]
    have hcovered' : 0 ≤ s.available + (c.granted + c.reserved) - (c.amount + 0) := by omega
    -- the amount is part of what is reserved
    have hpart : c.amount ≤ (s.calls.map ReserveCall.reserved).sum := by
      rw [← hreserved]
      apply single_le_sum
      · intro x hx
        obtain ⟨d, hd, rfl⟩ := mem_map.mp hx
        exact ReserveCall.reserved_nonneg (h.amounts d hd)
      · exact mem_map_of_mem hmem
    have hcached' : ∀ r ∈ s.account.cached,
        r.remain ≤ s.available + (c.granted + c.reserved) - (c.amount + 0) := by
      intro r hr
      have := h.cached r hr
      omega
    have hqueued := h.queued
    unfold persistQuotaDelta
    split
    · rw [h.persist_queued hmax hamount hpart]
      refine h.of_call hc ?_ hcovered' hcached' hamount ?_ h.row
      · rw [hgranted]
        show s.account.row.add k (s.account.queued - c.amount) = _
        rw [QuotaAccount.total, QuotaRow.add_add]
        congr 1
        show s.account.queued - c.amount = s.account.queued + (0 - c.amount)
        omega
      · show s.account.queued - c.amount ≤ 0
        omega
    · exact h.of_call hc hcharged hcovered' hcached' hamount h.queued hlower
  | compensated _ hpc haccount =>
    have hreserved : c.reserved = c.amount := by simp [ReserveCall.reserved, hpc]
    have hcovered' : 0 ≤ s.available + (c.granted + c.reserved) - (0 + 0) := by omega
    rcases haccount with rfl | rfl
    · refine h.of_call hc hkept hcovered' ?_ hamount h.queued h.row
      · intro r hr
        have := h.cached r hr
        show r.remain ≤ s.available + (c.granted + c.reserved) - (0 + 0)
        omega
    unfold cacheApplyQuotaDelta
    split
    next hcold =>
      refine h.of_call hc hkept hcovered' ?_ hamount h.queued h.row
      · intro r hr
        cases hcold.symm.trans hr
    next r hcached =>
      have := h.cached r hcached
      refine h.of_call hc hkept hcovered' ?_ hamount h.queued h.row
      · intro r' hr'
        obtain rfl : r.add k c.amount = r' := Option.some.inj hr'
        show (r.add k c.amount).remain ≤ s.available + (c.granted + c.reserved) - (0 + 0)
        rw [QuotaRow.add_remain]
        omega
  | fellBack hpc hworks henough =>
    have hreserved : c.reserved = 0 := by simp [ReserveCall.reserved, hpc]
    obtain ⟨hle, hcached⟩ := (hguard c hc hworks).2 hpc henough
    refine h.of_call hc hcharged ?_ ?_ hamount h.queued hlower
    · show 0 ≤ s.available + (c.granted + c.reserved) - (c.amount + 0)
      omega
    · intro r hr
      have := hcached r hr
      show r.remain ≤ s.available + (c.granted + c.reserved) - (c.amount + 0)
      omega

/-- A flush moves a delta on its way to the row. -/
lemma ReserveInv.of_flush (h : ReserveInv k row₀ s) {flushes : List Int}
    (hcached : a'.cached = s.account.cached)
    (htotal : (a'.total k).add k flushes.sum = (s.account.total k).add k s.flushes.sum)
    (hqueued : a'.queued ≤ 0) (hflushes : ∀ delta ∈ flushes, delta ≤ 0)
    (hrow : a'.row.remain ≤ row₀.remain) :
    ReserveInv k row₀ { s with account := a', flushes := flushes } := by
  have havailable : available { s with account := a', flushes := flushes } =
      s.available := by
    have hremain := congrArg remain htotal
    simp only [total, add_remain] at hremain
    simp only [available]
    omega
  refine ⟨htotal.trans h.conserved, ?_, ?_, h.amounts, hqueued, hflushes, hrow⟩
  · rw [havailable]
    exact h.covered
  · rw [havailable]
    show ∀ r ∈ a'.cached, r.remain ≤ s.available
    rw [hcached]
    exact h.cached

/-! ## Runs -/

lemma ReserveInv.step (h : ReserveInv k row₀ s) (hmax : row₀.remain ≤ maxInt) (l : ReserveLabel)
    (hok : CoveredStep s l) {s' : ReserveState} (hstep : quotaStep m k s l = some s') :
    ReserveInv k row₀ s' := by
  cases l with
  | call amount =>
    cases hstep
    have hzero : (startReserve m amount).reserved = 0 ∧ (startReserve m amount).granted = 0 ∧
        (0 ≤ (startReserve m amount).amount ∨ (startReserve m amount).pc = .returned false) := by
      -- a call starts without a reservation, and the grant of a zero amount is none
      unfold startReserve ReserveCall.reserved ReserveCall.granted
      by_cases hneg : amount < 0
      · simp [hneg]
      by_cases hz : amount = 0
      · simp [hz]
      · cases m.redisEnabled <;> simp [hneg, hz, Int.not_lt.mp hneg]
    have hgranted : ReserveState.granted { s with calls := s.calls ++ [startReserve m amount] } =
        s.granted := by
      simp [ReserveState.granted, hzero.2.1]
    have havailable : ReserveState.available
        { s with calls := s.calls ++ [startReserve m amount] } = s.available := by
      simp [ReserveState.available, hzero.1]
    refine ⟨?_, ?_, ?_, forall_mem_snoc h.amounts hzero.2.2, h.queued, h.flushes, h.row⟩
    · rw [hgranted]
      exact h.conserved
    · rw [havailable]
      exact h.covered
    · rw [havailable]
      exact h.cached
  | step i ok =>
    simp only [quotaStep] at hstep
    split at hstep
    · cases hstep
    rename_i c hc
    split at hstep
    · cases hstep
    next a' c' hcall =>
      cases hstep
      exact h.outcome hmax hc (reserveStep_running hcall) hok (reserveStep_outcome hcall)
  | expire =>
    cases hstep
    exact { h with cached := nofun }
  | fence up =>
    cases hstep
    exact { h with }
  | flushTake =>
    cases hstep
    refine h.of_flush rfl ?_ (le_refl 0) (forall_mem_snoc h.flushes h.queued) h.row
    simp [QuotaAccount.total, add_comm]
  | flushApply i =>
    simp only [quotaStep] at hstep
    split at hstep
    · cases hstep
    rename_i delta hdelta
    cases hstep
    have hle : delta ≤ 0 := h.flushes delta (mem_of_getElem? hdelta)
    have hsum : (s.flushes.set i 0).sum = s.flushes.sum - delta := by
      have hset := sum_map_set (y := 0) id hdelta
      simp only [map_id, id_eq, zero_sub] at hset
      rw [hset, sub_eq_add_neg]
    refine h.of_flush rfl ?_ h.queued (forall_mem_set h.flushes (le_refl 0)) ?_
    · rw [hsum]
      simp only [QuotaAccount.total, QuotaRow.add_add]
      congr 1
      omega
    · have hrow := h.row
      show (s.account.row.add k delta).remain ≤ row₀.remain
      rw [QuotaRow.add_remain]
      omega

end

/-- The state before the first call. -/
def ReserveState.idle (a : QuotaAccount) : ReserveState where
  account := a
  calls := []
  flushes := []

lemma reserveInv_idle {k : QuotaKind} {a : QuotaAccount} (hqueued : a.queued = 0)
    (hbalance : 0 ≤ a.row.remain) (hcached : ∀ r ∈ a.cached, r.remain ≤ a.row.remain) :
    ReserveInv k a.row (.idle a) := by
  have havailable : (ReserveState.idle a).available = a.row.remain := by
    simp [ReserveState.available, ReserveState.idle, hqueued]
  refine ⟨?_, ?_, ?_, nofun, hqueued.le, nofun, le_refl _⟩
  · simp [ReserveState.idle, ReserveState.granted, QuotaAccount.total, hqueued]
  · rw [havailable]
    exact hbalance
  · rw [havailable]
    exact hcached

/-- No overdraft: in a run whose fills and database grants are covered, the calls that return true
never take more than the balance, and when everything has come to rest the row has lost exactly
what they took. For a user this is the wallet, for a token its remaining and used quota. -/
theorem reservations_within_balance (m : StoreMode) (k : QuotaKind) (a : QuotaAccount)
    (ls : List ReserveLabel) (s : ReserveState) (hqueued : a.queued = 0)
    (hbalance : 0 ≤ a.row.remain) (hmax : a.row.remain ≤ maxInt)
    (hcached : ∀ r ∈ a.cached, r.remain ≤ a.row.remain)
    (hok : Along (quotaStep m k) CoveredStep (.idle a) ls)
    (hrun : run (quotaStep m k) (.idle a) ls = some s) :
    s.granted ≤ a.row.remain ∧
      (s.quiescent → s.account.row = a.row.add k (-s.granted)) := by
  have hinv : ReserveInv k a.row s :=
    run_invariant (ReserveInv k a.row) (fun _ l _ h hl hstep => h.step hmax l hl hstep)
      (reserveInv_idle hqueued hbalance hcached) hok hrun
  constructor
  · have hle := hinv.granted_add_reserved_le
    have hreserved := hinv.reserved_nonneg
    omega
  · rintro ⟨-, hqueued', hflushes⟩
    have hsum : s.flushes.sum = 0 := sum_eq_zero hflushes
    have hconserved := hinv.conserved
    rwa [total, hqueued', hsum, add_zero, add_zero] at hconserved

/-- A cold account with a balance of 100. -/
def coldAccount : QuotaAccount where
  row := { remain := 100, used := 0 }
  queued := 0
  cached := none
  fenced := false
  faults := 0

/-- Redis with batch updates. -/
def batchMode : StoreMode where
  redisEnabled := true
  batchUpdateEnabled := true

/-- Two calls share one hydration of a token and both are granted; the flush brings the row to
what is left. -/
theorem reservations_within_balance_shared :
    ∃ s, run (quotaStep batchMode .token) (.idle coldAccount)
        [.call 60, .call 40, .step 0 true, .step 0 true, .step 0 true, .step 1 true,
          .step 0 true, .step 0 true, .step 1 true, .flushTake, .flushApply 0] = some s ∧
      s.granted = 100 ∧ s.account.row = { remain := 0, used := 100 } := by
  have h := reservations_within_balance batchMode .token coldAccount
    [.call 60, .call 40, .step 0 true, .step 0 true, .step 0 true, .step 1 true,
      .step 0 true, .step 0 true, .step 1 true, .flushTake, .flushApply 0]
    _ rfl (by decide) (by decide) nofun (by decide) rfl
  exact ⟨_, rfl, rfl, (h.2 (by decide)).trans rfl⟩

/-- A grant waits in the batch store, the hash expires, and the next call hydrates it from the row
that does not know the grant: 200 are granted on a balance of 100. -/
theorem stale_hydration_overdraws :
    ∃ s, run (quotaStep batchMode .user) (.idle coldAccount)
        [.call 100, .step 0 true, .step 0 true, .step 0 true, .step 0 true, .step 0 true, .expire,
          .call 100, .step 1 true, .step 1 true, .step 1 true, .step 1 true, .step 1 true,
          .flushTake, .flushApply 0] = some s ∧
      ¬ s.granted ≤ coldAccount.row.remain ∧ s.account.row.remain = -100 :=
  ⟨_, rfl, by decide, rfl⟩

end NewApi.Model
