import NewApi.Utils.Pool
import NewApi.Model.UserSession

/-!
# Revoked sessions stay revoked through the cache

The timing argument: a snapshot that saw the row active was read before the row left that status, so
its entry is gone one cache period after that moment (`horizon`). Any deny entry that Redis accepts
after that moment lives at least as long, and keeps active entries out while it lives.
-/

namespace NewApi.Model

open Runs Pool SessionState UserSession

/-! ## How long an active entry can be found -/

/-- The latest deadline of a snapshot that saw the row active. -/
def SessionState.horizon (ttlSeconds : Nat) (s : SessionState) : Int :=
  s.leftActive.getD s.now + ofUnix ttlSeconds

/-- The last millisecond at which an active entry can be found and is not expired itself. -/
def SessionState.lastActive (ttlSeconds : Nat) (s : SessionState) : Int :=
  min (unixMilli (s.horizon ttlSeconds)) (s.row.expiresAt * 1000 - 1)

/-- No active entry can be found any more, or a deny entry stays until then. -/
def SessionState.Covered (ttlSeconds : Nat) (s : SessionState) : Prop :=
  s.lastActive ttlSeconds < unixMilli s.now ∨
    ∃ c, s.cache = some c ∧ c.entry.status ≠ .active ∧ s.lastActive ttlSeconds ≤ c.expireAt

/-- What holds of a write at any point. -/
structure WriteSafe (ttlSeconds : Nat) (s : SessionState) (w : CacheWrite) : Prop where
  expiresAt : w.entry.expiresAt = s.row.expiresAt
  deadline : w.entry.status = .active → ∀ d ∈ w.deadline, d ≤ s.horizon ttlSeconds
  prepared : ∀ x, w.pc = .eval x →
    ∃ t ≤ s.now, prepareWrite ttlSeconds t w.entry w.deadline = .ok x
  finish : w.pc = .finish → w.entry.status = .active
  revoked : w.entry.status = .revoked →
    s.row.status ≠ .active ∨ s.row.expiresAt ≤ unix s.now

/-- What holds of the hash. -/
structure CacheSafe (ttlSeconds : Nat) (s : SessionState) : Prop where
  expiresAt : ∀ c ∈ s.cache, c.entry.expiresAt = s.row.expiresAt
  active : ∀ c ∈ s.cache, c.entry.status = .active →
    c.expireAt ≤ unixMilli (s.horizon ttlSeconds)
  revoked : ∀ c ∈ s.cache, c.entry.status = .revoked →
    s.row.expiresAt ≤ unix s.now ∨
      s.row.status ≠ .active ∧ s.lastActive ttlSeconds ≤ c.expireAt
  covered : s.revoked = true → s.row.status ≠ .active ∧ s.Covered ttlSeconds

/-- What holds of the row and of the moment it left `active`. -/
structure RowSafe (s : SessionState) : Prop where
  left : s.leftActive = none ↔ s.row.status = .active
  before : ∀ t ∈ s.leftActive, t ≤ s.now
  unrevoked : s.row.status = .active → s.row.revokedAt = 0

section
variable {ttlSeconds : Nat} {s : SessionState} {w : CacheWrite} {t x : Int} {entry : SessionEntry}
  {cache' : Option CachedSession}

lemma RowSafe.exists_left (h : RowSafe s) (hrow : s.row.status ≠ .active) :
    ∃ t ≤ s.now, s.leftActive = some t := by
  rcases hleft : s.leftActive with - | t
  · exact absurd (h.left.mp hleft) hrow
  · exact ⟨t, h.before t hleft, rfl⟩

lemma RowSafe.horizon_eq (h : RowSafe s) (hrow : s.row.status = .active) :
    s.horizon ttlSeconds = s.now + ofUnix ttlSeconds := by
  rw [horizon, h.left.mpr hrow]
  rfl

/-- A deny entry that Redis accepts after the row has left `active` lives long enough. -/
lemma lastActive_le_deny (h : RowSafe s) (hrow : s.row.status ≠ .active)
    (hentry : entry.status ≠ .active) (hexpires : entry.expiresAt = s.row.expiresAt)
    (ht : t ≤ s.now) {deadline : Option Int}
    (hx : prepareWrite ttlSeconds t entry deadline = .ok x) :
    s.lastActive ttlSeconds ≤ unixMilli s.now + x := by
  obtain ⟨c, hc, hleft⟩ := h.exists_left hrow
  have hhorizon : s.horizon ttlSeconds = c + ofUnix ttlSeconds := by
    rw [horizon, hleft]
    rfl
  unfold lastActive
  rw [hhorizon, ← hexpires]
  unfold prepareWrite at hx
  rw [if_neg hentry] at hx
  cases hx
  unfold unixMilli ofUnix
  split <;> split at * <;> omega

/-- An active entry is gone after the horizon. -/
lemma active_le_horizon (hw : WriteSafe ttlSeconds s w) (hactive : w.entry.status = .active)
    (hpc : w.pc = .eval x) : x ≤ unixMilli (s.horizon ttlSeconds) := by
  obtain ⟨t, -, hx⟩ := hw.prepared x hpc
  unfold prepareWrite at hx
  rw [if_pos hactive] at hx
  split at hx
  · cases hx
  rename_i d hd
  have hle := hw.deadline hactive d hd
  split at hx
  · cases hx
  split at hx
  · cases hx
  dsimp only at hx
  split at hx
  · cases hx
  cases hx
  unfold unixMilli
  omega

/-! ## The script -/

lemma live_eq_some {now : Int} {cache : Option CachedSession} {c : CachedSession} :
    live now cache = some c ↔ cache = some c ∧ unixMilli now ≤ c.expireAt := by
  simp [live, Option.filter_eq_some_iff]

/-- A deny entry that covers the session is found as long as it is needed. -/
lemma SessionState.Covered.live_deny (h : s.Covered ttlSeconds)
    (htime : ¬ s.lastActive ttlSeconds < unixMilli s.now) :
    (live s.now s.cache).any (fun c => c.entry.status ≠ .active) = true := by
  rcases h with hpast | ⟨c, hc, hdeny, hlong⟩
  · exact absurd hpast htime
  have hlive : live s.now s.cache = some c := live_eq_some.mpr ⟨hc, by omega⟩
  rw [hlive]
  simpa using hdeny

/-- The three things the script can do. -/
inductive ScriptOutcome (now : Int) (cache : Option CachedSession) (entry : SessionEntry) (x : Int) :
    Option CachedSession → Bool → Prop
  | refused (h : entry.status = .active ∨
        ∃ c, live now cache = some c ∧ entry.version < c.entry.version) :
      ScriptOutcome now cache entry x cache false
  | active {cache' : Option CachedSession} (hactive : entry.status = .active)
      (hfree : ¬ (live now cache).any (fun c => c.entry.status ≠ .active) = true)
      (hcache : ∀ c ∈ cache', c = { entry := entry, expireAt := x }) :
      ScriptOutcome now cache entry x cache' true
  | deny (hdeny : entry.status ≠ .active) :
      ScriptOutcome now cache entry x
        (some { entry := entry, expireAt := unixMilli now + x }) true

lemma evalScript_outcome (now : Int) (cache : Option CachedSession) (entry : SessionEntry)
    (x : Int) :
    ScriptOutcome now cache entry x (evalScript now cache entry x).1
      (evalScript now cache entry x).2 := by
  unfold evalScript
  dsimp only
  split
  next h => exact .refused (.inl h.1)
  rename_i hfree
  split
  next hversion =>
    rcases hlive : live now cache with - | c
    · rw [hlive] at hversion
      exact absurd hversion (Nat.not_lt_zero _)
    · rw [hlive] at hversion
      exact .refused (.inr ⟨c, hlive, hversion⟩)
  · split
    next hactive =>
      have hnone : ¬ (live now cache).any (fun c => c.entry.status ≠ .active) = true :=
        fun h => hfree ⟨hactive, h⟩
      split
      · exact .active hactive hnone nofun
      refine .active hactive hnone ?_
      rintro c ⟨⟩
      rfl
    next hdeny => exact .deny hdeny

/-- The script keeps the hash safe; a deny entry it accepts after the row has left `active` covers
the session. -/
lemma CacheSafe.script (h : CacheSafe ttlSeconds s) (hrow : RowSafe s)
    (hw : WriteSafe ttlSeconds s w) (hpc : w.pc = .eval x) {ok : Bool}
    (hout : ScriptOutcome s.now s.cache w.entry x cache' ok) :
    CacheSafe ttlSeconds { s with cache := cache' } ∧
      (ok = true → w.entry.status ≠ .active → s.row.status ≠ .active →
        SessionState.Covered ttlSeconds { s with cache := cache' }) := by
  cases hout with
  | refused => exact ⟨h, fun hok => absurd hok nofun⟩
  | active hactive hfree hcache =>
    refine ⟨⟨?_, ?_, ?_, ?_⟩, fun _ => absurd hactive⟩
    · intro c hc
      rw [hcache c hc]
      exact hw.expiresAt
    · intro c hc _
      rw [hcache c hc]
      have hle := active_le_horizon hw hactive hpc
      exact hle
    · intro c hc hrevoked
      rw [hcache c hc] at hrevoked
      exact absurd (hactive.symm.trans hrevoked) nofun
    · intro hreturned
      obtain ⟨hleft, hcovered⟩ := h.covered hreturned
      refine ⟨hleft, .inl ?_⟩
      -- a live deny entry would have kept the script out
      by_contra htime
      exact hfree (hcovered.live_deny htime)
  | deny hdeny =>
    obtain ⟨t, ht, hx⟩ := hw.prepared x hpc
    have hlong : s.row.status ≠ .active → s.lastActive ttlSeconds ≤ unixMilli s.now + x :=
      fun hleft => lastActive_le_deny hrow hleft hdeny hw.expiresAt ht hx
    have hcover : s.row.status ≠ .active → SessionState.Covered ttlSeconds
        { s with cache := some { entry := w.entry, expireAt := unixMilli s.now + x } } :=
      fun hleft => .inr ⟨_, rfl, hdeny, hlong hleft⟩
    refine ⟨⟨?_, ?_, ?_, ?_⟩, fun _ _ => hcover⟩
    · rintro c ⟨⟩
      exact hw.expiresAt
    · rintro c ⟨⟩ hactive
      exact absurd hactive hdeny
    · rintro c ⟨⟩ hrevoked
      rcases hw.revoked hrevoked with hleft | hexpired
      · exact .inr ⟨hleft, hlong hleft⟩
      · exact .inl hexpired
    · intro hreturned
      have hleft := (h.covered hreturned).1
      exact ⟨hleft, hcover hleft⟩

/-! ## A write -/

lemma WriteSafe.begin {deadline : Option Int} (hexpires : entry.expiresAt = s.row.expiresAt)
    (hdeadline : entry.status = .active → ∀ d ∈ deadline, d ≤ s.horizon ttlSeconds)
    (hrevoked : entry.status = .revoked →
      s.row.status ≠ .active ∨ s.row.expiresAt ≤ unix s.now) :
    WriteSafe ttlSeconds s (.begin entry deadline) where
  expiresAt := hexpires
  deadline := hdeadline
  prepared := nofun
  finish := nofun
  revoked := hrevoked

/-- One step of a write keeps the hash and the write safe. -/
lemma writeStep_safe (h : CacheSafe ttlSeconds s) (hrow : RowSafe s)
    (hw : WriteSafe ttlSeconds s w) {out : CacheWrite ⊕ WriteResult}
    (hstep : writeStep ttlSeconds s.now s.cache w = (cache', out)) :
    CacheSafe ttlSeconds { s with cache := cache' } ∧
      ∀ w', out = .inl w' → WriteSafe ttlSeconds s w' ∧ w'.entry = w.entry := by
  unfold writeStep at hstep
  split at hstep
  · split at hstep
    · cases hstep
      exact ⟨h, nofun⟩
    next x hx =>
      cases hstep
      refine ⟨h, ?_⟩
      rintro w' ⟨⟩
      refine ⟨{ hw with prepared := ?_, finish := nofun }, rfl⟩
      rintro x' ⟨⟩
      exact ⟨s.now, Int.le_refl _, hx⟩
  next x hpc =>
    have hout := evalScript_outcome s.now s.cache w.entry x
    split at hstep
    next cache₁ heval =>
      cases hstep
      rw [heval] at hout
      exact ⟨(h.script hrow hw hpc hout).1, nofun⟩
    next cache₁ heval =>
      rw [heval] at hout
      have hsafe := (h.script hrow hw hpc hout).1
      split at hstep
      next hactive =>
        cases hstep
        refine ⟨hsafe, ?_⟩
        rintro w' ⟨⟩
        exact ⟨{ hw with prepared := nofun, finish := fun _ => hactive }, rfl⟩
      · cases hstep
        exact ⟨hsafe, nofun⟩
  · cases hstep
    exact ⟨h, nofun⟩

/-- A deny write that is over, and that was not refused by an entry of a later version other than a
tombstone, leaves the session covered. -/
lemma writeStep_covers (h : CacheSafe ttlSeconds s) (hrow : RowSafe s)
    (hw : WriteSafe ttlSeconds s w) (hleft : s.row.status ≠ .active)
    (hdeny : w.entry.status ≠ .active) (hlands : ∀ c ∈ live s.now s.cache,
      c.entry.version ≤ w.entry.version ∨ c.entry.status = .revoked)
    {result : WriteResult}
    (hstep : writeStep ttlSeconds s.now s.cache w = (cache', .inr result)) :
    SessionState.Covered ttlSeconds { s with cache := cache' } := by
  unfold writeStep at hstep
  split at hstep
  · -- preparing a deny write does not fail
    simp only [prepareWrite, if_neg hdeny] at hstep
    exact absurd (Prod.mk.inj hstep).2 nofun
  next x hpc =>
    have hout := evalScript_outcome s.now s.cache w.entry x
    split at hstep
    next cache₁ heval =>
      obtain ⟨rfl, -⟩ := Prod.mk.inj hstep
      rw [heval] at hout
      cases hout with
      | refused hwhy =>
        rcases hwhy with hactive | ⟨c, hlive, hversion⟩
        · exact absurd hactive hdeny
        rcases hlands c hlive with hle | hrevoked
        · omega
        -- the tombstone of somebody else
        have hcache := (live_eq_some.mp hlive).1
        rcases h.revoked c hcache hrevoked with hexpired | ⟨-, hlong⟩
        · refine .inl ?_
          unfold lastActive unixMilli
          unfold unix at hexpired
          dsimp only
          omega
        refine .inr ⟨c, hcache, ?_, hlong⟩
        rw [hrevoked]
        exact nofun
    next cache₁ heval =>
      rw [heval] at hout
      rw [if_neg hdeny] at hstep
      obtain ⟨rfl, -⟩ := Prod.mk.inj hstep
      exact (h.script hrow hw hpc hout).2 rfl hdeny hleft
  next hpc => exact absurd (hw.finish hpc) hdeny

end

/-! ## The calls -/

section
variable (ttlSeconds : Nat) (s : SessionState)

/-- A read that started after the revocation is never on the way to hand out the session. -/
def GetSafe (late : Bool) : GetPc → Prop
  | .cacheRead => True
  | .capture => True
  | .dbRead d => d ≤ s.now + ofUnix ttlSeconds
  | .fill _ w => late = false ∧ WriteSafe ttlSeconds s w
  | .deny w => WriteSafe ttlSeconds s w
  | .confirm _ => late = false
  | .returned active => late = true → active = false

def RotateSafe : RotatePc → Prop
  | .capture _ => True
  | .dbRead _ d => d ≤ s.now + ofUnix ttlSeconds
  | .update _ d session =>
    d ≤ s.horizon ttlSeconds ∧ session.expiresAt = s.row.expiresAt ∧ session.status = .active
  | .fill _ w => WriteSafe ttlSeconds s w
  | .confirm _ => True
  | .fence session w => session.expiresAt = s.row.expiresAt ∧ WriteSafe ttlSeconds s w
  | .revoke session => session.expiresAt = s.row.expiresAt
  | .tombstone w => WriteSafe ttlSeconds s w
  | .returned => True

def AdvanceSafe : AdvancePc → Prop
  | .capture => True
  | .transact d _ => d ≤ s.now + ofUnix ttlSeconds
  | .fill _ w => WriteSafe ttlSeconds s w
  | .confirm _ => True
  | .returned => True

def RevokeSafe : RevokePc → Prop
  | .dbRead _ => True
  | .fence _ candidate w => candidate.expiresAt = s.row.expiresAt ∧ WriteSafe ttlSeconds s w
  | .transact _ candidate => candidate.expiresAt = s.row.expiresAt
  | .tombstone w =>
    s.row.status ≠ .active ∧ w.entry.status ≠ .active ∧ WriteSafe ttlSeconds s w
  | .returned _ => True

def CallSafe : SessionCall → Prop
  | .get late pc => (late = true → s.revoked = true) ∧ GetSafe ttlSeconds s late pc
  | .rotate _ pc => RotateSafe ttlSeconds s pc
  | .advance _ pc => AdvanceSafe ttlSeconds s pc
  | .revoke pc => RevokeSafe ttlSeconds s pc

end

structure SessionInv (ttlSeconds : Nat) (s : SessionState) : Prop where
  row : RowSafe s
  cache : CacheSafe ttlSeconds s
  calls : ∀ call ∈ s.calls, CallSafe ttlSeconds s call

/-- What time and the other calls can do to what a call relies on. -/
structure Later (ttlSeconds : Nat) (s s' : SessionState) : Prop where
  now : s.now ≤ s'.now
  horizon : s.horizon ttlSeconds ≤ s'.horizon ttlSeconds
  expiresAt : s'.row.expiresAt = s.row.expiresAt
  left : s.row.status ≠ .active → s'.row.status ≠ .active
  revoked : s.revoked = true → s'.revoked = true

section
variable {ttlSeconds : Nat} {s s' : SessionState} {row' session : UserSession}

lemma WriteSafe.later {w : CacheWrite} (h : WriteSafe ttlSeconds s w)
    (hlater : Later ttlSeconds s s') : WriteSafe ttlSeconds s' w where
  expiresAt := h.expiresAt.trans hlater.expiresAt.symm
  deadline hactive d hd := Int.le_trans (h.deadline hactive d hd) hlater.horizon
  prepared x hpc := by
    obtain ⟨t, ht, hx⟩ := h.prepared x hpc
    exact ⟨t, Int.le_trans ht hlater.now, hx⟩
  finish := h.finish
  revoked hrevoked := by
    rcases h.revoked hrevoked with hleft | hexpired
    · exact .inl (hlater.left hleft)
    right
    have hnow := hlater.now
    rw [hlater.expiresAt]
    unfold unix at hexpired ⊢
    omega

lemma CallSafe.later {call : SessionCall} (h : CallSafe ttlSeconds s call)
    (hlater : Later ttlSeconds s s') : CallSafe ttlSeconds s' call := by
  have hnow := hlater.now
  have hexpires := hlater.expiresAt
  cases call with
  | get late pc =>
    refine ⟨fun hlate => hlater.revoked (h.1 hlate), ?_⟩
    have hsafe := h.2
    cases pc with
    | dbRead d => exact Int.le_trans hsafe (by omega)
    | fill session w => exact ⟨hsafe.1, hsafe.2.later hlater⟩
    | deny w => exact WriteSafe.later hsafe hlater
    | _ => exact hsafe
  | rotate args pc =>
    cases pc with
    | dbRead left d => exact Int.le_trans h (by omega)
    | update left d session =>
      exact ⟨Int.le_trans h.1 hlater.horizon, h.2.1.trans hexpires.symm, h.2.2⟩
    | fill session w | tombstone w => exact WriteSafe.later h hlater
    | fence session w => exact ⟨h.1.trans hexpires.symm, h.2.later hlater⟩
    | revoke session => exact h.trans hexpires.symm
    | _ => exact h
  | advance args pc =>
    cases pc with
    | transact d start => exact Int.le_trans h (by omega)
    | fill session w => exact WriteSafe.later h hlater
    | _ => exact h
  | revoke pc =>
    cases pc with
    | fence start candidate w => exact ⟨h.1.trans hexpires.symm, h.2.later hlater⟩
    | transact start candidate => exact h.trans hexpires.symm
    | tombstone w => exact ⟨hlater.left h.1, h.2.1, h.2.2.later hlater⟩
    | _ => exact h

/-! ## Steps of the system -/

section
variable (h : SessionInv ttlSeconds s)
include h

lemma SessionInv.tick (nanoseconds : Nat) :
    SessionInv ttlSeconds { s with now := s.now + nanoseconds } := by
  set s' : SessionState := { s with now := s.now + nanoseconds } with hs'
  have hnow : s.now ≤ s'.now := by
    show s.now ≤ s.now + nanoseconds
    omega
  have hhorizon : s.horizon ttlSeconds ≤ s'.horizon ttlSeconds := by
    show s.leftActive.getD s.now + _ ≤ s.leftActive.getD (s.now + nanoseconds) + _
    rcases s.leftActive with - | t
    · show s.now + _ ≤ s.now + nanoseconds + _
      omega
    · exact Int.le_refl _
  -- once the row has left `active`, time does not move the horizon any more
  have hlast : s.row.status ≠ .active → s'.lastActive ttlSeconds = s.lastActive ttlSeconds := by
    intro hleft
    obtain ⟨t, -, ht⟩ := h.row.exists_left hleft
    simp only [lastActive, horizon, hs', ht, Option.getD_some]
  refine ⟨{ h.row with before := ?_ }, ⟨h.cache.expiresAt, ?_, ?_, ?_⟩, ?_⟩
  · intro t ht
    exact Int.le_trans (h.row.before t ht) hnow
  · intro c hc hactive
    have hle := h.cache.active c hc hactive
    unfold unixMilli at hle ⊢
    omega
  · intro c hc hrevoked
    rcases h.cache.revoked c hc hrevoked with hexpired | ⟨hleft, hlong⟩
    · refine .inl ?_
      unfold unix at hexpired ⊢
      show s.row.expiresAt ≤ _
      omega
    · exact .inr ⟨hleft, (hlast hleft).trans_le hlong⟩
  · intro hreturned
    obtain ⟨hleft, hcovered⟩ := h.cache.covered hreturned
    refine ⟨hleft, ?_⟩
    unfold SessionState.Covered
    rw [hlast hleft]
    rcases hcovered with hpast | hdeny
    · refine .inl ?_
      unfold unixMilli at hpast ⊢
      omega
    · exact .inr hdeny
  · intro call hcall
    exact (h.calls call hcall).later ⟨hnow, hhorizon, rfl, id, id⟩

lemma SessionInv.call {call : SessionCall}
    (hcall : CallSafe ttlSeconds s call) : SessionInv ttlSeconds (s.call call) where
  row := { h.row with }
  cache := { h.cache with }
  calls := by
    have hlater : Later ttlSeconds s (s.call call) := ⟨Int.le_refl _, Int.le_refl _, rfl, id, id⟩
    refine forall_mem_snoc (fun call' hcall' => ?_) (hcall.later hlater)
    exact (h.calls call' hcall').later hlater

/-- A call moves and the row keeps its status. -/
lemma SessionInv.keep (i : Nat)
    {cache' : Option CachedSession} {call' : SessionCall} (hstatus : row'.status = s.row.status)
    (hexpires : row'.expiresAt = s.row.expiresAt) (hrevokedAt : row'.revokedAt = s.row.revokedAt)
    (hcache : CacheSafe ttlSeconds { s with cache := cache' }) (hcall : CallSafe ttlSeconds s call')
    (hreturn : call' = .revoke (.returned true) → s.row.status ≠ .active ∧
      SessionState.Covered ttlSeconds { s with cache := cache' }) :
    SessionInv ttlSeconds (s.move i row' cache' call') := by
  set s' := s.move i row' cache' call' with hs'
  have hleft : s'.leftActive = s.leftActive := by
    show (if _ then _ else _) = _
    rw [hstatus, if_neg (fun hboth => hboth.2 hboth.1)]
  have hhorizon : s'.horizon ttlSeconds = s.horizon ttlSeconds := by
    unfold horizon
    rw [hleft]
    rfl
  have hlast : s'.lastActive ttlSeconds = s.lastActive ttlSeconds := by
    unfold lastActive
    rw [hhorizon, show s'.row.expiresAt = s.row.expiresAt from hexpires]
  have hstatus' : s'.row.status = s.row.status := hstatus
  have hlater : Later ttlSeconds s s' := by
    refine ⟨Int.le_refl _, Int.le_of_eq hhorizon.symm, hexpires, fun hne => hstatus'.trans_ne hne, ?_⟩
    intro hreturned
    show (s.revoked || _) = true
    rw [hreturned, Bool.true_or]
  refine ⟨⟨?_, ?_, ?_⟩, ⟨?_, ?_, ?_, ?_⟩, ?_⟩
  · rw [hleft, hstatus']
    exact h.row.left
  · rw [hleft]
    exact h.row.before
  · rw [hstatus']
    exact fun hactive => hrevokedAt.trans (h.row.unrevoked hactive)
  · intro c hc
    exact (hcache.expiresAt c hc).trans hexpires.symm
  · rw [hhorizon]
    exact hcache.active
  · rw [hlast, hstatus', show s'.row.expiresAt = s.row.expiresAt from hexpires]
    exact hcache.revoked
  · intro hreturned
    have hboth : s.row.status ≠ .active ∧
        SessionState.Covered ttlSeconds { s with cache := cache' } := by
      rcases Bool.or_eq_true_iff.mp hreturned with hold | hnew
      · exact hcache.covered hold
      · exact hreturn (of_decide_eq_true hnew)
    rw [hstatus']
    refine ⟨hboth.1, ?_⟩
    unfold SessionState.Covered
    rw [hlast]
    exact hboth.2
  · exact forall_mem_set (fun call hc => (h.calls call hc).later hlater) (hcall.later hlater)

/-- A call takes the row out of `active`. -/
lemma SessionInv.leave (i : Nat) (start : Int) {call' : SessionCall}
    (hactive : s.row.status = .active) (hne : call' ≠ .revoke (.returned true))
    (hcall : ∀ s', Later ttlSeconds s s' → s'.row.status ≠ .active → CallSafe ttlSeconds s' call') :
    SessionInv ttlSeconds
      (s.move i { s.row with status := .revoked, revokedAt := start } s.cache call') := by
  set s' := s.move i { s.row with status := .revoked, revokedAt := start } s.cache call' with hs'
  have hleft : s'.leftActive = some s.now := by
    show (if _ then _ else _) = _
    rw [if_pos ⟨hactive, nofun⟩]
  have hout : s'.row.status ≠ .active := nofun
  have hhorizon : s'.horizon ttlSeconds = s.horizon ttlSeconds := by
    rw [h.row.horizon_eq hactive]
    unfold horizon
    rw [hleft]
    rfl
  have hnot : ¬ s.revoked = true := fun hreturned => (h.cache.covered hreturned).1 hactive
  have hlater : Later ttlSeconds s s' :=
    ⟨Int.le_refl _, Int.le_of_eq hhorizon.symm, rfl, fun _ => hout,
      fun hreturned => absurd hreturned hnot⟩
  refine ⟨⟨?_, ?_, ?_⟩, ⟨h.cache.expiresAt, ?_, ?_, ?_⟩, ?_⟩
  · rw [hleft]
    exact ⟨nofun, fun hstill => absurd hstill hout⟩
  · rw [hleft]
    rintro t ⟨⟩
    exact Int.le_refl _
  · exact fun hstill => absurd hstill hout
  · rw [hhorizon]
    exact h.cache.active
  · intro c hc hrevoked
    rcases h.cache.revoked c hc hrevoked with hexpired | ⟨hnever, -⟩
    · exact .inl hexpired
    · exact absurd hactive hnever
  · intro hreturned
    rcases Bool.or_eq_true_iff.mp hreturned with hold | hnew
    · exact absurd hold hnot
    · exact absurd (of_decide_eq_true hnew) hne
  · exact forall_mem_set (fun call hc => (h.calls call hc).later hlater)
      (hcall s' hlater hout)

end

/-! ## Steps of the calls -/

/-- The entry of a row that is active, to be cached under a deadline taken before it was read. -/
lemma WriteSafe.begin_row (h : RowSafe s) (hactive : s.row.status = .active)
    (hexpires : session.expiresAt = s.row.expiresAt) (hstatus : session.status = .active) {d : Int}
    (hd : d ≤ s.now + ofUnix ttlSeconds) :
    WriteSafe ttlSeconds s (.begin session.cacheEntry (some d)) := by
  refine .begin hexpires ?_ ?_
  · rintro - d' ⟨⟩
    rw [h.horizon_eq hactive]
    exact hd
  · intro hrevoked
    exact absurd (hstatus.symm.trans hrevoked) nofun

lemma WriteSafe.begin_fence (hexpires : session.expiresAt = s.row.expiresAt) (start : Int) :
    WriteSafe ttlSeconds s (.begin (session.denyEntry .revoking start) none) :=
  .begin hexpires nofun nofun

lemma WriteSafe.begin_tombstone
    (hexpires : session.expiresAt = s.row.expiresAt) (hleft : s.row.status ≠ .active)
    (start : Int) : WriteSafe ttlSeconds s (.begin (session.denyEntry .revoked start) none) :=
  .begin hexpires nofun fun _ => .inl hleft

lemma UserSession.status_of_isActive {now : Int}
    (h : session.isActive now = true) : session.status = .active :=
  (of_decide_eq_true h).1

/-- A reader finds no active entry in a session that is covered. -/
lemma CacheSafe.not_active (h : CacheSafe ttlSeconds s) (hreturned : s.revoked = true)
    (hread : getUserSessionCache s.now s.cache = some true) : False := by
  obtain ⟨hleft, hcovered⟩ := h.covered hreturned
  unfold getUserSessionCache at hread
  split at hread
  · cases hread
  rename_i c hlive
  split at hread
  · cases hread
  obtain ⟨hcache, hexpire⟩ := live_eq_some.mp hlive
  obtain ⟨hactive, -, hunexpired⟩ := of_decide_eq_true (Option.some.inj hread)
  rw [h.expiresAt c hcache] at hunexpired
  have hhorizon := h.active c hcache hactive
  have htime : ¬ s.lastActive ttlSeconds < unixMilli s.now := by
    unfold lastActive
    unfold unixMilli at *
    unfold unix at hunexpired
    omega
  have hdeny := hcovered.live_deny htime
  rw [hlive] at hdeny
  exact absurd hactive (by simpa using hdeny)

variable {cache' : Option CachedSession}

lemma SessionInv.getStep (h : SessionInv ttlSeconds s) (i : Nat) {late : Bool} {pc pc' : GetPc}
    (hcall : CallSafe ttlSeconds s (.get late pc))
    (hstep : getStep ttlSeconds s.now s.row s.cache pc = some (cache', pc')) :
    SessionInv ttlSeconds (s.move i s.row cache' (.get late pc')) := by
  -- only the hash and the program counter move
  suffices hsafe : CacheSafe ttlSeconds { s with cache := cache' } ∧
      GetSafe ttlSeconds s late pc' from
    h.keep i rfl rfl rfl hsafe.1 ⟨hcall.1, hsafe.2⟩ nofun
  obtain ⟨hlate, hpc⟩ := hcall
  cases pc with simp only [NewApi.Model.getStep] at hstep
  | cacheRead =>
    split at hstep
    next active hread =>
      cases hstep
      refine ⟨h.cache, ?_⟩
      intro hl
      rcases active with - | -
      · rfl
      · exact (h.cache.not_active (hlate hl) hread).elim
    · cases hstep
      exact ⟨h.cache, trivial⟩
  | capture =>
    cases hstep
    exact ⟨h.cache, Int.le_refl _⟩
  | dbRead d =>
    split at hstep
    next hactive =>
      cases hstep
      have hstatus := status_of_isActive hactive
      refine ⟨h.cache, ?_, WriteSafe.begin_row h.row hstatus rfl hstatus hpc⟩
      rw [← Bool.not_eq_true]
      exact fun hl => (h.cache.covered (hlate hl)).1 hstatus
    next hinactive =>
      cases hstep
      refine ⟨h.cache, .begin rfl nofun fun _ => ?_⟩
      by_cases hstatus : s.row.status = .active
      · right
        by_contra hunexpired
        apply hinactive
        exact decide_eq_true ⟨hstatus, h.row.unrevoked hstatus, Int.not_le.mp hunexpired⟩
      · exact .inl hstatus
  | fill session w =>
    split at hstep <;> rename_i hwrite <;>
      cases hstep <;>
      have hsafe := writeStep_safe h.cache h.row hpc.2 hwrite
    · exact ⟨hsafe.1, hpc.1, (hsafe.2 _ rfl).1⟩
    · exact ⟨hsafe.1, fun hl => absurd (hpc.1.symm.trans hl) nofun⟩
    · exact ⟨hsafe.1, hpc.1⟩
    · exact ⟨hsafe.1, fun _ => rfl⟩
    · exact ⟨hsafe.1, fun hl => absurd (hpc.1.symm.trans hl) nofun⟩
  | deny w =>
    split at hstep <;> rename_i hwrite <;>
      cases hstep <;>
      have hsafe := writeStep_safe h.cache h.row hpc hwrite
    · exact ⟨hsafe.1, (hsafe.2 _ rfl).1⟩
    · exact ⟨hsafe.1, fun _ => rfl⟩
  | confirm session =>
    cases hstep
    exact ⟨h.cache, fun hl => absurd (hpc.symm.trans hl) nofun⟩
  | returned active => cases hstep

lemma SessionInv.rotateStep (h : SessionInv ttlSeconds s) (i : Nat) {args : RotateArgs}
    {pc pc' : RotatePc}
    (hcall : CallSafe ttlSeconds s (.rotate args pc))
    (hstep : rotateStep ttlSeconds s.now s.row s.cache args pc = some (row', cache', pc')) :
    SessionInv ttlSeconds (s.move i row' cache' (.rotate args pc')) := by
  -- all steps but two leave the row alone
  have hkeep : ∀ {cache' pc'}, CacheSafe ttlSeconds { s with cache := cache' } →
      RotateSafe ttlSeconds s pc' →
      SessionInv ttlSeconds (s.move i s.row cache' (.rotate args pc')) :=
    fun hcache hpc' => h.keep i rfl rfl rfl hcache hpc' nofun
  cases pc with
  | capture left =>
    cases left with
    | zero =>
      cases hstep
      exact hkeep h.cache trivial
    | succ left =>
      cases hstep
      exact hkeep h.cache (Int.le_refl _)
  | dbRead left d =>
    simp only [NewApi.Model.rotateStep] at hstep
    split at hstep
    · cases hstep
      exact hkeep h.cache trivial
    rename_i hactive
    have hstatus := status_of_isActive (not_not.mp hactive)
    split at hstep
    · cases hstep
      refine hkeep h.cache ⟨?_, rfl, hstatus⟩
      rw [h.row.horizon_eq hstatus]
      exact hcall
    split at hstep
    · cases hstep
      exact hkeep h.cache trivial
    split at hstep <;> cases hstep
    · exact hkeep h.cache trivial
    · exact hkeep h.cache ⟨rfl, WriteSafe.begin_fence rfl args.now⟩
  | update left d session =>
    obtain ⟨hd, hexpires, hstatus⟩ := hcall
    simp only [NewApi.Model.rotateStep] at hstep
    split at hstep
    next hcas =>
      cases hstep
      have hrow := status_of_isActive hcas.1
      refine h.keep i rfl rfl rfl h.cache ?_ nofun
      refine WriteSafe.begin_row h.row hrow hexpires hstatus ?_
      rw [← h.row.horizon_eq hrow]
      exact hd
    · cases hstep
      exact hkeep h.cache trivial
  | fill session w =>
    simp only [NewApi.Model.rotateStep] at hstep
    split at hstep <;> rename_i hwrite <;>
      cases hstep <;>
      have hsafe := writeStep_safe h.cache h.row hcall hwrite
    · exact hkeep hsafe.1 (hsafe.2 _ rfl).1
    · exact hkeep hsafe.1 trivial
    · exact hkeep hsafe.1 trivial
  | confirm session =>
    cases hstep
    exact hkeep h.cache trivial
  | fence session w =>
    simp only [NewApi.Model.rotateStep] at hstep
    split at hstep <;> rename_i hwrite <;>
      cases hstep <;>
      have hsafe := writeStep_safe h.cache h.row hcall.2 hwrite
    · exact hkeep hsafe.1 ⟨hcall.1, (hsafe.2 _ rfl).1⟩
    · exact hkeep hsafe.1 hcall.1
    · exact hkeep hsafe.1 trivial
  | revoke session =>
    simp only [NewApi.Model.rotateStep] at hstep
    split at hstep
    next hactive =>
      cases hstep
      refine h.leave i args.now (status_of_isActive hactive) nofun ?_
      intro s' hlater hleft
      exact WriteSafe.begin_tombstone (hcall.trans hlater.expiresAt.symm) hleft args.now
    · cases hstep
      exact hkeep h.cache trivial
  | tombstone w =>
    simp only [NewApi.Model.rotateStep] at hstep
    split at hstep <;> rename_i hwrite <;>
      cases hstep <;>
      have hsafe := writeStep_safe h.cache h.row hcall hwrite
    · exact hkeep hsafe.1 (hsafe.2 _ rfl).1
    · exact hkeep hsafe.1 trivial
  | returned => cases hstep

lemma SessionInv.advanceStep (h : SessionInv ttlSeconds s) (i : Nat) {args : AdvanceArgs}
    {pc pc' : AdvancePc}
    (hcall : CallSafe ttlSeconds s (.advance args pc))
    (hstep : advanceStep ttlSeconds s.now s.row s.cache args pc = some (row', cache', pc')) :
    SessionInv ttlSeconds (s.move i row' cache' (.advance args pc')) := by
  cases pc with
  | capture =>
    cases hstep
    exact h.keep i rfl rfl rfl h.cache (Int.le_refl _) nofun
  | transact d start =>
    simp only [NewApi.Model.advanceStep] at hstep
    split at hstep
    · cases hstep
      exact h.keep i rfl rfl rfl h.cache trivial nofun
    rename_i hok
    cases hstep
    have hrow : s.row.status = .active := by
      by_contra hne
      exact hok (.inl hne)
    refine h.keep i rfl rfl rfl h.cache ?_ nofun
    refine WriteSafe.begin_row h.row hrow ?_ ?_ hcall
    · rfl
    · exact hrow
  | fill session w =>
    simp only [NewApi.Model.advanceStep] at hstep
    split at hstep <;> rename_i hwrite <;>
      cases hstep <;>
      have hsafe := writeStep_safe h.cache h.row hcall hwrite
    · exact h.keep i rfl rfl rfl hsafe.1 (hsafe.2 _ rfl).1 nofun
    · exact h.keep i rfl rfl rfl hsafe.1 trivial nofun
    · exact h.keep i rfl rfl rfl hsafe.1 trivial nofun
  | confirm session =>
    cases hstep
    exact h.keep i rfl rfl rfl h.cache trivial nofun
  | returned => cases hstep

/-- The write of a final tombstone is not refused, or by another tombstone: what Redis then finds
under the key is not of a later version than the candidate. -/
def SessionCall.lands (now : Int) (cache : Option CachedSession) : SessionCall → Bool
  | .revoke (.tombstone w) =>
    w.pc = .prepare ∨
      ∀ c ∈ live now cache, c.entry.version ≤ w.entry.version ∨ c.entry.status = .revoked
  | _ => true

lemma SessionInv.revokeStep (h : SessionInv ttlSeconds s) (i : Nat) {pc pc' : RevokePc}
    (hcall : CallSafe ttlSeconds s (.revoke pc))
    (hlands : (SessionCall.revoke pc).lands s.now s.cache = true)
    (hstep : revokeStep ttlSeconds s.now s.row s.cache pc = some (row', cache', pc')) :
    SessionInv ttlSeconds (s.move i row' cache' (.revoke pc')) := by
  cases pc with
  | dbRead start =>
    simp only [NewApi.Model.revokeStep] at hstep
    split at hstep <;> cases hstep
    · exact h.keep i rfl rfl rfl h.cache ⟨rfl, WriteSafe.begin_fence rfl start⟩ nofun
    · exact h.keep i rfl rfl rfl h.cache trivial nofun
  | fence start candidate w =>
    simp only [NewApi.Model.revokeStep] at hstep
    split at hstep <;> rename_i hwrite <;>
      cases hstep <;>
      have hsafe := writeStep_safe h.cache h.row hcall.2 hwrite
    · exact h.keep i rfl rfl rfl hsafe.1 ⟨hcall.1, (hsafe.2 _ rfl).1⟩ nofun
    · exact h.keep i rfl rfl rfl hsafe.1 hcall.1 nofun
    · exact h.keep i rfl rfl rfl hsafe.1 trivial nofun
  | transact start candidate =>
    simp only [NewApi.Model.revokeStep] at hstep
    split at hstep
    next hactive =>
      cases hstep
      refine h.leave i start (status_of_isActive hactive) nofun ?_
      intro s' hlater hleft
      exact ⟨hleft, nofun,
        WriteSafe.begin_tombstone (hcall.trans hlater.expiresAt.symm) hleft start⟩
    · cases hstep
      exact h.keep i rfl rfl rfl h.cache trivial nofun
  | tombstone w =>
    obtain ⟨hleft, hdeny, hw⟩ := hcall
    simp only [NewApi.Model.revokeStep] at hstep
    split at hstep <;> rename_i hwrite <;>
      cases hstep <;>
      have hsafe := writeStep_safe h.cache h.row hw hwrite
    · have hw' := hsafe.2 _ rfl
      refine h.keep i rfl rfl rfl hsafe.1 ⟨hleft, ?_, hw'.1⟩ nofun
      rw [hw'.2]
      exact hdeny
    · refine h.keep i rfl rfl rfl hsafe.1 trivial fun _ => ⟨hleft, ?_⟩
      -- the write is over, so it was at its script, and its tombstone is in place
      rcases of_decide_eq_true hlands with hprepare | hlands
      · unfold writeStep at hwrite
        simp only [hprepare, prepareWrite, if_neg hdeny] at hwrite
        exact absurd (Prod.mk.inj hwrite).2 nofun
      · exact writeStep_covers h.cache h.row hw hleft hdeny hlands hwrite
  | returned revoked => cases hstep

lemma SessionInv.callStep (h : SessionInv ttlSeconds s) {i : Nat} {call call' : SessionCall}
    (hi : s.calls[i]? = some call) (hlands : call.lands s.now s.cache = true)
    (hstep : callStep ttlSeconds s.now s.row s.cache call = some (row', cache', call')) :
    SessionInv ttlSeconds (s.move i row' cache' call') := by
  have hcall := h.calls call (List.mem_of_getElem? hi)
  cases call
  all_goals
    obtain ⟨_, hpc, heq⟩ := Option.map_eq_some_iff.mp hstep
    obtain ⟨rfl, rfl, rfl⟩ := by simpa only [Prod.mk.injEq] using heq
  · exact h.getStep i hcall hpc
  · exact h.rotateStep i hcall hpc
  · exact h.advanceStep i hcall hpc
  · exact h.revokeStep i hcall hlands hpc

/-- Every final tombstone lands. -/
def TombstoneLands (s : SessionState) : SessionLabel → Prop
  | .step i => ∀ call ∈ s.calls[i]?, call.lands s.now s.cache = true
  | _ => True

instance (s : SessionState) (label : SessionLabel) : Decidable (TombstoneLands s label) :=
  match label with
  | .step _ => inferInstanceAs (Decidable (∀ _ ∈ _, _ = true))
  | .tick _ | .get | .rotate _ | .advance _ | .revoke => inferInstanceAs (Decidable True)

lemma SessionInv.step (h : SessionInv ttlSeconds s) (label : SessionLabel)
    (hok : TombstoneLands s label) (hstep : sessionStep ttlSeconds s label = some s') :
    SessionInv ttlSeconds s' := by
  cases label with
  | tick nanoseconds =>
    cases hstep
    exact h.tick nanoseconds
  | get =>
    cases hstep
    exact h.call ⟨id, trivial⟩
  | rotate args =>
    cases hstep
    refine h.call ?_
    unfold rotateStart
    split <;> exact trivial
  | advance args =>
    cases hstep
    refine h.call ?_
    unfold advanceStart
    split <;> exact trivial
  | revoke =>
    cases hstep
    exact h.call trivial
  | step i =>
    simp only [sessionStep] at hstep
    split at hstep
    · cases hstep
    rename_i call hi
    split at hstep
    · cases hstep
    next row' cache' call' hmove =>
      cases hstep
      exact h.callStep hi (hok call hi) hmove

end

/-! ## Runs -/

lemma sessionInv_initial (ttlSeconds : Nat) (now : Int) {row : UserSession}
    (hactive : row.status = .active) (hrevokedAt : row.revokedAt = 0) :
    SessionInv ttlSeconds (.initial now row) where
  row := by
    refine ⟨⟨fun _ => hactive, fun _ => rfl⟩, ?_, fun _ => hrevokedAt⟩
    simp [initial]
  cache := by constructor <;> simp [initial]
  calls := by simp [initial]

/-- In every interleaving of readers, rotations, version changes, revocations and time in which the
final tombstones land, no read that starts after a revocation has returned true hands out the
session. -/
theorem revoked_session_stays_revoked (ttlSeconds : Nat) (now : Int) (row : UserSession)
    (labels : List SessionLabel) (s : SessionState) (hactive : row.status = .active)
    (hrevokedAt : row.revokedAt = 0)
    (hok : Along (sessionStep ttlSeconds) TombstoneLands (.initial now row) labels)
    (hrun : run (sessionStep ttlSeconds) (.initial now row) labels = some s) :
    SessionCall.get true (.returned true) ∉ s.calls := by
  have hinv := run_invariant (SessionInv ttlSeconds) (fun s l s' h => h.step l)
    (sessionInv_initial ttlSeconds now hactive hrevokedAt) hok hrun
  intro hmem
  have hsafe := (hinv.calls _ hmem).2
  exact absurd (hsafe rfl) nofun

/-- A session of version `1` that expires after ten thousand seconds. -/
def freshSession : UserSession where
  version := 1
  userAuthVersion := 1
  status := .active
  refreshHash := "h"
  previousRefreshHash := ""
  previousValidUntil := 0
  expiresAt := 10000
  revokedAt := 0

/-- A reader that saw the session active before it was revoked fills the cache 59 seconds later: the
tombstone refuses the fill, and the next reader is turned away. -/
theorem revoked_session_stays_revoked_late_fill :
    ∃ s, run (sessionStep 60) (.initial 0 freshSession)
        [.get, .step 0, .step 0, .step 0, .revoke, .step 1, .step 1, .step 1, .step 1, .step 1,
          .step 1, .tick 59000000000, .step 0, .step 0, .get, .step 2] = some s ∧
      SessionCall.get true (.returned false) ∈ s.calls ∧
      SessionCall.get true (.returned true) ∉ s.calls := by
  have h := revoked_session_stays_revoked 60 0 freshSession
    [.get, .step 0, .step 0, .step 0, .revoke, .step 1, .step 1, .step 1, .step 1, .step 1,
      .step 1, .tick 59000000000, .step 0, .step 0, .get, .step 2] _ rfl rfl (by decide) rfl
  exact ⟨_, rfl, by decide, h⟩

/-- The fence expires before the revocation commits, and a version change caches version `2` in
between. The tombstone is of version `1` and is refused, the revocation returns true, and the next
reader is handed the session. -/
theorem stale_tombstone_refused :
    ∃ s, run (sessionStep 60) (.initial 0 freshSession)
        [.revoke, .step 0, .step 0, .step 0, .tick 61000000000,
          .advance { expectedSessionVersion := 1, expectedUserAuthVersion := 1,
                     nextUserAuthVersion := 2 },
          .step 1, .step 1, .step 1, .step 1, .step 1, .step 0, .step 0, .step 0,
          .get, .step 2] = some s ∧
      SessionCall.revoke (.returned true) ∈ s.calls ∧
      SessionCall.get true (.returned true) ∈ s.calls :=
  ⟨_, rfl, by decide, by decide⟩

end NewApi.Model
