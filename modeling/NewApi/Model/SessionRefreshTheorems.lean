import NewApi.Model.SessionRefresh
import NewApi.Model.UserSessionTheorems

/-!
# The history of refresh digests is linear

A step of a call keeps the row, replaces the current digest by the compare-and-swap of a rotation,
or revokes the session. The digests that were replaced, with the current one at the end, therefore
form one chain. A rotation that finds its digest to be the previous one outside the grace window
does not return before the session is inactive, because nothing it meets in Redis is of a later
version than its deny fence.
-/

namespace NewApi.Model

open Runs List Option RefreshCall RefreshState

/-! ## What a step does to the row -/

/-- In the session that the call has read, the digest it presents is the current or the previous
one. -/
def RefreshCall.ReadsPresented (call : RefreshCall) : Prop :=
  ∀ digest ∈ call.presented, ∃ session ∈ call.read,
    session.refreshHash = digest ∨ session.previousRefreshHash = digest

/-- The row after a step of `call`. -/
inductive RowMove (row : UserSession) (call : RefreshCall) : UserSession → Prop
  | keep (h : call.accepts row = none) : RowMove row call row
  | rotate {args : RotateArgs} {oldHash : String} (h : call.accepts row = some args)
      (hpresented : row.refreshHash = args.presentedHash) (hread : call.ReadsPresented) :
      RowMove row call (row.rotated args oldHash)
  | revoke (h : call.accepts row = none) (hread : call.ReadsPresented) (now : Int) :
      RowMove row call { row with status := .revoked, revokedAt := now }

variable {call : RefreshCall} {reused : Bool} {pc : RotatePc}

/-- A call that presents no digest is not asked for one. -/
lemma RefreshCall.readsPresented_of_none (h : call.presented = none) : call.ReadsPresented := by
  intro digest hdigest
  rw [h] at hdigest
  cases hdigest

/-- What never goes back. -/
structure RowLater (row row' : UserSession) : Prop where
  version : row'.version = row.version
  inactive : ∀ now, row.isActive now = false → row'.isActive now = false
  revoked : row.status = .revoked → row'.status = .revoked

lemma RowLater.refl (row : UserSession) : RowLater row row :=
  ⟨rfl, fun _ h => h, fun h => h⟩

lemma isActive_of_ne {session : UserSession} (h : session.status ≠ .active) (now : Int) :
    session.isActive now = false := by
  rw [UserSession.isActive, SessionEntry.isActive, decide_eq_false_iff_not]
  exact fun hactive => h hactive.1

variable {row row' : UserSession}

lemma RowMove.later (h : RowMove row call row') : RowLater row row' := by
  cases h with
  | keep => exact .refl row
  | rotate => exact ⟨rfl, fun _ h => h, fun h => h⟩
  | revoke =>
    refine ⟨rfl, fun t _ => isActive_of_ne ?_ t, fun _ => rfl⟩
    exact nofun

/-! ## Cache writes -/

/-- No entry of the cache is of a later version than `version`. -/
def Bounded (version : Nat) (cache : Option CachedSession) : Prop :=
  ∀ c ∈ cache, c.entry.version ≤ version

/-- A deny entry of the version `version`, before its script has run. -/
structure DenyWrite (version : Nat) (w : CacheWrite) : Prop where
  deny : w.entry.status ≠ .active
  version : w.entry.version = version
  pc : w.pc ≠ .finish

section
variable {ttlSeconds version : Nat} {now : Int} {cache cache' : Option CachedSession}
  {w w' : CacheWrite} {out : CacheWrite ⊕ WriteResult}

lemma script_bounded {entry : SessionEntry} {x : Int} {ok : Bool} (hb : Bounded version cache)
    (hentry : entry.version = version) (h : ScriptOutcome now cache entry x cache' ok) :
    Bounded version cache' := by
  cases h with
  | refused => exact hb
  | active hactive hfree hcache =>
    intro c hc
    rw [hcache c hc]
    exact Nat.le_of_eq hentry
  | deny hdeny =>
    intro c hc
    cases hc
    exact Nat.le_of_eq hentry

/-- A write of the row's version keeps the cache bounded and its version. -/
lemma writeStep_bounded (hb : Bounded version cache) (hw : w.entry.version = version)
    (h : writeStep ttlSeconds now cache w = (cache', out)) :
    Bounded version cache' ∧ ∀ w', out = .inl w' → w'.entry.version = version := by
  unfold writeStep at h
  split at h
  · split at h
    · cases h
      exact ⟨hb, nofun⟩
    cases h
    refine ⟨hb, ?_⟩
    intro w' hw'
    obtain rfl := Sum.inl.inj hw'
    exact hw
  · next x hpc =>
    have hout := evalScript_outcome now cache w.entry x
    split at h
    · next heval =>
      cases h
      rw [heval] at hout
      exact ⟨script_bounded hb hw hout, nofun⟩
    rename_i heval
    rw [heval] at hout
    have hb' := script_bounded hb hw hout
    split at h <;> cases h
    · refine ⟨hb', ?_⟩
      intro w' hw'
      obtain rfl := Sum.inl.inj hw'
      exact hw
    · exact ⟨hb', nofun⟩
  · cases h
    exact ⟨hb, nofun⟩

/-- Nothing refuses a deny fence of the row's version. -/
lemma writeStep_deny (hb : Bounded version cache) (hw : DenyWrite version w)
    (h : writeStep ttlSeconds now cache w = (cache', out)) :
    (∃ x, w.pc = .prepare ∧ out = .inl { w with pc := .eval x }) ∨ out = .inr .ok := by
  unfold writeStep at h
  split at h
  · next hpc =>
    -- preparing a deny write does not fail
    simp only [prepareWrite, if_neg hw.deny] at h
    obtain ⟨-, rfl⟩ := Prod.mk.inj h
    exact .inl ⟨_, hpc, rfl⟩
  · next x hpc =>
    right
    have hout := evalScript_outcome now cache w.entry x
    split at h
    · next heval =>
      rw [heval] at hout
      cases hout with
      | refused hwhy =>
        rcases hwhy with hactive | ⟨c, hlive, hversion⟩
        · exact absurd hactive hw.deny
        have hle := hb c (live_eq_some.mp hlive).1
        have hversion' := hw.version
        omega
    · rw [if_neg hw.deny] at h
      exact (Prod.mk.inj h).2.symm
  · next hpc => exact absurd hpc hw.pc

end

/-! ## What holds of each call -/

section
variable (version : Nat)

def GetWrites : GetPc → Prop
  | .fill _ w => w.entry.version = version
  | .deny w => w.entry.version = version
  | _ => True

def RevokeWrites : RevokePc → Prop
  | .fence _ candidate w => candidate.version = version ∧ w.entry.version = version
  | .transact _ candidate => candidate.version = version
  | .tombstone w => w.entry.version = version
  | _ => True

def HashInv (presentedHash : String) : HashPc → Prop
  | .fence _ session w => session.version = version ∧ w.entry.version = version ∧
      (session.refreshHash = presentedHash ∨ session.previousRefreshHash = presentedHash)
  | .update _ session => session.version = version ∧
      (session.refreshHash = presentedHash ∨ session.previousRefreshHash = presentedHash)
  | .tombstone w => w.entry.version = version
  | _ => True

def BulkWrites : BulkPc → Prop
  | .fence _ w => w.entry.version = version
  | .update _ session => session.version = version
  | .tombstone _ w => w.entry.version = version
  | _ => True

end

/-- A rotation that is past its read remembers what it found there, and one that has found a reuse
does not return before the session is inactive. -/
def RotateInv (row : UserSession) (args : RotateArgs) (reused : Bool) : RotatePc → Prop
  | .capture _ => args.presentedHash ≠ "" ∧ reused = false
  | .dbRead _ _ => args.presentedHash ≠ "" ∧ reused = false
  | .update _ _ session => args.presentedHash ≠ "" ∧ reused = false ∧
      session.version = row.version ∧ session.refreshHash = args.presentedHash
  | .fill _ w => w.entry.version = row.version ∧ reused = false
  | .confirm _ => reused = false
  | .fence session w => session.version = row.version ∧
      session.previousRefreshHash = args.presentedHash ∧ DenyWrite row.version w
  | .revoke session => session.version = row.version ∧
      session.previousRefreshHash = args.presentedHash
  | .tombstone w => w.entry.version = row.version ∧ row.isActive args.now = false
  | .returned => reused = true → row.isActive args.now = false

def RefreshCallInv (row : UserSession) : RefreshCall → Prop
  | .get pc => GetWrites row.version pc
  | .rotate args reused pc => RotateInv row args reused pc
  | .revoke pc => RevokeWrites row.version pc
  | .revokeByHash presentedHash pc => HashInv row.version presentedHash pc
  | .revokeAll pc => BulkWrites row.version pc

lemma RotateInv.later {args : RotateArgs}
    (h : RotateInv row args reused pc) (hl : RowLater row row') :
    RotateInv row' args reused pc := by
  cases pc with
  | tombstone w => exact ⟨h.1.trans hl.version.symm, hl.inactive _ h.2⟩
  | returned => exact fun hreused => hl.inactive _ (h hreused)
  | _ => simpa only [RotateInv, hl.version] using h

lemma RefreshCallInv.later
    (h : RefreshCallInv row call) (hl : RowLater row row') : RefreshCallInv row' call := by
  cases call with
  | rotate args reused pc => exact RotateInv.later h hl
  | _ =>
    simp only [RefreshCallInv, hl.version] at h ⊢
    exact h

/-! ## The calls -/

section
variable {ttlSeconds : Nat} {now : Int} {row row' : UserSession}
  {cache cache' : Option CachedSession}

section
variable (hb : Bounded row.version cache)
include hb

lemma getStep_bounded {pc pc' : GetPc}
    (hc : GetWrites row.version pc) (h : getStep ttlSeconds now row cache pc = some (cache', pc')) :
    Bounded row.version cache' ∧ GetWrites row.version pc' := by
  cases pc with
  | cacheRead =>
    simp only [getStep] at h
    split at h <;> cases h <;> exact ⟨hb, trivial⟩
  | capture | confirm session =>
    cases h
    exact ⟨hb, trivial⟩
  | dbRead cacheDeadline =>
    simp only [getStep] at h
    split at h <;> cases h <;> exact ⟨hb, rfl⟩
  | fill _ w | deny w =>
    rcases hw : writeStep ttlSeconds now cache w with ⟨cache₁, out⟩
    obtain ⟨hb₁, hversion⟩ := writeStep_bounded hb hc hw
    simp only [getStep, hw] at h
    rcases out with w₁ | result
    · cases h
      exact ⟨hb₁, hversion w₁ rfl⟩
    · cases result <;> cases h <;> exact ⟨hb₁, trivial⟩
  | returned active => cases h

lemma revokeStep_move {pc pc' : RevokePc}
    (hc : RevokeWrites row.version pc)
    (h : revokeStep ttlSeconds now row cache pc = some (row', cache', pc')) :
    RowMove row (.revoke pc) row' ∧ Bounded row.version cache' ∧ RevokeWrites row.version pc' := by
  cases pc with
  | dbRead start =>
    simp only [revokeStep] at h
    split at h <;> cases h
    · exact ⟨.keep rfl, hb, rfl, rfl⟩
    · exact ⟨.keep rfl, hb, trivial⟩
  | fence start candidate w =>
    rcases hw : writeStep ttlSeconds now cache w with ⟨cache₁, out⟩
    obtain ⟨hb₁, hversion⟩ := writeStep_bounded hb hc.2 hw
    simp only [revokeStep, hw] at h
    rcases out with w₁ | result
    · cases h
      exact ⟨.keep rfl, hb₁, hc.1, hversion w₁ rfl⟩
    cases result with
    | ok =>
      cases h
      exact ⟨.keep rfl, hb₁, hc.1⟩
    | _ =>
      cases h
      exact ⟨.keep rfl, hb₁, trivial⟩
  | transact start candidate =>
    simp only [revokeStep] at h
    split at h <;> cases h
    · exact ⟨.revoke rfl (readsPresented_of_none rfl) start, hb, hc⟩
    · exact ⟨.keep rfl, hb, trivial⟩
  | tombstone w =>
    rcases hw : writeStep ttlSeconds now cache w with ⟨cache₁, out⟩
    obtain ⟨hb₁, hversion⟩ := writeStep_bounded hb hc hw
    simp only [revokeStep, hw] at h
    rcases out with w₁ | result
    · cases h
      exact ⟨.keep rfl, hb₁, hversion w₁ rfl⟩
    · cases h
      exact ⟨.keep rfl, hb₁, trivial⟩
  | returned revoked => cases h

lemma hashStep_move {presentedHash : String} {pc pc' : HashPc}
    (hc : HashInv row.version presentedHash pc)
    (h : hashStep ttlSeconds now row cache presentedHash pc = some (row', cache', pc')) :
    RowMove row (.revokeByHash presentedHash pc) row' ∧ Bounded row.version cache' ∧
      HashInv row.version presentedHash pc' := by
  cases pc with
  | dbRead start =>
    simp only [hashStep] at h
    split at h
    · cases h
      exact ⟨.keep rfl, hb, trivial⟩
    split at h
    · cases h
      exact ⟨.keep rfl, hb, trivial⟩
    rename_i haccepts
    rw [Bool.not_eq_true, Bool.not_eq_false, UserSession.acceptsLogout,
      decide_eq_true_eq] at haccepts
    cases h
    exact ⟨.keep rfl, hb, rfl, rfl, haccepts.imp_right fun hprevious => hprevious.2.2⟩
  | fence start session w =>
    rcases hw : writeStep ttlSeconds now cache w with ⟨cache₁, out⟩
    obtain ⟨hb₁, hversion⟩ := writeStep_bounded hb hc.2.1 hw
    simp only [hashStep, hw] at h
    rcases out with w₁ | result
    · cases h
      exact ⟨.keep rfl, hb₁, hc.1, hversion w₁ rfl, hc.2.2⟩
    cases result with
    | ok =>
      cases h
      exact ⟨.keep rfl, hb₁, hc.1, hc.2.2⟩
    | _ =>
      cases h
      exact ⟨.keep rfl, hb₁, trivial⟩
  | update start session =>
    simp only [hashStep] at h
    split at h <;> cases h
    · refine ⟨.revoke rfl ?_ start, hb, hc.1⟩
      intro digest hdigest
      cases hdigest
      exact ⟨session, rfl, hc.2⟩
    · exact ⟨.keep rfl, hb, trivial⟩
  | tombstone w =>
    rcases hw : writeStep ttlSeconds now cache w with ⟨cache₁, out⟩
    obtain ⟨hb₁, hversion⟩ := writeStep_bounded hb hc hw
    simp only [hashStep, hw] at h
    rcases out with w₁ | result
    · cases h
      exact ⟨.keep rfl, hb₁, hversion w₁ rfl⟩
    · cases h
      exact ⟨.keep rfl, hb₁, trivial⟩
  | returned revoked => cases h

lemma bulkStep_move {pc pc' : BulkPc}
    (hc : BulkWrites row.version pc)
    (h : bulkStep ttlSeconds now row cache pc = some (row', cache', pc')) :
    RowMove row (.revokeAll pc) row' ∧ Bounded row.version cache' ∧
      BulkWrites row.version pc' := by
  cases pc with
  | fence start w | tombstone start w =>
    rcases hw : writeStep ttlSeconds now cache w with ⟨cache₁, out⟩
    obtain ⟨hb₁, hversion⟩ := writeStep_bounded hb hc hw
    simp only [bulkStep, hw] at h
    rcases out with w₁ | result
    · cases h
      exact ⟨.keep rfl, hb₁, hversion w₁ rfl⟩
    · cases result <;> cases h <;> exact ⟨.keep rfl, hb₁, trivial⟩
  | update start session =>
    simp only [bulkStep] at h
    split at h <;> cases h
    · exact ⟨.revoke rfl (readsPresented_of_none rfl) start, hb, hc⟩
    · exact ⟨.keep rfl, hb, hc⟩
  | returned => cases h
  | _ =>
    simp only [bulkStep] at h
    split at h <;> cases h
    · exact ⟨.keep rfl, hb, rfl⟩
    · exact ⟨.keep rfl, hb, trivial⟩

end

/-- A rotation that has read a reuse of the previous digest goes to its deny fence. -/
lemma rotateStep_reuse {args : RotateArgs} {left : Nat} {cacheDeadline : Int}
    (hactive : row.isActive args.now = true) (hcurrent : row.refreshHash ≠ args.presentedHash)
    (hprevious : row.previousRefreshHash = args.presentedHash) (hne : args.presentedHash ≠ "")
    (hgrace : row.previousValidUntil < args.now) :
    rotateStep ttlSeconds now row cache args (.dbRead left cacheDeadline) =
      some (row, cache, .fence row (.begin (row.denyEntry .revoking args.now) none)) := by
  have hknown : ¬ (row.previousRefreshHash = "" ∨ row.previousRefreshHash ≠ args.presentedHash) := by
    rw [hprevious]
    exact fun h => h.elim hne fun h => h rfl
  have hlate : ¬ args.now ≤ row.previousValidUntil := by omega
  simp only [rotateStep]
  rw [if_neg (by simp [hactive]), if_neg hcurrent, if_neg hknown, if_neg hlate]

lemma rotateStep_move {args : RotateArgs} {pc' : RotatePc}
    (hb : Bounded row.version cache) (hc : RotateInv row args reused pc)
    (h : rotateStep ttlSeconds now row cache args pc = some (row', cache', pc')) :
    RowMove row (.rotate args reused pc) row' ∧ Bounded row.version cache' ∧
      RotateInv row' args (reused || pc'.isFence) pc' := by
  cases pc with
  | capture left =>
    obtain ⟨hne, rfl⟩ := hc
    cases left with
    | zero =>
      cases h
      exact ⟨.keep rfl, hb, fun h => by cases h⟩
    | succ left =>
      cases h
      exact ⟨.keep rfl, hb, hne, rfl⟩
  | dbRead left cacheDeadline =>
    obtain ⟨hne, rfl⟩ := hc
    simp only [rotateStep] at h
    split at h
    · cases h
      exact ⟨.keep rfl, hb, fun h => by cases h⟩
    split at h
    · next hcurrent =>
      cases h
      exact ⟨.keep rfl, hb, hne, rfl, rfl, hcurrent⟩
    split at h
    · cases h
      exact ⟨.keep rfl, hb, fun h => by cases h⟩
    rename_i hknown
    have hprevious : row.previousRefreshHash = args.presentedHash := by
      by_contra hother
      exact hknown (.inr hother)
    split at h
    · cases h
      exact ⟨.keep rfl, hb, fun h => by cases h⟩
    cases h
    have hdeny : SessionStatus.revoking ≠ .active := by simp
    exact ⟨.keep rfl, hb, rfl, hprevious, hdeny, rfl, fun h => by cases h⟩
  | update left cacheDeadline session =>
    obtain ⟨hne, rfl, hversion, hread⟩ := hc
    simp only [rotateStep] at h
    split at h
    · next hswap =>
      cases h
      refine ⟨.rotate (if_pos hswap) hswap.2 ?_, hb, hversion, rfl⟩
      intro digest hdigest
      cases hdigest
      exact ⟨session, rfl, .inl hread⟩
    rename_i hlost
    cases h
    exact ⟨.keep (if_neg hlost), hb, hne, rfl⟩
  | fill session w =>
    obtain ⟨hversion, rfl⟩ := hc
    rcases hw : writeStep ttlSeconds now cache w with ⟨cache₁, out⟩
    obtain ⟨hb₁, hversion₁⟩ := writeStep_bounded hb hversion hw
    simp only [rotateStep, hw] at h
    rcases out with w₁ | result
    · cases h
      exact ⟨.keep rfl, hb₁, hversion₁ w₁ rfl, rfl⟩
    cases result with
    | stale =>
      cases h
      exact ⟨.keep rfl, hb₁, rfl⟩
    | _ =>
      cases h
      exact ⟨.keep rfl, hb₁, fun h => by cases h⟩
  | confirm session =>
    obtain rfl : reused = false := hc
    cases h
    exact ⟨.keep rfl, hb, fun h => by cases h⟩
  | fence session w =>
    obtain ⟨hversion, hprevious, hdeny⟩ := hc
    rcases hw : writeStep ttlSeconds now cache w with ⟨cache₁, out⟩
    obtain ⟨hb₁, -⟩ := writeStep_bounded hb hdeny.version hw
    simp only [rotateStep, hw] at h
    -- the fence is never refused, so the only way on is to the revocation
    rcases writeStep_deny hb hdeny hw with ⟨x, -, rfl⟩ | rfl
    · cases h
      exact ⟨.keep rfl, hb₁, hversion, hprevious, hdeny.deny, hdeny.version, by simp⟩
    · cases h
      exact ⟨.keep rfl, hb₁, hversion, hprevious⟩
  | revoke session =>
    simp only [rotateStep] at h
    split at h
    · cases h
      have hrevoked : SessionStatus.revoked ≠ .active := by simp
      refine ⟨.revoke rfl ?_ args.now, hb, hc.1, isActive_of_ne hrevoked _⟩
      intro digest hdigest
      cases hdigest
      exact ⟨session, rfl, .inr hc.2⟩
    rename_i hinactive
    cases h
    exact ⟨.keep rfl, hb, fun _ => Bool.eq_false_iff.mpr hinactive⟩
  | tombstone w =>
    rcases hw : writeStep ttlSeconds now cache w with ⟨cache₁, out⟩
    obtain ⟨hb₁, hversion⟩ := writeStep_bounded hb hc.1 hw
    simp only [rotateStep, hw] at h
    rcases out with w₁ | result
    · cases h
      exact ⟨.keep rfl, hb₁, hversion w₁ rfl, hc.2⟩
    · cases h
      exact ⟨.keep rfl, hb₁, fun _ => hc.2⟩
  | returned => cases h

/-- One step of a call: what it does to the row, and what holds of the call afterwards. -/
lemma refreshCallStep_move {call' : RefreshCall} (hb : Bounded row.version cache)
    (hc : RefreshCallInv row call)
    (h : refreshCallStep ttlSeconds now row cache call = some (row', cache', call')) :
    RowMove row call row' ∧ Bounded row.version cache' ∧ RefreshCallInv row' call' := by
  cases call with obtain ⟨⟨row₁, cache₁, pc₁⟩, hstep, hcall⟩ := map_eq_some_iff.mp h
  | get pc =>
    obtain ⟨⟨cache₁, pc₁⟩, hstep, hcall⟩ := map_eq_some_iff.mp h
    cases hcall
    obtain ⟨hb', hc'⟩ := getStep_bounded hb hc hstep
    exact ⟨.keep rfl, hb', hc'⟩
  | rotate args reused pc =>
    cases hcall
    exact rotateStep_move hb hc hstep
  | revoke pc =>
    cases hcall
    obtain ⟨hm, hb', hc'⟩ := revokeStep_move hb hc hstep
    refine ⟨hm, hb', ?_⟩
    show RevokeWrites row'.version pc₁
    rwa [hm.later.version]
  | revokeByHash presentedHash pc =>
    cases hcall
    obtain ⟨hm, hb', hc'⟩ := hashStep_move hb hc hstep
    refine ⟨hm, hb', ?_⟩
    show HashInv row'.version presentedHash pc₁
    rwa [hm.later.version]
  | revokeAll pc =>
    cases hcall
    obtain ⟨hm, hb', hc'⟩ := bulkStep_move hb hc hstep
    refine ⟨hm, hb', ?_⟩
    show BulkWrites row'.version pc₁
    rwa [hm.later.version]

end

/-! ## The invariant of a run -/

structure RefreshInv (s : RefreshState) : Prop where
  bounded : Bounded s.row.version s.cache
  calls : ∀ call ∈ s.calls, RefreshCallInv s.row call

section
variable {ttlSeconds : Nat} {s s' : RefreshState} {l : RefreshLabel} {i : Nat}

lemma refreshInv_initial (now : Int) (row : UserSession) : RefreshInv (.initial now row) :=
  ⟨fun _ hc => absurd hc (not_mem_none _), fun _ hcall => absurd hcall not_mem_nil⟩

/-- A step of a call is a step of its program. -/
lemma refreshStep_step (h : refreshStep ttlSeconds s (.step i) = some s') :
    ∃ call row' cache' call', s.calls[i]? = some call ∧
      refreshCallStep ttlSeconds s.now s.row s.cache call = some (row', cache', call') ∧
      s' = { s with
        row := row'
        cache := cache'
        calls := s.calls.set i call'
        accepted := s.accepted ++ ((call.accepts s.row).map (·.presentedHash)).toList } := by
  simp only [refreshStep] at h
  split at h
  · cases h
  rename_i call hcall
  split at h
  · cases h
  · next row' cache' call' hstep =>
    exact ⟨call, row', cache', call', hcall, hstep, (Option.some.inj h).symm⟩

/-- Any other step moves the clock or starts a call that has read nothing. -/
lemma refreshStep_cases (h : refreshStep ttlSeconds s l = some s') :
    (∃ i, l = .step i) ∨
      s'.row = s.row ∧ s'.cache = s.cache ∧ s'.accepted = s.accepted ∧
      (s'.calls = s.calls ∨
        ∃ call, s'.calls = s.calls ++ [call] ∧ RefreshCallInv s.row call) := by
  cases l with
  | tick nanoseconds =>
    cases h
    exact .inr ⟨rfl, rfl, rfl, .inl rfl⟩
  | rotate args =>
    cases h
    refine .inr ⟨rfl, rfl, rfl, .inr ⟨_, rfl, ?_⟩⟩
    show RotateInv s.row args false (rotateStart args)
    unfold rotateStart
    split
    · exact nofun
    · next hvalid => exact ⟨fun hempty => hvalid (.inl hempty), rfl⟩
  | revokeByHash presentedHash =>
    cases h
    refine .inr ⟨rfl, rfl, rfl, .inr ⟨_, rfl, ?_⟩⟩
    show HashInv s.row.version presentedHash (hashStart presentedHash (unix s.now))
    unfold hashStart
    split <;> trivial
  | step i => exact .inl ⟨i, rfl⟩
  | _ =>
    cases h
    exact .inr ⟨rfl, rfl, rfl, .inr ⟨_, rfl, trivial⟩⟩

lemma RefreshInv.step (h : RefreshInv s) (hstep : refreshStep ttlSeconds s l = some s') :
    RefreshInv s' := by
  rcases refreshStep_cases hstep with ⟨i, rfl⟩ | ⟨hrow, hcache, -, hcalls⟩
  · obtain ⟨call, row', cache', call', hi, hcallStep, rfl⟩ := refreshStep_step hstep
    obtain ⟨hm, hb', hc'⟩ :=
      refreshCallStep_move h.bounded (h.calls call (mem_of_getElem? hi)) hcallStep
    refine ⟨?_, Pool.forall_mem_set (fun other hother => ?_) hc'⟩
    · show Bounded row'.version cache'
      rwa [hm.later.version]
    · exact (h.calls other hother).later hm.later
  refine ⟨?_, ?_⟩
  · rw [hrow, hcache]
    exact h.bounded
  · rw [hrow]
    rcases hcalls with hsame | ⟨call, hjoin, hc⟩
    · rw [hsame]
      exact h.calls
    · rw [hjoin]
      exact Pool.forall_mem_snoc h.calls hc

lemma RefreshInv.rowLater (h : RefreshInv s) (hstep : refreshStep ttlSeconds s l = some s') :
    RowLater s.row s'.row := by
  rcases refreshStep_cases hstep with ⟨i, rfl⟩ | ⟨hrow, -⟩
  · obtain ⟨call, row', cache', call', hi, hcallStep, rfl⟩ := refreshStep_step hstep
    exact (refreshCallStep_move h.bounded (h.calls call (mem_of_getElem? hi)) hcallStep).1.later
  · rw [hrow]
    exact .refl s.row

/-! ## The chain of digests -/

/-- A rotation that succeeds in this step installs a digest the session has not had before. -/
def InstallsNew (s : RefreshState) : RefreshLabel → Prop
  | .step i => ∀ call ∈ s.calls[i]?, ∀ args ∈ call.accepts s.row, args.nextHash ∉ s.digests
  | _ => True

instance (s : RefreshState) (l : RefreshLabel) : Decidable (InstallsNew s l) :=
  match l with
  | .step _ => inferInstanceAs (Decidable (∀ _ ∈ _, ∀ _ ∈ _, _ ∉ _))
  | .tick _ => isTrue trivial
  | .get => isTrue trivial
  | .rotate _ => isTrue trivial
  | .revoke => isTrue trivial
  | .revokeByHash _ => isTrue trivial
  | .revokeAll => isTrue trivial

/-- The chain stays, or a rotation that presents its last digest adds one. -/
lemma RefreshInv.digests (h : RefreshInv s) (hstep : refreshStep ttlSeconds s l = some s') :
    s'.digests = s.digests ∨
      ∃ i call args, l = .step i ∧ s.calls[i]? = some call ∧ call.accepts s.row = some args ∧
        s'.digests = s.digests ++ [args.nextHash] := by
  rcases refreshStep_cases hstep with ⟨i, rfl⟩ | ⟨hrow, -, haccepted, -⟩
  · obtain ⟨call, row', cache', call', hi, hcallStep, rfl⟩ := refreshStep_step hstep
    obtain ⟨hm, -, -⟩ :=
      refreshCallStep_move h.bounded (h.calls call (mem_of_getElem? hi)) hcallStep
    cases hm with
    | keep hnone | revoke hnone hread now =>
      left
      simp [RefreshState.digests, hnone]
    | rotate hsome hpresented hread =>
      right
      refine ⟨i, call, _, rfl, hi, hsome, ?_⟩
      simp [RefreshState.digests, hsome, hpresented, UserSession.rotated]
  · left
    rw [RefreshState.digests, RefreshState.digests, hrow, haccepted]

lemma RefreshInv.nodup (h : RefreshInv s) (hnodup : s.digests.Nodup) (hnew : InstallsNew s l)
    (hstep : refreshStep ttlSeconds s l = some s') : s'.digests.Nodup := by
  rcases h.digests hstep with hsame | ⟨i, call, args, rfl, hi, haccepts, hadd⟩
  · rwa [hsame]
  rw [hadd]
  have hfresh : args.nextHash ∉ s.digests := hnew call hi args haccepts
  rw [nodup_append]
  refine ⟨hnodup, by simp, ?_⟩
  intro digest hmem other hother heq
  rw [mem_singleton.mp hother] at heq
  exact hfresh (heq ▸ hmem)

end

/-! ## A reuse runs to its end -/

def WritePc.left : WritePc → Nat
  | .prepare => 3
  | .eval _ => 2
  | .finish => 1

/-- An upper bound of the steps that are left to a rotation that has found a reuse. -/
def RotatePc.reuseLeft : RotatePc → Option Nat
  | .fence _ w => some (w.pc.left + 5)
  | .revoke _ => some 4
  | .tombstone w => some w.pc.left
  | .returned => some 0
  | _ => none

section
variable {ttlSeconds : Nat} {now : Int} {row : UserSession} {cache cache' : Option CachedSession}
  {args : RotateArgs}

lemma writeStep_left {w w' : CacheWrite}
    (h : writeStep ttlSeconds now cache w = (cache', .inl w')) : w'.pc.left < w.pc.left := by
  unfold writeStep at h
  split at h
  · next hpc =>
    split at h
    · cases h
    cases h
    rw [hpc]
    show 2 < 3
    omega
  · next hpc =>
    split at h
    · cases h
    split at h <;> cases h
    rw [hpc]
    show 1 < 2
    omega
  · cases h

/-- A rotation in its reuse branch is never blocked, and each step brings it closer to its end. -/
lemma rotateStep_reuseLeft {n : Nat} (h : pc.reuseLeft = some (n + 1)) :
    ∃ row' cache' pc' m, rotateStep ttlSeconds now row cache args pc = some (row', cache', pc') ∧
      pc'.reuseLeft = some m ∧ m ≤ n := by
  cases pc with
  | fence session w =>
    have hn : w.pc.left + 5 = n + 1 := Option.some.inj h
    rcases hw : writeStep ttlSeconds now cache w with ⟨cache₁, out⟩
    simp only [rotateStep, hw]
    rcases out with w₁ | result
    · have hlt := writeStep_left hw
      exact ⟨_, _, _, _, rfl, rfl, by omega⟩
    cases result with
    | ok => exact ⟨_, _, _, _, rfl, rfl, by omega⟩
    | _ => exact ⟨_, _, _, _, rfl, rfl, Nat.zero_le _⟩
  | revoke session =>
    have hn : 4 = n + 1 := Option.some.inj h
    simp only [rotateStep]
    split
    · exact ⟨_, _, _, _, rfl, rfl, by rw [CacheWrite.begin, WritePc.left]; omega⟩
    · exact ⟨_, _, _, _, rfl, rfl, Nat.zero_le _⟩
  | tombstone w =>
    have hn : w.pc.left = n + 1 := Option.some.inj h
    rcases hw : writeStep ttlSeconds now cache w with ⟨cache₁, out⟩
    simp only [rotateStep, hw]
    rcases out with w₁ | result
    · have hlt := writeStep_left hw
      exact ⟨_, _, _, _, rfl, rfl, by omega⟩
    · exact ⟨_, _, _, _, rfl, rfl, Nat.zero_le _⟩
  | _ => cases h

lemma reuseLeft_eq_zero (h : pc.reuseLeft = some 0) : pc = .returned := by
  cases pc with
  | returned => rfl
  | fence session w => cases h
  | tombstone w =>
    have hn : w.pc.left = 0 := Option.some.inj h
    cases hpc : w.pc <;> rw [hpc] at hn <;> cases hn
  | _ => cases h

/-- Call `i` is a rotation of `args` that has found a reuse. -/
def Reusing (i : Nat) (args : RotateArgs) (s : RefreshState) : Prop :=
  ∃ pc n, s.calls[i]? = some (.rotate args true pc) ∧ pc.reuseLeft = some n

lemma Reusing.of_set {s : RefreshState} {i : Nat} {call' : RefreshCall}
    {n : Nat} (hi : s.calls[i]? = some call) (hcall : call' = .rotate args true pc)
    (hpc : pc.reuseLeft = some n) {t : RefreshState} (ht : t.calls = s.calls.set i call') :
    Reusing i args t :=
  ⟨pc, n, by rw [ht, ← hcall]; exact Pool.getElem?_set_of_some hi, hpc⟩

/-- Nobody else moves the call. -/
lemma Reusing.step {s s' : RefreshState} {i : Nat} {l : RefreshLabel} (h : Reusing i args s)
    (hstep : refreshStep ttlSeconds s l = some s') : Reusing i args s' := by
  obtain ⟨pc, n, hi, hpc⟩ := h
  rcases refreshStep_cases hstep with ⟨j, rfl⟩ | ⟨-, -, -, hcalls⟩
  · obtain ⟨call, row', cache', call', hj, hcallStep, rfl⟩ := refreshStep_step hstep
    by_cases hji : j = i
    · subst hji
      obtain rfl := Option.some.inj (hi.symm.trans hj)
      obtain ⟨⟨row₁, cache₁, pc₁⟩, hrotate, hcall⟩ := map_eq_some_iff.mp hcallStep
      cases hcall
      cases n with
      | zero =>
        obtain rfl := reuseLeft_eq_zero hpc
        cases hrotate
      | succ n =>
        obtain ⟨row₂, cache₂, pc₂, m, hrotate₂, hpc₂, -⟩ := rotateStep_reuseLeft hpc
        cases hrotate.symm.trans hrotate₂
        exact .of_set hi rfl hpc₂ rfl
    · refine ⟨pc, n, ?_, hpc⟩
      show (s.calls.set j call')[i]? = _
      rw [List.getElem?_set_ne hji, hi]
  · refine ⟨pc, n, ?_, hpc⟩
    rcases hcalls with hsame | ⟨call, hjoin, -⟩
    · rw [hsame, hi]
    · obtain ⟨hlt, -⟩ := List.getElem?_eq_some_iff.mp hi
      rw [hjoin, List.getElem?_append_left hlt, hi]

/-- Left to itself, the call returns. -/
lemma Reusing.returns {i : Nat} {s : RefreshState} (h : Reusing i args s) :
    ∃ k t, run (refreshStep ttlSeconds) s (List.replicate k (.step i)) = some t ∧
      t.calls[i]? = some (.rotate args true .returned) := by
  obtain ⟨pc, n, hi, hpc⟩ := h
  -- the number of steps that are left
  induction n using Nat.strong_induction_on generalizing s pc with
  | _ n ih =>
    cases n with
    | zero =>
      obtain rfl := reuseLeft_eq_zero hpc
      exact ⟨0, s, rfl, hi⟩
    | succ n =>
      obtain ⟨row', cache', pc', m, hrotate, hpc', hm⟩ :=
        @rotateStep_reuseLeft pc ttlSeconds s.now s.row s.cache args n hpc
      have hcallStep : refreshCallStep ttlSeconds s.now s.row s.cache (.rotate args true pc) =
          some (row', cache', .rotate args true pc') := by
        simp [refreshCallStep, hrotate]
      obtain ⟨s', hstep, hcalls⟩ : ∃ s', refreshStep ttlSeconds s (.step i) = some s' ∧
          s'.calls = s.calls.set i (.rotate args true pc') := by
        simp only [refreshStep, hi, hcallStep]
        exact ⟨_, rfl, rfl⟩
      have hi' : s'.calls[i]? = some (.rotate args true pc') := by
        rw [hcalls]
        exact Pool.getElem?_set_of_some hi
      obtain ⟨k, t, hrun, hreturned⟩ := ih m (by omega) pc' hi' hpc'
      refine ⟨k + 1, t, ?_, hreturned⟩
      rw [replicate_succ]
      exact run_cons.mpr ⟨s', hstep, hrun⟩

end

/-! ## The run theorem -/

/-- In every run: the digests that rotations have replaced are different, if each digest they
install is new to the session; a revoked session stays revoked; a call changes the row only if the
digest it presents is the current or the previous one of the session it has read; and a rotation
that reads its digest as the previous one after the grace window goes on to its end, however the
other calls interleave, and does not get there before the session is inactive. -/
theorem refresh_history_linear (ttlSeconds : Nat) (now : Int) (row : UserSession)
    {ls : List RefreshLabel} {s : RefreshState}
    (hrun : run (refreshStep ttlSeconds) (.initial now row) ls = some s) :
    (Along (refreshStep ttlSeconds) InstallsNew (.initial now row) ls → s.accepted.Nodup) ∧
    (s.row.status = .revoked → ∀ (ms : List RefreshLabel) (t : RefreshState),
      run (refreshStep ttlSeconds) s ms = some t → t.row.status = .revoked) ∧
    (∀ (i : Nat) (call : RefreshCall) (t : RefreshState), s.calls[i]? = some call →
      refreshStep ttlSeconds s (.step i) = some t → t.row ≠ s.row → call.ReadsPresented) ∧
    (∀ (i : Nat) (args : RotateArgs) (reused : Bool) (left : Nat) (cacheDeadline : Int),
      s.calls[i]? = some (.rotate args reused (.dbRead left cacheDeadline)) →
      s.row.isActive args.now = true → s.row.refreshHash ≠ args.presentedHash →
      s.row.previousRefreshHash = args.presentedHash → s.row.previousValidUntil < args.now →
      ∀ (ms : List RefreshLabel) (t : RefreshState),
        run (refreshStep ttlSeconds) s (.step i :: ms) = some t →
        (∀ reused', t.calls[i]? = some (.rotate args reused' .returned) →
          t.row.isActive args.now = false) ∧
        ∃ k u, run (refreshStep ttlSeconds) t (List.replicate k (.step i)) = some u ∧
          u.calls[i]? = some (.rotate args true .returned) ∧ u.row.isActive args.now = false) := by
  have hinv : RefreshInv s :=
    run_invariant' RefreshInv (fun _ _ _ => .step) (refreshInv_initial now row) hrun
  refine ⟨?_, ?_, ?_, ?_⟩
  · intro hnew
    have hend : RefreshInv s ∧ s.digests.Nodup := by
      refine run_invariant (fun s => RefreshInv s ∧ s.digests.Nodup) ?_ ?_ hnew hrun
      · intro s₁ l s₂ h hok hstep
        exact ⟨h.1.step hstep, h.1.nodup h.2 hok hstep⟩
      · exact ⟨refreshInv_initial now row, by simp [digests, initial]⟩
    exact (nodup_append.mp hend.2).1
  · intro hrevoked ms t hms
    have hend : RefreshInv t ∧ t.row.status = .revoked := by
      refine run_invariant' (fun s => RefreshInv s ∧ s.row.status = .revoked) ?_ ⟨hinv, hrevoked⟩ hms
      intro s₁ l s₂ h hstep
      exact ⟨h.1.step hstep, (h.1.rowLater hstep).revoked h.2⟩
    exact hend.2
  · intro i call t hi hstep hchanged
    obtain ⟨call₁, row', cache', call', hi₁, hcallStep, rfl⟩ := refreshStep_step hstep
    obtain rfl := Option.some.inj (hi.symm.trans hi₁)
    obtain ⟨hm, -, -⟩ :=
      refreshCallStep_move hinv.bounded (hinv.calls call (mem_of_getElem? hi)) hcallStep
    cases hm with
    | keep => exact absurd rfl hchanged
    | rotate hsome hpresented hread | revoke hnone hread now => exact hread
  · intro i args reused left cacheDeadline hi hactive hcurrent hprevious hgrace ms t hms
    have hne : args.presentedHash ≠ "" := (hinv.calls _ (mem_of_getElem? hi)).1
    obtain ⟨s₁, hread, hrest⟩ := run_cons.mp hms
    -- the read sends the call into its reuse branch, where it stays
    have hreusing₁ : Reusing i args s₁ := by
      obtain ⟨call, row', cache', call', hi', hcallStep, rfl⟩ := refreshStep_step hread
      obtain rfl := Option.some.inj (hi.symm.trans hi')
      rw [refreshCallStep, rotateStep_reuse hactive hcurrent hprevious hne hgrace] at hcallStep
      cases hcallStep
      exact .of_set hi (by rw [RotatePc.isFence, Bool.or_true]) rfl rfl
    have hreusing : Reusing i args t :=
      run_invariant' (Reusing i args) (fun _ _ _ => .step) hreusing₁ hrest
    have hinvAt : ∀ {t : RefreshState} {ms : List RefreshLabel},
        run (refreshStep ttlSeconds) s ms = some t → RefreshInv t :=
      fun hrun => run_invariant' RefreshInv (fun _ _ _ => .step) hinv hrun
    have hend : ∀ {t : RefreshState}, RefreshInv t →
        t.calls[i]? = some (.rotate args true .returned) → t.row.isActive args.now = false :=
      fun hinv hi => hinv.calls _ (mem_of_getElem? hi) rfl
    constructor
    · intro reused' hreturned
      obtain ⟨pc, n, hi', -⟩ := hreusing
      obtain ⟨-, rfl, -⟩ := rotate.inj (Option.some.inj (hi'.symm.trans hreturned))
      exact hend (hinvAt hms) hreturned
    · obtain ⟨k, u, hsolo, hreturned⟩ :
          ∃ k u, run (refreshStep ttlSeconds) t (List.replicate k (.step i)) = some u ∧
            u.calls[i]? = some (.rotate args true .returned) := hreusing.returns
      refine ⟨k, u, hsolo, hreturned, hend (hinvAt (run_append.mpr ⟨t, hms, hsolo⟩)) hreturned⟩

/-- The rotation of `RefreshLoginSession` at the second `now`, with its ten seconds of grace. -/
def rotation (presentedHash nextHash : String) (now : Int) : RotateArgs where
  presentedHash := presentedHash
  nextHash := nextHash
  now := now
  graceSeconds := 10

/-- `h` is rotated to `h2` and replayed a minute later: the session is revoked. -/
theorem refresh_history_linear_reuse :
    ∃ s t, run (refreshStep 60) (.initial 0 freshSession)
        [.rotate (rotation "h" "h2" 1), .step 0, .step 0, .step 0,
          .rotate (rotation "h" "h2" 60), .step 1] = some s ∧
      s.accepted = ["h"] ∧ s.accepted.Nodup ∧
      run (refreshStep 60) s [.step 1, .step 1, .step 1, .step 1, .step 1, .step 1] = some t ∧
      t.calls[1]? = some (.rotate (rotation "h" "h2" 60) true .returned) ∧
      t.row.isActive 60 = false ∧ t.row.status = .revoked := by
  obtain ⟨hnodup, -, -, hreuse⟩ := refresh_history_linear 60 0 freshSession
    (show run (refreshStep 60) (.initial 0 freshSession)
        [.rotate (rotation "h" "h2" 1), .step 0, .step 0, .step 0,
          .rotate (rotation "h" "h2" 60), .step 1] = some _ from rfl)
  refine ⟨_, _, rfl, rfl, hnodup (by decide), rfl, rfl, ?_, rfl⟩
  exact (hreuse 1 (rotation "h" "h2" 60) false 2 _ rfl rfl (by decide) rfl (by decide)
    [.step 1, .step 1, .step 1, .step 1, .step 1] _ rfl).1 true rfl

/-- A digest that is installed a second time is accepted a second time. And a replay of the previous
digest `h` revokes the session although `h2` has been rotated to `h3` since the replay was read, so
that `h` is neither the current nor the previous digest any more. -/
theorem recurring_digest_accepted_twice :
    (∃ s, run (refreshStep 60) (.initial 0 freshSession)
        [.rotate (rotation "h" "h2" 1), .step 0, .step 0, .step 0,
          .rotate (rotation "h2" "h" 2), .step 1, .step 1, .step 1,
          .rotate (rotation "h" "h3" 3), .step 2, .step 2, .step 2] = some s ∧
      s.accepted = ["h", "h2", "h"]) ∧
    ∃ s t, run (refreshStep 60) (.initial 0 freshSession)
        [.rotate (rotation "h" "h2" 1), .step 0, .step 0, .step 0,
          .rotate (rotation "h" "h2" 60), .step 1, .step 1,
          .rotate (rotation "h2" "h3" 60), .step 2, .step 2, .step 2, .step 1, .step 1] = some s ∧
      refreshStep 60 s (.step 1) = some t ∧
      (s.calls[1]?.bind RefreshCall.presented) = some "h" ∧
      s.row.refreshHash = "h3" ∧ s.row.previousRefreshHash = "h2" ∧
      s.row.status = .active ∧ t.row.status = .revoked :=
  ⟨⟨_, rfl, rfl⟩, _, _, rfl, rfl, rfl, rfl, rfl, rfl, rfl⟩

/-! ## Derived digests -/

/-- `s` has had the first digests of the sequence that `next` derives from `first`, and every
rotation in it presents a digest together with the derived one. -/
structure DerivedInv (next : String → String) (first : String) (s : RefreshState) : Prop where
  inv : RefreshInv s
  digests : ∃ n, s.digests = (List.range (n + 1)).map fun k => next^[k] first
  calls : ∀ args reused pc, .rotate args reused pc ∈ s.calls →
    args.nextHash = next args.presentedHash

section
variable {next : String → String} {first : String} {ttlSeconds : Nat} {s s' : RefreshState}
  {l : RefreshLabel}

lemma accepts_eq_some {row : UserSession} {args : RotateArgs} (h : call.accepts row = some args) :
    row.refreshHash = args.presentedHash ∧ ∃ reused pc, call = .rotate args reused pc := by
  unfold accepts at h
  split at h
  · split at h
    · next hswap =>
      cases h
      exact ⟨hswap.2, _, _, rfl⟩
    · cases h
  · cases h

/-- No step makes a rotation of other arguments. -/
lemma rotate_mem_of_step {args : RotateArgs}
    (hstep : refreshStep ttlSeconds s l = some s') (hmem : .rotate args reused pc ∈ s'.calls) :
    l = .rotate args ∨ ∃ reused pc, .rotate args reused pc ∈ s.calls := by
  cases l with
  | step i =>
    right
    obtain ⟨call, row', cache', call', hi, hcallStep, rfl⟩ := refreshStep_step hstep
    rcases mem_or_eq_of_mem_set hmem with hold | hnew
    · exact ⟨reused, pc, hold⟩
    subst hnew
    cases call with
    | rotate args₁ reused₁ pc₁ =>
      obtain ⟨_, -, hcall⟩ := map_eq_some_iff.mp hcallStep
      cases hcall
      exact ⟨reused₁, pc₁, mem_of_getElem? hi⟩
    | _ =>
      obtain ⟨_, -, hcall⟩ := map_eq_some_iff.mp hcallStep
      cases hcall
  | tick nanoseconds =>
    cases hstep
    exact .inr ⟨reused, pc, hmem⟩
  | rotate args' =>
    cases hstep
    rcases mem_append.mp hmem with hold | hnew
    · exact .inr ⟨reused, pc, hold⟩
    · cases mem_singleton.mp hnew
      exact .inl rfl
  | _ =>
    cases hstep
    rcases mem_append.mp hmem with hold | hnew
    · exact .inr ⟨reused, pc, hold⟩
    · cases mem_singleton.mp hnew

lemma DerivedInv.step (h : DerivedInv next first s)
    (hderived : ∀ args, l = .rotate args → args.nextHash = next args.presentedHash)
    (hstep : refreshStep ttlSeconds s l = some s') : DerivedInv next first s' := by
  refine ⟨h.inv.step hstep, ?_, ?_⟩
  · obtain ⟨n, hn⟩ := h.digests
    rcases h.inv.digests hstep with hsame | ⟨i, call, args, rfl, hi, haccepts, hadd⟩
    · exact ⟨n, by rw [hsame, hn]⟩
    refine ⟨n + 1, ?_⟩
    obtain ⟨hcurrent, reused, pc, rfl⟩ := accepts_eq_some haccepts
    have hnext := h.calls args reused pc (mem_of_getElem? hi)
    have hlast : s.row.refreshHash = next^[n] first := by
      rw [RefreshState.digests, range_succ, map_append] at hn
      exact singleton_inj.mp (append_inj' hn rfl).2
    rw [hadd, hn, range_succ (n := n + 1), map_append, map_singleton,
      Function.iterate_succ_apply', ← hlast, hcurrent, hnext]
  · intro args reused pc hmem
    rcases rotate_mem_of_step hstep hmem with hlabel | ⟨reused₁, pc₁, hold⟩
    · exact hderived args hlabel
    · exact h.calls args reused₁ pc₁ hold

/-- Rotations as `RefreshLoginSession` issues them, each with the digest that is derived from the
one it presents: no digest is accepted twice, if the derivation does not repeat one within as many
steps as the run has. -/
theorem derived_digests_accepted_once {now : Int} {row : UserSession} {ls : List RefreshLabel}
    (hfresh : ((List.range (ls.length + 1)).map fun n => next^[n] row.refreshHash).Nodup)
    (hderived : ∀ args, .rotate args ∈ ls → args.nextHash = next args.presentedHash)
    (hrun : run (refreshStep ttlSeconds) (.initial now row) ls = some s) : s.accepted.Nodup := by
  have hlabels : Along (refreshStep ttlSeconds)
      (fun _ l => ∀ args, l = .rotate args → args.nextHash = next args.presentedHash)
      (.initial now row) ls := by
    apply along_of_forall_mem
    rintro l hl args rfl
    exact hderived args hl
  have hinitial : DerivedInv next row.refreshHash (.initial now row) := by
    refine ⟨refreshInv_initial now row, ⟨0, rfl⟩, ?_⟩
    intro args reused pc hmem
    exact absurd hmem not_mem_nil
  have hend := run_invariant (DerivedInv next row.refreshHash)
    (fun s l s' h => h.step) hinitial hlabels hrun
  obtain ⟨n, hn⟩ := hend.digests
  have hlength : s.digests.length ≤ 1 + ls.length := by
    refine run_le_length (f := fun s => s.digests.length) RefreshInv (fun _ _ _ h => h.step)
      (fun s l s' h hstep => ?_) (refreshInv_initial now row) hrun
    rcases h.digests hstep with hsame | ⟨i, call, args, -, -, -, hadd⟩
    · rw [hsame]
      exact Nat.le_succ _
    · rw [hadd, length_append, length_singleton]
  rw [hn, length_map, length_range] at hlength
  have hnodup : s.digests.Nodup := by
    rw [hn]
    exact hfresh.sublist ((range_sublist.mpr (by omega)).map _)
  exact (nodup_append.mp hnodup).1

def grownDigest : List RefreshLabel :=
  [.rotate (rotation "h" "h+" 1), .step 0, .step 0, .step 0]

theorem grown_digest_accepted_once :
    ∃ s, run (refreshStep 60) (.initial 0 freshSession) grownDigest = some s ∧
      s.accepted = ["h"] ∧ s.accepted.Nodup := by
  refine ⟨_, rfl, rfl, @derived_digests_accepted_once (· ++ "+") 60 _ 0 freshSession grownDigest
    (by decide) ?_ rfl⟩
  simp [grownDigest, rotation]

end

end NewApi.Model
