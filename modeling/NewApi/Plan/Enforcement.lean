import NewApi.Utils.Runs

/-!
# The user limit of a hosting plan

`EnforceResourceCapacity` of `plan/enforcement.go`, and inserts of users by any number of replicas.
The first statement of an insert locks the row of its workspace until the transaction ends. Plans
change at any time, and users are deleted without the lock.
-/

namespace NewApi.Plan

open Runs

inductive Resource
  | users
  | tokens
  | channels
  | other
deriving DecidableEq

structure Insert where
  additional : Nat
  /-- the answers of `ForWorkspace` and `Expired` -/
  limit : Except String Nat
  expired : Bool
  /-- the users at its first read -/
  seen : Nat
  granted : Bool

def enforceResourceCapacity (table : Resource) (t : Insert) (count : Nat) : Except String Unit :=
  if t.additional = 0 ∨ table = .other then .ok ()
  else
    match t.limit with
    | .error e => .error e
    | .ok limit =>
      if table ≠ .users then
        if t.expired then .error "Renew the hosting plan before creating tokens or channels"
        else .ok ()
      else if limit ≠ 0 ∧ (t.additional : Int) > limit - count then
        .error s!"Hosting plan allows at most {limit} users"
      else .ok ()

structure UserTable where
  users : Nat
  /-- the insert that has the lock -/
  holder : Option Insert

inductive UserLabel
  | lock (t : Insert)
  /-- the count is of now (read committed) or of the first read (repeatable read) -/
  | count (committed : Bool)
  | commit
  | rollback
  | delete (n : Nat)

def userStep (s : UserTable) (l : UserLabel) : Option UserTable :=
  match l, s.holder with
  | .lock t, none => some ⟨s.users, some { t with seen := s.users, granted := false }⟩
  | .count committed, some t =>
    match enforceResourceCapacity .users t (if committed then s.users else t.seen) with
    | .ok _ => some ⟨s.users, some { t with granted := true }⟩
    | .error _ => some ⟨s.users, none⟩
  | .commit, some t => if t.granted then some ⟨s.users + t.additional, none⟩ else none
  | .rollback, some _ => some ⟨s.users, none⟩
  | .delete n, holder => some ⟨s.users - n, holder⟩
  | _, _ => none

/-- There is room for the insert beside `users` users. -/
def Insert.Fits (t : Insert) (users : Nat) : Prop :=
  t.additional = 0 ∨ ∃ limit, t.limit = .ok limit ∧ (limit = 0 ∨ users + t.additional ≤ limit)

lemma Insert.Fits.mono {t : Insert} {m n : Nat} (h : t.Fits n) (hle : m ≤ n) : t.Fits m := by
  refine h.imp_right ?_
  rintro ⟨limit, hlimit, hroom⟩
  exact ⟨limit, hlimit, hroom.imp_right (by omega)⟩

lemma enforce_users {t : Insert} {count : Nat} :
    enforceResourceCapacity .users t count = .ok () ↔ t.Fits count := by
  unfold enforceResourceCapacity Insert.Fits
  cases t.limit <;> grind

/-- While the lock is held users only become fewer. -/
def UserTable.Inv (s : UserTable) : Prop :=
  ∀ t ∈ s.holder, s.users ≤ t.seen ∧ (t.granted → t.Fits s.users)

lemma inv_unlocked (users : Nat) : (⟨users, none⟩ : UserTable).Inv := by simp [UserTable.Inv]

lemma UserTable.Inv.step {s s' : UserTable} {l : UserLabel} (h : s.Inv)
    (hstep : userStep s l = some s') : s'.Inv := by
  unfold userStep at hstep
  split at hstep
  · cases hstep
    simp [UserTable.Inv]
  · next t ht =>
    obtain ⟨hseen, -⟩ := h t ht
    split at hstep <;> cases hstep
    · next hok =>
      rintro _ ⟨⟩
      exact ⟨hseen, fun _ => (enforce_users.mp hok).mono (by split <;> simp [hseen])⟩
    · exact inv_unlocked _
  · split at hstep <;> cases hstep
    exact inv_unlocked _
  · cases hstep
    exact inv_unlocked _
  · next n =>
    cases hstep
    intro t ht
    obtain ⟨hseen, hfits⟩ := h t ht
    have hle : s.users - n ≤ s.users := Nat.sub_le _ _
    exact ⟨Nat.le_trans hle hseen, fun hgranted => (hfits hgranted).mono hle⟩
  · cases hstep

/-- A commit stays within the limit, and an insert for which there was room is let through. -/
def RightStep (s : UserTable) : UserLabel → Prop
  | .commit => ∀ t ∈ s.holder, t.granted → t.Fits s.users
  | .count committed => ∀ t ∈ s.holder, t.Fits t.seen →
      userStep s (.count committed) = some ⟨s.users, some { t with granted := true }⟩
  | _ => True

lemma UserTable.Inv.right {s : UserTable} (h : s.Inv) (l : UserLabel) : RightStep s l := by
  cases l with
  | commit => exact fun t ht => (h t ht).2
  | count committed =>
    intro t ht hfits
    have hle : (if committed then s.users else t.seen) ≤ t.seen := by split <;> simp [(h t ht).1]
    simp [userStep, Option.mem_def.mp ht, enforce_users.mpr (hfits.mono hle)]
  | _ => trivial

/-- **User limit.** However inserts and deletions interleave, every insert is decided rightly. -/
theorem users_within_limit (users : Nat) (ls : List UserLabel) :
    Along userStep RightStep ⟨users, none⟩ ls :=
  Along.mono_of_invariant UserTable.Inv (fun _ _ _ h _ => h.step) (fun _ l h _ => h.right l)
    (inv_unlocked users) (along_of_forall_mem (p := fun _ => True) fun _ _ => trivial)

end NewApi.Plan
