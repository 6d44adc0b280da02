import NewApi.Model.SubscriptionGroup

/-!
# Group elevation is temporary

A row that elevated the user is the only one that can bring them back, so the argument follows the
elevating row: as long as the user is away from their group, an active subscription is there that
remembers it (`GroupInv`). `KeepsElevation` says which steps would lose it.
-/

namespace NewApi.Model

open Runs Table List PurchaseDB

/-- `s` is active and has moved the user from another group to `group`. -/
def UserSubscription.elevates (s : UserSubscription) (userId : Nat) (group : String) : Prop :=
  s.userId = userId ∧ s.status = .active ∧ s.prevUserGroup ≠ "" ∧ s.upgradeGroup = group

instance (s : UserSubscription) (userId : Nat) (group : String) :
    Decidable (s.elevates userId group) := inferInstanceAs (Decidable (_ ∧ _ ∧ _ ∧ _))

/-- The groups in a row of a user whose own group is `home`: there is no explicit downgrade group,
and a row that remembers a group remembers `home` and upgraded from it. -/
structure Snapshot (home : String) (s : UserSubscription) : Prop where
  downgrade : trimSpace s.downgradeGroup = ""
  upgrade : trimSpace s.upgradeGroup = s.upgradeGroup
  prev : s.prevUserGroup ≠ "" →
    s.prevUserGroup = home ∧ s.upgradeGroup ≠ home ∧ s.upgradeGroup ≠ ""

/-- What holds in every state of a guarded run of a user who started in the group `home`. -/
structure GroupInv (userId : Nat) (home : String) (db : PurchaseDB) : Prop where
  rows : ∀ s ∈ db.subs.rows, s.userId = userId → Snapshot home s
  group : db.userGroup userId = home ∨
    ∃ s ∈ db.subs.rows, s.elevates userId (db.userGroup userId)

/-- The steps that keep the elevating row in charge: a plan with an upgrade group is bought from
the own group or upgrades to the current one, the row that elevated the user ends only when no
other upgrade outlives it, and when it expires it is the latest of the expired rows. -/
def KeepsElevation (userId : Nat) (home : String) (db : PurchaseDB) : GroupLabel → Prop
  | .create plan _ _ => trimSpace plan.upgradeGroup = "" ∨ db.userGroup userId = home ∨
      db.userGroup userId = trimSpace plan.upgradeGroup
  | .expire now => ∀ s ∈ db.subs.rows, s.elevates userId (db.userGroup userId) →
      s.isDue userId now → hasActiveUpgrade (markExpired db userId now) userId now 0 = false ∧
        (lastExpired (markExpired db userId now) userId).any fun last =>
          last.prevUserGroup ≠ "" ∧ last.upgradeGroup = db.userGroup userId
  | .invalidate id now => ∀ s ∈ db.subs.get? id, s.elevates userId (db.userGroup userId) →
      hasActiveUpgrade db userId now id = false
  | .delete id now => ∀ s ∈ db.subs.get? id, s.elevates userId (db.userGroup userId) →
      hasActiveUpgrade db userId now id = false

instance (userId : Nat) (home : String) (db : PurchaseDB) :
    ∀ l, Decidable (KeepsElevation userId home db l)
  | .create _ _ _ => inferInstanceAs (Decidable (_ ∨ _ ∨ _))
  | .expire _ => inferInstanceAs (Decidable (∀ _ ∈ _, _ → _ → _ ∧ _))
  | .invalidate _ _ => inferInstanceAs (Decidable (∀ _ ∈ _, _ → _))
  | .delete _ _ => inferInstanceAs (Decidable (∀ _ ∈ _, _ → _))

section
variable {userId : Nat} {home : String} {db db' : PurchaseDB} {s sub last : UserSubscription}
  {now : Int} {id : Nat} {r : String × PurchaseDB}

/-! ## Lookups -/

lemma latest_mem {l : List UserSubscription} (h : latest l = some s) : s ∈ l := by
  induction l generalizing s with
  | nil => cases h
  | cons t rest ih =>
    rw [latest] at h
    split at h
    · cases h
      exact mem_cons_self
    rename_i r hr
    split at h <;> cases h
    · exact mem_cons_self
    · exact mem_cons_of_mem _ (ih hr)

lemma lastExpired_mem (h : lastExpired db userId = some last) :
    last ∈ db.subs.rows ∧ last.userId = userId := by
  have hmem := mem_filter.mp (latest_mem h)
  simp only [decide_eq_true_eq] at hmem
  exact ⟨hmem.1, hmem.2.1⟩

lemma hasActiveUpgrade_eq_false : hasActiveUpgrade db userId now id = false ↔
    ∀ s ∈ db.subs.rows, s.id ≠ id → s.upgrades userId now = false := by
  unfold hasActiveUpgrade
  rw [any_eq_false]
  constructor
  · intro h s hs hne
    have := h s hs
    simpa [hne] using this
  · intro h s hs
    by_cases hne : s.id = id
    · simp [hne]
    · simp [h s hs hne]

/-! ## The two ways back -/

/-- Without an explicit downgrade group an ending subscription leaves the user where they are or
moves them to the group it remembers. -/
lemma downgrade_cases (db : PurchaseDB) (now : Int) (hdown : trimSpace sub.downgradeGroup = "") :
    (downgradeUserGroupForSubscriptionTx db sub now).2 = db ∨
      ((downgradeUserGroupForSubscriptionTx db sub now).2 =
          db.setUserGroup sub.userId (trimSpace sub.prevUserGroup) ∧
        trimSpace sub.prevUserGroup ≠ "") := by
  unfold downgradeUserGroupForSubscriptionTx
  dsimp only
  rw [hdown]
  split
  · exact .inl rfl
  split
  · exact .inl rfl
  split
  · exact .inl rfl
  rw [if_pos rfl]
  split
  · exact .inl rfl
  next h => exact .inr ⟨rfl, fun he => h (.inl he)⟩

lemma revertExpired_cases (db : PurchaseDB) (userId : Nat)
    (hdown : trimSpace last.downgradeGroup = "") :
    revertExpired db userId last = db ∨
      (revertExpired db userId last = db.setUserGroup userId (trimSpace last.prevUserGroup) ∧
        trimSpace last.prevUserGroup ≠ "") := by
  unfold revertExpired
  dsimp only
  rw [hdown]
  split
  · exact .inl rfl
  rw [if_pos rfl]
  split
  · exact .inl rfl
  next h => exact .inr ⟨rfl, fun he => h (.inl he)⟩

/-! ## Steps -/

lemma GroupInv.group_ne (h : GroupInv userId home db) (hhome : home ≠ "") :
    db.userGroup userId ≠ "" := by
  rcases h.group with hgroup | ⟨s, hs, hu, -, hprev, hup⟩
  · rw [hgroup]
    exact hhome
  · rw [← hup]
    exact ((h.rows s hs hu).prev hprev).2.2

/-- The user is moved to the group a row remembers, which is their own. -/
lemma Snapshot.userGroup_prev (h : Snapshot home s) (htrim : trimSpace home = home)
    (hne : db.userGroup userId ≠ "") (hprev : trimSpace s.prevUserGroup ≠ "") :
    (db.setUserGroup userId (trimSpace s.prevUserGroup)).userGroup userId = home := by
  have hset : s.prevUserGroup ≠ "" := by
    intro he
    rw [he] at hprev
    exact hprev rfl
  rw [userGroup_setUserGroup hne, (h.prev hset).1, htrim]

/-- An elevating row as `downgradeUserGroupForSubscriptionTx` and `revertExpired` see it. -/
lemma Snapshot.reverts (h : Snapshot home s) (hhome : home ≠ "") (htrim : trimSpace home = home)
    (hprev : s.prevUserGroup ≠ "") : trimSpace s.upgradeGroup ≠ "" ∧
      trimSpace s.prevUserGroup ≠ "" ∧ trimSpace s.prevUserGroup ≠ trimSpace s.upgradeGroup := by
  obtain ⟨hhome', hne, hup⟩ := h.prev hprev
  rw [h.upgrade, hhome', htrim]
  exact ⟨hup, hhome, hne.symm⟩

/-- The groups in a new row. -/
lemma newSubscription_fields (cal : Calendar) (db : PurchaseDB) (userId : Nat)
    (plan : SubscriptionPlan) (now endTime : Int) (rowId : Nat) :
    let sub := newSubscription cal db userId plan now endTime rowId
    sub.userId = userId ∧ sub.status = .active ∧ sub.upgradeGroup = trimSpace plan.upgradeGroup ∧
      sub.prevUserGroup = elevatedFrom db userId sub.upgradeGroup ∧
      sub.downgradeGroup = trimSpace plan.downgradeGroup ∧ sub.id = rowId + 1 := by
  simp only [newSubscription, and_self]

lemma GroupInv.create (h : GroupInv userId home db) (hhome : home ≠ "") {cal : Calendar}
    {plan : SubscriptionPlan} {rowId : Nat} (hfresh : db.subs.get? (rowId + 1) = none)
    (hplan : trimSpace plan.downgradeGroup = "")
    (hok : KeepsElevation userId home db (.create plan now rowId))
    (hcreate : createUserSubscriptionFromPlanTx cal db userId plan now rowId = .ok db') :
    GroupInv userId home db' := by
  unfold createUserSubscriptionFromPlanTx at hcreate
  split at hcreate
  · cases hcreate
  rename_i endTime _
  cases hcreate
  obtain ⟨huser, hactive, hup, hprev, hdown, hnew⟩ :=
    newSubscription_fields cal db userId plan now endTime rowId
  generalize newSubscription cal db userId plan now endTime rowId = sub at *
  have hid : ∀ s ∈ db.subs.rows, sub.id ≠ s.id := by
    intro s hs he
    have hget := Table.get?_of_mem hs
    rw [← he, hnew] at hget
    exact absurd (hfresh.symm.trans hget) nofun
  -- the new row says `home` or nothing
  have hsnapshot : Snapshot home sub := by
    refine ⟨?_, ?_, ?_⟩
    · rw [hdown, trimSpace_trimSpace, hplan]
    · rw [hup, trimSpace_trimSpace]
    · intro hne
      rw [hprev] at hne ⊢
      unfold elevatedFrom at hne ⊢
      split at hne
      next hmoves =>
        rw [if_pos hmoves]
        rcases hok with hnone | hgroup | hsame
        · exact absurd (hup.trans hnone) hmoves.1
        · exact ⟨hgroup, fun he => hmoves.2 (hgroup.trans he.symm), hmoves.1⟩
        · exact absurd (hsame.trans hup.symm) hmoves.2
      · exact absurd rfl hne
  by_cases hmoves : sub.upgradeGroup ≠ "" ∧ db.userGroup userId ≠ sub.upgradeGroup
  · rw [if_pos hmoves]
    have helev : sub.elevates userId sub.upgradeGroup := by
      refine ⟨huser, hactive, ?_, rfl⟩
      rw [hprev, elevatedFrom, if_pos hmoves]
      exact h.group_ne hhome
    have hgroup : (db.setUserGroup userId sub.upgradeGroup).userGroup userId =
        sub.upgradeGroup := userGroup_setUserGroup (h.group_ne hhome)
    refine ⟨?_, .inr ⟨sub, mem_save_self _ _, ?_⟩⟩
    · intro s hs hu
      rw [setUserGroup_subs] at hs
      rcases mem_save hs with rfl | ⟨hold, -⟩
      · exact hsnapshot
      · exact h.rows s hold hu
    · show sub.elevates userId ((db.setUserGroup userId sub.upgradeGroup).userGroup userId)
      rw [hgroup]
      exact helev
  · rw [if_neg hmoves]
    refine ⟨?_, ?_⟩
    · intro s hs hu
      rcases mem_save hs with rfl | ⟨hold, -⟩
      · exact hsnapshot
      · exact h.rows s hold hu
    · rcases h.group with hgroup | ⟨s, hs, helev⟩
      · exact .inl hgroup
      · exact .inr ⟨s, mem_save_of_ne hs (hid s hs), helev⟩

/-- A subscription of the user ends by hand: its row is replaced or removed, and the user goes back
if it was the one that elevated them. `db₁` are the tables the downgrade works on. -/
lemma GroupInv.ended (h : GroupInv userId home db) (hhome : home ≠ "")
    (htrim : trimSpace home = home) (hsub : db.subs.get? id = some sub)
    (huser : sub.userId = userId) (db₁ : PurchaseDB) (husers : db₁.users = db.users)
    (hother : hasActiveUpgrade db userId now id = false →
      hasActiveUpgrade db₁ userId now id = false)
    (hok : sub.elevates userId (db.userGroup userId) → hasActiveUpgrade db userId now id = false)
    (hdb : db'.users = (downgradeUserGroupForSubscriptionTx db₁ sub now).2.users)
    (hrows : ∀ s ∈ db'.subs.rows, s.userId = userId → Snapshot home s)
    (hkept : ∀ s ∈ db.subs.rows, s.id ≠ id → s ∈ db'.subs.rows) : GroupInv userId home db' := by
  have hid : sub.id = id := key_of_get? hsub
  have hsnapshot : Snapshot home sub := h.rows sub (mem_of_get? hsub) huser
  have hgroup₁ : db₁.userGroup userId = db.userGroup userId := by
    unfold userGroup
    rw [husers]
  have hne₁ : db₁.userGroup userId ≠ "" := by
    rw [hgroup₁]
    exact h.group_ne hhome
  have hgroup' : db'.userGroup userId =
      (downgradeUserGroupForSubscriptionTx db₁ sub now).2.userGroup userId := by
    unfold userGroup
    rw [hdb]
  refine ⟨hrows, ?_⟩
  rw [hgroup']
  by_cases helev : sub.elevates userId (db.userGroup userId)
  · -- the elevating row itself: nothing keeps the user
    left
    obtain ⟨hup, hprev, hmoves⟩ := hsnapshot.reverts hhome htrim helev.2.2.1
    have hcurrent : db₁.userGroup sub.userId = trimSpace sub.upgradeGroup := by
      rw [huser, hgroup₁, hsnapshot.upgrade]
      exact helev.2.2.2.symm
    have hnone : hasActiveUpgrade db₁ sub.userId now sub.id = false := by
      rw [huser, hid]
      exact hother (hok helev)
    rw [downgradeUserGroupForSubscriptionTx, hsnapshot.downgrade, if_neg fun h => hup h.2,
      if_neg (by simp [hnone]), if_neg fun h => h.2 hcurrent, if_pos rfl, hcurrent,
      if_neg fun h => h.elim hprev hmoves, huser]
    exact hsnapshot.userGroup_prev htrim hne₁ hprev
  · rcases downgrade_cases db₁ now hsnapshot.downgrade with hsame | ⟨hset, hprev⟩
    · rw [hsame, hgroup₁]
      rcases h.group with hhome' | ⟨s, hs, hselev⟩
      · exact .inl hhome'
      right
      refine ⟨s, hkept s hs ?_, hselev⟩
      rintro rfl
      rw [Table.get?_of_mem hs] at hsub
      exact helev (Option.some.inj hsub ▸ hselev)
    left
    rw [hset, huser]
    exact hsnapshot.userGroup_prev htrim hne₁ hprev

lemma downgrade_subs (hdown : trimSpace sub.downgradeGroup = "") :
    (downgradeUserGroupForSubscriptionTx db sub now).2.subs = db.subs := by
  rcases downgrade_cases db now hdown with hsame | ⟨hset, -⟩
  · rw [hsame]
  · rw [hset, setUserGroup_subs]

section
variable (h : GroupInv userId home db) (hhome : home ≠ "")
  (htrim : trimSpace home = home) (huser : ∀ s ∈ db.subs.get? id, s.userId = userId)
include h hhome htrim huser

lemma GroupInv.invalidate (hok : KeepsElevation userId home db (.invalidate id now))
    (hcall : adminInvalidateUserSubscription db id now = .ok r) : GroupInv userId home r.2 := by
  unfold adminInvalidateUserSubscription at hcall
  split at hcall
  · cases hcall
  split at hcall
  · cases hcall
  rename_i sub hsub
  rw [← Except.ok.inj hcall]
  set db₁ : PurchaseDB :=
    { db with subs := db.subs.save { sub with status := .cancelled, endTime := now } }
  have hid : sub.id = id := key_of_get? hsub
  have hsnapshot : Snapshot home sub := h.rows sub (mem_of_get? hsub) (huser sub hsub)
  have hsubs : (downgradeUserGroupForSubscriptionTx db₁ sub now).2.subs =
      db.subs.save { sub with status := .cancelled, endTime := now } :=
    downgrade_subs hsnapshot.downgrade
  refine h.ended hhome htrim hsub (huser sub hsub) db₁ rfl ?_ (hok sub hsub) rfl ?_ ?_
  · intro hnone
    rw [hasActiveUpgrade_eq_false] at hnone ⊢
    intro s hs hne
    rcases mem_save hs with rfl | ⟨hold, -⟩
    · exact absurd hid hne
    · exact hnone s hold hne
  · intro s hs hu
    rw [hsubs] at hs
    rcases mem_save hs with rfl | ⟨hold, -⟩
    · exact { hsnapshot with }
    · exact h.rows s hold hu
  · intro s hs hne
    rw [hsubs]
    exact mem_save_of_ne hs fun he => hne (he.symm.trans hid)

lemma GroupInv.delete (hok : KeepsElevation userId home db (.delete id now))
    (hcall : adminDeleteUserSubscription db id now = .ok r) : GroupInv userId home r.2 := by
  unfold adminDeleteUserSubscription at hcall
  split at hcall
  · cases hcall
  split at hcall
  · cases hcall
  rename_i sub hsub
  have hsnapshot : Snapshot home sub := h.rows sub (mem_of_get? hsub) (huser sub hsub)
  have hsubs : (downgradeUserGroupForSubscriptionTx db sub now).2.subs = db.subs :=
    downgrade_subs hsnapshot.downgrade
  rcases hdown : downgradeUserGroupForSubscriptionTx db sub now with ⟨target, db₁⟩
  rw [hdown] at hcall hsubs
  cases hcall
  refine h.ended hhome htrim hsub (huser sub hsub) db rfl (fun hnone => hnone) (hok sub hsub)
    (by rw [hdown]) ?_ ?_
  · intro s hs hu
    dsimp only at hs hsubs
    rw [hsubs] at hs
    exact h.rows s (mem_filter.mp hs).1 hu
  · intro s hs hne
    dsimp only at hsubs ⊢
    rw [hsubs]
    exact mem_filter.mpr ⟨hs, by simpa using hne⟩

end

/-- Marking due rows as expired changes no groups. -/
lemma Snapshot.expireRow (h : Snapshot home s) : Snapshot home (expireRow userId now s) := by
  unfold NewApi.Model.expireRow
  split
  · exact { h with }
  · exact h

lemma GroupInv.rows_markExpired (h : GroupInv userId home db) :
    ∀ s ∈ (markExpired db userId now).subs.rows, s.userId = userId → Snapshot home s := by
  intro s hs hu
  obtain ⟨s₀, hs₀, rfl⟩ := mem_map.mp hs
  have hu₀ : s₀.userId = userId := by
    unfold NewApi.Model.expireRow at hu
    split at hu <;> exact hu
  exact (h.rows s₀ hs₀ hu₀).expireRow

lemma GroupInv.expire (h : GroupInv userId home db) (hhome : home ≠ "")
    (htrim : trimSpace home = home) (hok : KeepsElevation userId home db (.expire now)) :
    GroupInv userId home (expireUserSubscriptions db userId now) := by
  have hrows : ∀ s ∈ (markExpired db userId now).subs.rows, s.userId = userId →
      Snapshot home s := h.rows_markExpired
  have hne : (markExpired db userId now).userGroup userId ≠ "" := h.group_ne hhome
  -- an elevating row that is not due survives
  have hstays : (¬ ∃ s ∈ db.subs.rows, s.elevates userId (db.userGroup userId) ∧
      s.isDue userId now = true) → GroupInv userId home (markExpired db userId now) := by
    intro hnone
    refine ⟨hrows, ?_⟩
    rcases h.group with hgroup | ⟨s, hs, helev⟩
    · exact .inl hgroup
    have hdue : s.isDue userId now = false := by
      rw [← Bool.not_eq_true]
      exact fun hdue => hnone ⟨s, hs, helev, hdue⟩
    refine .inr ⟨s, mem_map.mpr ⟨s, hs, ?_⟩, helev⟩
    simp [NewApi.Model.expireRow, hdue]
  by_cases hdue : ∃ s ∈ db.subs.rows, s.elevates userId (db.userGroup userId) ∧
      s.isDue userId now = true
  · obtain ⟨s, hs, helev, hsdue⟩ := hdue
    obtain ⟨hnone, hlast⟩ := hok s hs helev hsdue
    unfold expireUserSubscriptions
    rw [if_neg (by simp [hnone])]
    split
    next hempty =>
      rw [hempty] at hlast
      cases hlast
    rename_i last hlatest
    rw [hlatest] at hlast
    simp only [Option.any_some, decide_eq_true_eq] at hlast
    obtain ⟨hmem, huser⟩ := lastExpired_mem hlatest
    have hsnapshot := hrows last hmem huser
    obtain ⟨hup, hprev, hmoves⟩ := hsnapshot.reverts hhome htrim hlast.1
    have hcurrent : (markExpired db userId now).userGroup userId =
        trimSpace last.upgradeGroup := by
      rw [hsnapshot.upgrade, hlast.2]
      rfl
    rw [revertExpired, hsnapshot.downgrade, hcurrent, if_neg (by simp [hup, hprev]), if_pos rfl,
      if_neg fun h => h.elim hprev hmoves]
    refine ⟨?_, .inl (hsnapshot.userGroup_prev htrim hne hprev)⟩
    rw [setUserGroup_subs]
    exact hrows
  · unfold expireUserSubscriptions
    dsimp only
    split
    · exact hstays hdue
    split
    · exact hstays hdue
    rename_i last hlatest
    obtain ⟨hmem, huser⟩ := lastExpired_mem hlatest
    have hsnapshot := hrows last hmem huser
    rcases revertExpired_cases (markExpired db userId now) userId hsnapshot.downgrade with
      hsame | ⟨hset, hprev⟩
    · rw [hsame]
      exact hstays hdue
    rw [hset]
    refine ⟨?_, .inl (hsnapshot.userGroup_prev htrim hne hprev)⟩
    rw [setUserGroup_subs]
    exact hrows

/-! ## Runs -/

/-- A plan without an explicit downgrade group. -/
def GroupLabel.noDowngrade : GroupLabel → Prop
  | .create plan _ _ => trimSpace plan.downgradeGroup = ""
  | _ => True

instance : ∀ l, Decidable (GroupLabel.noDowngrade l)
  | .create plan _ _ => inferInstanceAs (Decidable (trimSpace plan.downgradeGroup = ""))
  | .expire _ => isTrue trivial
  | .invalidate _ _ => isTrue trivial
  | .delete _ _ => isTrue trivial

lemma groupStep_inv (h : GroupInv userId home db) (hhome : home ≠ "")
    (htrim : trimSpace home = home) {cal : Calendar} (l : GroupLabel)
    (hok : KeepsElevation userId home db l) (hplan : l.noDowngrade)
    (hstep : groupStep cal userId db l = some db') : GroupInv userId home db' := by
  cases l with simp only [groupStep] at hstep
  | create plan now rowId =>
    split at hstep
    · cases hstep
    rename_i hfresh
    cases hstep
    rw [Option.not_isSome_iff_eq_none] at hfresh
    rcases hcreate : createUserSubscriptionFromPlanTx cal db userId plan now rowId with e | db₁
    · exact h
    · exact h.create hhome hfresh hplan hok hcreate
  | expire now =>
    cases hstep
    exact h.expire hhome htrim hok
  | invalidate id now =>
    split at hstep
    next hall =>
      cases hstep
      have huser : ∀ s ∈ db.subs.get? id, s.userId = userId := by
        intro s hs
        rw [hs] at hall
        simpa using hall
      rcases hcall : adminInvalidateUserSubscription db id now with e | r
      · exact h
      · exact h.invalidate hhome htrim huser hok hcall
    · cases hstep
  | delete id now =>
    split at hstep
    next hall =>
      cases hstep
      have huser : ∀ s ∈ db.subs.get? id, s.userId = userId := by
        intro s hs
        rw [hs] at hall
        simpa using hall
      rcases hcall : adminDeleteUserSubscription db id now with e | r
      · exact h
      · exact h.delete hhome htrim huser hok hcall
    · cases hstep

end

/-- Elevation is temporary: a user without subscriptions who goes through any run of purchases of
plans without a downgrade group, expirations, invalidations and deletions, each of which keeps the
elevating row in charge, is back in their group whenever no subscription of theirs is active. -/
theorem group_elevation_temporary (cal : Calendar) (userId : Nat) (db db' : PurchaseDB)
    (ls : List GroupLabel) (hfirst : ∀ s ∈ db.subs.rows, s.userId ≠ userId)
    (hgroup : db.userGroup userId ≠ "")
    (htrim : trimSpace (db.userGroup userId) = db.userGroup userId)
    (hplans : ∀ l ∈ ls, l.noDowngrade)
    (hok : Along (groupStep cal userId) (KeepsElevation userId (db.userGroup userId)) db ls)
    (hrun : run (groupStep cal userId) db ls = some db')
    (hended : ∀ s ∈ db'.subs.rows, s.userId = userId → s.status ≠ .active) :
    db'.userGroup userId = db.userGroup userId := by
  have hstart : GroupInv userId (db.userGroup userId) db :=
    ⟨fun s hs hu => absurd hu (hfirst s hs), .inl rfl⟩
  have hinv : GroupInv userId (db.userGroup userId) db' :=
    run_invariant (GroupInv userId (db.userGroup userId))
      (fun _ l _ h hl => groupStep_inv h hgroup htrim l hl.1 hl.2)
      hstart (hok.and (along_of_forall_mem hplans)) hrun
  rcases hinv.group with hhome | ⟨s, hs, hu, hactive, -⟩
  · exact hhome
  · exact absurd hactive (hended s hs hu)

/-- A plan of a hundred seconds that upgrades to "vip". -/
def vipPlan : SubscriptionPlan where
  id := 1
  title := "vip"
  durationUnit := .custom
  durationValue := 0
  customSeconds := 100
  allowWalletOverflow := none
  maxPurchasePerUser := 0
  upgradeGroup := "vip"
  downgradeGroup := ""
  totalAmount := 0
  quotaResetPeriod := .never
  quotaResetCustomSeconds := 0

/-- A user in the group "default" without subscriptions. -/
def defaultUserDB : PurchaseDB where
  users := Table.empty.save { id := 1, group := "default" }
  subs := Table.empty

/-- A renewal that is deleted again before the first subscription expires leaves no trace. -/
theorem group_elevation_temporary_deleted_renewal :
    ∃ db', run (groupStep plainCalendar 1) defaultUserDB
        [.create vipPlan 10 0, .create vipPlan 60 1, .delete 2 70, .expire 120] = some db' ∧
      db'.userGroup 1 = "default" := by
  have h := group_elevation_temporary plainCalendar 1 defaultUserDB _
    [.create vipPlan 10 0, .create vipPlan 60 1, .delete 2 70, .expire 120]
    (by simp [defaultUserDB, Table.empty]) (by decide) (by decide) (by decide) (by decide) rfl
    (by decide)
  exact ⟨_, rfl, h.trans rfl⟩

/-- A plain renewal makes the elevation permanent: the first row, which remembers "default", expires
while the second is active, and the second remembers nothing. -/
theorem renewed_elevation_stays :
    ∃ db', run (groupStep plainCalendar 1) defaultUserDB
        [.create vipPlan 10 0, .create vipPlan 60 1, .expire 120, .expire 200] = some db' ∧
      (∀ s ∈ db'.subs.rows, s.userId = 1 → s.status ≠ .active) ∧
      db'.userGroup 1 ≠ defaultUserDB.userGroup 1 :=
  ⟨_, rfl, by decide, by decide⟩

end NewApi.Model
