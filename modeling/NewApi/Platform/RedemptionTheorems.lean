import NewApi.Platform.Redemption

/-!
# Codes are not used too often

A redeem transaction holds the row of its code from the conditional increment to the end, so what
the increment has checked still holds when the transaction commits, apart from the time. The same
goes for the owner of the workspace. The tables stay consistent: a code has been used as often as
there are uses of it, and uses and assignments of redeemed codes go in pairs.
-/

namespace NewApi.Platform

open Runs List Table Option RedeemTx Int

/-! ## Consistent tables -/

/-- The number of uses of a code. -/
def PlatformDB.usesOf (db : PlatformDB) (id : Int) : Nat :=
  db.uses.rows.countP fun u => u.redemptionID = id

/-- The assignment that was made with a use. -/
def Assignment.isOf (a : Assignment) (u : RedemptionUse) : Prop :=
  a.id = u.assignmentID ∧ a.source = .redeem ∧ a.redemptionID = some u.redemptionID ∧
    a.tenantID = u.tenantID ∧ a.platformUserID = u.platformUserID

structure Consistent (db : PlatformDB) : Prop where
  used : ∀ r ∈ db.redemptions.rows, r.used = db.usesOf r.id ∧ r.used ≤ r.maxUses
  known : ∀ u ∈ db.uses.rows, (db.redemptions.get? u.redemptionID).isSome
  codes : ∀ r ∈ db.redemptions.rows, r.id < db.nextRedemptionID
  assigned : ∀ u ∈ db.uses.rows, ∃ a ∈ db.assignments.rows, a.isOf u
  recorded : ∀ a ∈ db.assignments.rows, a.source = .redeem → ∃ u ∈ db.uses.rows, a.isOf u
  sole : ∀ u ∈ db.uses.rows, ∀ v ∈ db.uses.rows, u.assignmentID = v.assignmentID → u = v
  assignments : ∀ a ∈ db.assignments.rows, a.id < db.nextAssignmentID

/-- What holds of the database as long as the transaction keeps its locks. -/
structure TxOk (db : PlatformDB) (tx : RedeemTx) : Prop where
  code : ∀ g ∈ tx.pc.grant?, ∃ r, db.redemptions.get? g.entry.id = some r ∧
    r.redeemable g.checkedAt
  owner : ∀ a ∈ tx.pc.assignment?, ∃ w, tx.workspace db = some w ∧
    w.ownerPlatformUserID = tx.actor ∧ w.status = .active
  assignment : ∀ g ∈ tx.pc.grant?, ∀ a ∈ tx.pc.assignment?,
    a.id < db.nextAssignmentID ∧ db.assignments.get? a.id = none ∧ a.source = .redeem ∧
      a.redemptionID = some g.entry.id ∧ a.tenantID = tx.tenantID ∧ a.platformUserID = tx.actor
  use : ∀ g ∈ tx.pc.grant?, ∀ a ∈ tx.pc.assignment?, ∀ u ∈ tx.pc.use?,
    db.uses.get? (g.entry.id, tx.tenantID) = none ∧ u.redemptionID = g.entry.id ∧
      u.tenantID = tx.tenantID ∧ u.platformUserID = tx.actor ∧ u.assignmentID = a.id
  own : ∀ w ∈ tx.own, w.id = tx.tenantID

structure PlatformInv (s : PlatformState) : Prop where
  db : Consistent s.db
  locks : Pool.Exclusive RedeemTx.holds s.txs
  txs : ∀ tx ∈ s.txs, TxOk s.db tx

section
variable {db db' : PlatformDB} {tx : RedeemTx} {g : Grant} {a : Assignment} {u : RedemptionUse}

/-- What the transaction that holds the row relies on has not changed. -/
def PlatformDB.SameAt (db db' : PlatformDB) : Row → Prop
  | .redemption id =>
    (∀ r, db.redemptions.get? id = some r → db'.redemptions.get? id = some r) ∧
      ∀ tenantID, db'.uses.get? (id, tenantID) = db.uses.get? (id, tenantID)
  | .workspace id => db'.workspaces.get? id = db.workspaces.get? id
  | .assignment id =>
    id < db.nextAssignmentID → db'.assignments.get? id = db.assignments.get? id

lemma RedeemPc.locksWorkspace_of_assignment {pc : RedeemPc} (h : a ∈ pc.assignment?) :
    pc.locksWorkspace = true := by
  cases pc with
  | record | commit => rfl
  | _ => cases h

lemma RedeemPc.exists_grant {pc : RedeemPc} (h : a ∈ pc.assignment?) : ∃ g, g ∈ pc.grant? := by
  cases pc with
  | record g _ | commit g _ _ => exact ⟨g, rfl⟩
  | _ => cases h

/-- A transaction whose rows do not change stays as it is. -/
lemma TxOk.frame (h : TxOk db tx) (hrows : ∀ row, tx.holds row → db.SameAt db' row)
    (hnext : db.nextAssignmentID ≤ db'.nextAssignmentID) : TxOk db' tx where
  code := by
    intro g hg
    obtain ⟨r, hr, hredeemable⟩ := h.code g hg
    exact ⟨r, (hrows (.redemption g.entry.id) ⟨g, hg, rfl⟩).1 r hr, hredeemable⟩
  owner := by
    intro a ha
    obtain ⟨w, hw, howner⟩ := h.owner a ha
    refine ⟨w, ?_, howner⟩
    have hsame := hrows (.workspace tx.tenantID)
      ⟨rfl, .inl (RedeemPc.locksWorkspace_of_assignment ha)⟩
    rw [← hw]
    unfold workspace
    rw [show db'.workspaces.get? tx.tenantID = db.workspaces.get? tx.tenantID from hsame]
  assignment := by
    intro g hg a ha
    obtain ⟨hid, hnone, hrest⟩ := h.assignment g hg a ha
    refine ⟨by omega, ?_, hrest⟩
    rw [hrows (.assignment a.id) ⟨a, ha, rfl⟩ hid, hnone]
  use := by
    intro g hg a ha u hu
    obtain ⟨hnone, hrest⟩ := h.use g hg a ha u hu
    refine ⟨?_, hrest⟩
    rw [(hrows (.redemption g.entry.id) ⟨g, hg, rfl⟩).2, hnone]
  own := h.own

/-- A transaction that has not inserted its assignment relies on its code only. -/
lemma TxOk.of_code (hown : ∀ w ∈ tx.own, w.id = tx.tenantID)
    (hcode : ∀ g ∈ tx.pc.grant?, ∃ r, db.redemptions.get? g.entry.id = some r ∧
      r.redeemable g.checkedAt) (ha : tx.pc.assignment? = none) : TxOk db tx where
  code := hcode
  owner := by
    rw [ha]
    exact fun a h => absurd h (not_mem_none a)
  assignment := by
    rw [ha]
    exact fun _ _ a h => absurd h (not_mem_none a)
  use := by
    rw [ha]
    exact fun _ _ a h => absurd h (not_mem_none a)
  own := hown

/-- A transaction that has not made its increment, or is over, relies on nothing. -/
lemma TxOk.of_idle (hown : ∀ w ∈ tx.own, w.id = tx.tenantID) (hg : tx.pc.grant? = none)
    (ha : tx.pc.assignment? = none) : TxOk db tx := by
  refine TxOk.of_code hown ?_ ha
  rw [hg]
  exact fun g h => absurd h (not_mem_none g)

/-! ## Commit of a redeem transaction -/

lemma RedeemTx.workspace_id (h : TxOk db tx) {w : Workspace} (hw : tx.workspace db = some w) :
    w.id = tx.tenantID := by
  unfold workspace at hw
  split at hw
  · next own hown =>
    obtain rfl := Option.some.inj hw
    exact h.own own hown
  · exact key_of_get? hw

/-- What a commit writes, in terms of what the transaction has found. -/
lemma TxOk.commit_eq (h : TxOk db tx) (hpc : tx.pc = .commit g a u) :
    ∃ (r : Redemption) (w : Workspace),
      db.redemptions.get? g.entry.id = some r ∧ r.redeemable g.checkedAt ∧
      w.id = tx.tenantID ∧ w.ownerPlatformUserID = tx.actor ∧ w.status = .active ∧
      tx.commit db g a u =
        { db with
          redemptions := db.redemptions.save { r with used := r.used + 1 }
          workspaces := db.workspaces.save (w.renewed a)
          assignments := db.assignments.save a
          uses := db.uses.save u } := by
  obtain ⟨r, hr, hredeemable⟩ := h.code g (by rw [hpc]; rfl)
  obtain ⟨w, hw, howner, hactive⟩ := h.owner a (by rw [hpc]; rfl)
  refine ⟨r, w, hr, hredeemable, workspace_id h hw, howner, hactive, ?_⟩
  unfold commit
  rw [hr, hw]

/-- Only the rows of the transaction change. -/
lemma TxOk.commit_sameAt (h : TxOk db tx) (hpc : tx.pc = .commit g a u) {row : Row}
    (hrow : ¬ tx.holds row) : db.SameAt (tx.commit db g a u) row := by
  obtain ⟨r, w, hr, -, hw, -, -, hcommit⟩ := h.commit_eq hpc
  have hg : g ∈ tx.pc.grant? := by rw [hpc]; rfl
  have ha : a ∈ tx.pc.assignment? := by rw [hpc]; rfl
  obtain ⟨-, hredemption, htenant, -, -⟩ := h.use g hg a ha u (by rw [hpc]; rfl)
  have hrid : r.id = g.entry.id := key_of_get? hr
  rw [hcommit]
  cases row with
  | redemption id =>
    have hne : g.entry.id ≠ id := fun heq => hrow ⟨g, hg, heq⟩
    constructor
    · intro x hx
      show (db.redemptions.save _).get? id = some x
      rw [Table.get?_save, if_neg (by rw [hrid]; exact hne)]
      exact hx
    · intro tenantID
      show (db.uses.save u).get? (id, tenantID) = _
      rw [Table.get?_save, if_neg]
      intro heq
      exact hne (hredemption.symm.trans (congrArg Prod.fst heq))
  | workspace id =>
    have hne : tx.tenantID ≠ id := fun heq => hrow ⟨heq, .inl (by rw [hpc]; rfl)⟩
    show (db.workspaces.save _).get? id = _
    rw [Table.get?_save, if_neg]
    exact fun heq => hne (hw.symm.trans heq)
  | assignment id =>
    have hne : a.id ≠ id := fun heq => hrow ⟨a, ha, heq⟩
    intro _
    show (db.assignments.save a).get? id = _
    rw [Table.get?_save, if_neg hne]

lemma usesOf_save (hnone : db.uses.get? u.key = none) (id : Int) :
    PlatformDB.usesOf { db with uses := db.uses.save u } id =
      db.usesOf id + if u.redemptionID = id then 1 else 0 := by
  show (db.uses.save u).rows.countP _ = db.uses.rows.countP _ + _
  rw [rows_save_of_none hnone, countP_append, countP_singleton]
  simp

lemma Consistent.commit (hdb : Consistent db) (h : TxOk db tx) (hpc : tx.pc = .commit g a u) :
    Consistent (tx.commit db g a u) := by
  obtain ⟨r, w, hr, ⟨-, hless, -⟩, -, -, -, hcommit⟩ := h.commit_eq hpc
  have hg : g ∈ tx.pc.grant? := by rw [hpc]; rfl
  have ha : a ∈ tx.pc.assignment? := by rw [hpc]; rfl
  obtain ⟨hid, hfresh, hsource, haredemption, hatenant, hauser⟩ := h.assignment g hg a ha
  obtain ⟨hnone, hredemption, htenant, huser, hassignment⟩ := h.use g hg a ha u (by rw [hpc]; rfl)
  have hrid : r.id = g.entry.id := key_of_get? hr
  have hkey : db.uses.get? u.key = none := by
    rw [RedemptionUse.key, hredemption, htenant]
    exact hnone
  have hisOf : a.isOf u :=
    ⟨hassignment.symm, hsource, by rw [haredemption, hredemption], by rw [hatenant, htenant],
      by rw [hauser, huser]⟩
  have hother : ∀ b ∈ db.assignments.rows, a.id ≠ b.id := by
    intro b hb heq
    have hget := Table.get?_of_mem hb
    rw [← heq, hfresh] at hget
    cases hget
  have hcount := usesOf_save hkey
  have huses : (db.uses.save u).rows = db.uses.rows ++ [u] := rows_save_of_none hkey
  rw [hcommit]
  refine ⟨?_, ?_, ?_, ?_, ?_, ?_, ?_⟩
  · intro x hx
    show x.used = (PlatformDB.usesOf { db with uses := db.uses.save u } x.id : Int) ∧ _
    rw [hcount]
    rcases mem_save hx with rfl | ⟨hx, hne⟩
    · obtain ⟨hused, -⟩ := hdb.used r (mem_of_get? hr)
      show r.used + 1 = ((db.usesOf r.id + if u.redemptionID = r.id then 1 else 0 : Nat) : Int) ∧
        r.used + 1 ≤ r.maxUses
      rw [if_pos (hredemption.trans hrid.symm)]
      omega
    have hne : ¬ u.redemptionID = x.id := by
      intro heq
      apply hne
      show x.id = r.id
      omega
    rw [if_neg hne]
    exact hdb.used x hx
  · intro v hv
    show ((db.redemptions.save _).get? v.redemptionID).isSome
    rw [huses, mem_append, mem_singleton] at hv
    rw [Table.get?_save]
    split
    · rfl
    rename_i hne
    rcases hv with hold | rfl
    · exact hdb.known v hold
    · exact absurd (hrid.trans hredemption.symm) hne
  · intro x hx
    rcases mem_save hx with rfl | ⟨hx, -⟩
    · exact hdb.codes r (mem_of_get? hr)
    · exact hdb.codes x hx
  · intro v hv
    rw [huses, mem_append, mem_singleton] at hv
    rcases hv with hold | rfl
    · obtain ⟨b, hb, hbv⟩ := hdb.assigned v hold
      exact ⟨b, mem_save_of_ne hb (hother b hb), hbv⟩
    · exact ⟨a, mem_save_self _ a, hisOf⟩
  · intro b hb hbsource
    rw [huses]
    rcases mem_save hb with rfl | ⟨hb, -⟩
    · exact ⟨u, mem_append_right _ (mem_singleton_self u), hisOf⟩
    · obtain ⟨v, hv, hbv⟩ := hdb.recorded b hb hbsource
      exact ⟨v, mem_append_left _ hv, hbv⟩
  · -- the assignment is new, so no earlier use has it
    have hnew : ∀ v ∈ db.uses.rows, v.assignmentID ≠ u.assignmentID := by
      intro v hv heq
      obtain ⟨b, hb, hbv⟩ := hdb.assigned v hv
      exact hother b hb (hassignment.symm.trans (heq.symm.trans hbv.1.symm))
    intro v hv v' hv' heq
    rw [huses, mem_append, mem_singleton] at hv hv'
    rcases hv with hold | rfl
    · rcases hv' with hold' | rfl
      · exact hdb.sole v hold v' hold' heq
      · exact absurd heq (hnew v hold)
    rcases hv' with hold' | rfl
    · exact absurd heq.symm (hnew v' hold')
    · rfl
  · intro b hb
    rcases mem_save hb with rfl | ⟨hb, -⟩
    · exact hid
    · exact hdb.assignments b hb

end

/-! ## The other writers -/

section
variable {db db' : PlatformDB} {cal : Calendar}

/-- A writer that keeps the tables consistent and changes only the rows in `touched`. -/
structure Writes (db db' : PlatformDB) (touched : Row → Prop) : Prop where
  consistent : Consistent db → Consistent db'
  sameAt : Consistent db → ∀ row, ¬ touched row → db.SameAt db' row
  next : db.nextAssignmentID ≤ db'.nextAssignmentID

lemma PlatformDB.SameAt.refl (db : PlatformDB) : ∀ row, db.SameAt db row
  | .redemption _ => ⟨fun _ h => h, fun _ => rfl⟩
  | .workspace _ => rfl
  | .assignment _ => fun _ => rfl

lemma Writes.refl (db : PlatformDB) (touched : Row → Prop) : Writes db db touched where
  consistent := fun h => h
  sameAt := fun _ row _ => PlatformDB.SameAt.refl db row
  next := Int.le_refl _

lemma Consistent.insertRedemption (h : Consistent db) {batch : RedemptionBatch}
    (hmax : 1 ≤ batch.maxUses) (codeHash : String) :
    Consistent (db.insertRedemption batch codeHash) := by
  have hnone : db.usesOf db.nextRedemptionID = 0 := by
    apply countP_eq_zero.mpr
    intro u hu heq
    obtain ⟨r, hr⟩ := isSome_iff_exists.mp (h.known u hu)
    have hlt := h.codes r (mem_of_get? hr)
    rw [key_of_get? hr, of_decide_eq_true heq] at hlt
    omega
  refine { h with used := ?_, known := ?_, codes := ?_ }
  · intro r hr
    rcases mem_save hr with rfl | ⟨hr, -⟩
    · show (0 : Int) = (db.usesOf db.nextRedemptionID : Int) ∧ (0 : Int) ≤ batch.maxUses
      omega
    · exact h.used r hr
  · intro u hu
    show ((db.redemptions.save _).get? _).isSome
    rw [Table.get?_save]
    split
    · rfl
    · exact h.known u hu
  · intro r hr
    show r.id < db.nextRedemptionID + 1
    rcases mem_save hr with rfl | ⟨hr, -⟩
    · exact Int.lt_succ _
    · have := h.codes r hr
      omega

/-- A new code has a new identifier. -/
lemma sameAt_insertRedemption (h : Consistent db) (batch : RedemptionBatch) (codeHash : String)
    (row : Row) : db.SameAt (db.insertRedemption batch codeHash) row := by
  cases row with
  | redemption id =>
    refine ⟨fun r hr => ?_, fun _ => rfl⟩
    show (db.redemptions.save _).get? id = some r
    have hlt := h.codes r (mem_of_get? hr)
    rw [key_of_get? hr] at hlt
    rw [Table.get?_save, if_neg]
    · exact hr
    · intro heq
      have heq : db.nextRedemptionID = id := heq
      omega
  | workspace id => rfl
  | assignment id => exact fun _ => rfl

lemma PlatformDB.SameAt.trans {db'' : PlatformDB} {row : Row} (h : db.SameAt db' row)
    (h' : db'.SameAt db'' row) (hnext : db.nextAssignmentID ≤ db'.nextAssignmentID) :
    db.SameAt db'' row := by
  cases row with
  | redemption id =>
    exact ⟨fun r hr => h'.1 r (h.1 r hr), fun t => (h'.2 t).trans (h.2 t)⟩
  | workspace id => exact Eq.trans h' h
  | assignment id => exact fun hid => (h' (Int.lt_of_lt_of_le hid hnext)).trans (h hid)

lemma writes_insertRedemptions {batch : RedemptionBatch} (hmax : 1 ≤ batch.maxUses)
    (hashes : List String) (touched : Row → Prop) :
    Writes db (hashes.foldl (fun db codeHash => db.insertRedemption batch codeHash) db) touched := by
  induction hashes generalizing db with
  | nil => exact Writes.refl db touched
  | cons codeHash hashes ih =>
    have hrest := @ih (db.insertRedemption batch codeHash)
    refine ⟨fun h => hrest.consistent (h.insertRedemption hmax codeHash), ?_, hrest.next⟩
    intro h row hrow
    exact (sameAt_insertRedemption h batch codeHash row).trans
      (hrest.sameAt (h.insertRedemption hmax codeHash) row hrow) (Int.le_refl _)

lemma writes_createRedemptions (batch : RedemptionBatch) (planOk : Bool) (now : Int)
    (touched : Row → Prop) : Writes db (createRedemptions cal db batch planOk now) touched := by
  unfold createRedemptions
  split
  · next hvalid =>
    obtain ⟨⟨-, -, -, -, -, hmax, -⟩, -⟩ := hvalid
    exact writes_insertRedemptions hmax batch.codeHashes touched
  · exact Writes.refl db touched

lemma writes_disableRedemption (id : Int) :
    Writes db (disableRedemption db id) (· = .redemption id) := by
  unfold disableRedemption
  split
  · exact Writes.refl db _
  rename_i entry hentry
  have hid : entry.id = id := key_of_get? hentry
  refine ⟨fun h => { h with used := ?_, known := ?_, codes := ?_ }, ?_, Int.le_refl _⟩
  · intro r hr
    rcases mem_save hr with rfl | ⟨hr, -⟩
    · exact h.used entry (mem_of_get? hentry)
    · exact h.used r hr
  · intro u hu
    show ((db.redemptions.save _).get? _).isSome
    rw [Table.get?_save]
    split
    · rfl
    · exact h.known u hu
  · intro r hr
    rcases mem_save hr with rfl | ⟨hr, -⟩
    · exact h.codes entry (mem_of_get? hentry)
    · exact h.codes r hr
  · intro _ row hrow
    cases row with
    | redemption id' =>
      refine ⟨fun r hr => ?_, fun _ => rfl⟩
      show (db.redemptions.save _).get? id' = some r
      rw [Table.get?_save, if_neg]
      · exact hr
      · intro heq
        exact hrow (congrArg Row.redemption (Eq.trans heq.symm hid))
    | workspace id => rfl
    | assignment id => exact fun _ => rfl

/-- What an assignment says about its making. -/
lemma assignWorkspacePlan_some {workspace : Workspace} {tenantID planID months actor : Int}
    {source : AssignmentSource} {redemptionID : Option Int} {planOk : Bool} {id now : Int}
    {a : Assignment} (h : assignWorkspacePlan cal workspace tenantID planID months actor source
      redemptionID planOk id now = some a) :
    a.id = id ∧ a.tenantID = tenantID ∧ a.platformUserID = actor ∧ a.source = source ∧
      a.redemptionID = redemptionID ∧
      (source = .redeem → workspace.ownerPlatformUserID = actor ∧ workspace.status = .active) := by
  unfold assignWorkspacePlan at h
  split at h
  · cases h
  split at h
  · cases h
  rename_i howner
  split at h
  · cases h
  dsimp only at h
  split at h
  · cases h
  cases h
  refine ⟨rfl, rfl, rfl, rfl, rfl, fun hsource => ?_⟩
  simpa [hsource] using howner

lemma writes_assignPlan (tenantID planID months actor : Int) (planOk : Bool) (now : Int) :
    Writes db (assignPlan cal db tenantID planID months actor planOk now)
      (· = .workspace tenantID) := by
  unfold assignPlan
  split
  · exact Writes.refl db _
  rename_i workspace hworkspace
  split
  · exact Writes.refl db _
  rename_i a ha
  obtain ⟨hid, -, -, hsource, -⟩ := assignWorkspacePlan_some ha
  have hwid : workspace.id = tenantID := key_of_get? hworkspace
  refine ⟨fun h => ⟨h.used, h.known, h.codes, ?_, ?_, h.sole, ?_⟩, ?_, Int.le_of_lt (Int.lt_succ _)⟩
  · intro u hu
    obtain ⟨b, hb, hbu⟩ := h.assigned u hu
    refine ⟨b, mem_save_of_ne hb ?_, hbu⟩
    have := h.assignments b hb
    omega
  · intro b hb hredeem
    rcases mem_save hb with rfl | ⟨hb, -⟩
    · rw [hsource] at hredeem
      cases hredeem
    · exact h.recorded b hb hredeem
  · intro b hb
    show b.id < db.nextAssignmentID + 1
    rcases mem_save hb with rfl | ⟨hb, -⟩
    · omega
    · have := h.assignments b hb
      omega
  · intro _ row hrow
    cases row with
    | redemption id => exact ⟨fun _ h => h, fun _ => rfl⟩
    | workspace id =>
      show (db.workspaces.save _).get? id = _
      rw [Table.get?_save, if_neg]
      intro heq
      exact hrow (congrArg Row.workspace (Eq.trans heq.symm hwid))
    | assignment id =>
      intro hlt
      show (db.assignments.save a).get? id = _
      rw [Table.get?_save, if_neg (by omega)]

lemma writes_saveWorkspace (workspace : Workspace) :
    Writes db { db with workspaces := db.workspaces.save workspace }
      (· = .workspace workspace.id) := by
  refine ⟨fun h => { h with }, ?_,
    Int.le_refl _⟩
  intro _ row hrow
  cases row with
  | redemption id => exact ⟨fun _ h => h, fun _ => rfl⟩
  | workspace id =>
    show (db.workspaces.save _).get? id = _
    rw [Table.get?_save, if_neg]
    exact fun heq => hrow (congrArg Row.workspace heq.symm)
  | assignment id => exact fun _ => rfl

end

/-! ## One step -/

/-- The ways in which a redeem transaction goes on. -/
inductive TxMove (cal : Calendar) (s : PlatformState) (tx : RedeemTx) :
    PlatformDB → RedeemPc → Prop
  | stop : TxMove cal s tx s.db .rolledBack
  | looked (g : Grant) (h : tx.pc = .lookup) : TxMove cal s tx s.db (.increment g)
  | incremented (g : Grant) (r : Redemption) (h : tx.pc = .increment g)
      (hfree : s.free (.redemption g.entry.id))
      (hr : s.db.redemptions.get? g.entry.id = some r) (hredeemable : r.redeemable g.checkedAt) :
      TxMove cal s tx s.db (.lockWorkspace g)
  | locked (g : Grant) (h : tx.pc = .lockWorkspace g)
      (hfree : tx.own.isSome ∨ s.free (.workspace tx.tenantID)) :
      TxMove cal s tx s.db (.assign g)
  | assigned (g : Grant) (a : Assignment) (w : Workspace) (planOk : Bool) (h : tx.pc = .assign g)
      (hw : tx.workspace s.db = some w)
      (ha : assignWorkspacePlan cal w tx.tenantID g.entry.planID g.entry.durationMonths tx.actor
        .redeem (some g.entry.id) planOk s.db.nextAssignmentID s.now = some a) :
      TxMove cal s tx { s.db with nextAssignmentID := s.db.nextAssignmentID + 1 } (.record g a)
  | recorded (g : Grant) (a : Assignment) (h : tx.pc = .record g a)
      (hnone : s.db.uses.get? (g.entry.id, tx.tenantID) = none) :
      TxMove cal s tx s.db (.commit g a
        { redemptionID := g.entry.id, tenantID := tx.tenantID, platformUserID := tx.actor
          assignmentID := a.id, createdAt := s.now })
  | committed (g : Grant) (a : Assignment) (u : RedemptionUse) (h : tx.pc = .commit g a u) :
      TxMove cal s tx (tx.commit s.db g a u) .committed

inductive PlatformMove (cal : Calendar) (s : PlatformState) : PlatformState → Prop
  | wait (now : Int) : PlatformMove cal s { s with now := now }
  | join (tx : RedeemTx) (hpc : tx.pc = .lookup) (hown : ∀ w ∈ tx.own, w.id = tx.tenantID)
      (hfree : tx.own.isSome → s.free (.workspace tx.tenantID)) :
      PlatformMove cal s { s with txs := s.txs ++ [tx] }
  | moved (i : Nat) (tx : RedeemTx) (db : PlatformDB) (pc : RedeemPc) (hi : s.txs[i]? = some tx)
      (h : TxMove cal s tx db pc) :
      PlatformMove cal s { s with db := db, txs := s.txs.set i { tx with pc := pc } }
  | written (db : PlatformDB) (touched : Row → Prop) (h : Writes s.db db touched)
      (hfree : ∀ row, touched row → s.free row) (huses : db.uses = s.db.uses) :
      PlatformMove cal s { s with db := db }

section
variable {cal : Calendar} {s s' : PlatformState} {tx : RedeemTx} {db : PlatformDB} {pc : RedeemPc}
  {i : Nat}

lemma txMove_of_statement {planOk : Bool} (h : tx.statement cal s planOk = some (db, pc)) :
    TxMove cal s tx db pc := by
  unfold statement at h
  split at h
  · next hpc =>
    split at h
    · cases h
      exact .stop
    split at h <;> cases h
    · exact .stop
    · exact .looked _ hpc
  · next g hpc =>
    split at h
    · next hfree =>
      split at h
      · cases h
        exact .stop
      rename_i r hr
      split at h
      · next hredeemable =>
        cases h
        exact .incremented g r hpc hfree hr hredeemable
      · cases h
        exact .stop
    · cases h
  · next g hpc =>
    split at h
    · cases h
      exact .stop
    split at h
    · next hfree =>
      cases h
      exact .locked g hpc hfree
    · cases h
  · next g hpc =>
    split at h
    · cases h
      exact .stop
    rename_i w hw
    split at h
    · cases h
      exact .stop
    rename_i a ha
    cases h
    exact .assigned g a w planOk hpc hw ha
  · next g a hpc =>
    split at h
    · cases h
      exact .stop
    rename_i hnone
    cases h
    exact .recorded g a hpc hnone
  · next g a u hpc =>
    cases h
    exact .committed g a u hpc
  · cases h
  · cases h

lemma uses_createRedemptions (db : PlatformDB) (batch : RedemptionBatch) (planOk : Bool)
    (now : Int) : (createRedemptions cal db batch planOk now).uses = db.uses := by
  have hfold : ∀ (hashes : List String) (db : PlatformDB),
      (hashes.foldl (fun db codeHash => db.insertRedemption batch codeHash) db).uses = db.uses := by
    intro hashes
    induction hashes with
    | nil => exact fun _ => rfl
    | cons codeHash hashes ih => exact fun db => ih (db.insertRedemption batch codeHash)
  unfold createRedemptions
  split
  · exact hfold batch.codeHashes db
  · rfl

lemma uses_disableRedemption (db : PlatformDB) (id : Int) :
    (disableRedemption db id).uses = db.uses := by
  unfold disableRedemption
  split <;> rfl

lemma uses_assignPlan (db : PlatformDB) (tenantID planID months actor : Int) (planOk : Bool)
    (now : Int) : (assignPlan cal db tenantID planID months actor planOk now).uses = db.uses := by
  unfold assignPlan
  split
  · rfl
  · split <;> rfl

theorem platformMove_of_step {l : PlatformLabel} (h : platformStep cal s l = some s') :
    PlatformMove cal s s' := by
  cases l with simp only [platformStep] at h
  | redeem codeHash tenantID actor =>
    cases h
    exact .join _ rfl (fun w hw => absurd hw (not_mem_none w)) (fun hown => by cases hown)
  | createTenant codeHash tenantID planID actor =>
    split at h
    · next hnew =>
      cases h
      refine .join _ rfl (fun w hw => ?_) (fun _ => hnew.1)
      cases hw
      rfl
    · cases h
  | statement i planOk =>
    split at h
    · cases h
    rename_i tx hi
    split at h
    · cases h
    rename_i db pc hstatement
    cases h
    exact .moved i tx db pc hi (txMove_of_statement hstatement)
  | rollback i =>
    split at h
    · cases h
    rename_i tx hi
    split at h <;> cases h
    exact .moved i tx s.db .rolledBack hi .stop
  | wait duration =>
    cases h
    exact .wait _
  | createRedemptions batch planOk =>
    cases h
    exact .written _ (fun _ => False) (writes_createRedemptions batch planOk s.now _)
      (fun _ hrow => hrow.elim) (uses_createRedemptions s.db batch planOk s.now)
  | disableRedemption id =>
    split at h
    · next hfree =>
      cases h
      refine .written _ _ (writes_disableRedemption id) ?_ (uses_disableRedemption s.db id)
      rintro row rfl
      exact hfree
    · cases h
  | assignPlan tenantID planID months actor planOk =>
    split at h
    · next hfree =>
      cases h
      refine .written _ _ (writes_assignPlan tenantID planID months actor planOk s.now) ?_
        (uses_assignPlan s.db tenantID planID months actor planOk s.now)
      rintro row rfl
      exact hfree
    · cases h
  | saveWorkspace workspace =>
    split at h
    · next hfree =>
      cases h
      refine .written _ _ (writes_saveWorkspace workspace) ?_ rfl
      rintro row rfl
      exact hfree
    · cases h

/-! ## The invariant -/

section
variable (h : TxMove cal s tx db pc)
include h

lemma TxMove.consistent (hdb : Consistent s.db) (htx : TxOk s.db tx) :
    Consistent db := by
  cases h with
  | assigned g a w planOk h hw ha =>
    refine { hdb with assignments := ?_ }
    intro b hb
    show b.id < s.db.nextAssignmentID + 1
    have := hdb.assignments b hb
    omega
  | committed g a u h => exact hdb.commit htx h
  | _ => exact hdb

lemma TxMove.next_le : s.db.nextAssignmentID ≤ db.nextAssignmentID := by
  cases h with
  | assigned => exact Int.le_of_lt (Int.lt_succ _)
  | _ => exact Int.le_refl _

/-- Only the rows of the transaction that moves change. -/
lemma TxMove.sameAt (htx : TxOk s.db tx) {row : Row}
    (hrow : ¬ tx.holds row) : s.db.SameAt db row := by
  cases h with
  | assigned =>
    cases row with
    | redemption id => exact ⟨fun _ h => h, fun _ => rfl⟩
    | workspace id => rfl
    | assignment id => exact fun _ => rfl
  | committed g a u h => exact htx.commit_sameAt h hrow
  | _ => exact PlatformDB.SameAt.refl s.db row

/-- A transaction locks rows that nobody has locked. -/
lemma TxMove.holds (hs : PlatformInv s) {row : Row}
    (hrow : holds { tx with pc := pc } row) : tx.holds row ∨ s.free row := by
  -- the workspace of `createTenant` has been locked from the start
  have hcreated : tx.pc.isOpen = true → ∀ id, tx.tenantID = id →
      tx.own.isSome ∧ pc.isOpen = true → tx.holds (.workspace id) :=
    fun hopen id hid hown => ⟨hid, .inr ⟨hown.1, hopen⟩⟩
  cases h with
  | stop | committed g a u h =>
    cases row with
    | redemption id => obtain ⟨g, hg, -⟩ := hrow; cases hg
    | workspace id => obtain ⟨-, hlocks | ⟨-, hopen⟩⟩ := hrow; cases hlocks; cases hopen
    | assignment id => obtain ⟨a, ha, -⟩ := hrow; cases ha
  | looked g h =>
    cases row with
    | redemption id => obtain ⟨g, hg, -⟩ := hrow; cases hg
    | workspace id =>
      obtain ⟨hid, hlocks | hown⟩ := hrow
      · cases hlocks
      · exact .inl (hcreated (by rw [h]; rfl) id hid hown)
    | assignment id => obtain ⟨a, ha, -⟩ := hrow; cases ha
  | incremented g r h hfree hr hredeemable =>
    cases row with
    | redemption id =>
      obtain ⟨g', hg', rfl⟩ := hrow
      obtain rfl := Option.some.inj hg'
      exact .inr hfree
    | workspace id =>
      obtain ⟨hid, hlocks | hown⟩ := hrow
      · cases hlocks
      · exact .inl (hcreated (by rw [h]; rfl) id hid hown)
    | assignment id => obtain ⟨a, ha, -⟩ := hrow; cases ha
  | locked g h hfree =>
    cases row with
    | redemption id =>
      obtain ⟨g', hg', hid⟩ := hrow
      exact .inl ⟨g', by rw [h]; exact hg', hid⟩
    | workspace id =>
      obtain ⟨rfl, -⟩ := hrow
      rcases hfree with hown | hfree
      · exact .inl (hcreated (by rw [h]; rfl) _ rfl ⟨hown, rfl⟩)
      · exact .inr hfree
    | assignment id => obtain ⟨a, ha, -⟩ := hrow; cases ha
  | assigned g a w planOk h hw ha =>
    cases row with
    | redemption id =>
      obtain ⟨g', hg', hid⟩ := hrow
      exact .inl ⟨g', by rw [h]; exact hg', hid⟩
    | workspace id => exact .inl ⟨hrow.1, .inl (by rw [h]; rfl)⟩
    | assignment id =>
      -- the identifier has just been given out
      obtain ⟨a', ha', rfl⟩ := hrow
      obtain rfl := Option.some.inj ha'
      refine .inr fun other hother hholds => ?_
      obtain ⟨b, hb, hbid⟩ := hholds
      obtain ⟨g', hg'⟩ := RedeemPc.exists_grant hb
      have hlt := ((hs.txs other hother).assignment g' hg' b hb).1
      have hid := (assignWorkspacePlan_some ha).1
      omega
  | recorded g a h hnone =>
    cases row with
    | redemption id =>
      obtain ⟨g', hg', hid⟩ := hrow
      exact .inl ⟨g', by rw [h]; exact hg', hid⟩
    | workspace id => exact .inl ⟨hrow.1, .inl (by rw [h]; rfl)⟩
    | assignment id =>
      obtain ⟨a', ha', hid⟩ := hrow
      exact .inl ⟨a', by rw [h]; exact ha', hid⟩

lemma TxMove.self (hs : Consistent s.db) (htx : TxOk s.db tx) :
    TxOk db { tx with pc := pc } := by
  cases h with
  | incremented g r h hfree hr hredeemable =>
    refine TxOk.of_code htx.own (fun g' hg' => ?_) rfl
    obtain rfl := Option.some.inj hg'
    exact ⟨r, hr, hredeemable⟩
  | locked g h hfree =>
    refine TxOk.of_code htx.own (fun g' hg' => ?_) rfl
    exact htx.code g' (by rw [h]; exact hg')
  | assigned g a w planOk h hw ha =>
    obtain ⟨hid, htenant, huser, hsource, hredemption, howner⟩ := assignWorkspacePlan_some ha
    refine ⟨fun g' hg' => htx.code g' (by rw [h]; exact hg'), fun a' ha' => ?_, ?_, ?_, htx.own⟩
    · exact ⟨w, hw, howner rfl⟩
    · intro g' hg' a' ha'
      obtain rfl := Option.some.inj hg'
      obtain rfl := Option.some.inj ha'
      refine ⟨?_, ?_, hsource, hredemption, htenant, huser⟩
      · show a.id < s.db.nextAssignmentID + 1
        omega
      · show s.db.assignments.get? a.id = none
        rw [hid]
        rcases hget : s.db.assignments.get? s.db.nextAssignmentID with - | b
        · rfl
        have hlt := hs.assignments b (mem_of_get? hget)
        rw [key_of_get? hget] at hlt
        omega
    · exact fun _ _ _ _ u hu => absurd hu (not_mem_none u)
  | recorded g a h hnone =>
    have hg : ∀ g' ∈ some g, g' ∈ tx.pc.grant? := fun g' hg' => by rw [h]; exact hg'
    have ha : ∀ a' ∈ some a, a' ∈ tx.pc.assignment? := fun a' ha' => by rw [h]; exact ha'
    refine ⟨fun g' hg' => htx.code g' (hg g' hg'), fun a' ha' => htx.owner a' (ha a' ha'),
      fun g' hg' a' ha' => htx.assignment g' (hg g' hg') a' (ha a' ha'), ?_, htx.own⟩
    intro g' hg' a' ha' u hu
    obtain rfl := Option.some.inj hg'
    obtain rfl := Option.some.inj ha'
    cases hu
    exact ⟨hnone, rfl, rfl, rfl, rfl⟩
  | _ => exact TxOk.of_idle htx.own rfl rfl

end

lemma PlatformInv.init : PlatformInv .init where
  db := ⟨fun _ h => absurd h not_mem_nil, fun _ h => absurd h not_mem_nil,
    fun _ h => absurd h not_mem_nil, fun _ h => absurd h not_mem_nil,
    fun _ h => absurd h not_mem_nil, fun _ h => absurd h not_mem_nil,
    fun _ h => absurd h not_mem_nil⟩
  locks := fun _ _ _ _ _ h => absurd (mem_of_getElem? h) not_mem_nil
  txs := fun _ h => absurd h not_mem_nil

lemma PlatformInv.move (hs : PlatformInv s) (h : PlatformMove cal s s') : PlatformInv s' := by
  cases h with
  | wait now => exact { hs with }
  | join tx hpc hown hfree =>
    have htx : TxOk s.db tx := TxOk.of_idle hown (by rw [hpc]; rfl) (by rw [hpc]; rfl)
    refine ⟨hs.db, hs.locks.snoc ?_, Pool.forall_mem_snoc hs.txs htx⟩
    intro row hrow
    cases row with
    | redemption id => obtain ⟨g, hg, -⟩ := hrow; rw [hpc] at hg; cases hg
    | workspace id =>
      obtain ⟨rfl, hlocks | ⟨hown, -⟩⟩ := hrow
      · rw [hpc] at hlocks
        cases hlocks
      · exact hfree hown
    | assignment id => obtain ⟨a, ha, -⟩ := hrow; rw [hpc] at ha; cases ha
  | moved i tx db pc hi h =>
    have htx := hs.txs tx (mem_of_getElem? hi)
    refine ⟨h.consistent hs.db htx, hs.locks.set hi fun row => h.holds hs, ?_⟩
    intro other hother
    obtain ⟨j, hj⟩ := mem_iff_getElem?.mp hother
    by_cases hij : i = j
    · subst hij
      rw [Pool.eq_of_getElem?_set hj]
      exact h.self hs.db htx
    have hj : s.txs[j]? = some other := (List.getElem?_set_ne hij).symm.trans hj
    refine (hs.txs other (mem_of_getElem? hj)).frame (fun row hrow => ?_) h.next_le
    exact h.sameAt htx fun hmoved => hij (hs.locks row i j tx other hi hj hmoved hrow)
  | written db touched h hfree huses =>
    refine ⟨h.consistent hs.db, hs.locks, fun tx htx => ?_⟩
    refine (hs.txs tx htx).frame (fun row hrow => ?_) h.next
    exact h.sameAt hs.db row fun htouched => hfree row htouched tx htx hrow

/-- A use that a step records is that of a transaction that commits. -/
lemma PlatformMove.new_use (h : PlatformMove cal s s') {u : RedemptionUse}
    (hu : u ∈ s'.db.uses.rows) (hnew : u ∉ s.db.uses.rows) :
    ∃ tx ∈ s.txs, ∃ g a, tx.pc = .commit g a u ∧ s'.db = tx.commit s.db g a u := by
  cases h with
  | wait now | join tx hpc hown hfree => exact absurd hu hnew
  | written db touched h hfree huses =>
    have hu : u ∈ db.uses.rows := hu
    rw [huses] at hu
    exact absurd hu hnew
  | moved i tx db pc hi h =>
    cases h with
    | committed g a u' hpc =>
      have hu : u ∈ (s.db.uses.save u').rows := hu
      rcases mem_save hu with rfl | ⟨hu, -⟩
      · exact ⟨tx, mem_of_getElem? hi, g, a, hpc, rfl⟩
      · exact absurd hu hnew
    | _ => exact absurd hu hnew

/-- **Codes cannot be over-used.** In every interleaving: the counter of a code is the number of its
uses and within its limit, no workspace has used a code twice, and the uses and the assignments of
redeemed codes correspond one to one. A step that records a use finds the code active and not
exhausted and the workspace owned by the actor, and its transaction had issued the conditional
increment before the code expired. -/
theorem redemptions_within_limits (cal : Calendar) (ls : List PlatformLabel) (s : PlatformState)
    (hrun : run (platformStep cal) .init ls = some s) :
    (∀ r ∈ s.db.redemptions.rows, r.used = s.db.usesOf r.id ∧ r.used ≤ r.maxUses) ∧
      (s.db.uses.rows.map fun u => (u.redemptionID, u.tenantID)).Nodup ∧
      (∀ u ∈ s.db.uses.rows, ∃! a, a ∈ s.db.assignments.rows ∧ a.isOf u) ∧
      (∀ a ∈ s.db.assignments.rows, a.source = .redeem →
        ∃! u, u ∈ s.db.uses.rows ∧ u.assignmentID = a.id) ∧
      ∀ (l : PlatformLabel) (s' : PlatformState), platformStep cal s l = some s' →
        ∀ u ∈ s'.db.uses.rows, u ∉ s.db.uses.rows →
          (∃ r, s.db.redemptions.get? u.redemptionID = some r ∧ r.status = .active ∧
            r.used < r.maxUses ∧
            ∃ tx ∈ s.txs, ∃ g ∈ tx.pc.grant?, tx.pc.use? = some u ∧
              ∀ expiresAt ∈ r.expiresAt, g.checkedAt < expiresAt) ∧
          ∃ w, s'.db.workspaces.get? u.tenantID = some w ∧
            w.ownerPlatformUserID = u.platformUserID ∧ w.status = .active := by
  have hs : PlatformInv s :=
    run_invariant' PlatformInv (fun s l s' hs h => hs.move (platformMove_of_step h))
      PlatformInv.init hrun
  refine ⟨hs.db.used, s.db.uses.nodup, ?_, ?_, ?_⟩
  · intro u hu
    obtain ⟨a, ha, hau⟩ := hs.db.assigned u hu
    refine ⟨a, ⟨ha, hau⟩, ?_⟩
    rintro b ⟨hb, hbu⟩
    have hget := Table.get?_of_mem hb
    rw [hbu.1, ← hau.1, Table.get?_of_mem ha] at hget
    exact (Option.some.inj hget).symm
  · intro a ha hredeem
    obtain ⟨u, hu, hau⟩ := hs.db.recorded a ha hredeem
    refine ⟨u, ⟨hu, hau.1.symm⟩, ?_⟩
    rintro v ⟨hv, hva⟩
    exact hs.db.sole v hv u hu (hva.trans hau.1)
  · intro l s' hstep u hu hnew
    obtain ⟨tx, htx, g, a, hpc, hs'⟩ := (platformMove_of_step hstep).new_use hu hnew
    have hok := hs.txs tx htx
    obtain ⟨r, w, hr, ⟨hactive, hused, hexpires⟩, hw, howner, hwactive, hcommit⟩ :=
      hok.commit_eq hpc
    have hg : g ∈ tx.pc.grant? := by rw [hpc]; rfl
    obtain ⟨-, hredemption, htenant, huser, -⟩ :=
      hok.use g hg a (by rw [hpc]; rfl) u (by rw [hpc]; rfl)
    constructor
    · rw [hredemption]
      exact ⟨r, hr, hactive, hused, tx, htx, g, hg, by rw [hpc]; rfl, hexpires⟩
    · refine ⟨w.renewed a, ?_, howner.trans huser.symm, hwactive⟩
      rw [hs', hcommit]
      show (s.db.workspaces.save (w.renewed a)).get? u.tenantID = _
      rw [Table.get?_save]
      exact if_pos (hw.trans htenant.symm)

end

/-- A calendar with months of thirty days. -/
def plainCalendar : Calendar where
  addMonths months base := base + months * (30 * 24 * 3600 * 1000000000)
  addYears years base := base + years * (365 * 24 * 3600 * 1000000000)

/-- Owner 7 of workspace 1 redeems a code with two uses, and has to wait for the workspace. -/
def redeemRun : List PlatformLabel :=
  [.saveWorkspace { id := 1, ownerPlatformUserID := 7, planID := 1, status := .active
                    planExpiresAt := none },
    .createRedemptions { planID := 2, durationMonths := 1, codeHashes := ["hash"], maxUses := 2
                         expiresAt := some 100 } true,
    .redeem "hash" 1 7, .statement 0 true, .statement 0 true, .wait 200, .statement 0 true,
    .statement 0 true, .statement 0 true, .statement 0 true]

theorem redemptions_within_limits_redeem :
    ∃ s, run (platformStep plainCalendar) .init redeemRun = some s ∧
      ∀ r ∈ s.db.redemptions.rows, r.used = s.db.usesOf r.id ∧ r.used ≤ r.maxUses := by
  obtain ⟨s, hs⟩ : ∃ s, run (platformStep plainCalendar) .init redeemRun = some s :=
    isSome_iff_exists.mp (by decide +kernel)
  exact ⟨s, hs, (redemptions_within_limits plainCalendar redeemRun s hs).1⟩

/-- The increment is issued before the code expires, and the transaction waits for the workspace
until it has expired: the use is recorded after the expiry. -/
theorem use_recorded_after_expiry :
    ∃ s, run (platformStep plainCalendar) .init redeemRun = some s ∧
      ∃ u ∈ s.db.uses.rows, ∃ r ∈ s.db.redemptions.rows, r.id = u.redemptionID ∧
        ∃ expiresAt ∈ r.expiresAt, expiresAt < u.createdAt := by
  have hruns : (run (platformStep plainCalendar) .init redeemRun).any
      fun s => decide (∃ u ∈ s.db.uses.rows, ∃ r ∈ s.db.redemptions.rows, r.id = u.redemptionID ∧
        ∃ expiresAt ∈ r.expiresAt, expiresAt < u.createdAt) := by
    decide +kernel
  obtain ⟨s, hs, huse⟩ := (any_eq_true _ _).mp hruns
  exact ⟨s, hs, of_decide_eq_true huse⟩

end NewApi.Platform
