import NewApi.Model.SubscriptionUsageTheorems

/-!
# The schedule after an administrative reset

`resetUserSubscriptionTx` with `advanceResetTime` starts the period of a subscription anew. Its next
boundary is then stored, unless there is none before the subscription ends: both reset times are
zero in that case, which `maybeResetUserSubscriptionWithPlanTx` takes for a schedule that has never
been computed, and computes it from the start of the subscription.
-/

namespace NewApi.Model

open Runs

/-! ## What happens to the row later -/

inductive RowStep
  /-- a pre-consumption, a settlement or a refund leaves this amount -/
  | use (amountUsed : Nat)
  | maybeReset (now : Int)
deriving DecidableEq

def rowStep (cal : Calendar) (plan : SubscriptionPlan) (sub : UserSubscription) :
    RowStep → Option UserSubscription
  | .use amountUsed => some { sub with amountUsed := amountUsed }
  | .maybeReset now =>
    match maybeResetUserSubscriptionWithPlanTx cal sub plan now with
    | .ok sub => some sub
    | .error _ => none

/-- The step is a scheduled reset that clears the used amount. -/
def RowStep.resets (cal : Calendar) (plan : SubscriptionPlan) (sub : UserSubscription) :
    RowStep → Bool
  | .use _ => false
  | .maybeReset now => isResetDue cal sub plan now

def RowStep.within (t horizon : Int) : RowStep → Prop
  | .use _ => True
  | .maybeReset now => t ≤ now ∧ now < horizon

/-- The next boundary from an administrative reset at `t`, or the end of the subscription if there is
none. -/
def resetHorizon (cal : Calendar) (sub : UserSubscription) (plan : SubscriptionPlan) (t : Int) :
    Int :=
  if (resetUserSubscriptionTx cal sub plan t true).nextResetTime = 0 then sub.endTime
  else (resetUserSubscriptionTx cal sub plan t true).nextResetTime

/-- No scheduled reset clears the used amount between an administrative reset at `t` and the next
boundary from `t`. -/
def ResetNotUndone (cal : Calendar) (sub : UserSubscription) (plan : SubscriptionPlan) (t : Int) :
    Prop :=
  ∀ ls : List RowStep, (∀ l ∈ ls, l.within t (resetHorizon cal sub plan t)) →
    Along (rowStep cal plan) (fun sub l => l.resets cal plan sub = false)
      (resetUserSubscriptionTx cal sub plan t true) ls

/-- There is a next boundary from `t`, or none between the start and the end, or the subscription is
over. -/
def ScheduleKept (cal : Calendar) (sub : UserSubscription) (plan : SubscriptionPlan) (t : Int) :
    Prop :=
  calcNextResetTime cal t plan sub.endTime ≠ 0 ∨
    calcNextResetTime cal sub.startTime plan sub.endTime ≤ 0 ∨
    sub.endTime ≤ calcNextResetTime cal sub.startTime plan sub.endTime ∨ sub.endTime ≤ t

section
variable {cal : Calendar} {sub sub' : UserSubscription} {plan : SubscriptionPlan} {now t : Int}

/-! ## When no reset is due -/

/-- The instant from which the next boundary is computed. -/
def resetBase (sub : UserSubscription) : Int :=
  if sub.lastResetTime ≤ 0 then sub.startTime else sub.lastResetTime

lemma maybeReset_of_lt_next (h : 0 < sub.nextResetTime) (hnow : now < sub.nextResetTime) :
    maybeResetUserSubscriptionWithPlanTx cal sub plan now = .ok sub := by
  rw [maybeResetUserSubscriptionWithPlanTx, if_pos ⟨h, hnow⟩]

/-- The loop stops at once when the boundary from its base is not due. -/
lemma catchUp_not_due (nextOf : Int → Int) {base : Int}
    (h : ¬ (0 < nextOf base ∧ nextOf base ≤ now)) :
    catchUp nextOf now (catchUpFuel now base) base (nextOf base) false =
      some (base, nextOf base, false) := by
  unfold catchUpFuel catchUp
  rw [if_neg h]

section
variable (h : ¬ (0 < calcNextResetTime cal
  (resetBase sub) plan sub.endTime ∧ calcNextResetTime cal (resetBase sub) plan sub.endTime ≤ now))
include h

lemma isResetDue_of_not_due :
    isResetDue cal sub plan now = false := by
  have hloop := catchUp_not_due (fun base => calcNextResetTime cal base plan sub.endTime) h
  unfold resetBase at hloop
  simp only [isResetDue, hloop]
  simp

/-- Nothing but the used amount changes, or the base is stored as the last reset. -/
lemma maybeReset_not_due
    (hreset : maybeResetUserSubscriptionWithPlanTx cal sub plan now = .ok sub') :
    sub'.startTime = sub.startTime ∧ sub'.endTime = sub.endTime ∧
      (sub'.lastResetTime = sub.lastResetTime ∨ sub'.lastResetTime = resetBase sub) := by
  have hloop := catchUp_not_due (fun base => calcNextResetTime cal base plan sub.endTime) h
  unfold maybeResetUserSubscriptionWithPlanTx at hreset
  rw [show (if sub.lastResetTime ≤ 0 then sub.startTime else sub.lastResetTime) = resetBase sub
    from rfl] at hreset
  simp only [hloop] at hreset
  split at hreset
  · cases hreset
    exact ⟨rfl, rfl, .inl rfl⟩
  split at hreset
  · cases hreset
    exact ⟨rfl, rfl, .inl rfl⟩
  rw [if_neg (by decide)] at hreset
  split at hreset <;> cases hreset
  · exact ⟨rfl, rfl, .inr rfl⟩
  · exact ⟨rfl, rfl, .inl rfl⟩

end

/-! ## Runs without a reset -/

variable {ls : List RowStep}

/-- A condition on the row under which no step resets it, and which every step keeps, holds along
every run. -/
lemma along_no_reset {P : UserSubscription → Prop} {horizon : Int}
    (huse : ∀ sub amountUsed, P sub → P { sub with amountUsed := amountUsed })
    (hdue : ∀ sub now, P sub → t ≤ now → now < horizon → isResetDue cal sub plan now = false)
    (hreset : ∀ sub sub' now, P sub → t ≤ now → now < horizon →
      maybeResetUserSubscriptionWithPlanTx cal sub plan now = .ok sub' → P sub')
    (hls : ∀ l ∈ ls, l.within t horizon) (hsub : P sub) :
    Along (rowStep cal plan) (fun sub l => l.resets cal plan sub = false) sub ls := by
  induction ls generalizing sub with
  | nil => trivial
  | cons l ls ih =>
    obtain ⟨hl, hrest⟩ := List.forall_mem_cons.mp hls
    cases l with
    | use amountUsed => exact ⟨rfl, ih hrest (huse sub amountUsed hsub)⟩
    | maybeReset now =>
      refine ⟨hdue sub now hsub hl.1 hl.2, ?_⟩
      simp only [rowStep]
      rcases h : maybeResetUserSubscriptionWithPlanTx cal sub plan now with e | sub'
      · trivial
      · exact ih hrest (hreset sub sub' now hsub hl.1 hl.2 h)

/-- Without a boundary between start and end, the schedule that is computed from the start has no
reset in it either. -/
lemma along_of_no_boundary (hlast : sub.lastResetTime = 0)
    (hstart : calcNextResetTime cal sub.startTime plan sub.endTime ≤ 0 ∨
      sub.endTime ≤ calcNextResetTime cal sub.startTime plan sub.endTime)
    (hls : ∀ l ∈ ls, l.within t sub.endTime) :
    Along (rowStep cal plan) (fun sub l => l.resets cal plan sub = false) sub ls := by
  have hnot : ∀ row now, row.startTime = sub.startTime ∧ row.endTime = sub.endTime ∧
      resetBase row = sub.startTime → now < sub.endTime →
      ¬ (0 < calcNextResetTime cal (resetBase row) plan row.endTime ∧
        calcNextResetTime cal (resetBase row) plan row.endTime ≤ now) := by
    rintro row now ⟨-, hend, hbase⟩ hnow ⟨hpos, hle⟩
    rw [hbase, hend] at hpos hle
    omega
  refine along_no_reset (P := fun row => row.startTime = sub.startTime ∧
    row.endTime = sub.endTime ∧ resetBase row = sub.startTime) ?_ ?_ ?_ hls ⟨rfl, rfl, ?_⟩
  · exact fun _ _ h => h
  · intro row now h _ hnow
    exact isResetDue_of_not_due (hnot row now h hnow)
  · intro row row' now h _ hnow hreset
    obtain ⟨hstart', hend', hlast'⟩ := maybeReset_not_due (hnot row now h hnow) hreset
    refine ⟨hstart'.trans h.1, hend'.trans h.2.1, ?_⟩
    have hbase := h.2.2
    unfold resetBase at hbase hlast' ⊢
    rcases hlast' with hlast' | hlast'
    · rw [hlast', hstart']
      exact hbase
    · rw [hlast', hbase, hstart', h.1, ite_self]
  · rw [resetBase, if_pos (by omega)]

/-! ## The reset is not undone -/

lemma resetUserSubscriptionTx_last (h : calcNextResetTime cal t plan sub.endTime = 0) :
    (resetUserSubscriptionTx cal sub plan t true).lastResetTime = 0 := by
  show (if 0 < calcNextResetTime cal t plan sub.endTime then t else 0) = 0
  rw [if_neg (by omega)]

theorem ScheduleKept.resetNotUndone (h : ScheduleKept cal sub plan t) :
    ResetNotUndone cal sub plan t := by
  intro ls hls
  by_cases hzero : calcNextResetTime cal t plan sub.endTime = 0
  · rw [show resetHorizon cal sub plan t = sub.endTime from if_pos hzero] at hls
    have hlast := resetUserSubscriptionTx_last hzero
    rcases h with hne | hstart | hstart | hover
    · exact absurd hzero hne
    · exact along_of_no_boundary hlast (.inl hstart) hls
    · exact along_of_no_boundary hlast (.inr hstart) hls
    -- no instant is left
    refine along_no_reset (P := fun _ => True) (fun _ _ h => h) ?_
      (fun _ _ _ _ _ _ _ => trivial) hls trivial
    intro row now _ hlow hhigh
    omega
  · rw [show resetHorizon cal sub plan t =
      (resetUserSubscriptionTx cal sub plan t true).nextResetTime from if_neg hzero] at hls
    by_cases hpos : 0 < (resetUserSubscriptionTx cal sub plan t true).nextResetTime
    · -- as long as the next boundary is ahead, the row keeps it
      refine along_no_reset (P := fun row => row.nextResetTime
        = (resetUserSubscriptionTx cal sub plan t true).nextResetTime) (fun _ _ h => h) ?_ ?_ hls rfl
      · intro row now h _ hnow
        simp [isResetDue, h, hpos, hnow]
      · intro row row' now h _ hnow hreset
        rw [maybeReset_of_lt_next (by omega) (by omega)] at hreset
        cases hreset
        exact h
    refine along_no_reset (P := fun _ => True) (fun _ _ h => h) ?_ (fun _ _ _ _ _ _ _ => trivial)
      hls trivial
    intro row now _ _ hnow
    exact isResetDue_of_not_due (by omega)

lemma catchUp_advanced {nextOf : Int → Int} {fuel : Nat} {base next : Int} {r : Int × Int × Bool}
    (h : catchUp nextOf now fuel base next true = some r) : r.2.2 = true := by
  induction fuel generalizing base next with
  | zero => cases h
  | succ fuel ih =>
    unfold catchUp at h
    split at h
    · exact ih h
    · cases h
      rfl

/-- A boundary that has passed since the start makes the row due. -/
lemma isResetDue_of_boundary (hnext : sub.nextResetTime = 0) (hlast : sub.lastResetTime = 0)
    (hforward : ∀ b, 0 < calcNextResetTime cal b plan sub.endTime →
      b < calcNextResetTime cal b plan sub.endTime)
    (hpos : 0 < calcNextResetTime cal sub.startTime plan sub.endTime)
    (hle : calcNextResetTime cal sub.startTime plan sub.endTime ≤ now) :
    isResetDue cal sub plan now = true := by
  have hperiod : plan.quotaResetPeriod ≠ .never := by
    intro hnever
    simp only [calcNextResetTime, hnever, Int.lt_irrefl] at hpos
  have hloop : (catchUp (fun base => calcNextResetTime cal base plan sub.endTime) now
      (catchUpFuel now sub.startTime) sub.startTime
      (calcNextResetTime cal sub.startTime plan sub.endTime) false).any fun r => r.2.2 := by
    unfold catchUpFuel catchUp
    rw [if_pos ⟨hpos, hle⟩]
    obtain ⟨r, hr⟩ := Option.isSome_iff_exists.mp (@catchUp_isSome now _ hforward
      ((now - sub.startTime).toNat + sub.startTime.toNat + 1)
      (calcNextResetTime cal sub.startTime plan sub.endTime) true (by omega))
    rw [hr]
    exact catchUp_advanced hr
  simp only [isResetDue, hnext, hlast, Int.lt_irrefl, false_and, not_false_eq_true, le_refl,
    if_true, true_and, ne_eq, hperiod, decide_eq_true_eq]
  exact hloop

theorem ResetNotUndone.scheduleKept
    (hforward : ∀ b, 0 < calcNextResetTime cal b plan sub.endTime →
      b < calcNextResetTime cal b plan sub.endTime)
    (h : ResetNotUndone cal sub plan t) : ScheduleKept cal sub plan t := by
  by_contra hnot
  simp only [ScheduleKept, not_or, not_le, ne_eq, not_not] at hnot
  obtain ⟨hnext, hpos, hlt, ht⟩ := hnot
  have hzero : (resetUserSubscriptionTx cal sub plan t true).nextResetTime = 0 := hnext
  have hwithin : ∀ l ∈ [RowStep.maybeReset
      (max t (calcNextResetTime cal sub.startTime plan sub.endTime))],
      l.within t (resetHorizon cal sub plan t) := by
    intro l hl
    obtain rfl := List.mem_singleton.mp hl
    rw [show resetHorizon cal sub plan t = sub.endTime from if_pos hzero]
    exact ⟨by omega, by omega⟩
  have hnotdue := (h _ hwithin).1
  have hdue : isResetDue cal (resetUserSubscriptionTx cal sub plan t true) plan
      (max t (calcNextResetTime cal sub.startTime plan sub.endTime)) = true :=
    isResetDue_of_boundary hzero (resetUserSubscriptionTx_last hnext) hforward hpos (le_max_right t _)
  exact Bool.false_ne_true (hnotdue.symm.trans hdue)

/-- **An administrative reset is not undone** exactly when there is a next boundary from `t`, or no
boundary lies between the start and the end of the subscription, or it is over; where every boundary
lies after the instant it is computed from. -/
theorem admin_reset_kept_iff (cal : Calendar) (sub : UserSubscription) (plan : SubscriptionPlan)
    (t : Int) :
    (ScheduleKept cal sub plan t → ResetNotUndone cal sub plan t) ∧
      ((∀ b, 0 < calcNextResetTime cal b plan sub.endTime →
          b < calcNextResetTime cal b plan sub.endTime) →
        ResetNotUndone cal sub plan t → ScheduleKept cal sub plan t) :=
  ⟨ScheduleKept.resetNotUndone, ResetNotUndone.scheduleKept⟩

end

/-- A plan with a reset every ten seconds. -/
def tenSecondPlan : SubscriptionPlan where
  id := 1
  title := ""
  durationUnit := .custom
  durationValue := 0
  customSeconds := 25
  allowWalletOverflow := none
  maxPurchasePerUser := 0
  upgradeGroup := ""
  downgradeGroup := ""
  totalAmount := 1000
  quotaResetPeriod := .custom
  quotaResetCustomSeconds := 10

/-- A subscription to it from 100 to 125. -/
def tenSecondSubscription : UserSubscription where
  id := 1
  userId := 1
  planId := 1
  amountTotal := 1000
  amountUsed := 900
  startTime := 100
  endTime := 125
  status := .active
  lastResetTime := 110
  nextResetTime := 120
  upgradeGroup := ""
  prevUserGroup := ""
  downgradeGroup := ""
  allowWalletOverflow := true
  id_pos := Nat.one_pos

theorem admin_reset_kept_iff_early :
    ScheduleKept plainCalendar tenSecondSubscription tenSecondPlan 112 ∧
      ResetNotUndone plainCalendar tenSecondSubscription tenSecondPlan 112 := by
  have hkept : ScheduleKept plainCalendar tenSecondSubscription tenSecondPlan 112 :=
    .inl (by decide)
  exact ⟨hkept, (admin_reset_kept_iff _ _ _ _).1 hkept⟩

/-- The reset at 118 finds no boundary before the end. A second later the amount that has been used
since is cleared once more, by the boundary at 110. -/
theorem admin_reset_undone :
    let reset := resetUserSubscriptionTx plainCalendar tenSecondSubscription tenSecondPlan 118 true
    reset.nextResetTime = 0 ∧
      ∃ sub, maybeResetUserSubscriptionWithPlanTx plainCalendar { reset with amountUsed := 700 }
        tenSecondPlan 119 = .ok sub ∧ sub.amountUsed = 0 := by
  refine ⟨by decide, _, rfl, by decide⟩

end NewApi.Model
