import NewApi.Model.SubscriptionSchedule

/-!
# The catch-up loop of the quota reset

Every iteration of the loop replaces the base by the boundary computed from it: it ends when the base
only moves forward. The boundaries of a daily, weekly or monthly period do that where the days of the
time zone are in order (`Zone.Ordered`). Those of a custom period need not: the seconds are converted
to nanoseconds in an `int64`.
-/

namespace NewApi.Model

open Civil Relation

/-! ## The loop -/

/-- The condition of the loop. -/
abbrev Due (nextOf : Int → Int) (now b : Int) : Prop := 0 < nextOf b ∧ nextOf b ≤ now

/-- One iteration of the loop. -/
def Pass (nextOf : Int → Int) (now b b' : Int) : Prop := Due nextOf now b ∧ b' = nextOf b

/-- The loop that starts at `base` ends, and each of its iterations increases the base. -/
structure CatchUpProgresses (nextOf : Int → Int) (now base : Int) : Prop where
  ends : ∃ fuel, (catchUp nextOf now fuel base (nextOf base) false).isSome
  increases : ∀ b b', ReflTransGen (Pass nextOf now) base b → Pass nextOf now b b' → b < b'

/-- A boundary that is its own next boundary keeps the loop running. -/
lemma catchUp_stuck {nextOf : Int → Int} {now base : Int} {advanced : Bool}
    (h : nextOf base = base) (hpos : 0 < base) (hle : base ≤ now) (fuel : Nat) :
    catchUp nextOf now fuel base (nextOf base) advanced = none := by
  induction fuel generalizing advanced with
  | zero => rfl
  | succ fuel ih =>
    unfold catchUp
    rw [if_pos (by omega), h]
    exact h ▸ ih

/-! ## The boundaries of a plan -/

/-- The seconds of a custom period, as the `time.Duration` they are converted to. -/
def SubscriptionPlan.customStep (plan : SubscriptionPlan) : Int :=
  addDuration 0 plan.quotaResetCustomSeconds 1

/-- The boundary of a custom period moves forward: its nanoseconds have not wrapped around to less
than a second. -/
def SubscriptionPlan.Advances (plan : SubscriptionPlan) : Prop :=
  plan.quotaResetPeriod = .custom → 0 < plan.quotaResetCustomSeconds → 0 < plan.customStep

/-- The boundaries of the plan are computed from local dates. -/
def SubscriptionPlan.OnCalendar (plan : SubscriptionPlan) : Prop :=
  plan.quotaResetPeriod ∈ [.daily, .weekly, .monthly]

/-- The first boundary of a custom period is due. -/
def customBoundaryDue (plan : SubscriptionPlan) (sub : UserSubscription) (now : Int) : Prop :=
  0 < resetBase sub + plan.customStep ∧ resetBase sub + plan.customStep ≤ now ∧
    ¬ (0 < sub.endTime ∧ sub.endTime < resetBase sub + plan.customStep)

/-- The boundaries of a subscription to `plan` that ends at `endTime`. -/
def schedule (cal : Calendar) (plan : SubscriptionPlan) (endTime base : Int) : Int :=
  calcNextResetTime cal base plan endTime

section
variable {cal : Calendar} {sub : UserSubscription} {plan : SubscriptionPlan} {now base endTime : Int}

lemma addDuration_eq (t n unitSeconds : Int) :
    addDuration t n unitSeconds = t + addDuration 0 n unitSeconds := by
  simp [addDuration]

lemma lt_schedule {zone : Zone} (hzone : plan.OnCalendar → zone.Ordered) (hplan : plan.Advances)
    (endTime base : Int) (h : 0 < schedule (.ofZone zone) plan endTime base) :
    base < schedule (.ofZone zone) plan endTime base := by
  unfold schedule calcNextResetTime at h ⊢
  dsimp only [Calendar.ofZone] at h ⊢
  cases hperiod : plan.quotaResetPeriod <;> rw [hperiod] at h <;> dsimp only at h ⊢
  case never => omega
  case daily =>
    have hday := (hzone (by simp [SubscriptionPlan.OnCalendar, hperiod])).lt_addDays base le_rfl
    split_ifs at h ⊢ <;> omega
  case weekly =>
    have hdays : 1 ≤ 8 - weekday (zone.day base) := by
      unfold weekday
      omega
    have hday := (hzone (by simp [SubscriptionPlan.OnCalendar, hperiod])).lt_addDays base hdays
    split_ifs at h ⊢ <;> omega
  case monthly =>
    have hmonth := (hzone (by simp [SubscriptionPlan.OnCalendar, hperiod])).lt_addMonths base
    split_ifs at h ⊢ <;> omega
  case custom =>
    have hstep := hplan hperiod
    rw [addDuration_eq] at h ⊢
    unfold SubscriptionPlan.customStep at hstep
    split_ifs at h ⊢ <;> omega

/-- A plan that does not advance has a custom period. -/
lemma schedule_of_not_advances (hplan : ¬ plan.Advances) : schedule cal plan endTime base =
    if 0 < endTime ∧ endTime < base + plan.customStep then 0 else base + plan.customStep := by
  obtain ⟨hcustom, hpos, -⟩ : plan.quotaResetPeriod = .custom ∧
      0 < plan.quotaResetCustomSeconds ∧ ¬ 0 < plan.customStep := by
    simpa [SubscriptionPlan.Advances] using hplan
  unfold schedule calcNextResetTime
  simp only [hcustom, addDuration_eq base]
  rw [if_neg (by omega)]
  rfl

lemma schedule_le_of_not_advances (hplan : ¬ plan.Advances)
    (h : 0 < schedule cal plan endTime base) : schedule cal plan endTime base ≤ base := by
  have hstep : ¬ 0 < plan.customStep := fun hpos => hplan fun _ _ => hpos
  rw [schedule_of_not_advances hplan] at h ⊢
  split_ifs at h ⊢ <;> omega

lemma due_iff_of_not_advances (cal : Calendar) (hplan : ¬ plan.Advances) :
    Due (schedule cal plan sub.endTime) now (resetBase sub) ↔ customBoundaryDue plan sub now := by
  unfold Due customBoundaryDue
  rw [schedule_of_not_advances hplan]
  split_ifs <;> omega

/-- UTC+8. -/
def eightHoursEast : Zone := ⟨fun _ => 28800⟩

def dailyPlan : SubscriptionPlan := { tenSecondPlan with quotaResetPeriod := .daily }

/-- America/Santiago in 2024: the clocks go from 24:00 of 7 September to 01:00. -/
def santiago : Zone := ⟨fun t => if t < 1725768000 then -14400 else -10800⟩

end

end NewApi.Model
