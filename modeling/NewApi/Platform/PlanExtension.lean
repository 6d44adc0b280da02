import NewApi.Platform.Redemption
import NewApi.Utils.CivilTime

/-!
# Extending a plan by months

The expiry that `assignWorkspacePlan` computes with `time.Date` and `AddDate`, on dates of the
Gregorian calendar in UTC: the first of the month `months` later, moved on to the day of the base or
to the last day of that month. `utcCalendar` is the calendar of the platform with it.
-/

namespace NewApi.Platform

open Civil

/-- An instant: a day of a month, and the nanoseconds since its midnight. -/
structure Instant where
  month : Int
  day : Int
  time : Nat
  day_pos : 1 ≤ day
  day_le : day ≤ daysIn month

/-- `time.Date` in UTC. -/
def Instant.date (month day : Int) (time : Nat) : Instant where
  month := (normalise (day.natAbs + 1) month day).1
  day := (normalise (day.natAbs + 1) month day).2
  time := time
  day_pos := (normalise_valid (Nat.lt_succ_self _)).1
  day_le := (normalise_valid (Nat.lt_succ_self _)).2

/-- `AddDate(0, months, days)`. -/
def Instant.addDate (t : Instant) (months days : Int) : Instant :=
  .date (t.month + months) (t.day + days) t.time

/-- The expiry after an extension of `base`. -/
def planExpiry (base : Instant) (months : Int) : Instant :=
  let month := Instant.date (base.month + months) 1 base.time
  month.addDate 0 (min base.day (month.addDate 1 (-1)).day - 1)

def Instant.Before (a b : Instant) : Prop :=
  a.month < b.month ∨ a.month = b.month ∧ (a.day < b.day ∨ a.day = b.day ∧ a.time < b.time)

instance (a b : Instant) : Decidable (a.Before b) := inferInstanceAs (Decidable (_ ∨ _))

lemma date_of_valid {month day : Int} {time : Nat} (hpos : 1 ≤ day) (hle : day ≤ daysIn month) :
    Instant.date month day time = ⟨month, day, time, hpos, hle⟩ := by
  simp only [Instant.date, normalise_of_valid hpos hle]

/-- The day before the first of a month is the last one of the month before. -/
lemma date_zero (month : Int) (time : Nat) :
    (Instant.date (month + 1) 0 time).day = daysIn month := by
  simp [Instant.date, normalise]

lemma planExpiry_fields (base : Instant) (months : Int) :
    (planExpiry base months).month = base.month + months ∧
      (planExpiry base months).day = min base.day (daysIn (base.month + months)) ∧
      (planExpiry base months).time = base.time := by
  have hdays := daysIn_bounds (base.month + months)
  have hpos := base.day_pos
  unfold planExpiry
  rw [date_of_valid (by omega) (by omega)]
  simp only [Instant.addDate]
  rw [show (1 : Int) + -1 = 0 from rfl, date_zero, Int.add_zero, date_of_valid (by omega) (by omega)]
  exact ⟨rfl, by dsimp only; omega, rfl⟩

/-- The extension is exact to the month, the day and the time of day, so the expiry lies after the
base and grows with the months. It does not always grow with the base: of two bases in a month, on
days that the target month does not reach, the earlier one has the later expiry when its time of day
is later. -/
theorem plan_extension_exact (base base' : Instant) (months months' : Int) (hmonths : 1 ≤ months) :
    (planExpiry base months).month = base.month + months ∧
    (planExpiry base months).day = min base.day (daysIn (base.month + months)) ∧
    (planExpiry base months).time = base.time ∧
    base.Before (planExpiry base months) ∧
    (months < months' → (planExpiry base months).Before (planExpiry base months')) ∧
    (base.Before base' →
      ((planExpiry base' months).Before (planExpiry base months) ↔
        base.month = base'.month ∧ base.day < base'.day ∧ daysIn (base.month + months) ≤ base.day ∧
          base'.time < base.time)) := by
  obtain ⟨hmonth, hday, htime⟩ := planExpiry_fields base months
  obtain ⟨hmonth', hday', htime'⟩ := planExpiry_fields base' months
  have hlater := (planExpiry_fields base months').1
  refine ⟨hmonth, hday, htime, .inl (by omega), fun hlt => .inl (by omega), fun hbefore => ?_⟩
  unfold Instant.Before at hbefore ⊢
  rw [hmonth, hmonth', hday, hday', htime, htime']
  by_cases hsame : base.month = base'.month
  · rw [← hsame]
    omega
  · omega

/-- 30 January 2026, a nanosecond after midnight. -/
def january30 : Instant := ⟨12 * 2026, 30, 1, by decide, by decide⟩

def january31 : Instant := ⟨12 * 2026, 31, 0, by decide, by decide⟩

theorem plan_extension_exact_january : (planExpiry january31 1).day = 28 :=
  (plan_extension_exact january31 january31 1 2 (by decide)).2.1

theorem plan_extension_not_monotone :
    january30.Before january31 ∧ (planExpiry january31 1).Before (planExpiry january30 1) := by
  decide

/-! ## The instants of the platform, in nanoseconds -/

def Instant.nanos (t : Instant) : Int := (firstDay t.month + t.day - 1) * 86400000000000 + t.time

def Instant.ofNanos (nanos : Int) : Instant where
  month := (dateOf (nanos / 86400000000000)).1
  day := (dateOf (nanos / 86400000000000)).2
  time := (nanos % 86400000000000).toNat
  day_pos := (dateOf_spec _).1
  day_le := (dateOf_spec _).2.1

/-- The calendar of the platform, in UTC. -/
def utcCalendar : Calendar where
  addMonths months base := (planExpiry (.ofNanos base) months).nanos
  addYears years base := ((Instant.ofNanos base).addDate (12 * years) 0).nanos

lemma nanos_ofNanos (nanos : Int) : (Instant.ofNanos nanos).nanos = nanos := by
  have hday := (dateOf_spec (nanos / 86400000000000)).2.2
  simp only [Instant.nanos, Instant.ofNanos]
  omega

/-- An assignment runs to the extension of its base, which lies after it. -/
theorem assignWorkspacePlan_expiry {workspace : Workspace} {tenantID planID months actor id now : Int}
    {source : AssignmentSource} {redemptionID : Option Int} {planOk : Bool} {a : Assignment}
    (h : assignWorkspacePlan utcCalendar workspace tenantID planID months actor source redemptionID
      planOk id now = some a) :
    a.expiresAt = (planExpiry (.ofNanos (workspace.renewalBase planID now)) months).nanos ∧
      workspace.renewalBase planID now < a.expiresAt := by
  simp only [assignWorkspacePlan, Option.ite_none_left_eq_some] at h
  obtain ⟨hmonths, -, -, -, h⟩ := h
  obtain rfl := Option.some.inj h
  refine ⟨rfl, ?_⟩
  set base := Instant.ofNanos (workspace.renewalBase planID now) with hbase
  obtain ⟨hmonth, -, htime⟩ := planExpiry_fields base months
  have hlater := firstDay_strictMono.monotone (show base.month + 1 ≤ base.month + months by omega)
  have hle := base.day_le
  have hpos := (planExpiry base months).day_pos
  rw [firstDay_succ] at hlater
  change _ < (planExpiry base months).nanos
  rw [← nanos_ofNanos (workspace.renewalBase planID now), ← hbase, Instant.nanos, Instant.nanos,
    hmonth, htime]
  omega

end NewApi.Platform
