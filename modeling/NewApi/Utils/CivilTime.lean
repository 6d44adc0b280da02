import Mathlib

/-!
# Dates, and local time

Dates of the Gregorian calendar: months are counted from January of the year 0, and days from
1 January 1970. A zone gives the offset of local time at every instant, in seconds; a local time is
turned into an instant as `time.Date` of Go does, also where a transition skips or repeats it.
-/

namespace NewApi.Civil

/-! ## Dates -/

/-- The days of a month. -/
def daysIn (month : Int) : Int :=
  let year := month / 12
  if month % 12 = 1 then
    if year % 4 = 0 ∧ (year % 100 ≠ 0 ∨ year % 400 = 0) then 29 else 28
  else if month % 12 = 3 ∨ month % 12 = 5 ∨ month % 12 = 8 ∨ month % 12 = 10 then 30
  else 31

/-- A day that is out of range carries over into the months around it. -/
def normalise : Nat → Int → Int → Int × Int
  | 0, month, day => (month, day)
  | fuel + 1, month, day =>
    if day < 1 then normalise fuel (month - 1) (day + daysIn (month - 1))
    else if daysIn month < day then normalise fuel (month + 1) (day - daysIn month)
    else (month, day)

/-- The first day of a month. Years are counted from March here, so that a leap day is the last day
of a year. -/
def firstDay (month : Int) : Int :=
  let year := (month - 2) / 12
  365 * year + year / 4 - year / 100 + year / 400 + (153 * ((month - 2) % 12) + 2) / 5 - 719468

/-- The month and the day of the month: 400 years have 4800 months and 146097 days, which gives a
month close by. -/
def dateOf (day : Int) : Int × Int :=
  let month := 23640 + day * 4800 / 146097
  normalise ((day - firstDay month + 1).natAbs + 1) month (day - firstDay month + 1)

/-- Monday is 1 and Sunday 7. -/
def weekday (day : Int) : Int := (day + 3) % 7 + 1

lemma daysIn_bounds (month : Int) : 28 ≤ daysIn month ∧ daysIn month ≤ 31 := by
  unfold daysIn
  dsimp only
  split_ifs <;> omega

lemma normalise_of_valid {month day : Int} (hpos : 1 ≤ day) (hle : day ≤ daysIn month)
    (fuel : Nat) : normalise fuel month day = (month, day) := by
  cases fuel with
  | zero => rfl
  | succ fuel => rw [normalise, if_neg (by omega), if_neg (by omega)]

lemma normalise_valid {fuel : Nat} {month day : Int} (h : day.natAbs < fuel) :
    1 ≤ (normalise fuel month day).2 ∧
      (normalise fuel month day).2 ≤ daysIn (normalise fuel month day).1 := by
  induction fuel generalizing month day with
  | zero => omega
  | succ fuel ih =>
    have hdays := daysIn_bounds month
    have hbefore := daysIn_bounds (month - 1)
    unfold normalise
    split_ifs
    · by_cases hpos : 1 ≤ day + daysIn (month - 1)
      · rw [normalise_of_valid hpos (by omega)]
        exact ⟨hpos, by dsimp only; omega⟩
      · exact ih (by omega)
    · exact ih (by omega)
    · exact ⟨by dsimp only; omega, by dsimp only; omega⟩

lemma firstDay_succ (month : Int) : firstDay (month + 1) = firstDay month + daysIn month := by
  obtain ⟨year, r, hr, rfl⟩ : ∃ year r : Int, (0 ≤ r ∧ r < 12) ∧ month = 12 * year + r :=
    ⟨month / 12, month % 12, by omega, by omega⟩
  have hyear : (12 * year + r) / 12 = year := by omega
  have hmonth : (12 * year + r) % 12 = r := by omega
  unfold firstDay daysIn
  dsimp only
  rw [hyear, hmonth]
  obtain ⟨hlo, hhi⟩ := hr
  interval_cases r <;> simp only [reduceIte, Int.reduceEq, or_self, or_true, or_false] <;> omega

lemma firstDay_strictMono : StrictMono firstDay := by
  apply strictMono_int_of_lt_succ
  intro month
  have := daysIn_bounds month
  rw [firstDay_succ]
  omega

/-- Carrying over does not change which day it is. -/
lemma firstDay_normalise (fuel : Nat) (month day : Int) :
    firstDay (normalise fuel month day).1 + (normalise fuel month day).2
      = firstDay month + day := by
  induction fuel generalizing month day with
  | zero => rfl
  | succ fuel ih =>
    have hsucc := firstDay_succ month
    have hpred := firstDay_succ (month - 1)
    rw [Int.sub_add_cancel] at hpred
    unfold normalise
    split_ifs
    · rw [ih]
      omega
    · rw [ih]
      omega
    · rfl

/-- The date of a day is a date, and no other day has it. -/
lemma dateOf_spec (day : Int) : 1 ≤ (dateOf day).2 ∧ (dateOf day).2 ≤ daysIn (dateOf day).1 ∧
    firstDay (dateOf day).1 + (dateOf day).2 = day + 1 := by
  obtain ⟨hpos, hle⟩ := @normalise_valid _ (23640 + day * 4800 / 146097) _
    (Nat.lt_succ_self (day - firstDay (23640 + day * 4800 / 146097) + 1).natAbs)
  refine ⟨hpos, hle, (firstDay_normalise _ _ _).trans ?_⟩
  omega

lemma le_month_dateOf {month day : Int} (h : firstDay month ≤ day) : month ≤ (dateOf day).1 := by
  obtain ⟨-, hle, hday⟩ := dateOf_spec day
  have hsucc := firstDay_succ (dateOf day).1
  exact Int.lt_add_one_iff.mp (firstDay_strictMono.lt_iff_lt.mp (by omega))

/-! ## Local time -/

/-- A time zone, as the offset from UTC at each instant. -/
structure Zone where
  offset : Int → Int

namespace Zone

variable (z : Zone)

def localTime (t : Int) : Int := t + z.offset t

/-- The local day of an instant. -/
def day (t : Int) : Int := z.localTime t / 86400

/-- `time.Date` of a local time. The offset is first looked up as if the local time were UTC. -/
def date (time : Int) : Int :=
  if z.offset time = 0 then time else time - z.offset (time - z.offset time)

/-- 00:00 of a day. -/
def midnight (day : Int) : Int := z.date (86400 * day)

/-- `AddDate(0, 0, days)`. -/
def addDays (t days : Int) : Int := z.date (z.localTime t + 86400 * days)

/-- `AddDate(0, months, 0)`. -/
def addMonths (t months : Int) : Int :=
  let date := dateOf (z.day t)
  z.date (86400 * (firstDay (date.1 + months) + date.2 - 1) + z.localTime t % 86400)

/-- A date comes after every instant of the days before it. It does not if a transition skips the
midnight of a zone behind UTC, which `time.Date` takes for the last hour of the day before, or goes
back over a midnight, so that instants of a day come after some of the next. -/
def Ordered : Prop := ∀ t time, z.day t < time / 86400 → t < z.date time

variable {z} (h : z.Ordered)
include h

lemma Ordered.le_day_midnight (day : Int) : day ≤ z.day (z.midnight day) := by
  by_contra hbefore
  exact lt_irrefl _ (h (z.midnight day) (86400 * day) (by omega))

lemma Ordered.lt_addDays (t : Int) {days : Int} (hdays : 1 ≤ days) :
    t < z.addDays (z.midnight (z.day t)) days := by
  have hday : z.day t ≤ z.localTime (z.midnight (z.day t)) / 86400 := h.le_day_midnight (z.day t)
  apply h
  omega

lemma Ordered.lt_addMonths (t : Int) :
    t < z.addMonths (z.midnight (firstDay (dateOf (z.day t)).1)) 1 := by
  obtain ⟨-, hle, hday⟩ := dateOf_spec (z.day t)
  obtain ⟨hpos, -, -⟩ := dateOf_spec (z.day (z.midnight (firstDay (dateOf (z.day t)).1)))
  have hmonth := le_month_dateOf (h.le_day_midnight (firstDay (dateOf (z.day t)).1))
  have hnext := firstDay_strictMono.monotone (Int.add_le_add_right hmonth 1)
  rw [firstDay_succ] at hnext
  apply h
  omega

end Zone

/-- A zone with one offset for ever is ordered. -/
lemma Zone.ordered_of_const (offset : Int) : Zone.Ordered ⟨fun _ => offset⟩ := by
  intro t time hday
  simp only [Zone.day, Zone.localTime, Zone.date] at hday ⊢
  split_ifs <;> omega

end NewApi.Civil
