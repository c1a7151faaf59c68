import Mathlib.Algebra.BigOperators.Group.List.Basic
import Mathlib.Data.List.GetD
import Mathlib.Data.List.Lex
import Meteogram.Proofs.Time.Calendar

/-!
# The seconds of the calendar

The clock goes on by seconds, and the calendar by days: after the last day of a month comes the
first of the next one, and after the last of December the first of January (`Date.next`,
`Moment.tick`). The number of a time is what the clock has ticked since the start of the calendar
(`Moment.seconds_tick`), so a time lies so many seconds behind another one exactly if the clock
ticks as often in between (`Moment.iterate_tick_eq_iff`). Times are in the order of their fields,
from the year to the second (`Moment.fields_lt_iff`).
-/

set_option autoImplicit false

namespace Meteogram.Time

namespace Date

/-! ## From day to day -/

/-- The day after a date. -/
def next (date : Date) : Date :=
  if date.day < monthLength date.year date.month then { date with day := date.day + 1 }
  else if date.month < 12 then ⟨date.year, date.month + 1, 1⟩
  else ⟨date.year + 1, 1, 1⟩

/-- The date exists in a calendar without a last year. -/
structure IsDay (date : Date) : Prop where
  year : 1 ≤ date.year
  firstMonth : 1 ≤ date.month
  lastMonth : date.month ≤ 12
  firstDay : 1 ≤ date.day
  lastDay : date.day ≤ monthLength date.year date.month

section

variable {date other : Date}

theorem isDay_of_isValid (valid : date.isValid = true) : date.IsDay := by
  obtain ⟨year, _, firstMonth, lastMonth, firstDay, lastDay⟩ := (isValid_iff date).1 valid
  exact ⟨year, firstMonth, lastMonth, firstDay, lastDay⟩

theorem one_le_monthLength {year month : Nat} (first : 1 ≤ month) (last : month ≤ 12) :
    1 ≤ monthLength year month := by
  have each : ∀ length ∈ monthLengths year, 1 ≤ length := by
    rw [monthLengths]
    cases isLeap year <;> decide
  have inside : month - 1 < (monthLengths year).length := by
    have twelve : (monthLengths year).length = 12 := rfl
    omega
  rw [monthLength, List.getD_eq_getElem _ _ inside]
  exact each _ (List.getElem_mem inside)

theorem IsDay.next (isDay : date.IsDay) : date.next.IsDay := by
  obtain ⟨year, firstMonth, lastMonth, firstDay, _⟩ := isDay
  rw [Date.next]
  split
  · next inMonth => exact ⟨year, firstMonth, lastMonth, Nat.le_add_left 1 _, inMonth⟩
  · split
    · next inYear =>
      have first : 1 ≤ date.month + 1 := Nat.le_add_left 1 _
      exact ⟨year, first, inYear, Nat.le_refl 1, one_le_monthLength first inYear⟩
    · exact ⟨Nat.le_add_left 1 _, Nat.le_refl 1, Nat.le_add_left 1 11, Nat.le_refl 1,
        one_le_monthLength (Nat.le_refl 1) (Nat.le_add_left 1 11)⟩

/-- A month starts after all days of the month before it. -/
theorem sum_take_month (year : Nat) {month : Nat} (first : 1 ≤ month) (last : month ≤ 12) :
    ((monthLengths year).take month).sum =
      ((monthLengths year).take (month - 1)).sum + monthLength year month := by
  obtain ⟨count, rfl⟩ := Nat.exists_eq_add_of_le' first
  have inside : count < (monthLengths year).length := by
    have twelve : (monthLengths year).length = 12 := rfl
    omega
  rw [List.sum_take_succ _ _ inside, Nat.add_sub_cancel, monthLength, Nat.add_sub_cancel,
    List.getD_eq_getElem _ _ inside]

/-- The days are numbered one after the other. -/
theorem number_next (isDay : date.IsDay) : date.next.number = date.number + 1 := by
  obtain ⟨year, firstMonth, lastMonth, firstDay, lastDay⟩ := isDay
  have upToMonth := sum_take_month date.year firstMonth lastMonth
  rw [Date.next]
  split
  · rw [number, number, daysBefore_eq, daysBefore_eq]
    dsimp only
    omega
  · split
    · rw [number, number, daysBefore_eq, daysBefore_eq]
      dsimp only
      rw [Nat.add_sub_cancel, upToMonth]
      omega
    · have december : date.month = 12 := by omega
      have last : date.day = monthLength date.year date.month := by omega
      rw [← last, december] at upToMonth
      have all : (monthLengths date.year).take 12 = monthLengths date.year := rfl
      rw [all, sum_monthLengths] at upToMonth
      rw [number, number, daysBefore_eq, daysBefore_eq, december]
      dsimp only
      rw [daysBeforeYear_succ year, upToMonth, List.take_zero, List.sum_nil]
      omega

end

end Date

namespace Moment

/-! ## From second to second -/

/-- The time one second later. -/
def tick (moment : Moment) : Moment :=
  if moment.second < 59 then { moment with second := moment.second + 1 }
  else if moment.minute < 59 then { moment with minute := moment.minute + 1, second := 0 }
  else if moment.hour < 23 then { moment with hour := moment.hour + 1, minute := 0, second := 0 }
  else { moment with date := moment.date.next, hour := 0, minute := 0, second := 0 }

/-- The time exists in a calendar without a last year. -/
structure IsTime (moment : Moment) : Prop where
  date : moment.date.IsDay
  hour : moment.hour < 24
  minute : moment.minute < 60
  second : moment.second < 60

section

variable {moment other : Moment}

theorem IsValid.isTime (valid : moment.IsValid) : moment.IsTime :=
  ⟨Date.isDay_of_isValid valid.date, valid.hour, valid.minute, valid.second⟩

theorem IsTime.tick (isTime : moment.IsTime) : moment.tick.IsTime := by
  obtain ⟨date, hour, minute, second⟩ := isTime
  rw [Moment.tick]
  split
  · next inMinute => exact ⟨date, hour, minute, Nat.succ_lt_succ inMinute⟩
  · split
    · next inHour => exact ⟨date, hour, Nat.succ_lt_succ inHour, Nat.zero_lt_succ _⟩
    · split
      · next inDay => exact ⟨date, Nat.succ_lt_succ inDay, Nat.zero_lt_succ _, Nat.zero_lt_succ _⟩
      · exact ⟨date.next, Nat.zero_lt_succ _, Nat.zero_lt_succ _, Nat.zero_lt_succ _⟩

theorem micro_tick (moment : Moment) : moment.tick.micro = moment.micro := by
  rw [tick]
  split_ifs <;> rfl

/-- A tick is a second. -/
theorem seconds_tick (isTime : moment.IsTime) : moment.tick.seconds = moment.seconds + 1 := by
  obtain ⟨date, hour, minute, second⟩ := isTime
  have day := Date.number_next date
  rw [tick]
  split_ifs
  all_goals
    rw [seconds, seconds, daySeconds]
    dsimp only
    omega

/-- After some ticks it is as many seconds later. -/
theorem iterate_tick (isTime : moment.IsTime) (count : Nat) :
    (tick^[count] moment).IsTime ∧ (tick^[count] moment).seconds = moment.seconds + count ∧
      (tick^[count] moment).micro = moment.micro := by
  induction count with
  | zero => exact ⟨isTime, (Nat.add_zero _).symm, rfl⟩
  | succ count ih =>
    obtain ⟨isTime', seconds, micro⟩ := ih
    rw [Function.iterate_succ_apply', seconds_tick isTime', micro_tick, seconds, micro]
    exact ⟨isTime'.tick, Nat.add_assoc _ _ _, rfl⟩

/-- A time before the end of the calendar is in it. -/
theorem IsTime.isValid (isTime : moment.IsTime) (micro : moment.micro < 1000000)
    (within : moment.seconds < endSeconds) : moment.IsValid := by
  obtain ⟨⟨year, firstMonth, lastMonth, firstDay, lastDay⟩, hour, minute, second⟩ := isTime
  have before : daysBeforeYear moment.date.year < daysBeforeYear (lastYear + 1) := by
    rw [seconds, endSeconds, daySeconds, Date.number] at within
    omega
  have last := le_of_daysBeforeYear (Nat.le_refl _) before
  exact ⟨(Date.isValid_iff _).2 ⟨year, last, firstMonth, lastMonth, firstDay, lastDay⟩, hour, minute,
    second, micro⟩

/-- The clock ticks as often from one time to another as there are seconds between them. -/
theorem iterate_tick_eq_iff (valid : moment.IsValid) (valid' : other.IsValid)
    (same : moment.micro = other.micro) {count : Nat} :
    tick^[count] moment = other ↔ moment.seconds + count = other.seconds := by
  obtain ⟨isTime, seconds, micro⟩ := iterate_tick valid.isTime count
  constructor
  · rintro rfl
    exact seconds.symm
  · intro later
    rw [later] at seconds
    have micro' := micro.trans same
    refine eq_of_seconds (isTime.isValid ?_ ?_) valid' seconds micro'
    · rw [micro']
      exact valid'.micro
    · rw [seconds]
      exact seconds_lt valid'

/-! ## The order of times -/

/-- The fields of a time, from the year to the second. -/
def fields (moment : Moment) : List Nat :=
  [moment.date.year, moment.date.month, moment.date.day, moment.hour, moment.minute, moment.second]

theorem seconds_lt_of_number (valid : moment.IsValid)
    (before : moment.date.number < other.date.number) : moment.seconds < other.seconds := by
  have hour := valid.hour
  have minute := valid.minute
  have second := valid.second
  rw [seconds, seconds, daySeconds]
  omega

/-- The seconds are told by the fields. -/
theorem seconds_eq_of_fields (same : moment.fields = other.fields) :
    moment.seconds = other.seconds := by
  simp only [fields, List.cons.injEq, and_true] at same
  obtain ⟨year, month, day, hour, minute, second⟩ := same
  rw [seconds, seconds, Date.number, Date.number, Date.daysBefore_eq, Date.daysBefore_eq, year, month,
    day, hour, minute, second]

/-- The first field that is different decides which time comes first. -/
theorem seconds_lt_of_fields (valid : moment.IsValid) (valid' : other.IsValid)
    (before : moment.fields < other.fields) : moment.seconds < other.seconds := by
  obtain ⟨date, hour, minute, second, _⟩ := id valid
  have isDay := Date.isDay_of_isValid date
  have isDay' := Date.isDay_of_isValid valid'.date
  have firstMonth := isDay.firstMonth
  have lastMonth := isDay.lastMonth
  have firstMonth' := isDay'.firstMonth
  have firstDay := isDay.firstDay
  have number : ∀ {date : Date}, date.number = daysBeforeYear date.year +
      (((monthLengths date.year).take (date.month - 1)).sum + (date.day - 1)) := rfl
  simp only [fields, List.cons_lt_cons_iff, List.not_lt_nil, and_false, or_false] at before
  rcases before with year | ⟨year, month | ⟨month, day | ⟨day, inDay⟩⟩⟩
  · exact seconds_lt_of_number valid (Date.number_lt_of_month date valid'.date (by omega))
  · exact seconds_lt_of_number valid (Date.number_lt_of_month date valid'.date (by omega))
  · refine seconds_lt_of_number valid ?_
    rw [number, number, year, month]
    omega
  · have sameDay : moment.date.number = other.date.number := by
      rw [number, number, year, month, day]
    rw [seconds, seconds, sameDay]
    omega

/-- Times are in the order of their fields. -/
theorem fields_lt_iff (valid : moment.IsValid) (valid' : other.IsValid) :
    moment.fields < other.fields ↔ moment.seconds < other.seconds := by
  refine ⟨seconds_lt_of_fields valid valid', fun before => ?_⟩
  rcases lt_trichotomy moment.fields other.fields with first | same | later
  · exact first
  · exact absurd (seconds_eq_of_fields same) (Nat.ne_of_lt before)
  · exact absurd (seconds_lt_of_fields valid' valid later) (Nat.lt_asymm before)

end

end Moment

end Meteogram.Time
