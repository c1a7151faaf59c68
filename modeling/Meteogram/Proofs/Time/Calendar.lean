import Mathlib.Algebra.Ring.Nat
import Meteogram.Time.Calendar

/-!
# Counting days and seconds

The number of a day and the day of a number undo each other, and so do the seconds from
the start of the calendar and the time of a number of seconds. Days are found in two
steps: the year by the mean length of a year, which misses by one at most, and the month
by taking away the lengths of the months before it. The order of the months is that of
their days.
-/

set_option autoImplicit false

namespace Meteogram.Time

/-! ## Years -/

/-- The number of days in a year. -/
def yearLength (year : Nat) : Nat :=
  if isLeap year then 366 else 365

theorem isLeap_iff (year : Nat) :
    isLeap year = true ↔ year % 4 = 0 ∧ (year % 100 ≠ 0 ∨ year % 400 = 0) := by
  simp [isLeap]

theorem daysBeforeYear_succ {year : Nat} (first : 1 ≤ year) :
    daysBeforeYear (year + 1) = daysBeforeYear year + yearLength year := by
  obtain ⟨past, rfl⟩ := Nat.exists_eq_add_of_le' first
  have fours : (past + 1) / 4 = past / 4 + if (past + 1) % 4 = 0 then 1 else 0 := by
    split <;> omega
  have hundreds : (past + 1) / 100 = past / 100 + if (past + 1) % 100 = 0 then 1 else 0 := by
    split <;> omega
  have fourHundreds : (past + 1) / 400 = past / 400 + if (past + 1) % 400 = 0 then 1 else 0 := by
    split <;> omega
  have fewer : past / 100 ≤ past / 4 := by omega
  rw [daysBeforeYear, daysBeforeYear, yearLength]
  simp only [Nat.add_sub_cancel, isLeap_iff, fours, hundreds, fourHundreds]
  by_cases isFour : (past + 1) % 4 = 0
  · by_cases isHundred : (past + 1) % 100 = 0
    · by_cases isFourHundred : (past + 1) % 400 = 0
      · rw [if_pos isFour, if_pos isHundred, if_pos isFourHundred, if_pos ⟨isFour, .inr isFourHundred⟩]
        omega
      · rw [if_pos isFour, if_pos isHundred, if_neg isFourHundred,
          if_neg fun both => both.2.elim (absurd isHundred) isFourHundred]
        omega
    · have notFourHundred : (past + 1) % 400 ≠ 0 := by omega
      rw [if_pos isFour, if_neg isHundred, if_neg notFourHundred, if_pos ⟨isFour, .inl isHundred⟩]
      omega
  · have notHundred : (past + 1) % 100 ≠ 0 := by omega
    have notFourHundred : (past + 1) % 400 ≠ 0 := by omega
    rw [if_neg isFour, if_neg notHundred, if_neg notFourHundred, if_neg fun both => isFour both.1]
    omega

theorem daysBeforeYear_mono {year later : Nat} (first : 1 ≤ year) (order : year ≤ later) :
    daysBeforeYear year ≤ daysBeforeYear later := by
  induction order with
  | refl => exact Nat.le_refl _
  | step order ih =>
    rw [Nat.succ_eq_add_one, daysBeforeYear_succ (Nat.le_trans first order)]
    exact Nat.le_trans ih (Nat.le_add_right _ _)

/-- A year starts before another one ends only if it is not later. -/
theorem le_of_daysBeforeYear {year later days : Nat} (least : daysBeforeYear year ≤ days)
    (most : days < daysBeforeYear (later + 1)) : year ≤ later := by
  apply Nat.le_of_not_lt
  intro after
  have mono := daysBeforeYear_mono (Nat.le_add_left 1 later) after
  omega

namespace Date

/-- A number of days lies in the year whose days it is among. -/
theorem yearOf_eq {year days : Nat} (first : 1 ≤ year) (least : daysBeforeYear year ≤ days)
    (most : days < daysBeforeYear (year + 1)) : yearOf days = year := by
  -- The guess from the mean length of a year is wrong by one at most.
  have near : year ≤ 400 * days / 146097 + 1 + 1 ∧ 400 * days / 146097 + 1 ≤ year + 1 := by
    rw [daysBeforeYear] at least most
    omega
  rw [yearOf]
  split
  · next early =>
    have := le_of_daysBeforeYear early most
    omega
  · next notEarly =>
    have atLeast := le_of_daysBeforeYear least (Nat.lt_of_not_le notEarly)
    split
    · next here =>
      have := le_of_daysBeforeYear here most
      omega
    · next late =>
      have : ¬ (400 * days / 146097 + 1 ≤ year) := fun order =>
        late (Nat.le_trans (daysBeforeYear_mono (Nat.le_add_left 1 _) order) least)
      omega

/-- Each number of days lies in a year. -/
theorem exists_year (days : Nat) :
    ∃ year, 1 ≤ year ∧ daysBeforeYear year ≤ days ∧ days < daysBeforeYear (year + 1) := by
  induction days with
  | zero => exact ⟨1, Nat.le_refl 1, Nat.le_refl 0, by decide⟩
  | succ days ih =>
    obtain ⟨year, first, least, most⟩ := ih
    by_cases inside : days + 1 < daysBeforeYear (year + 1)
    · exact ⟨year, first, Nat.le_succ_of_le least, inside⟩
    · have next := daysBeforeYear_succ (Nat.le_add_left 1 year)
      have positive : 0 < yearLength (year + 1) := by
        rw [yearLength]
        split <;> decide
      exact ⟨year + 1, Nat.le_add_left 1 year, by omega, by omega⟩

/-! ## Months -/

/-- Days that are counted from the start of a month are found in this month. -/
theorem monthDay_sum_take (lengths : List Nat) (start : Nat) {count days : Nat}
    (inside : days < lengths.getD count 0) :
    monthDay lengths start ((lengths.take count).sum + days) = (start + count, days + 1) := by
  induction lengths generalizing start count with
  | nil => cases inside
  | cons length lengths ih =>
    cases count with
    | zero =>
      rw [List.getD_cons_zero] at inside
      rw [List.take_zero, List.sum_nil, Nat.zero_add, monthDay, if_pos inside]
      rfl
    | succ count =>
      rw [List.getD_cons_succ] at inside
      rw [List.take_succ_cons, List.sum_cons, monthDay, if_neg (by omega), Nat.add_assoc,
        Nat.add_sub_cancel_left, ih (start + 1) inside, Nat.add_assoc, Nat.add_comm 1 count]

/-- Each number of days within all months lies in one of them. -/
theorem exists_month {lengths : List Nat} {days : Nat} (inside : days < lengths.sum) :
    ∃ count rest, count < lengths.length ∧ rest < lengths.getD count 0 ∧
      (lengths.take count).sum + rest = days := by
  induction lengths generalizing days with
  | nil => cases inside
  | cons length lengths ih =>
    by_cases here : days < length
    · exact ⟨0, days, Nat.zero_lt_succ _, here, Nat.zero_add days⟩
    · rw [List.sum_cons] at inside
      have behind : days - length < lengths.sum := by omega
      obtain ⟨count, rest, listed, within, total⟩ := ih behind
      refine ⟨count + 1, rest, Nat.succ_lt_succ listed, within, ?_⟩
      rw [List.take_succ_cons, List.sum_cons]
      omega

/-- The days of a month lie before all later months. -/
theorem sum_take_lt {lengths : List Nat} {count later days : Nat} (inside : days < lengths.getD count 0)
    (order : count < later) : (lengths.take count).sum + days < (lengths.take later).sum := by
  induction lengths generalizing count later with
  | nil => cases inside
  | cons length lengths ih =>
    obtain ⟨later, rfl⟩ := Nat.exists_eq_add_of_le' (Nat.one_le_of_lt order)
    rw [List.take_succ_cons, List.sum_cons]
    cases count with
    | zero =>
      rw [List.getD_cons_zero] at inside
      rw [List.take_zero, List.sum_nil]
      omega
    | succ count =>
      rw [List.getD_cons_succ] at inside
      have := ih inside (Nat.lt_of_add_lt_add_right order)
      rw [List.take_succ_cons, List.sum_cons]
      omega

theorem sum_monthLengths (year : Nat) : (monthLengths year).sum = yearLength year := by
  rw [monthLengths, yearLength]
  cases isLeap year <;> rfl

/-! ## Dates -/

theorem isValid_iff (date : Date) : date.isValid = true ↔
    1 ≤ date.year ∧ date.year ≤ lastYear ∧ 1 ≤ date.month ∧ date.month ≤ 12 ∧
      1 ≤ date.day ∧ date.day ≤ monthLength date.year date.month := by
  simp only [isValid, Bool.and_eq_true, decide_eq_true_eq, and_assoc]

section

variable {date other : Date}

/-- The day of a date lies in its month. -/
theorem day_lt (valid : date.isValid = true) :
    date.day - 1 < (monthLengths date.year).getD (date.month - 1) 0 := by
  obtain ⟨_, _, _, _, least, most⟩ := (isValid_iff date).1 valid
  rw [monthLength] at most
  omega

theorem daysBefore_eq (date : Date) :
    date.daysBefore = ((monthLengths date.year).take (date.month - 1)).sum + (date.day - 1) := rfl

/-- A date lies in its year. -/
theorem number_lt (valid : date.isValid = true) : date.number < daysBeforeYear (date.year + 1) := by
  obtain ⟨first, _, _, last, _, _⟩ := (isValid_iff date).1 valid
  have inside := sum_take_lt (day_lt valid) (by omega : date.month - 1 < 12)
  have all : (monthLengths date.year).take 12 = monthLengths date.year := rfl
  rw [all, sum_monthLengths] at inside
  rw [number, daysBefore_eq, daysBeforeYear_succ first]
  omega

theorem ofNumber_number (valid : date.isValid = true) : ofNumber date.number = date := by
  obtain ⟨first, _, firstMonth, _, firstDay, _⟩ := (isValid_iff date).1 valid
  have year : yearOf date.number = date.year :=
    yearOf_eq first (Nat.le_add_right _ _) (number_lt valid)
  rw [ofNumber, year, number, Nat.add_sub_cancel_left, daysBefore_eq,
    monthDay_sum_take _ 1 (day_lt valid), Nat.add_sub_cancel' firstMonth, Nat.sub_add_cancel firstDay]

/-- The date of a number, in the terms of its year and its month. -/
theorem ofNumber_eq (days : Nat) : ∃ year count rest, 1 ≤ year ∧
    daysBeforeYear year ≤ days ∧ count < 12 ∧ rest < (monthLengths year).getD count 0 ∧
    daysBeforeYear year + (((monthLengths year).take count).sum + rest) = days ∧
    ofNumber days = ⟨year, 1 + count, rest + 1⟩ := by
  obtain ⟨year, first, least, most⟩ := exists_year days
  have year' := yearOf_eq first least most
  rw [daysBeforeYear_succ first, ← sum_monthLengths] at most
  obtain ⟨count, rest, listed, inside, total⟩ := exists_month (Nat.sub_lt_left_of_lt_add least most)
  refine ⟨year, count, rest, first, least, listed, inside, by omega, ?_⟩
  rw [ofNumber, year', ← total, monthDay_sum_take _ 1 inside]

theorem number_ofNumber (days : Nat) : (ofNumber days).number = days := by
  obtain ⟨year, count, rest, _, _, _, _, total, same⟩ := ofNumber_eq days
  rw [same, number, daysBefore_eq]
  simp only [Nat.add_sub_cancel, Nat.add_sub_cancel_left]
  exact total

theorem isValid_ofNumber {days : Nat} (within : days < daysBeforeYear (lastYear + 1)) :
    (ofNumber days).isValid = true := by
  obtain ⟨year, count, rest, first, least, listed, inside, _, same⟩ := ofNumber_eq days
  have last := le_of_daysBeforeYear least within
  rw [same, isValid_iff, monthLength, Nat.add_sub_cancel_left]
  have lastMonth : 1 + count ≤ 12 := by omega
  exact ⟨first, last, Nat.le_add_right 1 count, lastMonth, Nat.le_add_left 1 rest, inside⟩

/-- The months of two dates are in the order of their days. -/
theorem number_lt_of_month (valid : date.isValid = true) (valid' : other.isValid = true)
    (order : 12 * date.year + (date.month - 1) < 12 * other.year + (other.month - 1)) :
    date.number < other.number := by
  obtain ⟨first, _, firstMonth, lastMonth, _, _⟩ := (isValid_iff date).1 valid
  obtain ⟨_, _, firstMonth', lastMonth', _, _⟩ := (isValid_iff other).1 valid'
  by_cases sameYear : date.year = other.year
  · have inside := sum_take_lt (day_lt valid) (by omega : date.month - 1 < other.month - 1)
    rw [number, number, daysBefore_eq, daysBefore_eq, ← sameYear]
    omega
  · have before : date.year + 1 ≤ other.year := by omega
    calc date.number < daysBeforeYear (date.year + 1) := number_lt valid
      _ ≤ daysBeforeYear other.year := daysBeforeYear_mono (Nat.le_add_left 1 _) before
      _ ≤ other.number := Nat.le_add_right _ _

end

end Date

/-! ## Times -/

namespace Moment

/-- The time exists: its date is in the calendar, and its time of day is one. -/
structure IsValid (moment : Moment) : Prop where
  date : moment.date.isValid = true
  hour : moment.hour < 24
  minute : moment.minute < 60
  second : moment.second < 60
  micro : moment.micro < 1000000

/-- The time exists, to the minute. -/
structure IsMinute (moment : Moment) : Prop where
  valid : moment.IsValid
  second : moment.second = 0
  micro : moment.micro = 0

section

variable {moment other : Moment}

theorem isValid_iff : moment.IsValid ↔ moment.date.isValid = true ∧ moment.hour < 24 ∧
    moment.minute < 60 ∧ moment.second < 60 ∧ moment.micro < 1000000 := by
  constructor
  · rintro ⟨date, hour, minute, second, micro⟩
    exact ⟨date, hour, minute, second, micro⟩
  · rintro ⟨date, hour, minute, second, micro⟩
    exact ⟨date, hour, minute, second, micro⟩

instance : Decidable moment.IsValid := decidable_of_iff' _ isValid_iff

theorem isMinute_iff :
    moment.IsMinute ↔ moment.IsValid ∧ moment.second = 0 ∧ moment.micro = 0 := by
  constructor
  · rintro ⟨valid, second, micro⟩
    exact ⟨valid, second, micro⟩
  · rintro ⟨valid, second, micro⟩
    exact ⟨valid, second, micro⟩

instance : Decidable moment.IsMinute := decidable_of_iff' _ isMinute_iff

theorem IsValid.wholeMinute (valid : moment.IsValid) : moment.wholeMinute.IsValid :=
  ⟨valid.date, valid.hour, valid.minute, Nat.zero_lt_succ _, Nat.zero_lt_succ _⟩

/-- A time is the time of its seconds, but for the fractions of a second. -/
theorem ofSeconds_seconds (valid : moment.IsValid) :
    { ofSeconds moment.seconds with micro := moment.micro } = moment := by
  obtain ⟨date, hour, minute, second, _⟩ := valid
  have rest : moment.seconds % daySeconds =
      moment.hour * 3600 + moment.minute * 60 + moment.second := by
    rw [seconds, daySeconds]
    omega
  have days : moment.seconds / daySeconds = moment.date.number := by
    rw [seconds, daySeconds]
    omega
  rw [ofSeconds, rest, days, Date.ofNumber_number date]
  obtain ⟨date', hour', minute', second', micro'⟩ := moment
  simp only [mk.injEq, true_and, and_true]
  dsimp only at hour minute second
  omega

theorem seconds_ofSeconds (seconds : Nat) : (ofSeconds seconds).seconds = seconds := by
  rw [ofSeconds, Moment.seconds, Date.number_ofNumber, daySeconds]
  dsimp only
  omega

theorem isValid_ofSeconds {seconds : Nat} (within : seconds < endSeconds) :
    (ofSeconds seconds).IsValid where
  date := by
    rw [endSeconds] at within
    exact Date.isValid_ofNumber (Nat.div_lt_of_lt_mul (Nat.mul_comm _ _ ▸ within))
  hour := by
    rw [ofSeconds, daySeconds]
    dsimp only
    omega
  minute := by
    rw [ofSeconds]
    dsimp only
    omega
  second := Nat.mod_lt _ (by decide)
  micro := Nat.zero_lt_succ _

theorem seconds_lt (valid : moment.IsValid) : moment.seconds < endSeconds := by
  obtain ⟨date, hour, minute, second, _⟩ := valid
  obtain ⟨_, last, _⟩ := (Date.isValid_iff _).1 date
  have inside := Date.number_lt date
  have mono := daysBeforeYear_mono (Nat.le_add_left 1 _) (Nat.add_le_add_right last 1)
  rw [seconds, endSeconds, daySeconds]
  omega

/-- A time with the seconds of another one is the other one, but for the fractions. -/
theorem eq_of_seconds (valid : moment.IsValid) (valid' : other.IsValid)
    (seconds : moment.seconds = other.seconds) (micro : moment.micro = other.micro) :
    moment = other := by
  rw [← ofSeconds_seconds valid, ← ofSeconds_seconds valid', seconds, micro]

theorem IsMinute.sixty_dvd_seconds (minute : moment.IsMinute) : 60 ∣ moment.seconds := by
  rw [seconds, daySeconds, minute.second]
  omega

/-- A time is not after another one only if its seconds are not. -/
theorem seconds_le_of_atMost (valid : other.IsValid) (order : moment.atMost other = true) :
    moment.seconds ≤ other.seconds := by
  rw [atMost, decide_eq_true_eq] at order
  have := valid.micro
  omega

/-- A time is not after another one only if its day is not. -/
theorem number_le_of_atMost (valid : other.IsValid) (order : moment.atMost other = true) :
    moment.date.number ≤ other.date.number := by
  have order' := seconds_le_of_atMost valid order
  have hour := valid.hour
  have minute := valid.minute
  have second := valid.second
  rw [seconds, seconds, daySeconds] at order'
  omega

/-- Times without fractions are in the order of their seconds. -/
theorem atMost_iff_of_whole (whole : moment.micro = 0) (whole' : other.micro = 0) :
    moment.atMost other = true ↔ moment.seconds ≤ other.seconds := by
  rw [atMost, decide_eq_true_eq, whole, whole']
  omega

/-- Minutes are told apart by their timestamps. -/
theorem IsMinute.eq_of_milliseconds (minute : moment.IsMinute) (minute' : other.IsMinute)
    (same : moment.milliseconds = other.milliseconds) : moment = other := by
  have seconds : moment.seconds = other.seconds := by
    rw [milliseconds, milliseconds] at same
    omega
  exact eq_of_seconds minute.valid minute'.valid seconds (minute.micro.trans minute'.micro.symm)

/-- A time that is so many seconds later. -/
theorem shift_eq_ok_iff (valid : moment.IsValid) {seconds : Int} :
    moment.shift seconds = .ok other ↔
      other.IsValid ∧ (other.seconds : Int) = moment.seconds + seconds ∧
        other.micro = moment.micro := by
  rw [shift]
  constructor
  · intro shifted
    split at shifted
    · cases shifted
    · next within =>
      rw [Bool.or_eq_true, decide_eq_true_eq, decide_eq_true_eq, not_or] at within
      obtain rfl := Except.ok.inj shifted
      have total : ((moment.seconds + seconds).toNat : Int) = moment.seconds + seconds :=
        Int.toNat_of_nonneg (by omega)
      have inside : (moment.seconds + seconds).toNat < endSeconds := by omega
      have valid' := isValid_ofSeconds inside
      refine ⟨⟨valid'.date, valid'.hour, valid'.minute, valid'.second, valid.micro⟩, ?_, rfl⟩
      rw [← total]
      exact congrArg _ (seconds_ofSeconds _)
  · rintro ⟨valid', later, micro⟩
    have inside := seconds_lt valid'
    rw [if_neg (by simp only [Bool.or_eq_true, decide_eq_true_eq]; omega), ← later, Int.toNat_natCast,
      ← micro, ofSeconds_seconds valid']

end

end Moment

end Meteogram.Time
