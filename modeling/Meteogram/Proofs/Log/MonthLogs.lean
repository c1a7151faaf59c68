import Meteogram.Log.Read
import Meteogram.Proofs.Time.Calendar

/-!
# The logs of the months that a window covers

Each entry of a log has a time that exists, to the minute. A run reads the logs of all
months from the start of its window to its end, so each entry in the log of its month is found if
its time lies in the window (`mem_of_readMonths`), and no entry outside is
(`within_of_readMonths`).
-/

set_option autoImplicit false

namespace Meteogram.Log

open Text Time

/-! ## The times of entries -/

/-- A part of a date leaves the time of day as it is. -/
theorem read?_of_date {part : Part} (ofDate : part ∈ slashDate) {sofar next : Moment}
    {cs rest : List Char} (found : part.read? sofar cs = some (next, rest)) :
    ∃ date, next = { sofar with date } := by
  have number : ∀ {read : Option (Nat × List Char)} {change : Nat × List Char → Moment × List Char},
      (∀ pair, ∃ date, (change pair).1 = { sofar with date }) →
      read.map change = some (next, rest) → ∃ date, next = { sofar with date } := by
    intro read change dates found
    obtain ⟨pair, _, same⟩ := Option.map_eq_some_iff.1 found
    obtain ⟨date, changed⟩ := dates pair
    rw [same] at changed
    exact ⟨date, changed⟩
  have mark : (Part.mark '/').read? sofar cs = some (next, rest) →
      ∃ date, next = { sofar with date } := by
    intro found
    cases cs with
    | nil => cases found
    | cons c cs =>
      rw [Part.read?] at found
      split at found
      · cases found
        exact ⟨_, rfl⟩
      · cases found
  simp only [slashDate, List.mem_cons, List.not_mem_nil, or_false] at ofDate
  rcases ofDate with rfl | rfl | rfl | rfl | rfl
  · exact number (fun _ => ⟨_, rfl⟩) found
  · exact mark found
  · exact number (fun _ => ⟨_, rfl⟩) found
  · exact mark found
  · exact number (fun _ => ⟨_, rfl⟩) found

theorem readParts?_of_date {parts : List Part} (ofDate : parts ⊆ slashDate)
    {sofar last : Moment} {cs rest : List Char}
    (found : readParts? parts sofar cs = some (last, rest)) : ∃ date, last = { sofar with date } := by
  induction parts generalizing sofar cs with
  | nil =>
    cases found
    exact ⟨_, rfl⟩
  | cons part parts ih =>
    obtain ⟨⟨next, behind⟩, read, found⟩ := Option.bind_eq_some_iff.1 found
    obtain ⟨date, rfl⟩ := read?_of_date (ofDate List.mem_cons_self) read
    obtain ⟨date', rfl⟩ := ih (fun part member => ofDate (List.mem_cons_of_mem _ member)) found
    exact ⟨date', rfl⟩

/-- A date is read as the start of a day. -/
theorem readDate_ok {text : String} {day : Moment} (found : readDate text = .ok day) :
    ∃ date : Date, date.isValid = true ∧ day = Moment.ofDate date := by
  rw [readDate] at found
  cases read : read? slashDate (String.ofList (text.toList.map fun c =>
      if c = '-' || c = '.' then '/' else c)) with
  | none =>
    rw [read] at found
    cases found
  | some moment =>
    rw [read] at found
    obtain rfl := Except.ok.inj found
    obtain ⟨⟨last, rest⟩, parts, checked⟩ := Option.bind_eq_some_iff.1 read
    dsimp only at checked
    split at checked
    · next holds =>
      obtain rfl := Option.some.inj checked
      obtain ⟨date, rfl⟩ := readParts?_of_date (List.Subset.refl _) parts
      rw [Bool.and_eq_true, Bool.and_eq_true] at holds
      exact ⟨date, holds.1.2, rfl⟩
    · cases checked

/-- A time of day is one of the day, to the minute. -/
theorem isMinute_of_atTime {date : Date} (valid : date.isValid = true) {text : String}
    {moment : Moment} (found : atTime (Moment.ofDate date) text = .ok moment) : moment.IsMinute := by
  rw [atTime] at found
  split at found
  · next hourText minuteText _ _ =>
    obtain ⟨hour, _, found⟩ := bind_eq_ok.1 found
    obtain ⟨minute, _, found⟩ := bind_eq_ok.1 found
    split at found
    · cases found
    · split at found
      · next within =>
        obtain rfl := Except.ok.inj found
        simp only [Bool.and_eq_true, decide_eq_true_eq] at within
        refine ⟨⟨valid, ?_, ?_, Nat.zero_lt_succ _, Nat.zero_lt_succ _⟩, rfl, rfl⟩
        · dsimp only
          omega
        · dsimp only
          omega
      · cases found
  · cases found

/-- The time of an entry exists, to the minute. In the log of days it is the start of a day. -/
theorem isMinute_of_readLine {kind : Kind} {line : String} {entry : Entry}
    (found : readLine kind line = .ok entry) : entry.time.IsMinute := by
  rw [readLine] at found
  split at found
  · cases found
  · obtain ⟨moment, time, same⟩ := bind_eq_ok.1 found
    obtain rfl := Except.ok.inj same
    obtain ⟨start, day, time⟩ := bind_eq_ok.1 time
    obtain ⟨date, valid, rfl⟩ := readDate_ok day
    cases kind with
    | daily =>
      obtain rfl := Except.ok.inj time
      exact ⟨⟨valid, Nat.zero_lt_succ _, Nat.zero_lt_succ _, Nat.zero_lt_succ _,
        Nat.zero_lt_succ _⟩, rfl, rfl⟩
    | monthly => exact isMinute_of_atTime valid time

theorem isMinute_of_readLines {kind : Kind} {path : String} {number : Nat}
    {lines : List (List Char)} {entries : List Entry}
    (found : (readLines kind path number lines).outcome = .ok entries) {entry : Entry}
    (member : entry ∈ entries) : entry.time.IsMinute := by
  induction lines generalizing number entries with
  | nil =>
    obtain rfl := Except.ok.inj found
    cases member
  | cons line lines ih =>
    rw [readLines] at found
    split at found
    · exact ih found member
    · cases read : readLine kind (String.ofList line) with
      | ok first =>
        rw [read] at found
        obtain ⟨rest, behind, same⟩ := Report.outcome_bind_eq_ok_iff.1 found
        obtain rfl := Except.ok.inj same
        rcases List.mem_cons.1 member with rfl | inRest
        · exact isMinute_of_readLine read
        · exact ih behind inRest
      | error fault =>
        rw [read] at found
        dsimp only at found
        split at found
        · obtain ⟨_, _, behind⟩ := Report.outcome_bind_eq_ok_iff.1 found
          exact ih behind member
        · cases found

theorem isMinute_of_readMonth {files : Files} {directory name : String} {entries : List Entry}
    (found : (readMonth files directory name).outcome = .ok entries) {entry : Entry}
    (member : entry ∈ entries) : entry.time.IsMinute := by
  rw [readMonth] at found
  split at found
  · obtain ⟨_, _, lines⟩ := Report.outcome_bind_eq_ok_iff.1 found
    exact isMinute_of_readLines lines member
  · obtain ⟨_, _, same⟩ := Report.outcome_bind_eq_ok_iff.1 found
    obtain rfl := Except.ok.inj same
    cases member

theorem isMinute_of_readDays {files : Files} {directory : String} {entries : List Entry}
    (found : (readDays files directory).outcome = .ok entries) {entry : Entry}
    (member : entry ∈ entries) : entry.time.IsMinute := by
  rw [readDays] at found
  split at found
  · obtain ⟨_, _, lines⟩ := Report.outcome_bind_eq_ok_iff.1 found
    exact isMinute_of_readLines lines member
  · obtain ⟨_, _, same⟩ := Report.outcome_bind_eq_ok_iff.1 found
    obtain rfl := Except.ok.inj same
    cases member

/-! ## The names of the logs -/

/-- The log of a month. -/
def monthFile (number : Nat) : String :=
  monthNames.getD (number % 12) "" ++ twoDigits (number / 12 % 100) ++ "log.txt"

theorem monthLogName_eq (number : Nat) : monthLogName monthNames number = .ok (monthFile number) := by
  have named : number % 12 < monthNames.length := Nat.mod_lt number (by decide)
  rw [monthLogName, monthFile, List.getD_eq_getElem?_getD, List.getElem?_eq_getElem named]
  rfl

/-- A run reads the logs of all months from the first date to the last one. -/
theorem monthLogNames_eq (first last : Date) : monthLogNames [] first last =
    .ok ((List.range (monthNumber last + 1 - monthNumber first)).map fun i =>
      monthFile (monthNumber first + i)) := by
  rw [monthLogNames]
  simp only [List.isEmpty_nil, if_true, monthLogName_eq]
  exact List.mapM_pure

theorem monthNumber_mono {date later : Date} (valid : date.isValid = true)
    (valid' : later.isValid = true) (order : date.number ≤ later.number) :
    monthNumber date ≤ monthNumber later := by
  apply Nat.le_of_not_lt
  intro after
  exact absurd (Date.number_lt_of_month valid' valid after) (Nat.not_lt_of_le order)

/-! ## The entries of a window -/

/-- A computation over a list gives the values of its items. -/
theorem values_of_mapM {α β : Type} {step : α → Except Fault β} {list : List α} {values : List β}
    (found : list.mapM step = .ok values) :
    (∀ a ∈ list, ∃ value ∈ values, step a = .ok value) ∧
      ∀ value ∈ values, ∃ a ∈ list, step a = .ok value := by
  induction list generalizing values with
  | nil =>
    obtain rfl := Except.ok.inj found
    exact ⟨fun _ member => (by cases member), fun _ member => (by cases member)⟩
  | cons a list ih =>
    rw [List.mapM_cons] at found
    obtain ⟨first, here, found⟩ := bind_eq_ok.1 found
    obtain ⟨rest, behind, same⟩ := bind_eq_ok.1 found
    obtain rfl := Except.ok.inj same
    obtain ⟨each, every⟩ := ih behind
    constructor
    · intro b member
      rcases List.mem_cons.1 member with rfl | inList
      · exact ⟨first, List.mem_cons_self, here⟩
      · obtain ⟨value, inRest, there⟩ := each b inList
        exact ⟨value, List.mem_cons_of_mem _ inRest, there⟩
    · intro value member
      rcases List.mem_cons.1 member with rfl | inRest
      · exact ⟨a, List.mem_cons_self, here⟩
      · obtain ⟨b, inList, there⟩ := every value inRest
        exact ⟨b, List.mem_cons_of_mem _ inList, there⟩

section

variable {files : Files} {directory : String} {start stop : Moment} {entries : List Entry}

/-- The entries of the logs are filtered by their times. -/
theorem entries_of_readMonths
    (found : (readMonths files directory [] start stop).outcome = .ok entries) :
    ∃ logs : List (List Entry),
      ((List.range (monthNumber stop.date + 1 - monthNumber start.date)).map fun i =>
          monthFile (monthNumber start.date + i)).mapM
        (fun name => (readMonth files directory name).outcome) = .ok logs ∧
      entries = logs.flatten.filter fun entry =>
        start.atMost entry.time && entry.time.atMost stop := by
  obtain ⟨names, named, found⟩ := Report.outcome_bind_eq_ok_iff.1 found
  obtain ⟨logs, read, same⟩ := Report.outcome_bind_eq_ok_iff.1 found
  rw [monthLogNames_eq] at named
  obtain rfl := Except.ok.inj named
  rw [Report.outcome_mapM] at read
  exact ⟨logs, read, (Except.ok.inj same).symm⟩

/-- Only entries in the window are found. -/
theorem within_of_readMonths (found : (readMonths files directory [] start stop).outcome = .ok entries)
    {entry : Entry} (member : entry ∈ entries) :
    start.atMost entry.time = true ∧ entry.time.atMost stop = true := by
  obtain ⟨logs, _, rfl⟩ := entries_of_readMonths found
  exact (Bool.and_eq_true _ _).mp (List.mem_filter.1 member).2

theorem isMinute_of_readMonths
    (found : (readMonths files directory [] start stop).outcome = .ok entries)
    {entry : Entry} (member : entry ∈ entries) : entry.time.IsMinute := by
  obtain ⟨logs, read, rfl⟩ := entries_of_readMonths found
  obtain ⟨log, inLogs, inLog⟩ := List.mem_flatten.1 (List.mem_filter.1 member).1
  obtain ⟨name, _, read'⟩ := (values_of_mapM read).2 log inLogs
  exact isMinute_of_readMonth read' inLog

/-- Each entry in the log of its month is found if its time lies in the window. -/
theorem mem_of_readMonths (found : (readMonths files directory [] start stop).outcome = .ok entries)
    (valid : start.IsValid) (valid' : stop.IsValid) {entry : Entry} {month : List Entry}
    (log : (readMonth files directory (monthFile (monthNumber entry.time.date))).outcome = .ok month)
    (member : entry ∈ month) (after : start.atMost entry.time = true)
    (before : entry.time.atMost stop = true) : entry ∈ entries := by
  obtain ⟨logs, read, rfl⟩ := entries_of_readMonths found
  have minute := isMinute_of_readMonth log member
  have first := monthNumber_mono valid.date minute.valid.date
    (Moment.number_le_of_atMost minute.valid after)
  have last := monthNumber_mono minute.valid.date valid'.date
    (Moment.number_le_of_atMost valid' before)
  have listed : monthFile (monthNumber entry.time.date) ∈
      (List.range (monthNumber stop.date + 1 - monthNumber start.date)).map fun i =>
        monthFile (monthNumber start.date + i) := by
    refine List.mem_map.2 ⟨monthNumber entry.time.date - monthNumber start.date, ?_, ?_⟩
    · rw [List.mem_range]
      omega
    · rw [Nat.add_sub_cancel' first]
  obtain ⟨month', inLogs, log'⟩ := (values_of_mapM read).1 _ listed
  obtain rfl : month = month' := Except.ok.inj (log.symm.trans log')
  rw [List.mem_filter, Bool.and_eq_true]
  exact ⟨List.mem_flatten.2 ⟨month, inLogs, member⟩, after, before⟩

end

end Meteogram.Log
