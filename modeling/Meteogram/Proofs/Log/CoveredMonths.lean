import Meteogram.Proofs.Log.ReportedLines

/-!
# The months of a window

The logs of a window are named on a walk from month to month, in which January follows December
and which ends behind the last month (`monthsUpTo`). It ends because the year comes nearer to
the last one with each January, and the month to December in between. What the walk comes to are
the months from the first to the last one, each once and in order (`mem_monthsUpTo`,
`pairwise_monthsUpTo`), and these are the months whose logs are named
(`monthLogNames_eq_ok_iff`).

The name of a log has two digits of the year. So the names of less than a hundred years are all
different, and after a hundred years they come again (`month_logs_cover_window`).
-/

set_option autoImplicit false

namespace Meteogram.Log

open Text Time

/-! ## Months -/

/-- A month of a year. -/
structure Month where
  year : Nat
  /-- From 1 to 12. -/
  month : Nat
  deriving DecidableEq, Repr

namespace Month

/-- The month in which a date lies. -/
def ofDate (date : Date) : Month := ⟨date.year, date.month⟩

/-- The month is one of the twelve of its year. -/
def IsProper (month : Month) : Prop := 1 ≤ month.month ∧ month.month ≤ 12

/-- The month comes before the other one. -/
def Before (month other : Month) : Prop :=
  month.year < other.year ∨ month.year = other.year ∧ month.month < other.month

/-- The month does not come after the other one. -/
def AtMost (month other : Month) : Prop :=
  month.year < other.year ∨ month.year = other.year ∧ month.month ≤ other.month

instance (month other : Month) : Decidable (month.AtMost other) :=
  inferInstanceAs (Decidable (_ ∨ _))

/-- The month that follows. -/
def next (month : Month) : Month :=
  if month.month < 12 then ⟨month.year, month.month + 1⟩ else ⟨month.year + 1, 1⟩

/-- The number of the month, counted without a break over the years. -/
def number (month : Month) : Nat := 12 * month.year + (month.month - 1)

/-- The name of the log of the month, made from the names of the twelve months. -/
def logName (names : List String) (month : Month) : String :=
  names.getD (month.month - 1) "" ++ twoDigits (month.year % 100) ++ "log.txt"

section

variable {month other : Month}

theorem isProper_ofDate {date : Date} (valid : date.isValid = true) : (ofDate date).IsProper := by
  obtain ⟨_, _, first, last, _⟩ := (Date.isValid_iff date).1 valid
  exact ⟨first, last⟩

theorem isProper_next (month : Month) : month.next.IsProper := by
  rw [next]
  split
  · next inYear => exact ⟨Nat.le_add_left 1 _, inYear⟩
  · exact ⟨Nat.le_refl 1, Nat.le_add_left 1 11⟩

theorem number_next (proper : month.IsProper) : month.next.number = month.number + 1 := by
  obtain ⟨first, last⟩ := proper
  rw [next, number]
  split
  · rw [number]
    dsimp only
    omega
  · rw [number]
    dsimp only
    omega

theorem atMost_iff (proper : month.IsProper) (proper' : other.IsProper) :
    month.AtMost other ↔ month.number ≤ other.number := by
  obtain ⟨first, last⟩ := proper
  obtain ⟨first', last'⟩ := proper'
  rw [AtMost, number, number]
  omega

theorem before_iff (proper : month.IsProper) (proper' : other.IsProper) :
    month.Before other ↔ month.number < other.number := by
  obtain ⟨first, last⟩ := proper
  obtain ⟨first', last'⟩ := proper'
  rw [Before, number, number]
  omega

theorem eq_of_number (proper : month.IsProper) (proper' : other.IsProper)
    (same : month.number = other.number) : month = other := by
  obtain ⟨year, inYear⟩ := month
  obtain ⟨year', inYear'⟩ := other
  obtain ⟨first, last⟩ := proper
  obtain ⟨first', last'⟩ := proper'
  rw [number, number] at same
  rw [mk.injEq]
  dsimp only at *
  omega

end

end Month

open Month

/-! ## From month to month -/

/-- The months from one month on that do not come after the last one. -/
def monthsUpTo (last month : Month) : List Month :=
  if month.AtMost last then month :: monthsUpTo last month.next else []
termination_by (last.year + 1 - month.year, 13 - month.month)
decreasing_by
  next before =>
  rw [Month.next]
  rw [AtMost] at before
  split
  · exact Prod.Lex.right _ (by dsimp only; omega)
  · exact Prod.Lex.left _ _ (by dsimp only; omega)

section

variable {first last month : Month}

theorem isProper_of_mem (proper : first.IsProper) (member : month ∈ monthsUpTo last first) :
    month.IsProper := by
  induction first using monthsUpTo.induct last with
  | case1 first before ih =>
    rw [monthsUpTo, if_pos before] at member
    rcases List.mem_cons.1 member with rfl | behind
    · exact proper
    · exact ih (isProper_next first) behind
  | case2 first after =>
    rw [monthsUpTo, if_neg after] at member
    cases member

/-- The numbers of the months follow each other without a gap. -/
theorem map_number_monthsUpTo (proper : first.IsProper) (proper' : last.IsProper) :
    (monthsUpTo last first).map number =
      List.range' first.number (last.number + 1 - first.number) := by
  induction first using monthsUpTo.induct last with
  | case1 first before ih =>
    have order := (atMost_iff proper proper').1 before
    have count : last.number + 1 - first.number = (last.number + 1 - (first.number + 1)) + 1 := by
      omega
    rw [monthsUpTo, if_pos before, List.map_cons, ih (isProper_next first), number_next proper, count]
    rfl
  | case2 first after =>
    have order := mt (atMost_iff proper proper').2 after
    have none : last.number + 1 - first.number = 0 := by omega
    rw [monthsUpTo, if_neg after, none]
    rfl

/-- The walk comes to the months from the first to the last one, and to no other. -/
theorem mem_monthsUpTo (proper : first.IsProper) (proper' : last.IsProper) :
    month ∈ monthsUpTo last first ↔ month.IsProper ∧ first.AtMost month ∧ month.AtMost last := by
  have numbered : month.IsProper → (month ∈ monthsUpTo last first ↔
      month.number ∈ (monthsUpTo last first).map number) := by
    intro isProper
    refine ⟨fun member => List.mem_map_of_mem member, fun member => ?_⟩
    obtain ⟨other, listed, same⟩ := List.mem_map.1 member
    exact eq_of_number (isProper_of_mem proper listed) isProper same ▸ listed
  have within : month.IsProper → (month ∈ monthsUpTo last first ↔
      first.AtMost month ∧ month.AtMost last) := by
    intro isProper
    rw [numbered isProper, map_number_monthsUpTo proper proper', List.mem_range'_1,
      atMost_iff proper isProper, atMost_iff isProper proper']
    omega
  constructor
  · intro member
    have isProper := isProper_of_mem proper member
    exact ⟨isProper, (within isProper).1 member⟩
  · rintro ⟨isProper, between⟩
    exact (within isProper).2 between

/-- The walk comes to the months in their order. -/
theorem pairwise_monthsUpTo (proper : first.IsProper) (proper' : last.IsProper) :
    (monthsUpTo last first).Pairwise Before := by
  have numbers : ((monthsUpTo last first).map number).Pairwise (· < ·) := by
    rw [map_number_monthsUpTo proper proper']
    exact List.pairwise_lt_range'
  refine (List.pairwise_map.1 numbers).imp_of_mem fun member member' order => ?_
  exact (before_iff (isProper_of_mem proper member) (isProper_of_mem proper member')).2 order

theorem nodup_monthsUpTo (proper : first.IsProper) (proper' : last.IsProper) :
    (monthsUpTo last first).Nodup := by
  refine (pairwise_monthsUpTo proper proper').imp fun before same => ?_
  subst same
  rcases before with year | ⟨_, inYear⟩
  · exact Nat.lt_irrefl _ year
  · exact Nat.lt_irrefl _ inYear

end

/-! ## The names of the logs -/

/-- The months have their standard names if there are no others. -/
def orStandard (names : List String) : List String :=
  if names.isEmpty then monthNames else names

/-- The months from the start of a window to its end. -/
def coveredMonths (start stop : Moment) : List Month :=
  monthsUpTo (ofDate stop.date) (ofDate start.date)

theorem monthLogName_eq_ok_iff {names : List String} {month : Month} (proper : month.IsProper)
    {log : String} : monthLogName names month.number = .ok log ↔
      month.month ≤ names.length ∧ log = month.logName names := by
  obtain ⟨first, last⟩ := proper
  have place : month.number % 12 = month.month - 1 := by
    rw [number]
    omega
  have year : month.number / 12 = month.year := by
    rw [number]
    omega
  rw [monthLogName, place, year, logName, List.getD_eq_getElem?_getD]
  cases named : names[month.month - 1]? with
  | none =>
    have short := List.getElem?_eq_none_iff.1 named
    refine ⟨fun stopped => (by cases stopped), fun long => ?_⟩
    omega
  | some name =>
    obtain ⟨inside, _⟩ := List.getElem?_eq_some_iff.1 named
    rw [Except.ok.injEq, eq_comm]
    exact ⟨fun same => ⟨by omega, same⟩, And.right⟩

/-- A computation over a list whose steps have known values. -/
theorem mapM_eq_ok_iff {α β : Type} {step : α → Except Fault β} {can : α → Prop} {value : α → β}
    {list : List α} (each : ∀ a ∈ list, ∀ b, step a = .ok b ↔ can a ∧ b = value a)
    {values : List β} :
    list.mapM step = .ok values ↔ (∀ a ∈ list, can a) ∧ values = list.map value := by
  induction list generalizing values with
  | nil =>
    refine ⟨fun found => ⟨fun _ member => (by cases member), (Except.ok.inj found).symm⟩, ?_⟩
    rintro ⟨_, rfl⟩
    rfl
  | cons a list ih =>
    rw [List.forall_mem_cons] at each
    simp only [List.mapM_cons, bind_eq_ok, each.1, ih each.2, List.forall_mem_cons, List.map_cons]
    constructor
    · rintro ⟨_, ⟨first, rfl⟩, _, ⟨rest, rfl⟩, same⟩
      exact ⟨⟨first, rest⟩, (Except.ok.inj same).symm⟩
    · rintro ⟨⟨first, rest⟩, rfl⟩
      exact ⟨_, ⟨first, rfl⟩, _, ⟨rest, rfl⟩, rfl⟩

/-- The logs of all months of a window are named, if all of them have names. -/
theorem monthLogNames_eq_ok_iff {names : List String} {start stop : Moment} (valid : start.IsValid)
    (valid' : stop.IsValid) {logs : List String} :
    monthLogNames names start.date stop.date = .ok logs ↔
      (∀ month ∈ coveredMonths start stop, month.month ≤ (orStandard names).length) ∧
        logs = (coveredMonths start stop).map (logName (orStandard names)) := by
  have proper := isProper_ofDate valid.date
  have proper' := isProper_ofDate valid'.date
  have numbers : (coveredMonths start stop).map number =
      (List.range (monthNumber stop.date + 1 - monthNumber start.date)).map
        (monthNumber start.date + ·) := by
    rw [coveredMonths, map_number_monthsUpTo proper proper', List.range'_eq_map_range]
    rfl
  have walk : monthLogNames names start.date stop.date =
      (coveredMonths start stop).mapM fun month => monthLogName (orStandard names) month.number :=
    calc monthLogNames names start.date stop.date
      _ = ((List.range (monthNumber stop.date + 1 - monthNumber start.date)).map
            (monthNumber start.date + ·)).mapM (monthLogName (orStandard names)) := by
          rw [List.mapM_map]
          rfl
      _ = _ := by
          rw [← numbers, List.mapM_map]
          rfl
  rw [walk]
  exact mapM_eq_ok_iff fun month member _ => monthLogName_eq_ok_iff (isProper_of_mem proper member)

/-- The name of a log tells the month and the last two digits of the year. -/
theorem eq_of_logName {names : List String} (distinct : names.Nodup) {month other : Month}
    (proper : month.IsProper) (proper' : other.IsProper) (named : month.month ≤ names.length)
    (named' : other.month ≤ names.length) (same : month.logName names = other.logName names) :
    month.month = other.month ∧ month.year % 100 = other.year % 100 := by
  obtain ⟨first, _⟩ := proper
  obtain ⟨first', _⟩ := proper'
  obtain ⟨name, years⟩ := eq_of_logText same
  have inside : month.month - 1 < names.length := by omega
  have inside' : other.month - 1 < names.length := by omega
  rw [List.getD_eq_getElem _ _ inside, List.getD_eq_getElem _ _ inside'] at name
  have places := (List.Nodup.getElem_inj_iff distinct).1 name
  exact ⟨by omega, years⟩

/-- A hundred years later the name of a log comes again. -/
theorem logName_century (names : List String) (month : Month) :
    logName names ⟨month.year + 100, month.month⟩ = month.logName names := by
  rw [logName, logName, Nat.add_mod_right]

/-- The names of different months are different exactly as long as a hundred years have not
passed. -/
theorem nodup_logNames_iff {names : List String} (distinct : names.Nodup) {first last : Month}
    (proper : first.IsProper) (proper' : last.IsProper)
    (named : ∀ month ∈ monthsUpTo last first, month.month ≤ names.length) :
    ((monthsUpTo last first).map (logName names)).Nodup ↔ last.number < first.number + 1200 := by
  rw [List.nodup_map_iff_inj_on (nodup_monthsUpTo proper proper')]
  constructor
  · intro apart
    by_contra far
    rw [Nat.not_lt] at far
    -- The first month and the one a hundred years later have the same name.
    have later : Month.IsProper ⟨first.year + 100, first.month⟩ := proper
    have number' : Month.number ⟨first.year + 100, first.month⟩ = first.number + 1200 := by
      rw [number, number]
      dsimp only
      omega
    have start : first ∈ monthsUpTo last first := by
      rw [mem_monthsUpTo proper proper', atMost_iff proper proper, atMost_iff proper proper']
      exact ⟨proper, Nat.le_refl _, by omega⟩
    have again : ⟨first.year + 100, first.month⟩ ∈ monthsUpTo last first := by
      rw [mem_monthsUpTo proper proper', atMost_iff proper later, atMost_iff later proper', number']
      exact ⟨later, by omega, far⟩
    have same := apart _ again _ start (logName_century names first)
    rw [same] at number'
    omega
  · intro near month member other member' same
    have isProper := isProper_of_mem proper member
    have isProper' := isProper_of_mem proper member'
    obtain ⟨inYear, century⟩ := eq_of_logName distinct isProper isProper' (named month member)
      (named other member') same
    have between := ((mem_monthsUpTo proper proper').1 member).2
    have between' := ((mem_monthsUpTo proper proper').1 member').2
    rw [atMost_iff proper isProper, atMost_iff isProper proper'] at between
    rw [atMost_iff proper isProper', atMost_iff isProper' proper'] at between'
    refine eq_of_number isProper isProper' ?_
    simp only [number] at near between between' ⊢
    omega

/-- The log of each time in a window is that of one of its months. -/
theorem mem_coveredMonths {start stop time : Moment} (valid : start.IsValid) (valid' : stop.IsValid)
    (isTime : time.IsValid) (after : start.atMost time = true) (before : time.atMost stop = true) :
    ofDate time.date ∈ coveredMonths start stop := by
  have proper := isProper_ofDate valid.date
  have proper' := isProper_ofDate valid'.date
  have isProper := isProper_ofDate isTime.date
  rw [coveredMonths, mem_monthsUpTo proper proper', atMost_iff proper isProper,
    atMost_iff isProper proper']
  exact ⟨isProper,
    monthNumber_mono valid.date isTime.date (Moment.number_le_of_atMost isTime after),
    monthNumber_mono isTime.date valid'.date (Moment.number_le_of_atMost valid' before)⟩

/-- The names of the logs of a window are those of the months from its start to its end, in order
and each month once. So the log of each time in the window is among them. If the months have
different names, no name stands twice exactly if there are less than a hundred years between the
first and the last month. -/
theorem month_logs_cover_window (names : List String) {start stop : Moment} (valid : start.IsValid)
    (valid' : stop.IsValid) :
    (coveredMonths start stop).Pairwise Month.Before ∧
    (∀ month, month ∈ coveredMonths start stop ↔
      month.IsProper ∧ (ofDate start.date).AtMost month ∧ month.AtMost (ofDate stop.date)) ∧
    ((∃ logs, monthLogNames names start.date stop.date = .ok logs) ↔
      ∀ month ∈ coveredMonths start stop, month.month ≤ (orStandard names).length) ∧
    ∀ logs, monthLogNames names start.date stop.date = .ok logs →
      logs = (coveredMonths start stop).map (logName (orStandard names)) ∧
      ((ofDate stop.date).Before (ofDate start.date) → logs = []) ∧
      ((orStandard names).Nodup →
        (logs.Nodup ↔ monthNumber stop.date < monthNumber start.date + 1200)) ∧
      ∀ time : Moment, time.IsValid → start.atMost time = true → time.atMost stop = true →
        (ofDate time.date).logName (orStandard names) ∈ logs := by
  have proper := isProper_ofDate valid.date
  have proper' := isProper_ofDate valid'.date
  refine ⟨pairwise_monthsUpTo proper proper', fun month => mem_monthsUpTo proper proper', ?_,
    fun logs found => ?_⟩
  · simp only [monthLogNames_eq_ok_iff valid valid', exists_and_left, exists_eq, and_true]
  obtain ⟨named, rfl⟩ := (monthLogNames_eq_ok_iff valid valid').1 found
  refine ⟨rfl, fun later => ?_, fun distinct => nodup_logNames_iff distinct proper proper' named,
    fun time isTime after before =>
      List.mem_map_of_mem (mem_coveredMonths valid valid' isTime after before)⟩
  rw [before_iff proper' proper, ← Nat.not_le, ← atMost_iff proper proper'] at later
  rw [coveredMonths, monthsUpTo, if_neg later, List.map_nil]

/-- From the last of December to the first of February, the log of January is named, too. -/
theorem turn_of_year_is_covered :
    monthLogNames [] ⟨2023, 12, 31⟩ ⟨2024, 2, 1⟩ =
      .ok ["Dec23log.txt", "Jan24log.txt", "Feb24log.txt"] ∧
    ["Dec23log.txt", "Jan24log.txt", "Feb24log.txt"].Nodup ∧
    (ofDate ⟨2024, 1, 15⟩).logName monthNames ∈ ["Dec23log.txt", "Jan24log.txt", "Feb24log.txt"] := by
  have named : monthLogNames [] ⟨2023, 12, 31⟩ ⟨2024, 2, 1⟩ =
      .ok ["Dec23log.txt", "Jan24log.txt", "Feb24log.txt"] := by decide
  have valid : (Moment.ofDate ⟨2023, 12, 31⟩).IsValid := by decide
  have valid' : (Moment.ofDate ⟨2024, 2, 1⟩).IsValid := by decide
  obtain ⟨_, distinct, covers⟩ := ((month_logs_cover_window [] valid valid').2.2.2 _ named).2
  refine ⟨named, (distinct (by decide)).2 (by decide), ?_⟩
  exact covers (Moment.ofDate ⟨2024, 1, 15⟩) (by decide) (by decide) (by decide)

/-- In a window of less than a hundred years, the log of its first month can be named again for its
last one. -/
theorem centuryNames_repeat :
    centuryStop.seconds < (Moment.ofDate ⟨2100, 1, 15⟩).seconds ∧ monthNames.Nodup ∧
    ∃ logs, monthLogNames [] centuryStart.date centuryStop.date = .ok logs ∧ ¬ logs.Nodup := by
  have valid : centuryStart.IsValid := by decide
  have valid' : centuryStop.IsValid := by decide
  have proper := isProper_ofDate valid.date
  have proper' := isProper_ofDate valid'.date
  have distinct : monthNames.Nodup := by decide
  have named : ∀ month ∈ coveredMonths centuryStart centuryStop,
      month.month ≤ monthNames.length :=
    fun month member => (isProper_of_mem proper member).2
  refine ⟨by decide, distinct, _, (monthLogNames_eq_ok_iff valid valid').2 ⟨named, rfl⟩, ?_⟩
  exact mt (nodup_logNames_iff distinct proper proper' named).1 (by decide)

end Meteogram.Log
