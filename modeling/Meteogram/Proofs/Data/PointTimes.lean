import Meteogram.Proofs.Data.LogFaults
import Meteogram.Proofs.Data.StoppedRuns
import Meteogram.Proofs.Time.Ticks

/-!
# The times of points

A point stands at the milliseconds of its log entry. These count the seconds of the calendar from
the start of the year 1970 (`Moment.milliseconds_sub_eq_iff`), so they keep the order of times and
the distance between them. Entries without a number have no point, but no point changes its place
because of that: points are one after the other if the entries are (`ArePoints.pairwise_time`).
-/

set_option autoImplicit false

namespace Meteogram

namespace Time.Moment

/-! ## Milliseconds -/

section

variable {moment other : Moment}

theorem milliseconds_sub (moment other : Moment) :
    other.milliseconds - moment.milliseconds = 1000 * ((other.seconds : Int) - moment.seconds) := by
  rw [milliseconds, milliseconds]
  omega

theorem thousand_dvd_milliseconds (moment : Moment) : 1000 ∣ moment.milliseconds :=
  Int.dvd_mul_left _ _

/-- The start of the year 1970 is a whole minute, too. -/
theorem IsMinute.dvd_milliseconds (minute : moment.IsMinute) : 60000 ∣ moment.milliseconds := by
  have whole := minute.sixty_dvd_seconds
  have start : (60 : Nat) ∣ epoch.seconds := by decide
  rw [milliseconds]
  omega

/-- A time lies as many thousands of milliseconds after another one as the clock ticks in between. -/
theorem milliseconds_sub_eq_iff (valid : moment.IsValid) (valid' : other.IsValid)
    (same : moment.micro = other.micro) {count : Nat} :
    other.milliseconds - moment.milliseconds = 1000 * count ↔ tick^[count] moment = other := by
  rw [milliseconds_sub, iterate_tick_eq_iff valid valid' same]
  omega

/-- The clock gets from one of two times to the other one. -/
theorem iterate_tick_total (valid : moment.IsValid) (valid' : other.IsValid)
    (same : moment.micro = other.micro) :
    (∃ count, tick^[count] moment = other) ∨ ∃ count, tick^[count] other = moment := by
  simp only [iterate_tick_eq_iff valid valid' same, iterate_tick_eq_iff valid' valid same.symm]
  rcases Nat.le_total moment.seconds other.seconds with before | after
  · exact .inl ⟨_, Nat.add_sub_cancel' before⟩
  · exact .inr ⟨_, Nat.add_sub_cancel' after⟩

/-- Milliseconds are in the order of times. -/
theorem milliseconds_lt_iff (valid : moment.IsValid) (valid' : other.IsValid) :
    moment.milliseconds < other.milliseconds ↔ moment.fields < other.fields := by
  rw [fields_lt_iff valid valid', milliseconds, milliseconds]
  omega

end

end Time.Moment

namespace Data

open Page (allSeries)
open Station (Settings)
open Time (Moment)
open Log (Entry)

/-! ## Points in the order of their entries -/

section

variable {entries : List Entry} {field : String} {points : List Point}

/-- The points stand at the times of the entries that have a number. -/
theorem ArePoints.map_time (arePoints : ArePoints entries field points) :
    points.map Point.time =
      (entries.filter fun entry => (entry.value? field).isSome).map (·.time.milliseconds) := by
  have same : ∀ {kept : List Entry} {points : List Point},
      List.Forall₂ (IsPointOf field) kept points →
        points.map Point.time = kept.map (·.time.milliseconds) := by
    intro kept points all
    induction all with
    | nil => rfl
    | cons isPoint _ ih => rw [List.map_cons, List.map_cons, ih, isPoint.time]
  exact same arePoints

/-- The points are one after the other if the entries are. -/
theorem ArePoints.pairwise_time (arePoints : ArePoints entries field points)
    (valid : ∀ entry ∈ entries, entry.time.IsValid)
    (sorted : entries.Pairwise fun entry later => entry.time.fields < later.time.fields) :
    points.Pairwise fun point later => point.time < later.time := by
  have rising : entries.Pairwise fun entry later =>
      entry.time.milliseconds < later.time.milliseconds :=
    sorted.imp_of_mem fun member member' before =>
      (Moment.milliseconds_lt_iff (valid _ member) (valid _ member')).2 before
  rw [← List.pairwise_map, arePoints.map_time, List.pairwise_map]
  exact rising.filter _

end

section

variable {request : Request} {series : Series} {entries : List Entry} {points : List Point}

/-- A run looks at entries of whole minutes. -/
theorem Request.LooksAt.isMinute (looksAt : request.LooksAt series entries) {entry : Entry}
    (member : entry ∈ entries) : entry.time.IsMinute := by
  cases short : series.range.isShort with
  | true => exact Log.isMinute_of_readMonths ((looksAt_of_isShort short).1 looksAt) member
  | false =>
    rw [looksAt_of_not_isShort (Bool.eq_false_iff.1 short)] at looksAt
    exact Log.isMinute_of_readDays looksAt member

/-- The points are those of a series and stand at the times of the entries that a run looks at. -/
structure Request.KeepsTimes (request : Request) (series : Series) (points : List Point) : Prop where
  /-- Points stand at whole minutes. -/
  minutes : ∀ point ∈ points, 60000 ∣ point.time
  /-- The points are one after the other if the entries are. -/
  order : ∃ entries, request.LooksAt series entries ∧
    points.map Point.time = (entries.filter fun entry =>
      (entry.value? (logField series)).isSome).map (·.time.milliseconds) ∧
    (entries.Pairwise (fun entry later => entry.time.fields < later.time.fields) →
      points.Pairwise fun point later => point.time < later.time)

theorem Request.LooksAt.keepsTimes (looksAt : request.LooksAt series entries)
    (arePoints : ArePoints entries (logField series) points) : request.KeepsTimes series points where
  minutes point inPoints := by
    obtain ⟨entry, member, isPoint⟩ := arePoints.exists_entry inPoints
    exact isPoint.time ▸ (looksAt.isMinute member).dvd_milliseconds
  order := ⟨entries, looksAt, arePoints.map_time,
    arePoints.pairwise_time fun _ member => (looksAt.isMinute member).valid⟩

/-- All fields of the contents keep the times of the log entries. -/
theorem AreContents.keepsTimes {made : List Series} {contents : Contents}
    (areContents : AreContents request made contents) {name : String} {fields : Fields}
    (found : contents.lookup name = some fields) {field : String × List Point}
    (member : field ∈ fields) :
    ∃ series ∈ made, (series.datafile = name ∧ series.field = field.1) ∧
      request.KeepsTimes series field.2 := by
  obtain ⟨series, inMade, stands, entries, looksAt, arePoints⟩ :=
    areContents.points_of_mem found member
  exact ⟨series, inMade, stands, looksAt.keepsTimes arePoints⟩

end

/-! ## Runs -/

/-- A run that fails, too, leaves the data files that it has written of what it has collected, and no
others. -/
theorem Turn.Failure.files_eq {turn : Turn} {settings : Settings} {fault : Fault}
    (failure : turn.Failure settings fault) :
    (turn.update settings).files = turn.files ∨ ∃ window due contents,
      (Data.collect (turn.request window due) turn.charts).outcome = .ok contents ∧
      (turn.update settings).files = (writeAll turn.files turn.directory contents).2 := by
  cases failure with
  | plan _ _ files => exact .inl files
  | mark _ _ _ files => exact .inl files
  | collect _ _ _ files => exact .inl files
  | write _ _ collects _ files => exact .inr ⟨_, _, _, collects, files⟩

/-- Milliseconds are counted from the start of the year 1970, a thousand for each tick of the clock,
and they are in the order of times. Data files keep that: what a run writes, even if it fails later,
are points at whole minutes, and those of a field are one after the other if the entries are that the
run looks at for its series. -/
theorem timestamps_keep_order_and_distance :
    (Moment.ofDate ⟨1970, 1, 1⟩).milliseconds = 0 ∧
    (∀ moment other : Moment, moment.IsValid → other.IsValid → moment.micro = 0 → other.micro = 0 →
      1000 ∣ moment.milliseconds ∧
      (∀ count : Nat, other.milliseconds - moment.milliseconds = 1000 * count ↔
        Moment.tick^[count] moment = other) ∧
      ((∃ count, Moment.tick^[count] moment = other) ∨ ∃ count, Moment.tick^[count] other = moment) ∧
      (moment.milliseconds < other.milliseconds ↔ moment.fields < other.fields)) ∧
    ∀ (turn : Turn) (settings : Settings),
      ((turn.update settings).files = turn.files ∧
        (turn.charts = [] ∨ ∃ fault, (turn.update settings).outcome = .error fault)) ∨
      ∃ window due contents,
        (turn.update settings).files = (writeAll turn.files turn.directory contents).2 ∧
        (∀ stop, (turn.update settings).outcome = .ok stop →
          turn.Writes settings window due contents) ∧
        ∀ name fields, contents.lookup name = some fields → ∀ field ∈ fields,
          ∃ series ∈ allSeries turn.charts, (series.datafile = name ∧ series.field = field.1) ∧
            (turn.request window due).KeepsTimes series field.2 := by
  refine ⟨by decide, fun moment other valid valid' whole whole' => ?_, fun turn settings => ?_⟩
  · have same := whole.trans whole'.symm
    exact ⟨moment.thousand_dvd_milliseconds,
      fun count => Moment.milliseconds_sub_eq_iff valid valid' same,
      Moment.iterate_tick_total valid valid' same, Moment.milliseconds_lt_iff valid valid'⟩
  · have keeps : ∀ {window due contents},
        (collect (turn.request window due) turn.charts).outcome = .ok contents →
        ∀ name fields, contents.lookup name = some fields → ∀ field ∈ fields,
          ∃ series ∈ allSeries turn.charts, (series.datafile = name ∧ series.field = field.1) ∧
            (turn.request window due).KeepsTimes series field.2 := by
      intro window due contents collects name fields found field member
      obtain ⟨series, inMade, keeps⟩ := (areContents_of_collect collects).keepsTimes found member
      exact ⟨series, (List.mem_filter.1 inMade).1, keeps⟩
    cases ended : (turn.update settings).outcome with
    | error fault =>
      rcases (Turn.failure_of_update ended).files_eq with same | ⟨window, due, contents, collects, written⟩
      · exact .inl ⟨same, .inr ⟨fault, rfl⟩⟩
      · exact .inr ⟨window, due, contents, written, fun stop ok => (by cases ok), keeps collects⟩
    | ok stop =>
      by_cases notEmpty : turn.charts = []
      · refine .inl ⟨?_, .inl notEmpty⟩
        rw [Turn.update, update, notEmpty]
        rfl
      obtain ⟨window, due, contents, planned, well⟩ := Turn.steps_of_update notEmpty ended
      exact .inr ⟨window, due, contents, well.leaves, fun _ _ => well.writes_of_plan planned,
        keeps well.collects⟩

/-- A full run over the chart of the evapotranspiration, with three lines of which the second one has
no number. -/
def threeLineTurn : Turn :=
  lineTurn (lossLine "10:00" "0.25" ++ "\n" ++ lossLine "10:30" "-" ++ "\n" ++ lossLine "11:00" "0.5")

/-- The clock ticks once from the end of a leap day to the next month, and the points of the first
and the third line are one after the other. -/
theorem leap_day_and_gap_keep_order :
    (⟨⟨2024, 3, 1⟩, 0, 0, 0, 0⟩ : Moment).milliseconds -
        (⟨⟨2024, 2, 29⟩, 23, 59, 59, 0⟩ : Moment).milliseconds = 1000 * (1 : Nat) ∧
    ∃ window due contents, threeLineTurn.Writes Definition.plainSettings window due contents ∧
      ∀ name fields, contents.lookup name = some fields → ∀ field ∈ fields,
        field.2.Pairwise fun point later => point.time < later.time := by
  obtain ⟨_, moments, runs⟩ := timestamps_keep_order_and_distance
  refine ⟨((moments _ _ (by decide) (by decide) rfl rfl).2.1 1).2 (by decide), ?_⟩
  have ended : (threeLineTurn.update Definition.plainSettings).outcome = .ok summerNoon := by
    decide +kernel
  have planned : (plan Definition.plainSettings summerNoon true).outcome =
      .ok (⟨⟨⟨2024, 6, 18⟩, 12, 0, 0, 0⟩, summerNoon⟩, true) := by
    decide +kernel
  have times : (threeLineTurn.request ⟨⟨⟨2024, 6, 18⟩, 12, 0, 0, 0⟩, summerNoon⟩
      true).windowEntries.outcome.map (List.map fun entry => entry.time) =
        .ok [⟨⟨2024, 6, 21⟩, 10, 0, 0, 0⟩, ⟨⟨2024, 6, 21⟩, 10, 30, 0, 0⟩,
          ⟨⟨2024, 6, 21⟩, 11, 0, 0, 0⟩] := by
    decide +kernel
  rcases runs threeLineTurn Definition.plainSettings with
    ⟨_, none | ⟨fault, stopped⟩⟩ | ⟨window, due, contents, _, writes, keeps⟩
  · cases none
  · cases stopped.symm.trans ended
  · refine ⟨window, due, contents, writes _ ended, fun name fields found field member => ?_⟩
    obtain ⟨series, inCharts, _, keepsTimes⟩ := keeps name fields found field member
    obtain ⟨entries, looksAt, _, order⟩ := keepsTimes.order
    cases planned.symm.trans (writes _ ended).plans
    have short : series.range.isShort = true := by
      rw [List.mem_singleton.1 inCharts]
      rfl
    rw [(Request.looksAt_of_isShort short).1 looksAt] at times
    have sorted : (entries.map fun entry => entry.time).Pairwise fun time later =>
        time.fields < later.fields := by
      rw [Except.ok.inj times]
      decide
    rw [List.pairwise_map] at sorted
    exact order sorted

end Data

end Meteogram
