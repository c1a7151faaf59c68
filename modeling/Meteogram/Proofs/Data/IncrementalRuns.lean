import Mathlib.Data.List.Chain
import Meteogram.Proofs.Data.LoadedFiles
import Meteogram.Proofs.Log.MonthLogs
import Meteogram.Proofs.Station.Windows

/-!
# Incremental runs neither lose nor repeat data

Each run keeps the end of its window as a text, and the next one starts one minute after the
time that it reads there. One step of a sequence of runs has two windows next to each other
(`Continues.adjoins`); so a whole sequence covers each minute from its first end to its last
one exactly once (`exists_covers`), and what the logs have of such a minute goes into the
series of exactly one run.
-/

set_option autoImplicit false

namespace Meteogram.Data

open Page (allSeries)
open Station (Settings Window)
open Time (Moment IsShort slashMinute write)
open Log (Entry monthLogName monthNames monthNumber readMonth)

/-! ## Runs whose end is kept -/

/-- A run that ends well, and whose end is kept as the last upload time. -/
structure KeptRun where
  turn : Turn
  /-- The settings that it starts from. -/
  before : Settings
  stop : Moment
  /-- The settings with its end. -/
  kept : Settings
  ended : (turn.update before).outcome = .ok stop
  keeps : (turn.update before).settings.setSite "General" "LastUploadTime"
    (write slashMinute stop) = .ok kept

namespace KeptRun

/-- The window of the run. -/
def Opens (run : KeptRun) (window : Window) : Prop :=
  (run.before.window run.turn.now run.turn.full).outcome = .ok window

/-- A time lies in the window of the run. -/
def Covers (run : KeptRun) (time : Moment) : Prop :=
  ∃ window, run.Opens window ∧ window.start.atMost time = true ∧ time.atMost window.stop = true

/-- The next run is incremental and not earlier. The station has the same settings, and those of
the site have the end that was kept. -/
structure Continues (run next : KeptRun) : Prop where
  station : next.before.station = run.kept.station
  upload : next.before.siteText "General" "LastUploadTime" =
    run.kept.siteText "General" "LastUploadTime"
  order : run.turn.now.atMost next.turn.now = true
  incremental : next.turn.full = false

/-- The window of the next run starts one minute after the end of the run, and does not end before
it. -/
structure Adjoins (run next : KeptRun) : Prop where
  starts : ∃ window, next.Opens window ∧ window.stop = next.stop ∧
    run.stop.shift 60 = .ok window.start
  order : run.stop.atMost next.stop = true
  minute : run.stop.IsMinute
  minute' : next.stop.IsMinute

section

variable {run next : KeptRun}

/-- A run over some charts has gone through all its steps. -/
theorem exists_endsWell (notEmpty : run.turn.charts ≠ []) : ∃ window due contents,
    run.turn.EndsWell run.before window due contents ∧ window.stop = run.stop := by
  obtain ⟨window, due, contents, well⟩ := Turn.endsWell_of_update notEmpty run.ended
  exact ⟨window, due, contents, well, Except.ok.inj (well.stops.symm.trans run.ended)⟩

/-- A run leaves the settings of the station. -/
theorem station_kept (notEmpty : run.turn.charts ≠ []) : run.kept.station = run.before.station := by
  obtain ⟨window, due, contents, well, _⟩ := exists_endsWell notEmpty
  have marks := well.marks
  rw [markDone] at marks
  rw [Settings.station_setSite run.keeps]
  split at marks
  · exact Settings.station_setSite marks
  · rw [← Except.ok.inj marks]

/-- A run ends with a multiple of its interval. -/
theorem stop_eq (notEmpty : run.turn.charts ≠ []) (valid : run.turn.now.IsValid) :
    ∃ interval : Nat, run.before.windowInterval.outcome = .ok (interval : Int) ∧
      run.stop = Station.wholeInterval run.turn.now interval := by
  obtain ⟨window, due, contents, well, same⟩ := exists_endsWell notEmpty
  rw [← same]
  exact Station.stop_of_window valid well.opens

theorem isMinute_stop (notEmpty : run.turn.charts ≠ []) (valid : run.turn.now.IsValid) :
    run.stop.IsMinute := by
  obtain ⟨interval, _, stop⟩ := stop_eq notEmpty valid
  exact stop ▸ Station.isMinute_wholeInterval valid interval

/-- The window of a run that continues another one adjoins its window. -/
theorem Continues.adjoins (continues : Continues run next) (notEmpty : run.turn.charts ≠ [])
    (notEmpty' : next.turn.charts ≠ []) (short : IsShort run.turn.now)
    (short' : IsShort next.turn.now) (allowed : run.before.incrementalAllowed = .ok true) :
    Adjoins run next ∧ next.before.incrementalAllowed = .ok true := by
  have station := continues.station.trans (station_kept notEmpty)
  have allowed' : next.before.incrementalAllowed = .ok true := by
    rw [Station.incrementalAllowed_of_station station, allowed]
  obtain ⟨interval, given, stop⟩ := stop_eq notEmpty short.valid
  obtain ⟨interval', given', stop'⟩ := stop_eq notEmpty' short'.valid
  rw [Station.windowInterval_of_station station, given] at given'
  obtain rfl : interval = interval' := Int.ofNat.inj (Except.ok.inj given')
  have minute := isMinute_stop notEmpty short.valid
  have minute' := isMinute_stop notEmpty' short'.valid
  refine ⟨⟨?_, ?_, minute, minute'⟩, allowed'⟩
  · obtain ⟨window, due, contents, well, same⟩ := exists_endsWell notEmpty'
    have opens := well.opens
    refine ⟨window, opens, same, ?_⟩
    rw [continues.incremental] at opens
    exact Station.start_of_kept (stop ▸ Station.isShort_wholeInterval short interval) minute
      run.keeps continues.upload allowed' opens
  · rw [Moment.atMost_iff_of_whole minute.micro minute'.micro, stop, stop']
    exact Station.seconds_wholeInterval_mono short.valid short'.valid continues.order interval

/-- The next run covers the minutes after the end of the run, up to its own end. -/
theorem Adjoins.covers_iff (adjoins : Adjoins run next) {time : Moment} (minute : time.IsMinute) :
    next.Covers time ↔ run.stop.seconds < time.seconds ∧ time.seconds ≤ next.stop.seconds := by
  obtain ⟨window, opens, stop, start⟩ := adjoins.starts
  obtain ⟨_, later, whole⟩ := (Moment.shift_eq_ok_iff adjoins.minute.valid).1 start
  rw [adjoins.minute.micro] at whole
  have first := adjoins.minute.sixty_dvd_seconds
  have here := minute.sixty_dvd_seconds
  have bounds : window.start.atMost time = true ∧ time.atMost window.stop = true ↔
      run.stop.seconds < time.seconds ∧ time.seconds ≤ next.stop.seconds := by
    rw [stop, Moment.atMost_iff_of_whole whole minute.micro,
      Moment.atMost_iff_of_whole minute.micro adjoins.minute'.micro]
    omega
  rw [← bounds]
  constructor
  · rintro ⟨window', opens', within⟩
    obtain rfl : window = window' := Except.ok.inj (opens.symm.trans opens')
    exact within
  · exact fun within => ⟨window, opens, within⟩

/-- The window of a run that adjoins another one has times that exist. -/
theorem Adjoins.valid (adjoins : Adjoins run next) {window : Window} (opens : next.Opens window) :
    window.start.IsValid ∧ window.stop.IsValid := by
  obtain ⟨window', opens', stop, start⟩ := adjoins.starts
  obtain rfl : window = window' := Except.ok.inj (opens.symm.trans opens')
  exact ⟨((Moment.shift_eq_ok_iff adjoins.minute.valid).1 start).1, stop ▸ adjoins.minute'.valid⟩

end

end KeptRun

/-! ## Sequences of runs -/

section

open KeptRun

/-- A sequence of runs over the same charts in the years that are written with two digits, each
but the first one incremental. -/
structure IsSequence (charts : List Chart) (first : KeptRun) (later : List KeptRun) : Prop where
  notEmpty : charts ≠ []
  charts : ∀ run ∈ first :: later, run.turn.charts = charts
  times : ∀ run ∈ first :: later, IsShort run.turn.now
  allowed : first.before.incrementalAllowed = .ok true
  chain : (first :: later).IsChain Continues

variable {charts : List Chart} {first : KeptRun} {later : List KeptRun}

theorem IsSequence.isMinute_stop (isSequence : IsSequence charts first later) :
    ∀ run ∈ first :: later, run.stop.IsMinute := fun run member =>
  KeptRun.isMinute_stop (isSequence.charts run member ▸ isSequence.notEmpty)
    (isSequence.times run member).valid

/-- In a sequence, each window adjoins the one before it. -/
theorem IsSequence.adjoins (isSequence : IsSequence charts first later) :
    (first :: later).IsChain Adjoins := by
  induction later generalizing first with
  | nil => exact List.isChain_singleton first
  | cons next later ih =>
    obtain ⟨notEmpty, same, times, allowed, chain⟩ := isSequence
    rw [List.isChain_cons_cons] at chain ⊢
    have inside : next ∈ first :: next :: later := List.mem_cons_of_mem _ List.mem_cons_self
    obtain ⟨adjoins, allowed'⟩ := chain.1.adjoins
      (by rw [same first List.mem_cons_self]; exact notEmpty) (by rw [same next inside]; exact notEmpty)
      (times first List.mem_cons_self) (times next inside) allowed
    refine ⟨adjoins, ih ⟨notEmpty, ?_, ?_, allowed', chain.2⟩⟩
    · exact fun run member => same run (List.mem_cons_of_mem _ member)
    · exact fun run member => times run (List.mem_cons_of_mem _ member)

/-- Each later run adjoins the one before it. -/
theorem exists_adjoins (chain : (first :: later).IsChain Adjoins) :
    ∀ run ∈ later, ∃ previous, Adjoins previous run := by
  induction later generalizing first with
  | nil => exact fun _ member => (by cases member)
  | cons next later ih =>
    rw [List.isChain_cons_cons] at chain
    rw [List.forall_mem_cons]
    exact ⟨⟨first, chain.1⟩, ih chain.2⟩

/-- No later run covers a minute that is not after the end of the first one. -/
theorem not_covers_of_le (chain : (first :: later).IsChain Adjoins) {time : Moment}
    (minute : time.IsMinute) (early : time.seconds ≤ first.stop.seconds) :
    ∀ run ∈ later, ¬ run.Covers time := by
  induction later generalizing first with
  | nil => exact fun _ member => (by cases member)
  | cons next later ih =>
    rw [List.isChain_cons_cons] at chain
    have order := (Moment.atMost_iff_of_whole chain.1.minute.micro chain.1.minute'.micro).1
      chain.1.order
    intro run member
    rcases List.mem_cons.1 member with rfl | inLater
    · rw [chain.1.covers_iff minute]
      omega
    · exact ih chain.2 (Nat.le_trans early order) run inLater

/-- Each minute from the first end to the last one is covered by exactly one run. -/
theorem exists_covers (chain : (first :: later).IsChain Adjoins) {time : Moment}
    (minute : time.IsMinute) (after : first.stop.seconds < time.seconds)
    (before : time.seconds ≤ ((first :: later).getLast (List.cons_ne_nil _ _)).stop.seconds) :
    ∃ earlier run rest, later = earlier ++ run :: rest ∧ run.Covers time ∧
      ∀ other ∈ earlier ++ rest, ¬ other.Covers time := by
  induction later generalizing first with
  | nil => exact absurd after (Nat.not_lt_of_le before)
  | cons next later ih =>
    rw [List.isChain_cons_cons] at chain
    have covers := chain.1.covers_iff minute
    by_cases here : time.seconds ≤ next.stop.seconds
    · exact ⟨[], next, later, rfl, covers.2 ⟨after, here⟩, not_covers_of_le chain.2 minute here⟩
    · rw [List.getLast_cons (List.cons_ne_nil _ _)] at before
      obtain ⟨earlier, run, rest, rfl, covered, others⟩ :=
        ih chain.2 (Nat.lt_of_not_le here) before
      refine ⟨next :: earlier, run, rest, rfl, covered, ?_⟩
      rw [List.cons_append, List.forall_mem_cons]
      exact ⟨fun covered => here (covers.1 covered).2, others⟩

end

/-! ## Points of a series -/

section

variable {entries : List Entry} {field : String} {points : List Point}

theorem points_of_pointsOf (found : pointsOf entries field = .ok points) :
    ∃ found?, entries.mapM (pointOf field) = .ok found? ∧ points = found?.filterMap id := by
  obtain ⟨found?, mapped, same⟩ := bind_eq_ok.1 found
  exact ⟨found?, mapped, (Except.ok.inj same).symm⟩

/-- The point of an entry has its time. -/
theorem pointOf_ok {entry : Entry} {point? : Option Point} (found : pointOf field entry = .ok point?) :
    match entry.value? field with
    | none => point? = none
    | some number => ∃ rounded, number.oneDecimal = .ok rounded ∧
        point? = some ⟨entry.time.milliseconds, rounded⟩ := by
  rw [pointOf] at found
  cases value : entry.value? field with
  | none =>
    rw [value] at found
    exact (Except.ok.inj found).symm
  | some number =>
    rw [value] at found
    obtain ⟨rounded, rounds, same⟩ := bind_eq_ok.1 found
    exact ⟨rounded, rounds, (Except.ok.inj same).symm⟩

/-- An entry with a number for a field has its point. -/
theorem mem_of_pointsOf (found : pointsOf entries field = .ok points) {entry : Entry}
    (member : entry ∈ entries) {number : Number.Binary64} (has : entry.value? field = some number) :
    ∃ rounded, number.oneDecimal = .ok rounded ∧ ⟨entry.time.milliseconds, rounded⟩ ∈ points := by
  obtain ⟨found?, mapped, rfl⟩ := points_of_pointsOf found
  obtain ⟨point?, inFound, made⟩ := (Log.values_of_mapM mapped).1 entry member
  have point := pointOf_ok made
  rw [has] at point
  obtain ⟨rounded, rounds, rfl⟩ := point
  exact ⟨rounded, rounds, List.mem_filterMap.2 ⟨_, inFound, rfl⟩⟩

/-- Each point is that of an entry. -/
theorem exists_of_pointsOf (found : pointsOf entries field = .ok points) {point : Point}
    (member : point ∈ points) : ∃ entry ∈ entries, point.time = entry.time.milliseconds := by
  obtain ⟨found?, mapped, rfl⟩ := points_of_pointsOf found
  obtain ⟨point?, inFound, same⟩ := List.mem_filterMap.1 member
  obtain ⟨entry, inEntries, made⟩ := (Log.values_of_mapM mapped).2 point? inFound
  have point' := pointOf_ok made
  refine ⟨entry, inEntries, ?_⟩
  cases has : entry.value? field with
  | none =>
    rw [has] at point'
    rw [point'] at same
    cases same
  | some number =>
    rw [has] at point'
    obtain ⟨rounded, _, rfl⟩ := point'
    obtain rfl := Option.some.inj same
    rfl

end

/-- No series by day of the charts has the data file and the field of the series. -/
def IsUnshared (charts : List Chart) (series : Series) : Prop :=
  ∀ other ∈ allSeries charts, other.range.isByDay = true → other.datafile = series.datafile →
    other.field ≠ series.field

namespace KeptRun

/-- The run makes these points of a series. They stand under the data file and the field of the
series, unless a series by day has the same ones. -/
def Makes (run : KeptRun) (series : Series) (points : List Point) : Prop :=
  ∃ window due contents, run.turn.EndsWell run.before window due contents ∧
    ((run.turn.request window due).pointsFor series).outcome = .ok points ∧
    (IsUnshared run.turn.charts series →
      pointsAt contents series.datafile series.field = some points)

section

variable {run : KeptRun} {series : Series} {points : List Point}

/-- The points of a series of the last days are those of the entries in the window of the run. -/
theorem Makes.entries (makes : run.Makes series points) (short : series.range.isShort = true) :
    ∃ window entries, run.Opens window ∧
      (Log.readMonths run.turn.files run.turn.logDirectory [] window.start window.stop).outcome =
        .ok entries ∧
      pointsOf entries (monthlyField series.field) = .ok points := by
  obtain ⟨window, due, contents, well, made, _⟩ := makes
  rw [Request.pointsFor, if_pos short] at made
  obtain ⟨entries, read, made⟩ := Report.outcome_bind_eq_ok_iff.1 made
  exact ⟨window, entries, well.opens, read, made⟩

/-- A run makes the points of each own series of the last days. -/
theorem exists_makes (member : series ∈ allSeries run.turn.charts) (own : isOwn series = true)
    (short : series.range.isShort = true) : ∃ points, run.Makes series points := by
  have notEmpty : run.turn.charts ≠ [] := by
    intro none
    rw [none] at member
    cases member
  obtain ⟨window, due, contents, well, _⟩ := exists_endsWell notEmpty
  have collected := isCollected_of_collect well.collects
  have makes : (run.turn.request window due).makes series = true := by
    rw [Request.makes_eq, own, short]
    rfl
  obtain ⟨⟨points, made⟩, there⟩ := collected.complete series member makes
  refine ⟨points, window, due, contents, well, made, fun unshared => ?_⟩
  obtain ⟨points', found⟩ := Option.isSome_iff_exists.1 there
  obtain ⟨other, inCharts, makes', sameFile, sameField, made'⟩ := collected.made _ _ _ found
  -- What stands in the place of the series is itself one of the last days, with the same field.
  have short' : other.range.isShort = true := by
    rw [Request.makes_eq, Bool.and_eq_true, Bool.or_eq_true, Bool.and_eq_true] at makes'
    rcases makes'.2 with short' | ⟨byDay, _⟩
    · exact short'
    · exact absurd sameField (unshared other inCharts byDay sameFile)
  rw [Request.pointsFor, if_pos short', sameField] at made'
  rw [Request.pointsFor, if_pos short, made'] at made
  rw [found, Except.ok.inj made]

/-- An entry in the log of its month goes into the series if the run covers its time. -/
theorem Makes.mem (makes : run.Makes series points) (short : series.range.isShort = true)
    {previous : KeptRun} (adjoins : Adjoins previous run) {entry : Entry}
    (covered : run.Covers entry.time) {month : List Entry}
    (log : (readMonth run.turn.files run.turn.logDirectory
      (Log.monthFile (monthNumber entry.time.date))).outcome = .ok month)
    (member : entry ∈ month) {number : Number.Binary64}
    (has : entry.value? (monthlyField series.field) = some number) :
    ∃ rounded, number.oneDecimal = .ok rounded ∧ ⟨entry.time.milliseconds, rounded⟩ ∈ points := by
  obtain ⟨window, entries, opens, read, made⟩ := makes.entries short
  obtain ⟨window', opens', after, before⟩ := covered
  obtain rfl : window = window' := Except.ok.inj (opens.symm.trans opens')
  obtain ⟨start, stop⟩ := adjoins.valid opens
  exact mem_of_pointsOf made (Log.mem_of_readMonths read start stop log member after before) has

/-- A run that does not cover a minute makes no point of it. -/
theorem Makes.time_ne (makes : run.Makes series points) (short : series.range.isShort = true)
    {time : Moment} (minute : time.IsMinute) (uncovered : ¬ run.Covers time) :
    ∀ point ∈ points, point.time ≠ time.milliseconds := by
  intro point member same
  obtain ⟨window, entries, opens, read, made⟩ := makes.entries short
  obtain ⟨entry, inEntries, time'⟩ := exists_of_pointsOf made member
  have minute' := Log.isMinute_of_readMonths read inEntries
  obtain rfl : entry.time = time := minute'.eq_of_milliseconds minute (time'.symm.trans same)
  exact uncovered ⟨window, opens, Log.within_of_readMonths read inEntries⟩

end

end KeptRun

/-! ## All runs -/

open KeptRun

/-- In a sequence of runs each window starts one minute after the end of the one before it, and
no window ends before it. Each minute after the end of the first run and up to the end of the last
one lies in the window of exactly one later run. If that run finds an entry of such a minute in
the log of its month, the entry goes into each series of the last days that has its own data file
and for whose field the entry has a number: in this run, and in no other one. -/
theorem incremental_runs_cover_each_minute_once {charts : List Chart} {first : KeptRun}
    {later : List KeptRun} (isSequence : IsSequence charts first later) :
    (first :: later).IsChain Adjoins ∧
    ∀ time : Moment, time.IsMinute → time.atMost first.stop = false →
      time.atMost ((first :: later).getLast (List.cons_ne_nil _ _)).stop = true →
      ∃ earlier run rest, later = earlier ++ run :: rest ∧ run.Covers time ∧
        (∀ other ∈ earlier ++ rest, ¬ other.Covers time) ∧
        ∀ (entry : Entry) (name : String) (month : List Entry), entry.time = time →
          monthLogName monthNames (monthNumber time.date) = .ok name →
          (readMonth run.turn.files run.turn.logDirectory name).outcome = .ok month →
          entry ∈ month →
          ∀ series ∈ allSeries charts, isOwn series = true → series.range.isShort = true →
          ∀ number, entry.value? (monthlyField series.field) = some number →
          ∃ rounded, number.oneDecimal = .ok rounded ∧
            (∃ points, run.Makes series points ∧ ⟨time.milliseconds, rounded⟩ ∈ points) ∧
            ∀ other ∈ earlier ++ rest, ∃ points, other.Makes series points ∧
              ∀ point ∈ points, point.time ≠ time.milliseconds := by
  have chain := isSequence.adjoins
  refine ⟨chain, fun time minute after before => ?_⟩
  have stops := isSequence.isMinute_stop
  have after' : first.stop.seconds < time.seconds := by
    rw [← Nat.not_le, ← Moment.atMost_iff_of_whole minute.micro (stops first List.mem_cons_self).micro,
      after]
    exact Bool.false_ne_true
  have before' := (Moment.atMost_iff_of_whole minute.micro (stops _ (List.getLast_mem _)).micro).1 before
  obtain ⟨earlier, run, rest, rfl, covered, others⟩ := exists_covers chain minute after' before'
  refine ⟨earlier, run, rest, rfl, covered, others, ?_⟩
  intro entry name month same named log member series inCharts own short number has
  subst same
  obtain rfl := Except.ok.inj ((Log.monthLogName_eq _).symm.trans named)
  have makes : ∀ other ∈ earlier ++ run :: rest, ∃ points, other.Makes series points := by
    intro other inLater
    have sameCharts := isSequence.charts other (List.mem_cons_of_mem _ inLater)
    exact exists_makes (sameCharts ▸ inCharts) own short
  have inLater : run ∈ earlier ++ run :: rest := List.mem_append_right _ List.mem_cons_self
  obtain ⟨previous, adjoins⟩ := exists_adjoins chain run inLater
  obtain ⟨points, made⟩ := makes run inLater
  obtain ⟨rounded, rounds, inPoints⟩ := made.mem short adjoins covered log member has
  refine ⟨rounded, rounds, ⟨points, made, inPoints⟩, fun other inOthers => ?_⟩
  obtain ⟨points', made'⟩ := makes other (List.perm_middle.mem_iff.2 (List.mem_cons_of_mem run inOthers))
  exact ⟨points', made', made'.time_ne short minute (others other inOthers)⟩

/-! ## Three runs over the turn of a year -/

/-- The settings of a site with incremental uploads. -/
def incrementalSettings : Settings :=
  { Definition.plainSettings with station := {
      file := .station
      body := { children := [("FTP site", {},
        .group { settings := [{ key := "Sslftp", text := "3" }] })] } } }

/-- A log line of the first minutes of a year. -/
def newYearLine : String :=
  "01/01/24,00:05,20,50,10,1,2,180,0,0,1010,0,20,50,1,20,20,1,100,0.25,10"

/-- The time of the line. -/
def newYearTime : Moment := { date := ⟨2024, 1, 1⟩, hour := 0, minute := 5 }

/-- The entry of the line. -/
def newYearEntry : Entry := ⟨newYearTime, Log.numbersOf .monthly (Log.splitLine newYearLine)⟩

/-- The log with the line. -/
def newYearFiles : Files :=
  { twoDirectories with contents := [(["data", "Jan24log.txt"], newYearLine.toUTF8)] }

/-- A run over the chart of the evapotranspiration. -/
def lossTurn (files : Files) (now : Moment) (full : Bool) : Turn :=
  ⟨files, lossOutput.charts, "data", "out", now, full⟩

/-- The settings with the end of a run. -/
def withStop (settings : Settings) (stop : Moment) : Except Fault Settings :=
  settings.setSite "General" "LastUploadTime" (write slashMinute stop)

theorem eq_ok_get {α : Type} {outcome : Except Fault α} (isSome : outcome.toOption.isSome = true) :
    outcome = .ok (outcome.toOption.get isSome) := by
  cases outcome with
  | error fault => cases isSome
  | ok value => rfl

/-- A run whose end can be kept. -/
def keptRun (turn : Turn) (before : Settings) (stop : Moment)
    (well : (turn.update before).outcome = .ok stop ∧
      (withStop (turn.update before).settings stop).toOption.isSome = true) : KeptRun where
  turn
  before
  stop
  kept := (withStop (turn.update before).settings stop).toOption.get well.2
  ended := well.1
  keeps := eq_ok_get well.2

/-- A full run before midnight. -/
def eveningRun : KeptRun :=
  keptRun (lossTurn twoDirectories ⟨⟨2023, 12, 31⟩, 23, 57, 12, 0⟩ true) incrementalSettings
    ⟨⟨2023, 12, 31⟩, 23, 50, 0, 0⟩ (by decide +kernel)

/-- An incremental run after midnight. -/
def nightRun : KeptRun :=
  keptRun (lossTurn newYearFiles ⟨⟨2024, 1, 1⟩, 0, 12, 0, 0⟩ false) eveningRun.kept
    ⟨⟨2024, 1, 1⟩, 0, 10, 0, 0⟩ (by decide +kernel)

/-- Another one that comes too early for a new window. -/
def idleRun : KeptRun :=
  keptRun (lossTurn newYearFiles ⟨⟨2024, 1, 1⟩, 0, 17, 0, 0⟩ false) nightRun.kept
    ⟨⟨2024, 1, 1⟩, 0, 10, 0, 0⟩ (by decide +kernel)

/-- The three runs are a sequence. -/
theorem isSequence_idleRun : IsSequence lossOutput.charts eveningRun [nightRun, idleRun] where
  notEmpty := List.cons_ne_nil _ _
  charts := by
    simp only [List.forall_mem_cons]
    exact ⟨rfl, rfl, rfl, fun _ member => (by cases member)⟩
  times := by
    simp only [List.forall_mem_cons]
    exact ⟨by decide, by decide, by decide, fun _ member => (by cases member)⟩
  allowed := by decide
  chain := by
    rw [List.isChain_cons_cons, List.isChain_cons_cons]
    exact ⟨⟨rfl, rfl, by decide, rfl⟩, ⟨rfl, rfl, by decide, rfl⟩, List.isChain_singleton _⟩

/-- The entry after midnight goes into the series of one of the runs after midnight. -/
theorem new_year_entry_goes_into_one_run :
    ∃ earlier run rest, [nightRun, idleRun] = earlier ++ run :: rest ∧ run.Covers newYearTime ∧
      ∀ series ∈ allSeries lossOutput.charts, ∃ rounded,
        (∃ points, run.Makes series points ∧ ⟨newYearTime.milliseconds, rounded⟩ ∈ points) ∧
        ∀ other ∈ earlier ++ rest, ∃ points, other.Makes series points ∧
          ∀ point ∈ points, point.time ≠ newYearTime.milliseconds := by
  have minute : newYearTime.IsMinute := by decide
  obtain ⟨earlier, run, rest, split, covers, _, goes⟩ :=
    (incremental_runs_cover_each_minute_once isSequence_idleRun).2 newYearTime minute (by decide)
      (by decide)
  refine ⟨earlier, run, rest, split, covers, ?_⟩
  have logs : run.turn.files = newYearFiles ∧ run.turn.logDirectory = "data" := by
    have member : run ∈ [nightRun, idleRun] := split ▸ List.mem_append_right _ List.mem_cons_self
    rcases List.mem_pair.1 member with rfl | rfl
    · exact ⟨rfl, rfl⟩
    · exact ⟨rfl, rfl⟩
  have month : (readMonth run.turn.files run.turn.logDirectory "Jan24log.txt").outcome =
      .ok [newYearEntry] := by
    rw [logs.1, logs.2]
    decide +kernel
  intro series member
  obtain rfl := List.mem_singleton.1 member
  obtain ⟨number, has⟩ : ∃ number, newYearEntry.value? "EVT" = some number :=
    Option.isSome_iff_exists.1 (by decide)
  obtain ⟨rounded, _, inRun, inOthers⟩ := goes newYearEntry "Jan24log.txt" [newYearEntry] rfl
    (by decide) month List.mem_cons_self _ member (by decide) (by decide) number has
  exact ⟨rounded, inRun, inOthers⟩

end Meteogram.Data
