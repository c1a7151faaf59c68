import Mathlib.Data.List.Chain
import Meteogram.Proofs.Data.WrittenSeries
import Meteogram.Proofs.Ini.Paths
import Meteogram.Proofs.Time.Written

/-!
# Series by day are made once a day

A run that makes the series by day keeps its time as a text in the settings, and the next one
compares the date that it reads there with its own. One step of a sequence of runs either makes
the series and changes this text, or does neither (`DayRun.after_of_makes`,
`DayRun.after_of_not_makes`). So what the text says in front of a run was left there by the last
run that made the series, or stood there from the start (`DayRun.opensDay_iff`).

After an incremental run the text always has the date of the run. So if the clock never goes back,
incremental runs make the series exactly once on each day (`DayRun.makes_iff_first_of_day`).
-/

set_option autoImplicit false

namespace Meteogram.Data

open Page (allSeries)
open Station (Settings Window)
open Time (Moment Date dashSecond firstLongYear read? write)

/-! ## The time of the last daily run -/

/-- The settings do not say that the series by day were made on the date: what they say cannot be
read, or is another date. -/
def OpensDay (settings : Settings) (date : Date) : Prop :=
  ∃ text, settings.siteText "Compiler" "DoneToday" = .ok text ∧
    ∀ done, read? dashSecond text = some done → done.date ≠ date

/-- From the second year on, a time is on another date than the time a day before it. -/
theorem exists_dayBefore {now : Moment} (valid : now.IsValid) (long : firstLongYear ≤ now.date.year) :
    ∃ before, now.shift (-Moment.daySeconds) = .ok before ∧ before.date ≠ now.date := by
  have aDay : Moment.daySeconds ≤ now.seconds := by
    have years : Time.daysBeforeYear 2 ≤ Time.daysBeforeYear now.date.year :=
      Time.daysBeforeYear_mono (by decide) (Nat.le_trans (by decide) long)
    have first : Time.daysBeforeYear 2 = 365 := by decide
    rw [Moment.seconds, Date.number, Moment.daySeconds]
    omega
  have inside : now.seconds - Moment.daySeconds < Moment.endSeconds :=
    Nat.lt_of_le_of_lt (Nat.sub_le _ _) (Moment.seconds_lt valid)
  have valid' := Moment.isValid_ofSeconds inside
  refine ⟨{ Moment.ofSeconds (now.seconds - Moment.daySeconds) with micro := now.micro }, ?_, ?_⟩
  · rw [Moment.shift_eq_ok_iff valid]
    refine ⟨⟨valid'.date, valid'.hour, valid'.minute, valid'.second, valid.micro⟩, ?_, rfl⟩
    have seconds := Moment.seconds_ofSeconds (now.seconds - Moment.daySeconds)
    rw [Moment.seconds] at seconds ⊢
    dsimp only
    rw [seconds]
    omega
  · intro same
    have seconds := Moment.seconds_ofSeconds (now.seconds - Moment.daySeconds)
    have hour := valid.hour
    have minute := valid.minute
    have second := valid.second
    dsimp only at same
    rw [Moment.seconds, same, Moment.seconds, Moment.daySeconds] at seconds
    rw [Moment.seconds, Moment.daySeconds] at aDay
    omega

theorem dailyDue_iff {settings : Settings} {now : Moment} (valid : now.IsValid)
    (long : firstLongYear ≤ now.date.year) :
    settings.dailyDue now = .ok true ↔ OpensDay settings now.date := by
  rw [Settings.dailyDue, OpensDay, bind_eq_ok]
  refine exists_congr fun text => and_congr_right fun _ => ?_
  cases read? dashSecond text with
  | some done =>
    dsimp only
    constructor
    · intro due done' same
      obtain rfl := Option.some.inj same
      exact bne_iff_ne.1 (Except.ok.inj due)
    · intro other
      exact congrArg Except.ok (bne_iff_ne.2 (other done rfl))
  | none =>
    obtain ⟨before, shifted, other⟩ := exists_dayBefore valid long
    dsimp only
    rw [shifted]
    exact ⟨fun _ _ same => (by cases same), fun _ => congrArg Except.ok (bne_iff_ne.2 other)⟩

section

variable {settings kept : Settings} {now : Moment} (valid : now.IsValid)
  (long : firstLongYear ≤ now.date.year)
  (marks : settings.setSite "Compiler" "DoneToday" (write dashSecond now) = .ok kept)

include valid long marks

/-- A time that is kept is read back. -/
theorem siteText_of_marks :
    kept.siteText "Compiler" "DoneToday" = .ok (write dashSecond now) :=
  Settings.siteText_setSite marks (Time.percent_notMem_dashSecond valid long)
    (Time.write_dashSecond_ne valid long)

/-- Once a time is kept, the series by day are to be made on all dates but its own. -/
theorem opensDay_of_marks {date : Date} : OpensDay kept date ↔ now.date ≠ date := by
  have reads := Time.read?_write_dashSecond valid long
  have found := siteText_of_marks valid long marks
  constructor
  · rintro ⟨text, found', other⟩
    obtain rfl := Except.ok.inj (found.symm.trans found')
    exact fun same => other _ reads same
  · intro other
    refine ⟨_, found, fun done reads' => ?_⟩
    obtain rfl := Option.some.inj (reads.symm.trans reads')
    exact other

end

/-! ## Runs with series by day -/

/-- A run that ends well, over charts with a series by day of its own, at a time whose year has
four digits. -/
structure DayRun where
  turn : Turn
  /-- The settings that it starts from. -/
  before : Settings
  stop : Moment
  ended : (turn.update before).outcome = .ok stop
  byDay : ∃ series ∈ allSeries turn.charts, isOwn series = true ∧ series.range.isByDay = true
  valid : turn.now.IsValid
  long : firstLongYear ≤ turn.now.date.year

namespace DayRun

/-- The settings that the run leaves. -/
def after (run : DayRun) : Settings := (run.turn.update run.before).settings

/-- The run writes all its series by day. -/
def Makes (run : DayRun) : Prop :=
  ∃ window due contents, run.turn.Writes run.before window due contents ∧
    ∀ series ∈ allSeries run.turn.charts, isOwn series = true → series.range.isByDay = true →
      (run.turn.request window due).makes series = true

/-- The run writes none of its series by day. -/
def Skips (run : DayRun) : Prop :=
  ∃ window due contents, run.turn.Writes run.before window due contents ∧
    ∀ series ∈ allSeries run.turn.charts, isOwn series = true → series.range.isByDay = true →
      (run.turn.request window due).makes series = false

/-- The next run starts from the settings that the run leaves. -/
def Precedes (run next : DayRun) : Prop := next.before = run.after

/-- The settings are the same but for the time of the last daily run. What stands at other paths
has the same text, and is read as the same value if it refers to nothing. -/
structure Keeps (before after : Settings) : Prop where
  rest : after = { before with site := { before.site with body := after.site.body } }
  texts : ∀ path, ¬ ["Compiler", "DoneToday"] <+: path →
    after.site.body.textAt? path = before.site.body.textAt? path
  values : ∀ name key text standard, ¬ (name = "Compiler" ∧ key = "DoneToday") →
    before.site.body.textAt? [name, key] = some text → '%' ∉ text.toList →
    after.site.get name key standard = before.site.get name key standard

theorem keeps_refl (settings : Settings) : Keeps settings settings where
  rest := rfl
  texts _ _ := rfl
  values _ _ _ _ _ _ _ := rfl

theorem keeps_setSite {before after : Settings} {text : String}
    (set : before.setSite "Compiler" "DoneToday" text = .ok after) : Keeps before after := by
  obtain ⟨site, changed, same⟩ := bind_eq_ok.1 set
  obtain rfl := Except.ok.inj same
  refine ⟨?_, fun path elsewhere => Ini.Document.textAt?_set changed elsewhere,
    fun name key text standard apart => Ini.Document.get_set_of_ne changed apart⟩
  dsimp only
  rw [← Ini.Document.set_eq changed]

section

variable {run : DayRun}

theorem notEmpty (run : DayRun) : run.turn.charts ≠ [] := by
  intro none
  obtain ⟨series, member, _⟩ := run.byDay
  rw [none] at member
  cases member

/-- What the run was planned to do is what it writes. -/
theorem exists_writes (run : DayRun) : ∃ window due contents,
    run.turn.Writes run.before window due contents ∧
      markDone run.before run.turn.now due = .ok run.after := by
  obtain ⟨window, due, contents, planned, well⟩ := Turn.steps_of_update run.notEmpty run.ended
  exact ⟨window, due, contents, well.writes_of_plan planned, well.marks⟩

/-- A run that was planned in one way was not planned in another one. -/
theorem due_unique {window window' : Window} {due due' : Bool} {contents contents' : Contents}
    (writes : run.turn.Writes run.before window due contents)
    (writes' : run.turn.Writes run.before window' due' contents') : due = due' :=
  congrArg Prod.snd (Except.ok.inj (writes.plans.symm.trans writes'.plans))

/-- The series by day are made if they are due. -/
theorem makes_byDay {request : Request} {series : Series} (own : isOwn series = true)
    (byDay : series.range.isByDay = true) : request.makes series = request.due := by
  have notShort : series.range.isShort = false := by
    cases range : series.range with
    | daily | all => rfl
    | recent | extra | unlisted number =>
      rw [range] at byDay
      cases byDay
  rw [Request.makes_eq, own, notShort, byDay, Bool.true_and, Bool.true_and, Bool.false_or]

theorem makes_iff {window : Window} {due : Bool} {contents : Contents}
    (writes : run.turn.Writes run.before window due contents) : run.Makes ↔ due = true := by
  constructor
  · rintro ⟨window', due', contents', writes', makes⟩
    obtain ⟨series, member, own, byDay⟩ := run.byDay
    rw [due_unique writes writes', ← makes series member own byDay, makes_byDay own byDay]
    rfl
  · intro isDue
    exact ⟨window, due, contents, writes, fun series _ own byDay =>
      (makes_byDay own byDay).trans isDue⟩

theorem skips_of_not_makes (without : ¬ run.Makes) : run.Skips := by
  obtain ⟨window, due, contents, writes, _⟩ := run.exists_writes
  rw [makes_iff writes, Bool.not_eq_true] at without
  exact ⟨window, due, contents, writes, fun series _ own byDay =>
    (makes_byDay own byDay).trans without⟩

/-- A run makes the series by day if it makes everything anew, or the settings do not say that
they were made on its date. -/
theorem makes_iff_opensDay :
    run.Makes ↔ run.turn.full = true ∨ OpensDay run.before run.turn.now.date := by
  obtain ⟨window, due, contents, writes, _⟩ := run.exists_writes
  rw [makes_iff writes, writes.isDue, dailyDue_iff run.valid run.long]

/-- A run that makes the series by day keeps its time. -/
theorem after_of_makes (makes : run.Makes) :
    run.before.setSite "Compiler" "DoneToday" (write dashSecond run.turn.now) = .ok run.after := by
  obtain ⟨window, due, contents, writes, marks⟩ := run.exists_writes
  rwa [(makes_iff writes).1 makes] at marks

/-- A run that does not make the series by day leaves the settings. -/
theorem after_of_not_makes (without : ¬ run.Makes) : run.after = run.before := by
  obtain ⟨window, due, contents, writes, marks⟩ := run.exists_writes
  rw [makes_iff writes, Bool.not_eq_true] at without
  rw [without] at marks
  exact (Except.ok.inj marks).symm

/-- The time that a run keeps is read back in whole seconds. -/
theorem kept_of_makes (makes : run.Makes) :
    run.after.siteText "Compiler" "DoneToday" = .ok (write dashSecond run.turn.now) ∧
      read? dashSecond (write dashSecond run.turn.now) = some { run.turn.now with micro := 0 } :=
  ⟨siteText_of_marks run.valid run.long (after_of_makes makes),
    Time.read?_write_dashSecond run.valid run.long⟩

theorem keeps (run : DayRun) : Keeps run.before run.after := by
  by_cases makes : run.Makes
  · exact keeps_setSite (after_of_makes makes)
  · rw [after_of_not_makes makes]
    exact keeps_refl _

/-- After a run that makes the series by day, they are not to be made on its date. -/
theorem opensDay_after_iff (makes : run.Makes) {date : Date} :
    OpensDay run.after date ↔ run.turn.now.date ≠ date :=
  opensDay_of_marks run.valid run.long (after_of_makes makes)

/-- An incremental run has read the time of the last daily run. -/
theorem exists_text (incremental : run.turn.full = false) :
    ∃ text, run.before.siteText "Compiler" "DoneToday" = .ok text := by
  obtain ⟨window, due, contents, writes, _⟩ := run.exists_writes
  obtain ⟨_, _, more⟩ := Report.outcome_bind_eq_ok_iff.1 writes.plans
  rw [incremental] at more
  obtain ⟨due', reads, _⟩ := Report.outcome_bind_eq_ok_iff.1 more
  obtain ⟨text, found, _⟩ := bind_eq_ok.1 reads
  exact ⟨text, found⟩

/-- After an incremental run, the series by day are to be made on all dates but its own. -/
theorem opensDay_after_iff_of_incremental (incremental : run.turn.full = false) {date : Date} :
    OpensDay run.after date ↔ run.turn.now.date ≠ date := by
  by_cases makes : run.Makes
  · exact opensDay_after_iff makes
  · rw [after_of_not_makes makes]
    rw [makes_iff_opensDay, incremental] at makes
    obtain ⟨text, found⟩ := exists_text incremental
    -- The text that the run found has its own date.
    obtain ⟨done, reads, same⟩ : ∃ done, read? dashSecond text = some done ∧
        done.date = run.turn.now.date := by
      by_contra none
      exact makes (.inr ⟨text, found, fun done reads same => none ⟨done, reads, same⟩⟩)
    constructor
    · rintro ⟨text', found', other⟩
      obtain rfl := Except.ok.inj (found.symm.trans found')
      exact same ▸ other done reads
    · intro other
      refine ⟨text, found, fun done' reads' => ?_⟩
      obtain rfl := Option.some.inj (reads.symm.trans reads')
      exact same ▸ other

end

/-! ## Sequences of runs -/

/-- The last of the runs that makes the series by day. -/
def IsLastMaker (runs : List DayRun) (last : DayRun) : Prop :=
  ∃ before between, runs = before ++ last :: between ∧ last.Makes ∧
    ∀ other ∈ between, ¬ other.Makes

/-- If any run makes the series by day, one is the last to do so. -/
theorem exists_lastMaker {runs : List DayRun} (some : ∃ run ∈ runs, run.Makes) :
    ∃ last, IsLastMaker runs last := by
  induction runs using List.reverseRecOn with
  | nil =>
    obtain ⟨run, member, _⟩ := some
    cases member
  | append_singleton runs run ih =>
    by_cases makes : run.Makes
    · exact ⟨run, runs, [], rfl, makes, fun _ member => (by cases member)⟩
    · have someEarlier : ∃ run ∈ runs, run.Makes := by
        obtain ⟨other, member, makes'⟩ := some
        rcases List.mem_append.1 member with inRuns | isLast
        · exact ⟨other, inRuns, makes'⟩
        · exact absurd (List.mem_singleton.1 isLast ▸ makes') makes
      obtain ⟨last, before, between, rfl, makes', without⟩ := ih someEarlier
      refine ⟨last, before, between ++ [run], by rw [List.append_assoc]; rfl, makes', ?_⟩
      rw [List.forall_mem_append, List.forall_mem_singleton]
      exact ⟨without, makes⟩

/-- Runs that do not make the series by day pass on the settings as they are. -/
theorem before_eq_of_not_makes {start run : DayRun} {between : List DayRun}
    (chain : (start :: (between ++ [run])).IsChain Precedes)
    (without : ∀ other ∈ between, ¬ other.Makes) : run.before = start.after := by
  induction between generalizing start with
  | nil => exact (List.isChain_cons_cons.1 chain).1
  | cons other between ih =>
    rw [List.cons_append, List.isChain_cons_cons] at chain
    rw [List.forall_mem_cons] at without
    rw [ih chain.2 without.2, after_of_not_makes without.1]
    exact chain.1

section

variable {first run : DayRun} {later earlier rest : List DayRun}
  (chain : (first :: later).IsChain Precedes) (split : first :: later = earlier ++ run :: rest)

include chain split

theorem chain_to_run : (earlier ++ [run]).IsChain Precedes := by
  rw [split, List.append_cons] at chain
  exact chain.left_of_append

/-- What the settings say in front of a run was left by the last run before it that made the
series by day, or was there from the start. -/
theorem opensDay_iff {date : Date} : OpensDay run.before date ↔
    ((∀ other ∈ earlier, ¬ other.Makes) ∧ OpensDay first.before date) ∨
      ∃ last, IsLastMaker earlier last ∧ last.turn.now.date ≠ date := by
  have chain' := chain_to_run chain split
  have ofLast : ∀ last, IsLastMaker earlier last →
      (OpensDay run.before date ↔ last.turn.now.date ≠ date) := by
    rintro last ⟨before, between, rfl, makes, without⟩
    rw [List.append_assoc, List.cons_append] at chain'
    rw [before_eq_of_not_makes chain'.right_of_append without, opensDay_after_iff makes]
  have ofStart : (∀ other ∈ earlier, ¬ other.Makes) → run.before = first.before := by
    intro without
    cases earlier with
    | nil => rw [(List.cons.inj split).1]
    | cons start between =>
      rw [List.forall_mem_cons] at without
      rw [before_eq_of_not_makes chain' without.2, after_of_not_makes without.1,
        (List.cons.inj split).1]
  constructor
  · intro opens
    by_cases some : ∃ other ∈ earlier, other.Makes
    · obtain ⟨last, isLast⟩ := exists_lastMaker some
      exact .inr ⟨last, isLast, (ofLast last isLast).1 opens⟩
    · have without : ∀ other ∈ earlier, ¬ other.Makes :=
        fun other member makes => some ⟨other, member, makes⟩
      exact .inl ⟨without, ofStart without ▸ opens⟩
  · rintro (⟨without, opens⟩ | ⟨last, isLast, other⟩)
    · exact ofStart without ▸ opens
    · exact (ofLast last isLast).2 other

/-- Incremental runs whose clock never goes back make the series by day in the first run of each
day, if they were last made on an earlier day. -/
theorem makes_iff_first_of_day (incremental : ∀ run ∈ first :: later, run.turn.full = false)
    (order : (first :: later).Pairwise fun run next => run.turn.now.atMost next.turn.now = true)
    (start : OpensDay first.before first.turn.now.date) :
    run.Makes ↔ ∀ other ∈ earlier, other.turn.now.date ≠ run.turn.now.date := by
  have chain' := chain_to_run chain split
  rw [split] at incremental order
  rw [makes_iff_opensDay, incremental run (List.mem_append_right _ List.mem_cons_self)]
  simp only [Bool.false_eq_true, false_or]
  rcases List.eq_nil_or_concat' earlier with rfl | ⟨earlier, previous, rfl⟩
  · obtain rfl := (List.cons.inj split).1
    exact ⟨fun _ _ member => (by cases member), fun _ => start⟩
  · rw [List.append_assoc] at chain'
    have precedes : run.before = previous.after :=
      (List.isChain_cons_cons.1 chain'.right_of_append).1
    have inRuns : previous ∈ earlier ++ [previous] := List.mem_append_right _ List.mem_cons_self
    rw [precedes, opensDay_after_iff_of_incremental
      (incremental previous (List.mem_append_left _ inRuns)), List.forall_mem_append,
      List.forall_mem_singleton]
    obtain ⟨orderEarlier, _, orderRun⟩ := List.pairwise_append.1 order
    refine ⟨fun other => ⟨fun run' member same => other ?_, other⟩, And.right⟩
    -- The date of the previous run lies between the two dates.
    have before := Moment.number_le_of_atMost previous.valid
      ((List.pairwise_append.1 orderEarlier).2.2 run' member previous List.mem_cons_self)
    have behind := Moment.number_le_of_atMost run.valid
      (orderRun previous inRuns run List.mem_cons_self)
    rw [same] at before
    rw [← Date.ofNumber_number previous.valid.date, ← Date.ofNumber_number run.valid.date,
      Nat.le_antisymm behind before]

end

end DayRun

/-! ## All sequences -/

open DayRun

/-- The series by day are made by the runs that make everything anew, by the first run if they
were last made on another date or at an unknown time, and by each run on another date than the
last run that made them. Exactly these runs keep their time, in whole seconds, and no other
setting is changed. So if the clock never goes back, incremental runs make the series in the first
run of each day. -/
theorem series_by_day_are_made_once_a_day {first : DayRun} {later : List DayRun}
    (chain : (first :: later).IsChain Precedes) :
    (∀ earlier run rest, first :: later = earlier ++ run :: rest →
      (run.Makes ↔ run.turn.full = true ∨
        ((∀ other ∈ earlier, ¬ other.Makes) ∧ OpensDay first.before run.turn.now.date) ∨
        ∃ last, IsLastMaker earlier last ∧ last.turn.now.date ≠ run.turn.now.date)) ∧
    (∀ run ∈ first :: later,
      (¬ run.Makes → run.Skips ∧ run.after = run.before) ∧
      (run.Makes → run.after.siteText "Compiler" "DoneToday" =
          .ok (write dashSecond run.turn.now) ∧
        read? dashSecond (write dashSecond run.turn.now) = some { run.turn.now with micro := 0 }) ∧
      Keeps run.before run.after) ∧
    ((∀ run ∈ first :: later, run.turn.full = false) →
      ((first :: later).Pairwise fun run next => run.turn.now.atMost next.turn.now = true) →
      (∃ text, first.before.siteText "Compiler" "DoneToday" = .ok text ∧
        ∀ done, read? dashSecond text = some done →
          done.date.number < first.turn.now.date.number) →
      ∀ earlier run rest, first :: later = earlier ++ run :: rest →
        (run.Makes ↔ ∀ other ∈ earlier, other.turn.now.date ≠ run.turn.now.date)) := by
  refine ⟨fun earlier run rest split => ?_, fun run _ => ?_, ?_⟩
  · rw [makes_iff_opensDay, opensDay_iff chain split]
  · exact ⟨fun without => ⟨skips_of_not_makes without, after_of_not_makes without⟩, kept_of_makes,
      run.keeps⟩
  · rintro incremental order ⟨text, found, before⟩ earlier run rest split
    refine makes_iff_first_of_day chain split incremental order ⟨text, found, ?_⟩
    intro done reads same
    exact absurd (congrArg Date.number same) (Nat.ne_of_lt (before done reads))

/-! ## Three runs over two days -/

/-- The evapotranspiration by day. -/
def dayLoss : Series where
  keyword := "DayEVT"
  field := "evapotranspiration"
  datafile := "CUserdataALL.json"
  axes := Axis.evapotranspiration.set
  axisId := "EVT"
  unit := "mm"
  range := .daily

/-- A chart that plots the evapotranspiration by day. -/
def dayLossChart : Chart := { id := "A", title := "T", range := .daily, series := [dayLoss] }

/-- An incremental run over the chart. -/
def dayLossTurn (now : Moment) : Turn := ⟨twoDirectories, [dayLossChart], "data", "out", now, false⟩

/-- A run over the chart that ends well. -/
def dayLossRun (now : Moment) (before : Settings) (stop : Moment)
    (well : now.IsValid ∧ firstLongYear ≤ now.date.year ∧
      ((dayLossTurn now).update before).outcome = .ok stop) : DayRun where
  turn := dayLossTurn now
  before
  stop
  ended := well.2.2
  byDay := ⟨dayLoss, List.mem_cons_self, by decide, rfl⟩
  valid := well.1
  long := well.2.1

theorem precedes_dayLossRun {run : DayRun} {now stop : Moment}
    (well : now.IsValid ∧ firstLongYear ≤ now.date.year ∧
      ((dayLossTurn now).update run.after).outcome = .ok stop) :
    run.Precedes (dayLossRun now run.after stop well) :=
  rfl

/-- A run at noon. -/
def noonRun : DayRun :=
  dayLossRun summerNoon Definition.plainSettings summerNoon (by decide +kernel)

/-- A run in the evening of the same day. -/
def eveningDayRun : DayRun :=
  dayLossRun ⟨⟨2024, 6, 21⟩, 23, 55, 0, 0⟩ noonRun.after ⟨⟨2024, 6, 21⟩, 23, 50, 0, 0⟩
    (by decide +kernel)

/-- A run after midnight. -/
def midnightRun : DayRun :=
  dayLossRun ⟨⟨2024, 6, 22⟩, 0, 5, 30, 0⟩ eveningDayRun.after ⟨⟨2024, 6, 22⟩, 0, 0, 0, 0⟩
    (by decide +kernel)

/-- The series are made at noon and after midnight, and not in the evening between. -/
theorem noon_and_midnight_make_series :
    noonRun.Makes ∧ ¬ eveningDayRun.Makes ∧ midnightRun.Makes := by
  have chain : [noonRun, eveningDayRun, midnightRun].IsChain DayRun.Precedes :=
    .cons_cons (precedes_dayLossRun _) (.cons_cons (precedes_dayLossRun _) (.singleton _))
  have incremental : ∀ run ∈ [noonRun, eveningDayRun, midnightRun], run.turn.full = false := by
    simp only [List.forall_mem_cons]
    exact ⟨rfl, rfl, rfl, fun _ member => (by cases member)⟩
  have order : [noonRun, eveningDayRun, midnightRun].Pairwise
      fun run next => run.turn.now.atMost next.turn.now = true := by
    simp only [List.pairwise_cons, List.forall_mem_cons, List.not_mem_nil, false_implies,
      implies_true, and_true, List.Pairwise.nil]
    exact ⟨⟨by decide, by decide⟩, by decide⟩
  have start : noonRun.before.siteText "Compiler" "DoneToday" = .ok "" := rfl
  have firstOfDay := (series_by_day_are_made_once_a_day chain).2.2 incremental order
    ⟨"", start, fun done reads => (by cases reads)⟩
  have noon := firstOfDay [] noonRun _ rfl
  have evening := firstOfDay [noonRun] eveningDayRun _ rfl
  have midnight := firstOfDay [noonRun, eveningDayRun] midnightRun _ rfl
  rw [noon, evening, midnight]
  simp only [List.forall_mem_cons, List.not_mem_nil, false_implies, implies_true, and_true, true_and]
  exact ⟨fun apart => apart rfl, by decide, by decide⟩

end Meteogram.Data
