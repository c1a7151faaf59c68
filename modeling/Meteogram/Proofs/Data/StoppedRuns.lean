import Meteogram.Proofs.Data.DailySeries

/-!
# Runs that fail

A run over some charts fails in one of four places: where it is planned, where its time is kept,
where logs are read and numbers rounded, or where data files are written (`Turn.Failure`). The time
of a run that is to make the series by day is kept before the last two. So a run that fails there has
kept its time, although it has not made the series, and the next run on the same date does not make
them either. Whatever fails earlier leaves the settings as they are (`failed_runs_keep_their_time`).
-/

set_option autoImplicit false

namespace Meteogram.Data

open Page (allSeries)
open Station (Settings Window)
open Time (Moment dashSecond firstLongYear write)

/-! ## Where runs fail -/

namespace Turn

/-- Where a run fails, and what it leaves then. -/
inductive Failure (turn : Turn) (settings : Settings) (fault : Fault) : Prop
  /-- There is no window, or what is due is not known. -/
  | plan (stops : (plan settings turn.now turn.full).outcome = .error fault)
      (left : (turn.update settings).settings = settings.after fault)
      (files : (turn.update settings).files = turn.files)
  /-- The time of the run cannot be kept. -/
  | mark {window : Window} {due : Bool}
      (planned : (Data.plan settings turn.now turn.full).outcome = .ok (window, due))
      (stops : markDone settings turn.now due = .error fault)
      (left : (turn.update settings).settings = settings.after fault)
      (files : (turn.update settings).files = turn.files)
  /-- A log cannot be read, or a number cannot be rounded. -/
  | collect {window : Window} {due : Bool}
      (planned : (Data.plan settings turn.now turn.full).outcome = .ok (window, due))
      (marks : markDone settings turn.now due = .ok (turn.update settings).settings)
      (stops : (collect (turn.request window due) turn.charts).outcome = .error fault)
      (files : (turn.update settings).files = turn.files)
  /-- There is no place for a data file. Those before it are written. -/
  | write {window : Window} {due : Bool} {contents : Contents}
      (planned : (Data.plan settings turn.now turn.full).outcome = .ok (window, due))
      (marks : markDone settings turn.now due = .ok (turn.update settings).settings)
      (collects : (Data.collect (turn.request window due) turn.charts).outcome = .ok contents)
      (stops : (writeAll turn.files turn.directory contents).1 = .error fault)
      (files : (turn.update settings).files = (writeAll turn.files turn.directory contents).2)

/-- A run that fails does so in one of these places. -/
theorem failure_of_update {turn : Turn} {settings : Settings} {fault : Fault}
    (stopped : (turn.update settings).outcome = .error fault) : turn.Failure settings fault := by
  have steps : turn.update settings = Data.update settings turn.files turn.charts
      turn.logDirectory turn.directory turn.now turn.full := rfl
  rw [Data.update] at steps
  split at steps
  · rw [steps] at stopped
    cases stopped
  dsimp only at steps
  cases planned : (Data.plan settings turn.now turn.full).outcome with
  | error fault' =>
    rw [planned] at steps
    rw [steps] at stopped
    obtain rfl := Except.error.inj stopped
    exact .plan planned (by rw [steps]) (by rw [steps])
  | ok both =>
    obtain ⟨window, due⟩ := both
    rw [planned] at steps
    dsimp only at steps
    cases marks : markDone settings turn.now due with
    | error fault' =>
      rw [marks] at steps
      rw [steps] at stopped
      obtain rfl := Except.error.inj stopped
      exact .mark planned marks (by rw [steps]) (by rw [steps])
    | ok kept =>
      rw [marks] at steps
      dsimp only at steps
      rw [← request] at steps
      cases collects : (Data.collect (turn.request window due) turn.charts).outcome with
      | error fault' =>
        rw [collects] at steps
        rw [steps] at stopped
        obtain rfl := Except.error.inj stopped
        exact .collect planned (by rw [steps, marks]) collects (by rw [steps])
      | ok contents =>
        rw [collects] at steps
        dsimp only at steps
        cases writes : (writeAll turn.files turn.directory contents).1 with
        | ok done =>
          rw [writes] at steps
          rw [steps] at stopped
          cases stopped
        | error fault' =>
          rw [writes] at steps
          rw [steps] at stopped
          obtain rfl := Except.error.inj stopped
          exact .write planned (by rw [steps, marks]) collects writes (by rw [steps])

/-! ## Settings after runs that fail -/

/-- The series by day are due in the run, and its time can be kept. -/
def Marks (turn : Turn) (settings : Settings) : Prop :=
  (∃ window, (plan settings turn.now turn.full).outcome = .ok (window, true)) ∧
    ∃ kept, settings.setSite "Compiler" "DoneToday" (Time.write dashSecond turn.now) = .ok kept

/-- A run that fails has kept its time if it could, or leaves the settings as a reading does that
fails. -/
theorem settings_of_fault {turn : Turn} {settings : Settings} {fault : Fault}
    (stopped : (turn.update settings).outcome = .error fault) :
    (turn.Marks settings → settings.setSite "Compiler" "DoneToday" (Time.write dashSecond turn.now) =
      .ok (turn.update settings).settings) ∧
    (¬ turn.Marks settings → (turn.update settings).settings = settings ∨
      (turn.update settings).settings = settings.after fault) := by
  have ofPlan : ∀ {window : Window} {due : Bool},
      (Data.plan settings turn.now turn.full).outcome = .ok (window, due) →
      markDone settings turn.now due = .ok (turn.update settings).settings →
      (turn.Marks settings → settings.setSite "Compiler" "DoneToday"
        (Time.write dashSecond turn.now) = .ok (turn.update settings).settings) ∧
      (¬ turn.Marks settings → (turn.update settings).settings = settings) := by
    intro window due planned marks
    cases due with
    | true => exact ⟨fun _ => marks, fun unmarked => absurd ⟨⟨window, planned⟩, _, marks⟩ unmarked⟩
    | false =>
      refine ⟨?_, fun _ => (Except.ok.inj marks).symm⟩
      rintro ⟨⟨_, planned'⟩, _⟩
      cases planned.symm.trans planned'
  cases failure_of_update stopped with
  | plan stops left =>
    refine ⟨?_, fun _ => .inr left⟩
    rintro ⟨⟨_, planned⟩, _⟩
    cases stops.symm.trans planned
  | mark planned stops left =>
    refine ⟨?_, fun _ => .inr left⟩
    rintro ⟨⟨_, planned'⟩, _, kept⟩
    cases planned.symm.trans planned'
    cases stops.symm.trans kept
  | collect planned marks => exact (ofPlan planned marks).imp id (.inl ∘ ·)
  | write planned marks => exact (ofPlan planned marks).imp id (.inl ∘ ·)

end Turn

/-- The same texts, labels and units stand in the settings. -/
structure HasSameTexts (before after : Settings) : Prop where
  site : after.site.body = before.site.body
  station : after.station.body = before.station.body
  records : after.records.body = before.records.body
  labels : after.labels = before.labels
  units : after.units = before.units

theorem hasSameTexts_after (settings : Settings) (fault : Fault) :
    HasSameTexts settings (settings.after fault) := by
  have same : ∀ document : Ini.Document, (document.after fault).body = document.body := by
    intro document
    rw [Ini.Document.after]
    split <;> rfl
  exact ⟨same _, same _, same _, rfl, rfl⟩

/-- Only a text in place of standard settings makes a difference for later readings. -/
theorem after_of_ne {settings : Settings} {fault : Fault}
    (other : ∀ file, fault ≠ .textForSection file) : settings.after fault = settings := by
  have same : ∀ document : Ini.Document, document.after fault = document :=
    fun document => if_neg (other document.file)
  rw [Settings.after, same, same, same]

/-- A run that fails leaves the same texts in the settings, but for its time if the series by day
are due in it. Having kept its time, it leaves these series to runs on other dates, even on its own
date if it has made none of them. Without that, the next run makes them as it would have done
before. -/
theorem failed_runs_keep_their_time (turn : Turn) {settings : Settings} {fault : Fault}
    (stopped : (turn.update settings).outcome = .error fault) :
    (turn.Marks settings →
      settings.setSite "Compiler" "DoneToday" (write dashSecond turn.now) =
        .ok (turn.update settings).settings ∧
      DayRun.Keeps settings (turn.update settings).settings ∧
      (turn.now.IsValid → firstLongYear ≤ turn.now.date.year → ∀ next : DayRun,
        next.before = (turn.update settings).settings →
          (next.Makes ↔ next.turn.full = true ∨ next.turn.now.date ≠ turn.now.date))) ∧
    (¬ turn.Marks settings →
      HasSameTexts settings (turn.update settings).settings ∧
      ((∀ file, fault ≠ .textForSection file) →
        (turn.update settings).settings = settings ∧
        ∀ next : DayRun, next.before = (turn.update settings).settings →
          (next.Makes ↔ next.turn.full = true ∨ OpensDay settings next.turn.now.date))) := by
  obtain ⟨marked, unmarked⟩ := Turn.settings_of_fault stopped
  constructor
  · intro marks
    have set := marked marks
    refine ⟨set, DayRun.keeps_setSite set, fun valid long next follows => ?_⟩
    rw [DayRun.makes_iff_opensDay, follows, opensDay_of_marks valid long set, ne_comm]
  · intro without
    constructor
    · rcases unmarked without with same | same
      · rw [same]
        exact ⟨rfl, rfl, rfl, rfl, rfl⟩
      · rw [same]
        exact hasSameTexts_after settings fault
    · intro other
      have same : (turn.update settings).settings = settings := by
        rcases unmarked without with same | same
        · exact same
        · rw [same, after_of_ne other]
      refine ⟨same, fun next follows => ?_⟩
      rw [DayRun.makes_iff_opensDay, follows, same]

/-- A line of the log of days with an evapotranspiration. -/
def dayLine (loss : String) : String :=
  "20/06/24,0,0,0,0,0,0,0,0,0,0,0,0,0,0,0,0,0,0,0,0,0,0," ++ loss

/-- An incremental run over the chart of the evapotranspiration by day, with a log of one line. -/
def dayLineTurn (loss : String) (now : Moment) : Turn where
  files := { contents := [(["data", "dayfile.txt"], (dayLine loss).toUTF8)], directories := [["out"]] }
  charts := [dayLossChart]
  logDirectory := "data"
  directory := "out"
  now
  full := false

/-- An hour after noon. -/
def summerOne : Moment := ⟨⟨2024, 6, 21⟩, 13, 0, 0, 0⟩

/-- A number that is infinite stops the run at noon. -/
theorem outcome_noon : ((dayLineTurn "inf" summerNoon).update Definition.plainSettings).outcome =
    .error .notRoundable := by
  decide +kernel

/-- The settings that the run at noon leaves. -/
def failedSettings : Settings :=
  ((dayLineTurn "inf" summerNoon).update Definition.plainSettings).settings

theorem outcome_one : ((dayLineTurn "3.2" summerOne).update failedSettings).outcome =
    .ok summerOne := by
  decide +kernel

/-- The run at one after the run at noon. -/
def oneRun : DayRun where
  turn := dayLineTurn "3.2" summerOne
  before := failedSettings
  stop := summerOne
  ended := outcome_one
  byDay := ⟨dayLoss, List.mem_cons_self, by decide, rfl⟩
  valid := by decide
  long := by decide

/-- The run at one does not make the series. -/
theorem failed_noon_leaves_none_at_one :
    ((dayLineTurn "inf" summerNoon).update Definition.plainSettings).outcome = .error .notRoundable ∧
      ¬ oneRun.Makes := by
  have planned : (plan Definition.plainSettings summerNoon false).outcome =
      .ok (⟨⟨⟨2024, 6, 18⟩, 12, 0, 0, 0⟩, summerNoon⟩, true) := by
    decide +kernel
  have unmade : OpensDay Definition.plainSettings summerNoon.date :=
    ⟨"", rfl, fun done reads => (by cases reads)⟩
  have makes : noonRun.Makes := DayRun.makes_iff_opensDay.2 (.inr unmade)
  have marks := DayRun.after_of_makes makes
  have valid : summerNoon.IsValid := by decide
  have long : firstLongYear ≤ summerNoon.date.year := by decide
  obtain ⟨_, _, later⟩ :=
    (failed_runs_keep_their_time _ outcome_noon).1 ⟨⟨_, planned⟩, _, marks⟩
  rw [later valid long oneRun (by simp only [oneRun, failedSettings]), not_or, not_ne_iff]
  exact ⟨outcome_noon, Bool.false_ne_true, rfl⟩

/-- The run at noon that fails has kept its time, and the run at one writes nothing. From the
settings that the first one has started from, it would have written the series. -/
theorem failed_run_changes_settings :
    Definition.plainSettings.siteText "Compiler" "DoneToday" = .ok "" ∧
    ((dayLineTurn "inf" summerNoon).update Definition.plainSettings).outcome = .error .notRoundable ∧
    failedSettings.siteText "Compiler" "DoneToday" = .ok "2024-06-21T12:00:00" ∧
    ((dayLineTurn "3.2" summerOne).update failedSettings).outcome = .ok summerOne ∧
    ((dayLineTurn "3.2" summerOne).update failedSettings).files.read "out/CUserdataALL.json" =
      .error .noSuchFile ∧
    ((dayLineTurn "3.2" summerOne).update Definition.plainSettings).files.read
      "out/CUserdataALL.json" =
        .ok "\x7b\"evapotranspiration\":[[1718841600000,3.2]]\x7d".toUTF8 := by
  refine ⟨rfl, outcome_noon, by decide +kernel, outcome_one, by decide +kernel, by decide +kernel⟩

end Meteogram.Data
