import Meteogram.Data.Update
import Meteogram.Proofs.Station.Windows

/-!
# Runs that can be planned

A run with settings that can be read has a plan exactly if its full window lies in the calendar
(`exists_plan_iff`): what else the settings say makes no difference. Then the time of the run can
be kept, too (`exists_markDone`).
-/

set_option autoImplicit false

namespace Meteogram.Data

open Station (Settings Window wholeInterval)
open Time (Moment read? slashMinute)

/-! ## Steps -/

/-- A computation with a first step has a value exactly if the first step has one with which the
rest has one. -/
theorem exists_bind_iff {α β : Type} {first : Run α} {next : α → Run β} :
    (∃ last, (first >>= next).outcome = .ok last) ↔
      ∃ a, first.outcome = .ok a ∧ ∃ last, (next a).outcome = .ok last := by
  simp only [Report.outcome_bind_eq_ok_iff]
  exact ⟨fun ⟨last, a, went, found⟩ => ⟨a, went, last, found⟩,
    fun ⟨a, went, last, found⟩ => ⟨last, a, went, found⟩⟩

/-- A first step that ends well can be left out. -/
theorem exists_bind_iff_of_ok {α β : Type} {first : Run α} {next : α → Run β} {a : α}
    (went : first.outcome = .ok a) :
    (∃ last, (first >>= next).outcome = .ok last) ↔ ∃ last, (next a).outcome = .ok last := by
  rw [exists_bind_iff, went]
  constructor
  · rintro ⟨_, same, found⟩
    exact Except.ok.inj same ▸ found
  · exact fun found => ⟨a, rfl, found⟩

theorem exists_shift_iff {moment : Moment} {seconds : Int} :
    (∃ later, moment.shift seconds = .ok later) ↔
      0 ≤ moment.seconds + seconds ∧ moment.seconds + seconds < Moment.endSeconds := by
  rw [Moment.shift]
  dsimp only
  split
  · next outside =>
    rw [Bool.or_eq_true, decide_eq_true_eq, decide_eq_true_eq] at outside
    refine ⟨?_, fun inside => (by omega)⟩
    rintro ⟨_, stopped⟩
    cases stopped
  · next within =>
    rw [Bool.or_eq_true, decide_eq_true_eq, decide_eq_true_eq] at within
    exact ⟨fun _ => (by omega), fun _ => ⟨_, rfl⟩⟩

/-- A window does not end after the time of its run. -/
theorem seconds_wholeInterval_le (now : Moment) (interval : Nat) :
    (wholeInterval now interval).seconds ≤ now.seconds := by
  rw [Moment.seconds, Moment.seconds, wholeInterval, Moment.wholeMinute]
  dsimp only
  have less := Nat.sub_le now.minute (now.minute % interval)
  omega

/-! ## Settings that can be read -/

/-- All settings that a run reads can be read. -/
structure IsReady (settings : Settings) (interval : Nat) (hours : Int) : Prop where
  /-- The end of a window is rounded down to these minutes. -/
  rounds : settings.windowInterval.outcome = .ok (interval : Int)
  /-- A full window has these hours. -/
  covers : settings.graphHours = .ok (some hours)
  /-- A full window has at least a day. -/
  aDay : 24 ≤ hours
  /-- Uploads are incremental or not. -/
  switch : ∃ incremental, settings.incrementalAllowed = .ok incremental
  /-- There is a minute after the last upload, if there was one. -/
  upload : ∃ text, settings.siteText "General" "LastUploadTime" = .ok text ∧
    ∀ last, read? slashMinute text = some last → ∃ next, last.shift 60 = .ok next
  /-- There is a text for the last run that made the series by day. It may be empty. -/
  done : ∃ text, settings.siteText "Compiler" "DoneToday" = .ok text

section

variable {settings : Settings} {interval : Nat} {hours : Int} {now : Moment}

/-- The window of a run can be had exactly if a full one lies in the calendar. -/
theorem exists_window_iff (ready : IsReady settings interval hours) (valid : now.IsValid)
    (full : Bool) :
    (∃ window, (settings.window now full).outcome = .ok window) ↔
      3600 * hours ≤ (wholeInterval now interval).seconds := by
  have inside := Moment.seconds_lt (Station.isValid_wholeInterval valid interval)
  have aDay := ready.aDay
  rw [Settings.window, exists_bind_iff_of_ok ready.rounds,
    exists_bind_iff_of_ok (Station.windowEnd_eq valid interval), ready.covers, exists_bind_iff]
  have starts : (∃ start, Settings.fullStart (wholeInterval now interval) (some hours) = .ok start) ↔
      3600 * hours ≤ (wholeInterval now interval).seconds := by
    rw [Settings.fullStart, exists_shift_iff]
    omega
  rw [← starts]
  -- What follows the start of the full window cannot fail.
  refine exists_congr fun start => and_iff_left ?_
  obtain ⟨incremental, switch⟩ := ready.switch
  obtain ⟨text, found, next⟩ := ready.upload
  cases full with
  | true => exact ⟨_, rfl⟩
  | false =>
    refine (exists_bind_iff_of_ok switch).2 ?_
    cases incremental with
    | false => exact ⟨_, rfl⟩
    | true =>
      refine (exists_bind_iff_of_ok found).2 ?_
      cases reads : read? slashMinute text with
      | none => exact ⟨_, rfl⟩
      | some last =>
        obtain ⟨start, shifted⟩ := next last reads
        exact (exists_bind_iff_of_ok shifted).2 ⟨_, rfl⟩

/-- From the second day on, a run can tell whether the series by day are due. -/
theorem exists_dailyDue (ready : IsReady settings interval hours) (valid : now.IsValid)
    (notFirst : Moment.daySeconds ≤ now.seconds) : ∃ due, settings.dailyDue now = .ok due := by
  have inside := Moment.seconds_lt valid
  obtain ⟨text, found⟩ := ready.done
  obtain ⟨before, shifted⟩ : ∃ before, now.shift (-Moment.daySeconds) = .ok before :=
    exists_shift_iff.2 (by omega)
  cases reads : read? Time.dashSecond text with
  | some done =>
    refine ⟨done.date != now.date, bind_eq_ok.2 ⟨text, found, ?_⟩⟩
    rw [reads]
    rfl
  | none =>
    refine ⟨before.date != now.date, bind_eq_ok.2 ⟨text, found, ?_⟩⟩
    rw [reads]
    exact bind_eq_ok.2 ⟨before, shifted, rfl⟩

/-- A run can be planned exactly if a full window lies in the calendar. -/
theorem exists_plan_iff (ready : IsReady settings interval hours) (valid : now.IsValid)
    (full : Bool) :
    (∃ planned, (plan settings now full).outcome = .ok planned) ↔
      3600 * hours ≤ (wholeInterval now interval).seconds := by
  rw [plan, exists_bind_iff]
  constructor
  · rintro ⟨window, opens, _⟩
    exact (exists_window_iff ready valid full).1 ⟨window, opens⟩
  · intro within
    obtain ⟨window, opens⟩ := (exists_window_iff ready valid full).2 within
    refine ⟨window, opens, ?_⟩
    cases full with
    | true => exact ⟨_, rfl⟩
    | false =>
      have aDay := ready.aDay
      have order := seconds_wholeInterval_le now interval
      obtain ⟨due, isDue⟩ := exists_dailyDue ready valid (by rw [Moment.daySeconds]; omega)
      exact (exists_bind_iff_of_ok isDue).2 ⟨_, rfl⟩

/-- A run can keep its time. -/
theorem exists_markDone (ready : IsReady settings interval hours) (now : Moment) (due : Bool) :
    ∃ kept, markDone settings now due = .ok kept := by
  obtain ⟨text, found⟩ := ready.done
  obtain ⟨value, gets, _⟩ := bind_eq_ok.1 found
  cases due with
  | false => exact ⟨settings, rfl⟩
  | true =>
    suffices ∃ site, settings.site.set "Compiler" "DoneToday" (Time.write Time.dashSecond now) =
        .ok site by
      obtain ⟨site, set⟩ := this
      exact ⟨_, bind_eq_ok.2 ⟨site, set, rfl⟩⟩
    rw [Ini.Document.get] at gets
    rw [Ini.Document.set]
    cases content : settings.site.body.content? "Compiler" with
    | none => exact ⟨_, rfl⟩
    | some content' =>
      cases content' with
      | group body => exact ⟨_, rfl⟩
      | text text =>
        rw [content] at gets
        obtain ⟨_, _, stopped⟩ := bind_eq_ok.1 gets
        cases stopped

end

end Meteogram.Data
