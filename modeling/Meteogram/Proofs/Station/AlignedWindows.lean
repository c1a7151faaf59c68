import Meteogram.Proofs.Definition.Consistency
import Meteogram.Proofs.Station.Windows
import Meteogram.Proofs.Time.Bounds

/-!
# Windows are aligned

The window of a run ends at the last multiple of its interval in the hour, at most at the
minute of the run, and never before the window of an earlier run. It starts the hours of the
graphs before, or one minute after the last upload. So it is found whenever the numbers in the
settings are whole ones, the times are in the calendar and the last upload time is a text
(`window_is_aligned`). It is not found if a section stands in the place of that text
(`window_of_sectionSettings`).
-/

set_option autoImplicit false

namespace Meteogram.Station

open Meteogram.Time Settings

/-! ## What the settings say -/

/-- The last upload time in the settings of a site is this text, which is empty if there is
none. -/
inductive IsLastUpload (site : Ini.Document) : String → Prop
  | noSection (absent : site.body.content? "General" = none) : IsLastUpload site ""
  | noSetting (body : Ini.Section) (found : site.body.content? "General" = some (.group body))
      (absent : body.content? "LastUploadTime" = none) : IsLastUpload site ""
  | kept (body : Ini.Section) (text : String)
      (found : site.body.content? "General" = some (.group body))
      (there : body.content? "LastUploadTime" = some (.text text))
      (free : Ini.HasNoReferences text.toList) : IsLastUpload site text

/-- The minutes between two log lines that a number in the settings stands for. An unknown one
stands for ten. -/
def logMinutes (index : Int) : Nat :=
  if index < 0 then 10 else [1, 5, 10, 15, 20, 30].getD index.toNat 10

/-- The larger of the minutes between two uploads and those between two log lines. -/
def largerInterval (upload index : Int) : Nat :=
  max upload.toNat (logMinutes index)

section

variable {settings : Settings} {text : String} {upload index : Int}

theorem siteText_of_isLastUpload (isLast : IsLastUpload settings.site text) :
    settings.siteText "General" "LastUploadTime" = .ok text := by
  rw [siteText, Ini.Document.get]
  cases isLast with
  | noSection absent =>
    rw [absent]
    rfl
  | noSetting body found absent =>
    rw [found]
    dsimp only
    rw [absent]
    rfl
  | kept body _ found there free =>
    rw [found]
    dsimp only
    rw [there]
    dsimp only
    rw [Ini.Document.valueOf, Ini.Following.resolve_of_noReferences _ _ _ free]
    refine bind_eq_ok.2 ⟨.text text, bind_eq_ok.2 ⟨.text text, rfl, ?_⟩, rfl⟩
    split
    · next same =>
      rw [same]
      rfl
    · rfl

theorem one_le_logMinutes (index : Int) : 1 ≤ logMinutes index := by
  have all : ∀ minutes ∈ [1, 5, 10, 15, 20, 30], 1 ≤ minutes := by decide
  rw [logMinutes]
  split
  · decide
  · rw [List.getD_eq_getElem?_getD]
    cases found : [1, 5, 10, 15, 20, 30][index.toNat]? with
    | none => decide
    | some minutes => exact all minutes (List.mem_of_getElem? found)

theorem logInterval_eq
    (read : stationWhole settings.station "Station" "DataLogInterval" 2 = .ok (some index)) :
    settings.logInterval.outcome = .ok (logMinutes index : Int) := by
  have listed : logIntervals = [1, 5, 10, 15, 20, 30].map Int.ofNat := rfl
  rw [logInterval, read]
  refine Report.outcome_bind_eq_ok_iff.2 ⟨some index, rfl, ?_⟩
  dsimp only
  rw [logMinutes, listed, List.getElem?_map, List.getD_eq_getElem?_getD]
  by_cases below : index < 0
  · rw [if_pos below, if_pos below]
    rfl
  · rw [if_neg below, if_neg below]
    cases [1, 5, 10, 15, 20, 30][index.toNat]? <;> rfl

/-- The larger interval is the larger number, and at least a minute. -/
theorem largerInterval_eq (upload index : Int) :
    (largerInterval upload index : Int) = max upload (logMinutes index) := by
  rw [largerInterval]
  omega

theorem one_le_largerInterval (upload index : Int) : 1 ≤ largerInterval upload index :=
  Nat.le_trans (one_le_logMinutes index) (Nat.le_max_right _ _)

theorem windowInterval_eq (uploads : settings.uploadInterval = .ok (some upload))
    (read : stationWhole settings.station "Station" "DataLogInterval" 2 = .ok (some index)) :
    settings.windowInterval.outcome = .ok (largerInterval upload index : Int) := by
  rw [largerInterval_eq, windowInterval, uploads]
  refine Report.outcome_bind_eq_ok_iff.2 ⟨some upload, rfl, ?_⟩
  exact Report.outcome_bind_eq_ok_iff.2 ⟨_, logInterval_eq read, rfl⟩

end

/-! ## The end of a window -/

/-- The time is the last multiple of the interval in the hour of the other one. -/
structure IsLastMultiple (interval : Nat) (now stop : Moment) : Prop where
  /-- It has no seconds or fractions. -/
  minute : stop.IsMinute
  date : stop.date = now.date
  hour : stop.hour = now.hour
  notAfter : stop.atMost now = true
  near : now.minute < stop.minute + interval
  multiple : interval ∣ stop.minute

theorem isLastMultiple_wholeInterval {now : Moment} (valid : now.IsValid) {interval : Nat}
    (positive : 1 ≤ interval) : IsLastMultiple interval now (wholeInterval now interval) where
  minute := isMinute_wholeInterval valid interval
  date := rfl
  hour := rfl
  notAfter := by
    have less := Nat.sub_le now.minute (now.minute % interval)
    rw [Moment.atMost, decide_eq_true_eq, Moment.seconds, Moment.seconds, wholeInterval,
      Moment.wholeMinute]
    dsimp only
    omega
  near := by
    have rest := Nat.mod_lt now.minute positive
    have less := Nat.mod_le now.minute interval
    rw [wholeInterval]
    dsimp only
    omega
  multiple := Nat.dvd_sub_mod now.minute

/-- The ends of windows with the same interval are in the order of their runs. -/
theorem wholeInterval_atMost {now later : Moment} (valid : now.IsValid) (valid' : later.IsValid)
    (order : now.atMost later = true) (interval : Nat) :
    (wholeInterval now interval).atMost (wholeInterval later interval) = true :=
  (Moment.atMost_iff_of_whole rfl rfl).2 (seconds_wholeInterval_mono valid valid' order interval)

/-! ## The window of a run -/

section

variable {settings : Settings} {upload index hours way : Int} {now start : Moment} {full : Bool}
  {text : String}

theorem incrementalAllowed_eq
    (goesOn : stationWhole settings.station "FTP site" "Sslftp" 0 = .ok (some way)) :
    settings.incrementalAllowed = .ok (decide (way = 3)) := by
  refine bind_eq_ok.2 ⟨some way, goesOn, congrArg Except.ok ?_⟩
  exact Option.some_beq_some

/-- A run has a window, which starts where a full one does or one minute after the last upload. -/
theorem exists_window {interval : Nat}
    (rounds : settings.windowInterval.outcome = .ok (interval : Int))
    (covers : settings.graphHours = .ok (some hours))
    (goesOn : stationWhole settings.station "FTP site" "Sslftp" 0 = .ok (some way))
    (valid : now.IsValid) (starts : (wholeInterval now interval).shift (-3600 * hours) = .ok start)
    (kept : full = false → way = 3 → IsLastUpload settings.site text) :
    ∃ window, (settings.window now full).outcome = .ok window ∧
      window.stop = wholeInterval now interval ∧
      ((∃ last, full = false ∧ way = 3 ∧ read? slashMinute text = some last ∧
          last.shift 60 = .ok window.start) ∨
        ((full = true ∨ way ≠ 3 ∨ read? slashMinute text = none) ∧ window.start = start)) := by
  have fullStart :
      settings.graphHours.bind (fullStart (wholeInterval now interval)) = .ok start := by
    rw [covers]
    exact starts
  rw [Settings.window, Report.outcome_bind_of_ok rounds,
    Report.outcome_bind_of_ok (windowEnd_eq valid interval), Report.outcome_bind_of_ok fullStart]
  cases full with
  | true => exact ⟨⟨start, wholeInterval now interval⟩, rfl, rfl, .inr ⟨.inl rfl, rfl⟩⟩
  | false =>
    rw [if_neg Bool.false_ne_true, Report.outcome_bind_of_ok (incrementalAllowed_eq goesOn)]
    dsimp only
    by_cases third : way = 3
    · rw [if_pos (decide_eq_true third),
        Report.outcome_bind_of_ok (siteText_of_isLastUpload (kept rfl third))]
      cases reads : read? slashMinute text with
      | none =>
        exact ⟨⟨start, wholeInterval now interval⟩, rfl, rfl, .inr ⟨.inr (.inr rfl), rfl⟩⟩
      | some last =>
        obtain ⟨next, shifted⟩ := exists_next_of_read? reads
        refine ⟨⟨next, wholeInterval now interval⟩, ?_, rfl, .inl ⟨last, rfl, third, rfl, shifted⟩⟩
        rw [Report.outcome_bind_of_ok shifted]
        rfl
    · rw [if_neg (by rw [decide_eq_false third]; exact Bool.false_ne_true)]
      exact ⟨⟨start, wholeInterval now interval⟩, rfl, rfl, .inr ⟨.inr (.inl third), rfl⟩⟩

/-- A run whose settings have whole numbers and whose times are in the calendar has a window, if the
last upload time is a text where it is needed. The window ends with the last multiple of the larger
interval in the hour, not before the window of an earlier run. It starts the hours of the graphs
before its end or one minute after the last upload. -/
theorem window_is_aligned (uploads : settings.uploadInterval = .ok (some upload))
    (logs : stationWhole settings.station "Station" "DataLogInterval" 2 = .ok (some index))
    (covers : settings.graphHours = .ok (some hours))
    (goesOn : stationWhole settings.station "FTP site" "Sslftp" 0 = .ok (some way))
    (valid : now.IsValid)
    (first : 3600 * hours ≤ (wholeInterval now (largerInterval upload index)).seconds)
    (last : (wholeInterval now (largerInterval upload index)).seconds <
      Moment.endSeconds + 3600 * hours)
    (kept : full = false → way = 3 → IsLastUpload settings.site text) :
    1 ≤ largerInterval upload index ∧ ∃ window, (settings.window now full).outcome = .ok window ∧
      IsLastMultiple (largerInterval upload index) now window.stop ∧
      (∀ later again window', later.IsValid → now.atMost later = true →
        (settings.window later again).outcome = .ok window' →
          window.stop.atMost window'.stop = true) ∧
      (∀ last, full = false → way = 3 → read? slashMinute text = some last →
        last.shift 60 = .ok window.start) ∧
      (full = true ∨ way ≠ 3 ∨ read? slashMinute text = none →
        window.stop.shift (-3600 * hours) = .ok window.start) := by
  have positive := one_le_largerInterval upload index
  have rounds := windowInterval_eq uploads logs
  obtain ⟨start, starts⟩ : ∃ start,
      (wholeInterval now (largerInterval upload index)).shift (-3600 * hours) = .ok start := by
    refine ⟨_, if_neg ?_⟩
    rw [Bool.or_eq_true, decide_eq_true_eq, decide_eq_true_eq]
    omega
  obtain ⟨window, opens, stop, origin⟩ := exists_window rounds covers goesOn valid starts kept
  refine ⟨positive, window, opens, stop ▸ isLastMultiple_wholeInterval valid positive, ?_, ?_, ?_⟩
  · intro later again window' valid' order opens'
    obtain ⟨interval, rounds', stop'⟩ := stop_of_window valid' opens'
    obtain rfl : largerInterval upload index = interval :=
      Int.ofNat_inj.1 (Except.ok.inj (rounds.symm.trans rounds'))
    rw [stop, stop']
    exact wholeInterval_atMost valid valid' order _
  · rintro last notFull third reads
    rcases origin with ⟨last', _, _, reads', starts⟩ | ⟨isFull | notThird | unread, _⟩
    · obtain rfl : last = last' := Option.some.inj (reads.symm.trans reads')
      exact starts
    · exact absurd (notFull.symm.trans isFull) Bool.false_ne_true
    · exact absurd third notThird
    · cases reads.symm.trans unread
  · intro fromFull
    rcases origin with ⟨last, notFull, third, reads, _⟩ | ⟨_, same⟩
    · rcases fromFull with isFull | notThird | unread
      · exact absurd (notFull.symm.trans isFull) Bool.false_ne_true
      · exact absurd third notThird
      · cases reads.symm.trans unread
    · rw [stop, same]
      exact starts

end

/-- Incremental uploads with twenty minutes between two log lines. -/
def incrementalSettings (general : Ini.Section) : Settings :=
  { Definition.plainSettings with
    site := { body := { children := [("General", {}, .group general)] } }
    station := { body := { children := [
      ("Station", {}, .group { settings := [{ key := "DataLogInterval", text := "4" }] }),
      ("FTP site", {}, .group { settings := [{ key := "UpdateInterval", text := "15" },
        { key := "Sslftp", text := "3" }] })] } } }

/-- An upload at twenty to twelve. -/
def uploadedSettings : Settings :=
  incrementalSettings { settings := [{ key := "LastUploadTime", text := "21/06/24 11:40" }] }

/-- A section in the place of the last upload time. -/
def sectionSettings : Settings :=
  incrementalSettings { children := [("LastUploadTime", {}, .group {})] }

/-- Half an hour past noon. -/
def pastNoon : Moment := ⟨⟨2024, 6, 21⟩, 12, 34, 56, 0⟩

/-- The window goes from the minute after the last upload to the last multiple of twenty minutes. -/
theorem window_of_uploadedSettings :
    ∃ window, (uploadedSettings.window pastNoon false).outcome = .ok window ∧
      IsLastMultiple 20 pastNoon window.stop ∧
      window.start = ⟨⟨2024, 6, 21⟩, 11, 41, 0, 0⟩ := by
  have uploads : uploadedSettings.uploadInterval = .ok (some 15) := by decide
  have logs :
      stationWhole uploadedSettings.station "Station" "DataLogInterval" 2 = .ok (some 4) := by
    decide
  have covers : uploadedSettings.graphHours = .ok (some 72) := by decide
  have goesOn : stationWhole uploadedSettings.station "FTP site" "Sslftp" 0 = .ok (some 3) := by
    decide
  have free : Ini.HasNoReferences "21/06/24 11:40".toList :=
    Ini.hasNoReferences_of_plain (by decide)
  have isLast : IsLastUpload uploadedSettings.site "21/06/24 11:40" :=
    .kept _ _ rfl rfl free
  have reads : read? slashMinute "21/06/24 11:40" = some ⟨⟨2024, 6, 21⟩, 11, 40, 0, 0⟩ := by
    decide
  obtain ⟨_, window, opens, aligned, _, starts, _⟩ := window_is_aligned uploads logs covers goesOn
    (by decide : pastNoon.IsValid) (by decide) (by decide) fun _ _ => isLast
  refine ⟨window, opens, aligned, ?_⟩
  have next :
      Moment.shift ⟨⟨2024, 6, 21⟩, 11, 40, 0, 0⟩ 60 = .ok ⟨⟨2024, 6, 21⟩, 11, 41, 0, 0⟩ := by
    decide
  exact (Except.ok.inj (next.symm.trans (starts _ rfl rfl reads))).symm

/-- A section in the place of the last upload time stops a run, whatever the numbers are. -/
theorem window_of_sectionSettings :
    sectionSettings.uploadInterval = .ok (some 15) ∧
    stationWhole sectionSettings.station "Station" "DataLogInterval" 2 = .ok (some 4) ∧
    sectionSettings.graphHours = .ok (some 72) ∧
    stationWhole sectionSettings.station "FTP site" "Sslftp" 0 = .ok (some 3) ∧
    pastNoon.IsValid ∧
    (wholeInterval pastNoon 20).shift (-3600 * 72) = .ok ⟨⟨2024, 6, 18⟩, 12, 20, 0, 0⟩ ∧
    (sectionSettings.window pastNoon false).outcome = .error .unsuitableKind := by
  refine ⟨by decide, by decide, by decide, by decide, by decide,
    by decide +kernel, by decide +kernel⟩

end Meteogram.Station
