import Meteogram.Proofs.Ini.Setting
import Meteogram.Proofs.Time.Written
import Meteogram.Station.Window

/-!
# The ends of a window

A window ends with a minute of the hour of the run, and never before the window of an
earlier run (`seconds_wholeInterval_mono`). A run that goes on from the last upload starts
one minute after the end that was kept (`start_of_kept`).
-/

set_option autoImplicit false

namespace Meteogram.Station

open Meteogram.Time Settings

/-! ## The end -/

/-- The last multiple of a number of minutes in the hour. -/
def wholeInterval (now : Moment) (interval : Nat) : Moment :=
  { now.wholeMinute with minute := now.minute - now.minute % interval }

section

variable {now later : Moment} {interval : Nat}

theorem isValid_wholeInterval (valid : now.IsValid) (interval : Nat) :
    (wholeInterval now interval).IsValid :=
  ⟨valid.date, valid.hour, Nat.lt_of_le_of_lt (Nat.sub_le _ _) valid.minute, Nat.zero_lt_succ _,
    Nat.zero_lt_succ _⟩

/-- The window of a run ends with a multiple of the interval. -/
theorem windowEnd_eq (valid : now.IsValid) (interval : Nat) :
    windowEnd now interval = .ok (wholeInterval now interval) := by
  rw [windowEnd, Moment.shift_eq_ok_iff valid.wholeMinute]
  refine ⟨isValid_wholeInterval valid interval, ?_, rfl⟩
  have rest : (now.minute : Int).fmod interval = ((now.minute % interval : Nat) : Int) := by
    rw [Int.fmod_eq_emod_of_nonneg _ (Int.natCast_nonneg interval)]
    rfl
  have less := Nat.mod_le now.minute interval
  rw [rest, Moment.seconds, Moment.seconds, wholeInterval, Moment.wholeMinute]
  dsimp only
  omega

theorem seconds_wholeInterval (now : Moment) (interval : Nat) :
    (wholeInterval now interval).seconds =
      (now.date.number * 24 + now.hour) * 3600 + interval * (now.minute / interval) * 60 := by
  have parts := Nat.div_add_mod now.minute interval
  rw [Moment.seconds, wholeInterval, Moment.wholeMinute, Moment.daySeconds]
  dsimp only
  omega

/-- Rounding down keeps the order of times. -/
theorem seconds_wholeInterval_mono (valid : now.IsValid) (valid' : later.IsValid)
    (order : now.atMost later = true) (interval : Nat) :
    (wholeInterval now interval).seconds ≤ (wholeInterval later interval).seconds := by
  have order' := Moment.seconds_le_of_atMost valid' order
  have minute := valid.minute
  have minute' := valid'.minute
  have second := valid.second
  have second' := valid'.second
  rw [Moment.seconds, Moment.seconds, Moment.daySeconds] at order'
  rw [seconds_wholeInterval, seconds_wholeInterval]
  have less : interval * (now.minute / interval) ≤ now.minute := Nat.mul_div_le _ _
  by_cases sameHour : now.date.number * 24 + now.hour = later.date.number * 24 + later.hour
  · have minutes : now.minute ≤ later.minute := by omega
    have parts := Nat.mul_le_mul_left interval (Nat.div_le_div_right minutes : _ / interval ≤ _)
    rw [sameHour]
    exact Nat.add_le_add_left (Nat.mul_le_mul_right 60 parts) _
  · have earlier : now.date.number * 24 + now.hour + 1 ≤ later.date.number * 24 + later.hour := by
      omega
    calc (now.date.number * 24 + now.hour) * 3600 + interval * (now.minute / interval) * 60
        ≤ (now.date.number * 24 + now.hour) * 3600 + 3600 :=
          Nat.add_le_add_left (Nat.mul_le_mul_right 60 (Nat.le_trans less (Nat.le_of_lt minute))) _
      _ = (now.date.number * 24 + now.hour + 1) * 3600 := by rw [Nat.succ_mul]
      _ ≤ (later.date.number * 24 + later.hour) * 3600 := Nat.mul_le_mul_right 3600 earlier
      _ ≤ _ := Nat.le_add_right _ _

theorem isShort_wholeInterval (short : IsShort now) (interval : Nat) :
    IsShort (wholeInterval now interval) :=
  ⟨isValid_wholeInterval short.valid interval, short.first, short.last⟩

theorem isMinute_wholeInterval (valid : now.IsValid) (interval : Nat) :
    (wholeInterval now interval).IsMinute :=
  ⟨isValid_wholeInterval valid interval, rfl, rfl⟩

end

/-! ## The window of a run -/

section

variable {settings other : Settings} {now : Moment} {full : Bool} {window : Window}

/-- The interval depends on the settings of the station alone. -/
theorem windowInterval_of_station (same : settings.station = other.station) :
    settings.windowInterval = other.windowInterval := by
  rw [windowInterval, windowInterval, uploadInterval, uploadInterval, logInterval, logInterval, same]

theorem incrementalAllowed_of_station (same : settings.station = other.station) :
    settings.incrementalAllowed = other.incrementalAllowed := by
  rw [incrementalAllowed, incrementalAllowed, same]

/-- A log interval is a number of minutes. -/
theorem logInterval_nonneg {minutes : Int} (found : settings.logInterval.outcome = .ok minutes) :
    0 ≤ minutes := by
  have all : ∀ minutes ∈ logIntervals, (0 : Int) ≤ minutes := by decide
  rw [logInterval] at found
  obtain ⟨index?, _, found⟩ := Report.outcome_bind_eq_ok_iff.1 found
  cases index? with
  | none => cases found
  | some index =>
    dsimp only at found
    split at found
    · next listed =>
      obtain rfl := Except.ok.inj found
      split at listed
      · cases listed
      · exact all _ (List.mem_of_getElem? listed)
    · obtain ⟨_, _, same⟩ := Report.outcome_bind_eq_ok_iff.1 found
      obtain rfl := Except.ok.inj same
      decide

theorem windowInterval_nonneg {interval : Int} (found : settings.windowInterval.outcome = .ok interval) :
    0 ≤ interval := by
  obtain ⟨upload?, _, found⟩ := Report.outcome_bind_eq_ok_iff.1 found
  obtain ⟨log, logged, found⟩ := Report.outcome_bind_eq_ok_iff.1 found
  cases upload? with
  | none => cases found
  | some upload =>
    obtain rfl := Except.ok.inj found
    exact Int.le_trans (logInterval_nonneg logged) (Int.le_max_right _ _)

/-- The window of a run ends with a multiple of the interval. -/
theorem stop_of_window (valid : now.IsValid) (opens : (settings.window now full).outcome = .ok window) :
    ∃ interval : Nat, settings.windowInterval.outcome = .ok (interval : Int) ∧
      window.stop = wholeInterval now interval := by
  rw [Settings.window] at opens
  obtain ⟨interval, given, opens⟩ := Report.outcome_bind_eq_ok_iff.1 opens
  obtain ⟨stop, ends, opens⟩ := Report.outcome_bind_eq_ok_iff.1 opens
  obtain ⟨interval, rfl⟩ := Int.eq_ofNat_of_zero_le (windowInterval_nonneg given)
  obtain rfl : wholeInterval now interval = stop := by
    rw [windowEnd_eq valid] at ends
    exact Except.ok.inj ends
  obtain ⟨start, _, opens⟩ := Report.outcome_bind_eq_ok_iff.1 opens
  refine ⟨interval, given, ?_⟩
  cases full with
  | true =>
    obtain rfl := Except.ok.inj opens
    rfl
  | false =>
    obtain ⟨incremental, _, opens⟩ := Report.outcome_bind_eq_ok_iff.1 opens
    cases incremental with
    | false =>
      obtain rfl := Except.ok.inj opens
      rfl
    | true =>
      obtain ⟨text, _, opens⟩ := Report.outcome_bind_eq_ok_iff.1 opens
      cases reads : read? slashMinute text with
      | none =>
        rw [reads] at opens
        obtain rfl := Except.ok.inj opens
        rfl
      | some last =>
        rw [reads] at opens
        obtain ⟨_, _, opens⟩ := Report.outcome_bind_eq_ok_iff.1 opens
        obtain rfl := Except.ok.inj opens
        rfl

/-- A run that goes on from the last upload starts one minute after it. -/
theorem start_of_window {text : String} {last : Moment}
    (opens : (settings.window now false).outcome = .ok window)
    (allowed : settings.incrementalAllowed = .ok true)
    (kept : settings.siteText "General" "LastUploadTime" = .ok text)
    (reads : read? slashMinute text = some last) : last.shift 60 = .ok window.start := by
  rw [Settings.window] at opens
  obtain ⟨interval, given, opens⟩ := Report.outcome_bind_eq_ok_iff.1 opens
  obtain ⟨stop, ends, opens⟩ := Report.outcome_bind_eq_ok_iff.1 opens
  obtain ⟨_, _, opens⟩ := Report.outcome_bind_eq_ok_iff.1 opens
  obtain ⟨incremental, allowed', opens⟩ := Report.outcome_bind_eq_ok_iff.1 opens
  obtain rfl : true = incremental := Except.ok.inj (allowed.symm.trans allowed')
  obtain ⟨text', kept', opens⟩ := Report.outcome_bind_eq_ok_iff.1 opens
  obtain rfl : text = text' := Except.ok.inj (kept.symm.trans kept')
  rw [reads] at opens
  obtain ⟨start, starts, opens⟩ := Report.outcome_bind_eq_ok_iff.1 opens
  obtain rfl := Except.ok.inj opens
  exact starts

/-- A time that is kept as the last upload time is read back as the same time. -/
theorem read?_kept {last : Moment} (short : IsShort last) (minute : last.IsMinute) :
    read? slashMinute (write slashMinute last) = some last := by
  rw [read?_write_slashMinute short]
  obtain ⟨date, hour, minute', second, micro⟩ := last
  obtain rfl : second = 0 := minute.second
  obtain rfl : micro = 0 := minute.micro
  rfl

/-- A run that goes on from an end that was kept starts one minute after it. -/
theorem start_of_kept {last : Moment} {before kept : Settings} (short : IsShort last)
    (minute : last.IsMinute)
    (keeps : before.setSite "General" "LastUploadTime" (write slashMinute last) = .ok kept)
    (upload : settings.siteText "General" "LastUploadTime" =
      kept.siteText "General" "LastUploadTime")
    (allowed : settings.incrementalAllowed = .ok true)
    (opens : (settings.window now false).outcome = .ok window) : last.shift 60 = .ok window.start := by
  have plain := percent_notMem_slashMinute short.valid
  have notEmpty := write_slashMinute_ne short.valid
  have text := upload.trans (siteText_setSite keeps plain notEmpty)
  exact start_of_window opens allowed text (read?_kept short minute)

end

end Meteogram.Station
