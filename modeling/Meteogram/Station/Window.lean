import Meteogram.Station.Settings
import Meteogram.Time.Format

/-!
# The data window

A run covers a window of time. It ends at the last multiple of the larger of the
upload interval and the log interval within the hour. It starts a fixed number
of hours before its end, or, when uploads are incremental, one minute after the
end of the last upload.
-/

set_option autoImplicit false

namespace Meteogram.Station

open Meteogram.Time

/-- A span of time, both ends included. -/
structure Window where
  start : Moment
  stop : Moment
  deriving DecidableEq, Repr

namespace Settings

/-- The minutes that the end of a window is rounded down to. -/
def windowInterval (settings : Settings) : Run Int := do
  let upload ← Report.ofExcept settings.uploadInterval
  let log ← settings.logInterval
  match upload with
  | none => Report.fail .unsuitableKind
  | some upload => return max upload log

/-- The end of a window: the last multiple of the interval in the hour. -/
def windowEnd (now : Moment) (interval : Int) : Except Fault Moment :=
  now.wholeMinute.shift (-60 * (now.minute : Int).fmod interval)

/-- The start of a full window. -/
def fullStart (stop : Moment) : Option Int → Except Fault Moment
  | none => .error .unsuitableKind
  | some hours => stop.shift (-3600 * hours)

/-- The window of a run. -/
def window (settings : Settings) (now : Moment) (full : Bool) : Run Window := do
  let interval ← settings.windowInterval
  let stop ← Report.ofExcept (windowEnd now interval)
  let start ← Report.ofExcept (settings.graphHours.bind (fullStart stop))
  let incremental ← if full then pure false else Report.ofExcept settings.incrementalAllowed
  if incremental then
    let last ← Report.ofExcept (settings.siteText "General" "LastUploadTime")
    match read? slashMinute last with
    | none => return ⟨start, stop⟩
    | some last => return ⟨← Report.ofExcept (last.shift 60), stop⟩
  else return ⟨start, stop⟩

/-- The series of daily values were not yet made on the day of `now`. -/
def dailyDue (settings : Settings) (now : Moment) : Except Fault Bool := do
  let text ← settings.siteText "Compiler" "DoneToday"
  match read? dashSecond text with
  | some done => return done.date != now.date
  | none => do
    let yesterday ← now.shift (-Moment.daySeconds)
    return yesterday.date != now.date

end Settings

end Meteogram.Station
