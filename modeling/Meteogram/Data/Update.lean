import Meteogram.Data.Collect

/-!
# Updating the data files

A run writes the data files of the charts and tells the end of its window. The
series by day are made once a day, which the settings keep in mind, or whenever
everything is made anew.
-/

set_option autoImplicit false

namespace Meteogram.Data

open Station (Settings Window)
open Time (Moment)

/-- What a run leaves behind, whether it succeeds or not. -/
structure Update where
  /-- The end of the window, or the fault that stopped the run. -/
  outcome : Except Fault Moment
  log : List Message
  settings : Settings
  files : Files

/-- Writes the data files one after the other, up to the first that cannot be
written. -/
def writeAll (files : Files) (directory : String) : Contents → Except Fault Unit × Files
  | [] => (.ok (), files)
  | (name, fields) :: rest =>
    match files.write (joinName directory name) (fileText fields).toUTF8 with
    | .ok files => writeAll files directory rest
    | .error fault => (.error fault, files)

/-- The window of a run, and whether the series by day are made. -/
def plan (settings : Settings) (now : Moment) (full : Bool) : Run (Window × Bool) := do
  let window ← settings.window now full
  let due ← if full then pure true else Report.ofExcept (settings.dailyDue now)
  return (window, due)

/-- The settings after the series by day are made. -/
def markDone (settings : Settings) (now : Moment) (due : Bool) : Except Fault Settings :=
  if due then settings.setSite "Compiler" "DoneToday" (Time.write Time.dashSecond now)
  else .ok settings

/-- Makes the data files of the charts from the logs in one directory and writes
them to another. -/
def update (settings : Settings) (files : Files) (charts : List Chart)
    (logDirectory directory : String) (now : Moment) (full : Bool) : Update :=
  if charts.isEmpty then ⟨.ok now, [], settings, files⟩
  else
    let planned := plan settings now full
    match planned.outcome with
    | .error fault => ⟨.error fault, planned.log, settings.after fault, files⟩
    | .ok (window, due) =>
      match markDone settings now due with
      | .error fault => ⟨.error fault, planned.log, settings.after fault, files⟩
      | .ok settings =>
        let collected := collect { files, directory := logDirectory, window, due } charts
        let log := planned.log ++ collected.log
        match collected.outcome with
        | .error fault => ⟨.error fault, log, settings, files⟩
        | .ok contents =>
          let (written, files) := writeAll files directory contents
          ⟨written.map fun _ => window.stop, log, settings, files⟩

end Meteogram.Data
