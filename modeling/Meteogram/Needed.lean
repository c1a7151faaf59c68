import Meteogram.Command

/-!
# The files that a run needs

A run works on a picture of the files around it. The files with settings and the
chart definitions are known from the arguments; which logs it reads and which
files it may write is known from them.
-/

set_option autoImplicit false

namespace Meteogram

open Time (Moment)

/-- The names of the files with settings and of the chart definitions. -/
def Places.inputNames (places : Places) : List String :=
  [places.site, places.station, standardRecords places.station, places.definitions]

/-- The names of the logs that a run may read. -/
def Job.logNames (job : Job) (full : Bool) : List String :=
  match (job.site.settings.window job.now full).outcome with
  | .error _ => []
  | .ok window =>
    let months := Log.monthLogNames [] window.start.date window.stop.date
    (Log.dayLogName :: months.toOption.getD []).map (joinName job.dataDirectory)

/-- The names of the files that a run may write: the pages, and the data files
of the charts. -/
def Job.targetNames (job : Job) : List String :=
  match job.definitions.outcome with
  | .error _ | .ok none => []
  | .ok (some outputs) =>
    let datafiles := (Page.allSeries (outputs.flatMap Output.charts)).map Series.datafile
    (outputs.map Output.filename ++ datafiles).eraseDups.map (joinName job.places.output)

/-- The names that are known before any file is read. -/
def firstNames (arguments : List String) : List String :=
  match readOptions arguments {} with
  | none => []
  | some (places, _) => places.inputNames

/-- The names that are known once the settings and the definitions are read. -/
def furtherNames (arguments : List String) (files : Files) (now : Moment) : List String :=
  match readOptions arguments {} with
  | none => []
  | some (places, more) =>
    match ((readSettings files places.site places.station none).outcome).bind Site.build with
    | .error _ => []
    | .ok site =>
      let job : Job := { places, files, now, site }
      job.logNames (more.contains fullOption) ++ job.targetNames

end Meteogram
