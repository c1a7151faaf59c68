import Meteogram.Chart.Basic
import Meteogram.Data.Json
import Meteogram.Log.Read
import Meteogram.Number.Fixed
import Meteogram.Station.Window

/-!
# Collecting data from the logs

Some series of the charts have data files that the station does not write. Their
points come from the logs: those of the last days from the logs of the months,
within the window of the run, and those by day from the log of days, if they are
due.
-/

set_option autoImplicit false

namespace Meteogram.Data

open Log (Entry)
open Station (Window)

/-- What the names of the data files start with that are made from the logs. -/
def ownStart : String := "CUserdata"

/-- The data file of the series is made from the logs. -/
def isOwn (series : Series) : Bool :=
  Text.startsWith series.datafile ownStart

/-- The field of the monthly logs that a field of a data file comes from. -/
def monthlyField (field : String) : String :=
  if field = "evapotranspiration" then "EVT" else field

/-- The point of an entry, if it has a number for the field. -/
def pointOf (field : String) (entry : Entry) : Except Fault (Option Point) :=
  match entry.value? field with
  | none => .ok none
  | some number => do
    return some ⟨entry.time.milliseconds, ← number.oneDecimal⟩

/-- The points of all entries that have a number for the field. -/
def pointsOf (entries : List Entry) (field : String) : Except Fault (List Point) := do
  return (← entries.mapM (pointOf field)).filterMap id

/-! ## Data files -/

/-- The data files with their fields, in the order of their first use. -/
abbrev Contents := List (String × Fields)

/-- An association list with another value for a key, which keeps its place if
it is there. -/
def setEntry {α : Type} (entries : List (String × α)) (key : String) (value : α) :
    List (String × α) :=
  if entries.any fun entry => entry.1 == key then
    entries.map fun entry => if entry.1 == key then (key, value) else entry
  else entries ++ [(key, value)]

/-- Sets the points of a field of a data file. -/
def setPoints (contents : Contents) (datafile field : String) (points : List Point) : Contents :=
  setEntry contents datafile (setEntry ((contents.lookup datafile).getD []) field points)

/-! ## Collecting -/

/-- Where the logs are, and what part of them a run is about. -/
structure Request where
  files : Files
  /-- The directory of the logs. -/
  directory : String
  window : Window
  /-- The series by day are made. -/
  due : Bool

/-- What has been collected. The logs are read when the first series needs
them. -/
structure Collected where
  months : Option (List Entry) := none
  days : Option (List Entry) := none
  contents : Contents := []

/-- The entries of the months, read now or before. -/
def monthEntries (request : Request) (collected : Collected) : Run (List Entry) :=
  match collected.months with
  | some entries => return entries
  | none =>
    Log.readMonths request.files request.directory [] request.window.start request.window.stop

/-- The entries of the days, read now or before. -/
def dayEntries (request : Request) (collected : Collected) : Run (List Entry) :=
  match collected.days with
  | some entries => return entries
  | none => Log.readDays request.files request.directory

/-- Collects the points of a series. -/
def collectSeries (request : Request) (collected : Collected) (series : Series) :
    Run Collected := do
  if !isOwn series then return collected
  else if series.range.isShort then
    let entries ← monthEntries request collected
    let points ← Report.ofExcept (pointsOf entries (monthlyField series.field))
    return { collected with
      months := some entries
      contents := setPoints collected.contents series.datafile series.field points }
  else if series.range.isByDay then
    if !request.due then return collected
    else
      let entries ← dayEntries request collected
      let points ← Report.ofExcept (pointsOf entries series.field)
      return { collected with
        days := some entries
        contents := setPoints collected.contents series.datafile series.field points }
  else
    Report.complain ("Internal error: unknown range " ++ toString series.range.number ++ " of " ++
      series.keyword)
    return collected

/-- Collects the points of all series of the charts. -/
def collect (request : Request) (charts : List Chart) : Run Contents := do
  return (← (charts.flatMap Chart.series).foldlM (collectSeries request) {}).contents

end Meteogram.Data
