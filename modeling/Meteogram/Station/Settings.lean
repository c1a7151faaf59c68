import Meteogram.Ini.Reference
import Meteogram.Ini.Value
import Meteogram.Station.Units

/-!
# Settings

The settings of a site and its station: the file of the site, the file of the
station and the file of the station's records. The labels and the units are read
once; every other setting is read when it is needed.
-/

set_option autoImplicit false

namespace Meteogram.Station

open Meteogram.Number

/-- The settings of a site and its station. -/
structure Settings where
  /-- The settings of the site. -/
  site : Ini.Document
  /-- The settings of the station. -/
  station : Ini.Document
  /-- The records of the station. -/
  records : Ini.Document
  /-- What stands for the labels on the pages. -/
  labels : List (String × Ini.Value)
  units : Units

namespace Settings

/-- A whole number from the settings of the station. -/
def stationWhole (station : Ini.Document) (name key : String) (standard : Int) :
    Except Fault (Option Int) := do
  (← station.get name key (.whole standard)).toWhole

/-- The units that a list of names gives to the soil moisture sensors. Blank
names are left out. -/
def soilMoistureUnits (list : String) : List String :=
  ((Text.splitFields ',' list).map Text.trimmed).filter fun unit => unit != ""

/-- The settings in three documents. -/
def build (site station records : Ini.Document) : Run Settings := do
  let site := { site with file := .site }
  let station := { station with file := .station }
  let records := { records with file := .records }
  let labels ← Report.ofExcept (site.entries "Labels")
  let soilMoisture ← Report.ofExcept (site.get "Compiler" "SoilMoistureUnits" (.text ""))
  let temp ← Report.ofExcept (stationWhole station "Station" "TempUnit" 0)
  let wind ← Report.ofExcept (stationWhole station "Station" "WindUnit" 2)
  let pressure ← Report.ofExcept (stationWhole station "Station" "PressureUnit" 1)
  let rain ← Report.ofExcept (stationWhole station "Station" "RainUnit" 0)
  let height ← Report.ofExcept (stationWhole station "Station" "CloudBaseInFeet" 0)
  let list ← match soilMoisture with
    | .text list => pure list
    | _ => Report.fail .sectionForText
  let perHour := match labels.lookup "PerHour" with
    | none => some "/hr"
    | some (.text text) => some text
    | some _ => none
  let units ← Units.build {
    temp, wind, pressure, rain, height, perHour
    soilMoisture := soilMoistureUnits list }
  return { site, station, records, labels, units }

/-- The settings after a reading that stopped with a fault. -/
def after (settings : Settings) (fault : Fault) : Settings :=
  { settings with
    site := settings.site.after fault
    station := settings.station.after fault
    records := settings.records.after fault }

/-! ## Labels -/

/-- There is a label with this key. -/
def hasLabel (settings : Settings) (key : String) : Bool :=
  (settings.labels.lookup key).isSome

/-- The label with this key, or another text. -/
def labelOr (settings : Settings) (key other : String) : Except Fault String :=
  ((settings.labels.lookup key).getD (.text other)).shown

/-- The label with this key, or the key itself. -/
def label (settings : Settings) (key : String) : Except Fault String :=
  settings.labelOr key key

/-! ## Single settings -/

/-- Sets a text in the settings of the site. -/
def setSite (settings : Settings) (name key text : String) : Except Fault Settings := do
  return { settings with site := ← settings.site.set name key text }

/-- A switch in the settings of the site. -/
def flag (settings : Settings) (name key : String) (standard : Bool) : Except Fault Bool := do
  (← settings.site.get name key (.flag standard)).toFlag

/-- A text in the settings of the site. -/
def siteText (settings : Settings) (name key : String) : Except Fault String := do
  (← settings.site.get name key (.text "")).toText

/-- The hours that a chart of the last days covers. -/
def graphHours (settings : Settings) : Except Fault (Option Int) :=
  stationWhole settings.station "Graphs" "GraphHours" 72

/-- The minutes between two uploads. -/
def uploadInterval (settings : Settings) : Except Fault (Option Int) :=
  stationWhole settings.station "FTP site" "UpdateInterval" 10

/-- The minutes between two log lines that a station can be set to. -/
def logIntervals : List Int := [1, 5, 10, 15, 20, 30]

/-- The minutes between two log lines; ten if the station is set to an unknown
interval. -/
def logInterval (settings : Settings) : Run Int := do
  match ← Report.ofExcept (stationWhole settings.station "Station" "DataLogInterval" 2) with
  | none => Report.fail .unsuitableKind
  | some index =>
    match if index < 0 then none else logIntervals[index.toNat]? with
    | some minutes => return minutes
    | none => do
      Report.complain ("Invalid DataLogInterval " ++ toString index ++ ", using 10 minutes")
      return 10

/-- The number of the only way of uploading that can be incremental. -/
def incrementalUpload : Int := 3

/-- Uploads may be incremental. -/
def incrementalAllowed (settings : Settings) : Except Fault Bool := do
  return (← stationWhole settings.station "FTP site" "Sslftp" 0) == some incrementalUpload

/-- The latitude of the station in degrees. -/
def latitude (settings : Settings) : Except Fault (Option Binary64) := do
  (← settings.station.get "Station" "Latitude" (.real .zero)).toReal

/-- The hours that the wind barbs of a chart are grouped by. -/
def windBarbSpacing (settings : Settings) : Except Fault Int := do
  match ← settings.graphHours with
  | none => .error .unsuitableKind
  | some hours =>
    let spacing := hours.fdiv 24
    return if spacing ≤ 4 then spacing else 6

/-- The value of a record. -/
def record (settings : Settings) (key : String) : Except Fault (Option Binary64) := do
  (← settings.records.get "Pressure" key .missing).toReal

/-- The lowest and the highest pressure ever, if both are known. -/
def pressureRecords (settings : Settings) : Run (Option (Binary64 × Binary64)) :=
  let both : Except Fault (Option (Binary64 × Binary64)) := do
    let low ← settings.record "lowpressurevalue"
    let high ← settings.record "highpressurevalue"
    return do (← low, ← high)
  match both with
  | .ok records => pure records
  | .error .invalidValue => do
    Report.complain "Unable to convert the pressure records"
    return none
  | .error fault => Report.fail fault

end Settings

end Meteogram.Station
