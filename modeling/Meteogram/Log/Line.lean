import Meteogram.Number.Binary64
import Meteogram.Time.Format

/-!
# Log lines

The station writes one line for each day, and one for each moment of a month.
The fields of a line stand between commas; or between semicolons, and then
numbers have a decimal comma. A kind of log gives its fields their names, and
each field that is neither a date nor a time is a number, which may be missing.
-/

set_option autoImplicit false

namespace Meteogram.Log

open Text Time
open Number (Binary64)

/-- What a line says. -/
structure Entry where
  /-- The day or the moment. -/
  time : Moment
  /-- The numbers with the names of their fields. -/
  values : List (String × Option Binary64)
  deriving DecidableEq, Repr

/-- The number in a field, if the line has one. -/
def Entry.value? (entry : Entry) (field : String) : Option Binary64 :=
  (entry.values.lookup field).join

/-- The kinds of logs. -/
inductive Kind where
  | daily
  | monthly
  deriving DecidableEq, Repr

/-- The names of the fields of a line. -/
def Kind.fields : Kind → List String
  | daily => [
    "thisDate", "highWindGust", "bearingHighWindGust", "timeHighWindGust", "minTemp",
    "timeMinTemp", "maxTemp", "timeMaxTemp", "minBarometer", "timeMinBarometer",
    "maxBarometer", "timeMaxBarometer", "maxRainRate", "timeMaxRainRate", "totalRainThisDay",
    "averageTempThisDay", "totalWindRunThisDay", "highAverageWindSpeed",
    "timeHighAverageWindSpeed", "lowHumidity", "timeLowHumidity", "highHumidity",
    "timeHighHumidity", "evapotranspiration", "hrsofsunshine", "highheatindex",
    "timeofhighheatindex", "highapparenttemp", "timeofhighapptemp", "lowapparenttemp",
    "timeoflowapptemp", "highHourlyRain", "timeHighHourlyRain", "lowwindchill",
    "timeoflowwindchill", "highdewpoint", "timeofhighdewpoint", "lowdewpoint",
    "timeoflowdewpoint", "dominantWindbearing", "heatingdegreedays", "coolingdegreedays",
    "highsolarRadiation", "timeofHighsolarRadiation", "highUVindex", "timeofHighUVIndex",
    "highFeelsLike", "timeofhighFeelsLike", "lowFeelsLike", "timeoflowFeelsLike",
    "highHumidex", "timeofhighHumidex"]
  | monthly => [
    "thisDate", "thisTime", "CurrTemp", "CurrRH", "CurrDewpoint", "CMXAverageWind",
    "CMXGustSpeed", "AvWindBearing", "CurrRainRate", "TotalRainToday", "CurrPressure",
    "TotalRainfallCounter", "InsideTemp", "InsideRH", "CMXLatestGust", "WindChill",
    "HeatIndex", "UVindex", "SolarRad", "EVT", "AnnualEVT", "ApparentTemp",
    "SolarTheoreticalMax", "HrsOfSunshineSoFar", "CurrWindBearing", "RG11RainToday",
    "TotalRainSinceMidnight"]

/-- The least number of fields of a line: up to the last one that is needed. -/
def Kind.leastFields : Kind → Nat
  | daily => 22
  | monthly => 15

/-- The field is a number. -/
def isNumberField (name : String) : Bool :=
  name != "thisDate" && name != "thisTime" && !startsWith name "time"

/-! ## Fields -/

/-- The fields of a line. -/
def fieldsOfLine (line : List Char) : List (List Char) :=
  let line := trim line
  if line.contains ';' then
    (fieldsOf ';' line).map fun field => (trim field).map fun c => if c = ',' then '.' else c
  else (fieldsOf ',' line).map trim

/-- The fields of a line as strings. -/
def splitLine (line : String) : List String :=
  (fieldsOfLine line.toList).map String.ofList

/-- The day that a date stands for. Dashes and points may stand for the
slashes. -/
def readDate (text : String) : Except Fault Moment :=
  let slashes := text.toList.map fun c => if c = '-' || c = '.' then '/' else c
  match read? slashDate (String.ofList slashes) with
  | none => .error .invalidValue
  | some moment => .ok moment

/-- The numbers of a line. A field that is no number is missing. -/
def numbersOf (kind : Kind) (fields : List String) : List (String × Option Binary64) :=
  ((kind.fields.zip fields).filter fun field => isNumberField field.1).map
    fun (name, text) => (name, Binary64.read? text)

/-! ## Entries -/

/-- The bound of the numbers that a time of day is given in. -/
def timeBound : Int := 0x80000000

/-- A whole number that a time of day is given in. -/
def timeNumber (text : String) : Except Fault Int :=
  match Number.readInt? text with
  | none => .error .invalidValue
  | some number => .ok number

/-- The number fits the numbers that a time of day is given in. -/
def fitsTime (number : Int) : Bool :=
  -timeBound ≤ number && number < timeBound

/-- The moment of a day that hours and minutes with a colon between them stand
for. What follows a second colon is left out. -/
def atTime (day : Moment) (text : String) : Except Fault Moment := do
  match splitFields ':' text with
  | hourText :: minuteText :: _ => do
    let hour ← timeNumber hourText
    let minute ← timeNumber minuteText
    if !(fitsTime hour && fitsTime minute) then .error .outOfRange
    else if 0 ≤ hour && hour < 24 && 0 ≤ minute && minute < 60 then
      .ok { day with hour := hour.toNat, minute := minute.toNat }
    else .error .invalidValue
  | _ => .error .invalidValue

/-- The day or moment of a line. -/
def timeOf (kind : Kind) (fields : List String) : Except Fault Moment := do
  let day ← readDate (fields.headD "")
  match kind with
  | .daily => return day
  | .monthly => atTime day (fields.getD 1 "")

/-- Reads a line. -/
def readLine (kind : Kind) (line : String) : Except Fault Entry := do
  let fields := splitLine line
  if fields.length < kind.leastFields then .error (.shortLine fields.length)
  else return ⟨← timeOf kind fields, numbersOf kind fields⟩

end Meteogram.Log
