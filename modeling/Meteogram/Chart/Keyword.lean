import Meteogram.Chart.Basic
import Meteogram.Station.Units
import Meteogram.Text.Words

/-!
# Keywords

A chart definition names what it plots by keywords. Each range of data has a
table of its keywords; the daily values of one year and of all years share one.
A keyword stands for a field of a data file, an axis and a unit, and the units
are those of the station.
-/

set_option autoImplicit false

namespace Meteogram

open Station (Units)

/-- What a keyword stands for. -/
structure Keyword where
  /-- The keyword in its own spelling. -/
  name : String
  /-- The field of the data file. -/
  field : String
  datafile : String
  axis : Axis
  unit : String
  deriving DecidableEq, Repr

/-- The tables of keywords of a station. -/
structure Tables where
  /-- The keywords of the last days. -/
  recent : List Keyword
  /-- The keywords of daily values. -/
  daily : List Keyword
  /-- The keywords of the extra sensors. -/
  extra : List Keyword
  deriving DecidableEq, Repr

namespace Keyword

/-- The keyword is written as this word, in any letter case. -/
def isWrittenAs (keyword : Keyword) (word : String) : Bool :=
  Text.sameWord keyword.name word

/-- The keywords of the last days. -/
def recentOf (units : Units) : List Keyword := [
  ⟨"InsideTemp", "intemp", "tempdata.json", .temp, units.temp⟩,
  ⟨"Dewpoint", "dew", "tempdata.json", .temp, units.temp⟩,
  ⟨"ApparentTemp", "apptemp", "tempdata.json", .temp, units.temp⟩,
  ⟨"FeelsLike", "feelslike", "tempdata.json", .temp, units.temp⟩,
  ⟨"WindChill", "wchill", "tempdata.json", .temp, units.temp⟩,
  ⟨"HeatIndex", "heatindex", "tempdata.json", .temp, units.temp⟩,
  ⟨"Temperature", "temp", "tempdata.json", .temp, units.temp⟩,
  ⟨"Humidex", "humidex", "tempdata.json", .temp, units.temp⟩,
  ⟨"WindGust", "wgust", "winddata.json", .wind, units.wind⟩,
  ⟨"WindSpeed", "wspeed", "winddata.json", .wind, units.wind⟩,
  ⟨"Bearing", "bearing", "wdirdata.json", .direction, ""⟩,
  ⟨"AverageBearing", "avgbearing", "wdirdata.json", .direction, ""⟩,
  ⟨"UV", "UV", "solardata.json", .uv, ""⟩,
  ⟨"CurrentSolarRad", "SolarRad", "solardata.json", .solar, "W/m²"⟩,
  ⟨"TheoreticalSolarMax", "CurrentSolarMax", "solardata.json", .solar, "W/m²"⟩,
  ⟨"RainFall", "rfall", "raindata.json", .rain, units.rain⟩,
  ⟨"RainRate", "rrate", "raindata.json", .rainRate, units.rainRate⟩,
  ⟨"Pressure", "press", "pressdata.json", .pressure, units.pressure⟩,
  ⟨"Humidity", "hum", "humdata.json", .humidity, "%"⟩,
  ⟨"InsideHumidity", "inhum", "humdata.json", .humidity, "%"⟩,
  ⟨"EvapoTranspiration", "evapotranspiration", "CUserdataRECENT.json", .evapotranspiration,
    units.rain⟩]

/-- The keywords of daily values. -/
def dailyOf (units : Units) : List Keyword := [
  ⟨"MinTemp", "minTemp", "alldailytempdata.json", .temp, units.temp⟩,
  ⟨"MaxTemp", "maxTemp", "alldailytempdata.json", .temp, units.temp⟩,
  ⟨"AverageTemp", "avgTemp", "alldailytempdata.json", .temp, units.temp⟩,
  ⟨"AvgWindChill", "windChill", "alldailytempdata.json", .temp, units.temp⟩,
  ⟨"MaxDewpoint", "maxDew", "alldailytempdata.json", .temp, units.temp⟩,
  ⟨"MinDewpoint", "minDew", "alldailytempdata.json", .temp, units.temp⟩,
  ⟨"MaxFeelsLike", "maxFeels", "alldailytempdata.json", .temp, units.temp⟩,
  ⟨"MinFeelsLike", "minFeels", "alldailytempdata.json", .temp, units.temp⟩,
  ⟨"MaxGust", "maxGust", "alldailywinddata.json", .wind, units.wind⟩,
  ⟨"WindRun", "windRun", "alldailywinddata.json", .distance, units.distance⟩,
  ⟨"HighAvgWindSpeed", "maxWind", "alldailywinddata.json", .wind, units.wind⟩,
  ⟨"SunHours", "sunHours", "alldailysolardata.json", .hours, "Hours"⟩,
  ⟨"SolarRadiation", "solarRad", "alldailysolardata.json", .solar, "W/m²"⟩,
  ⟨"UVIndex", "uvi", "alldailysolardata.json", .uv, ""⟩,
  ⟨"DayRain", "rain", "alldailyraindata.json", .rain, units.rain⟩,
  ⟨"MaxRainRate", "maxRainRate", "alldailyraindata.json", .rainRate, units.rainRate⟩,
  ⟨"MinBarometer", "minBaro", "alldailypressdata.json", .pressure, units.pressure⟩,
  ⟨"MaxBarometer", "maxBaro", "alldailypressdata.json", .pressure, units.pressure⟩,
  ⟨"MinHumidity", "minHum", "alldailyhumdata.json", .humidity, "%"⟩,
  ⟨"MaxHumidity", "maxHum", "alldailyhumdata.json", .humidity, "%"⟩,
  ⟨"HeatingDegreeDays", "heatingdegreedays", "CUserdataALL.json", .degreeDays, "degree days"⟩,
  ⟨"CoolingDegreeDays", "coolingdegreedays", "CUserdataALL.json", .degreeDays, "degree days"⟩,
  ⟨"DayEVT", "evapotranspiration", "CUserdataALL.json", .evapotranspiration, units.rain⟩]

/-- The data file of all extra sensors. -/
def extraDatafile : String := "extrasensorsdata.json"

/-- The keyword of one extra sensor, which is the name of its field too. -/
def sensor (name : String) (axis : Axis) (unit : String) : Keyword :=
  ⟨name, name, extraDatafile, axis, unit⟩

/-- The keywords of sensors that are numbered from one on. -/
def numbered (stem : String) (count : Nat) (axis : Axis) (unit : String) : List Keyword :=
  (List.range count).map fun i => sensor (stem ++ toString (i + 1)) axis unit

/-- The keywords of the soil moisture sensors, each with its own unit. -/
def soilMoistureOf (units : List String) : List Keyword :=
  units.zipIdx.map fun (unit, i) =>
    sensor ("SoilMoisture" ++ toString (i + 1)) .soilMoisture unit

/-- The keywords of sensors that only the configuration knows of. A blank name
names no sensor. -/
def externalOf (names : List String) : List Keyword :=
  ((names.map Text.trimmed).filter fun name => name != "").map fun name => sensor name .free ""

/-- The keywords of the extra sensors. -/
def extraOf (units : Units) (external : List String) : List Keyword :=
  numbered "Temp" 10 .temp units.temp ++
  numbered "Humidity" 10 .humidity "%" ++
  numbered "Dewpoint" 10 .temp units.temp ++
  numbered "SoilTemp" 16 .temp units.temp ++
  soilMoistureOf units.soilMoisture ++
  numbered "AirQuality" 4 .airQuality Station.particulateUnit ++
  numbered "AirQualityAvg" 4 .airQuality Station.particulateUnit ++
  numbered "UserTemp" 8 .temp units.temp ++
  numbered "LeafTemp" 4 .temp units.temp ++
  numbered "LeafWetness" 8 .free "" ++
  [sensor "CO2" .partsPerMillion Station.carbonDioxideUnit,
    sensor "CO2_24h" .partsPerMillion Station.carbonDioxideUnit,
    sensor "CO2_pm2p5" .airQuality Station.particulateUnit,
    sensor "CO2_pm2p5_24h" .airQuality Station.particulateUnit,
    sensor "CO2_pm10" .airQuality Station.particulateUnit,
    sensor "CO2_pm10_24h" .airQuality Station.particulateUnit,
    sensor "CO2_temp" .temp units.temp,
    sensor "CO2_hum" .humidity "%",
    sensor "Lightning" .free ""] ++
  externalOf external

end Keyword

namespace Tables

/-- The tables of a station with these units and external sensors. -/
def build (units : Units) (external : List String) : Tables where
  recent := Keyword.recentOf units
  daily := Keyword.dailyOf units
  extra := Keyword.extraOf units external

/-- The table of a range, if the range is a known one. -/
def ofRange? (tables : Tables) : DataRange → Option (List Keyword)
  | .recent => some tables.recent
  | .extra => some tables.extra
  | .daily | .all => some tables.daily
  | .unlisted _ => none

/-- The first keyword of a range that is written as this word, in any letter
case. -/
def lookup? (tables : Tables) (range : DataRange) (word : String) : Option Keyword :=
  ((tables.ofRange? range).getD []).find? fun keyword => keyword.isWrittenAs word

/-- The word is a keyword of the range. -/
def isKeyword (tables : Tables) (range : DataRange) (word : String) : Bool :=
  (tables.lookup? range word).isSome

end Tables

end Meteogram
