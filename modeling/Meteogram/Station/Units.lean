import Meteogram.Number.Fixed

/-!
# Units of the station

The station numbers the units it can be set to. `Units.build` turns these
numbers into the texts that stand on the axes of a chart.
-/

set_option autoImplicit false

namespace Meteogram.Station

/-- The number of soil moisture sensors. -/
def soilMoistureSensors : Nat := 16

/-- The unit that soil moisture has when none is given. -/
def percent : String := "%"

/-- What a station is set to: the numbers of its units, of which any may be
missing. -/
structure UnitChoice where
  temp : Option Int := some 0
  wind : Option Int := some 2
  pressure : Option Int := some 1
  rain : Option Int := some 0
  height : Option Int := some 0
  /-- The text after the rain unit in the unit of the rain rate; none if there is
  something else than a text. -/
  perHour : Option String := some "/hr"
  /-- The units of the first soil moisture sensors. -/
  soilMoisture : List String := []
  deriving DecidableEq, Repr

/-- The texts of the units of a station. -/
structure Units where
  /-- The choice they were made from. -/
  choice : UnitChoice
  temp : String
  wind : String
  pressure : String
  rain : String
  rainRate : String
  height : String
  distance : String
  /-- The unit of each soil moisture sensor. -/
  soilMoisture : List String
  deriving DecidableEq, Repr

/-- The unit of carbon dioxide. -/
def carbonDioxideUnit : String := "ppm"

/-- The unit of particulate matter. -/
def particulateUnit : String := "μg/m3"

/-- The text with this number, where negative numbers count from the end. -/
def pick? (texts : List String) (number : Int) : Option String :=
  if number ≥ 0 then texts[number.toNat]?
  else if number.natAbs ≤ texts.length then texts[texts.length - number.natAbs]?
  else none

/-- The number of a unit as messages show it. -/
def numberText : Option Int → String
  | some number => toString number
  | none => "None"

/-- The unit with this number; a number that is missing or beyond the list is
reported, and the first unit stands in. -/
def unitText (first : String) (more : List String) (number : Option Int) (what : String) :
    Run String :=
  match number.bind (pick? (first :: more)) with
  | some text => pure text
  | none => do
    Report.complain
      ("Invalid " ++ what ++ " unit " ++ numberText number ++ ", using " ++ first)
    return first

/-- The units of all soil moisture sensors: missing ones are percentages, and
more than there are sensors are left out. -/
def allSoilMoisture (given : List String) : List String :=
  (given ++ List.replicate (soilMoistureSensors - given.length) percent).take soilMoistureSensors

namespace Units

/-- The texts of the units that a station is set to. A station has no unit of
distance of its own; it goes with the wind, where metres per second go with
kilometres. -/
def build (choice : UnitChoice) : Run Units := do
  let temp ← unitText "°C" ["°F"] choice.temp "temperature"
  let wind ← unitText "m/s" ["mph", "km/h", "kts"] choice.wind "wind"
  let pressure ← unitText "mb" ["hPa", "inHg"] choice.pressure "pressure"
  let rain ← unitText "mm" ["in"] choice.rain "rain"
  let perHour ← Report.ofOption .unsuitableKind choice.perHour
  let height ← unitText "m" ["ft"] choice.height "height"
  let distanceNumber := if choice.wind = some 0 then some 2 else choice.wind
  let distance ← unitText "m" ["mi", "km", "nm"] distanceNumber "distance"
  return {
    choice, temp, wind, pressure, rain, height, distance
    rainRate := rain ++ perHour
    soilMoisture := allSoilMoisture choice.soilMoisture }

/-- The factor from the wind unit to metres per second, with five decimals. -/
def windFactor (units : Units) : Except Fault String :=
  match units.choice.wind with
  | none => .error .unsuitableKind
  | some number =>
    .ok (if number = 1 then "0.44704"
      else if number = 2 then "0.27778"
      else if number = 3 then "0.51444"
      else "1.00000")

/-- The decimals of a pressure: two for inches of mercury. -/
def pressureDecimals (units : Units) : Nat :=
  if units.choice.pressure = some 2 then 2 else 0

/-- The text of a pressure. -/
def pressureText (units : Units) (pressure : Number.Binary64) : String :=
  pressure.fixedText units.pressureDecimals

end Units

end Meteogram.Station
