import Meteogram.Chart.Basic
import Meteogram.Station.Settings
import Meteogram.Station.Sun

/-!
# Axes of a chart

A chart gets one axis for each category that its series need, and one for each
unit of soil moisture. The axes stand on the right and on the left by turns. A
chart with a single category gets a copy of its axis on the other side.
-/

set_option autoImplicit false

namespace Meteogram.Page

open Station (Settings)

/-! ## Parts of an axis -/

/-- Shows temperatures up to freezing in blue and the others in red. -/
def temperatureFormatter : String :=
  "formatter: function() \x7breturn '<span style=\"fill: ' + " ++
  "(this.value <= freezing ? 'blue' : 'red') + '; \">' + this.value + '</span>';\x7d"

/-- The line at the freezing point. -/
def freezingLine : String :=
  "plotLines:[\x7bvalue: freezing,color: 'rgb(0, 0, 180)',width: 1,zIndex: 2\x7d],"

/-- Where the labels stand. -/
def labelSide (opposite : Bool) : String :=
  if opposite then "align: 'left',x: 5,y: -2" else "align: 'right',x: -5, y: -2"

/-- A switch of the script. -/
def switchText (on : Bool) : String := if on then "true" else "false"

/-- The end of an axis. -/
def axisEnd : String :=
  "alignTicks: false, gridLineWidth: 0, minorGridLineWidth:0 \x7d, false, false );"

/-- The unit of soil moisture, which may be left out for a percentage. -/
def soilMoistureUnit (unit : String) : String :=
  if unit = "" then Station.percent else unit

/-- The label of an axis, without its unit. -/
def axisLabel (settings : Settings) (chart : Chart) : Axis → Except Fault String
  | .temp => settings.label "Temperature"
  | .pressure => settings.label "Pressure"
  | .rain => settings.label "Rain"
  | .rainRate => settings.labelOr "Rainrate" "Rain Rate"
  | .wind => settings.label "Wind"
  | .direction => settings.label "Direction"
  | .uv => settings.labelOr "UVindex" "UV index"
  | .solar => settings.labelOr "SolarRadiation" "Solar Radiation"
  | .humidity => settings.label "Humidity"
  | .hours => settings.label "Hours"
  | .evapotranspiration => settings.label "Evapotranspiration"
  | .distance => settings.label "Distance"
  | .height => settings.label "Height"
  | .degreeDays => settings.label "DegreeDays"
  | .free =>
    let own := chart.id ++ "Dimensionless"
    if settings.hasLabel own then settings.label own else settings.label "Dimensionless"
  | .airQuality => settings.labelOr "ParticulateMatter" "Particulate Matter"
  | .partsPerMillion => settings.labelOr "PartsPerMillion" "Parts Per Million"
  | .soilMoisture => settings.labelOr "SoilMoisture" "Soil Moisture"

/-- The unit behind the label of the axis of a series, if it has one. -/
def axisUnit (settings : Settings) (series : Series) : Axis → Option String
  | .temp => some settings.units.temp
  | .pressure | .rain | .rainRate | .wind | .evapotranspiration => some series.unit
  | .direction => some "Compass / degrees"
  | .solar => some "W/m²"
  | .humidity => some "%"
  | .distance => some (if series.unit = "" then "km" else series.unit)
  | .height => some (if series.unit = "" then settings.units.height else series.unit)
  | .airQuality => some Station.particulateUnit
  | .partsPerMillion => some Station.carbonDioxideUnit
  | .soilMoisture => some (soilMoistureUnit series.unit)
  | .uv | .hours | .degreeDays | .free => none

/-- The text of an axis. -/
def axisTitle (settings : Settings) (chart : Chart) (series : Series) (axis : Axis) :
    Except Fault String := do
  let label ← axisLabel settings chart axis
  match axisUnit settings series axis with
  | none => return label
  | some unit => return label ++ " (" ++ unit ++ ")"

/-- The bounds of the pressure axis, which takes in the records. -/
def pressureBounds (settings : Settings) : Run String := do
  match ← settings.pressureRecords with
  | none => return ""
  | some (low, high) =>
    return "softMin: " ++ settings.units.pressureText low ++ ", softMax: " ++
      settings.units.pressureText high ++ ","

/-- The greatest radiation, which the solar axis needs. -/
def solarBound (settings : Settings) (dayOfYear : Int) : Axis → Except Fault Int
  | .solar => do
    Station.solarMaximum (← settings.latitude) dayOfYear
  | _ => .ok 0

/-- What an axis shows, apart from its text and its side. -/
def axisOptions (settings : Settings) (sun : Int) (side : String) : Axis → Run String
  | .temp => return "allowDecimals: false,softMin: freezing,showLastLabel: true,labels:\x7b" ++
      side ++ "," ++ temperatureFormatter ++ "\x7d," ++ freezingLine
  | .pressure => do
    let decimals := settings.units.pressureDecimals
    let bounds ← pressureBounds settings
    return "allowDecimals: " ++ switchText (decimals != 0) ++ "," ++ bounds ++
      "showLastLabel: true,labels: \x7b formatter: function () " ++
      "\x7breturn Highcharts.numberFormat(this.value, " ++ toString decimals ++ ", '.', '');\x7d, " ++
      side ++ "\x7d,"
  | .rain => return "endOnTick: false, softMax: 1,min: 0,showLastLabel: true," ++
      "allowDecimals: false," ++ plain
  | .rainRate => return "endOnTick: false, showLastLabel: true, softMax: 1,min: 0," ++
      "allowDecimals: false," ++ plain
  | .wind => return "allowDecimals: false,showLastLabel: true," ++ plain
  | .direction => return "min: 0, max: 360,showLastLabel: true,tickInterval: 45,labels: \x7b " ++
      side ++ ", formatter: function() \x7breturn compassP(this.value);\x7d \x7d,allowDecimals: false,"
  | .uv => return "allowDecimals: false,softMax: 10, showLastLabel: true," ++ plain
  | .solar => return "allowDecimals: false,showLastLabel: true,softMax: " ++ toString sun ++
      ",min: 0," ++ plain
  | .humidity => return "min: 0, max: 100,allowDecimals: false,showLastLabel: true," ++ plain
  | .hours => return "min: 0,allowDecimals: false,showLastLabel: true," ++ plain
  | .evapotranspiration => return "softMax: 1,min: 0,showLastLabel: true,allowDecimals: false," ++
      plain
  | .distance | .height | .degreeDays =>
    return "softMax: 10,softMin: 0,showLastLabel: true,allowDecimals: false," ++ plain
  | .free => return "softMax: 10,softMin: 0,showLastLabel: true," ++ plain
  | .airQuality => return "softMax: 30,softMin: 0,showLastLabel: true," ++ plain
  | .partsPerMillion => return "softMax: 500,softMin: 0,showLastLabel: true," ++ plain
  | .soilMoisture => return "max: 100,min: 0,showLastLabel: true," ++ plain
where
  plain : String := "labels:\x7b" ++ side ++ "\x7d,"

/-- The line that adds the axis of a series. -/
def axisLine (settings : Settings) (dayOfYear : Int) (chart : Chart) (series : Series)
    (axis : Axis) (opposite : Bool) : Run String := do
  let sun ← Report.ofExcept (solarBound settings dayOfYear axis)
  let title ← Report.ofExcept (axisTitle settings chart series axis)
  let options ← axisOptions settings sun (labelSide opposite) axis
  return "  chart.addAxis(\x7bid: '" ++ series.axisId ++ "',title:\x7btext:'" ++ title ++
    "'\x7d,opposite: " ++ switchText opposite ++ "," ++ options ++ axisEnd

/-- The line that adds the copy of a single axis on the other side. -/
def oppositeCopyLine (chart : Chart) : String :=
  "  chart.addAxis(\x7blinkedTo: 1, gridLineWidth: 0, minorGridLineWidth:0," ++
  (if chart.axes.includes Axis.temp.set then
    "labels:\x7balign: 'left',y: -2, x: 5, " ++ temperatureFormatter ++ "\x7d," ++ freezingLine
  else "labels:\x7balign: 'left',y: -2, x: 5\x7d,") ++
  "opposite: true, showLastLabel: true, title: \x7btext: null\x7d \x7d, false, false );"

/-! ## All axes of a chart -/

/-- What the charts of a page leave for the next one: the unit of the soil moisture
axis that was added last. -/
structure AxisContext where
  soilMoistureUnit : Option String := none

/-- A chart starts without a unit of soil moisture. -/
def AxisContext.startChart (context : AxisContext) : AxisContext :=
  { context with soilMoistureUnit := none }

/-- The axes that a chart has so far. -/
structure Drawn where
  lines : List String := []
  /-- The number of the axes. -/
  count : Nat := 0
  /-- Their categories. -/
  axes : AxisSet := ∅
  /-- Their identities. -/
  ids : List String := []
  /-- The unit of the soil moisture axis that was added last. -/
  soilMoistureUnit : Option String := none
  /-- The next axis stands on the other side. -/
  opposite : Bool := false

/-- The series has its axis already. A new unit of soil moisture needs a new
axis, but not a unit that was used before. -/
def Drawn.serves (drawn : Drawn) (series : Series) : Bool :=
  drawn.axes.includes series.axes &&
    (series.axes != Axis.soilMoisture.set ||
      drawn.soilMoistureUnit == some (Page.soilMoistureUnit series.unit) ||
      drawn.ids.contains series.axisId)

/-- Adds the axis of a series if it is not there. A series without a known
category is reported. -/
def Drawn.add (settings : Settings) (dayOfYear : Int) (chart : Chart) (drawn : Drawn)
    (series : Series) : Run Drawn := do
  if drawn.serves series then return drawn
  else
    match series.axes.single? with
    | none => do
      Report.complain ("No axis definition for " ++ toString series.axes.mask ++ " of " ++
        series.keyword ++ " in chart " ++ chart.id)
      return drawn
    | some axis => do
      let line ← axisLine settings dayOfYear chart series axis drawn.opposite
      return {
        lines := drawn.lines ++ [line]
        count := drawn.count + 1
        axes := drawn.axes ∪ series.axes
        ids := drawn.ids ++ [series.axisId]
        soilMoistureUnit :=
          if axis = .soilMoisture then some (Page.soilMoistureUnit series.unit)
          else drawn.soilMoistureUnit
        opposite := !drawn.opposite }

/-- The axes of a chart. -/
def drawnAxes (settings : Settings) (dayOfYear : Int) (chart : Chart)
    (context : AxisContext := {}) : Run Drawn :=
  chart.series.foldlM (Drawn.add settings dayOfYear chart)
    { soilMoistureUnit := context.startChart.soilMoistureUnit }

/-- The lines that add the axes that were drawn, the copy of a single one
included. -/
def Drawn.allLines (drawn : Drawn) (chart : Chart) : List String :=
  if chart.axes.count = 1 then drawn.lines ++ [oppositeCopyLine chart] else drawn.lines

/-- The number of the axes that were drawn, the copy of a single one included. -/
def Drawn.total (drawn : Drawn) (chart : Chart) : Nat :=
  if chart.axes.count = 1 then drawn.count + 1 else drawn.count

/-- Puts the lines that add the axes of a chart behind the others, and says how many
axes there are. -/
def createAxes (settings : Settings) (dayOfYear : Int) (chart : Chart) (context : AxisContext)
    (lines : List String) : Run (Nat × AxisContext × List String) := do
  let drawn ← drawnAxes settings dayOfYear chart context
  return (drawn.total chart, { context with soilMoistureUnit := drawn.soilMoistureUnit },
    lines ++ drawn.allLines chart)

/-- The lines that add the axes of a chart. -/
def axesLines (settings : Settings) (dayOfYear : Int) (chart : Chart) : Run (List String) := do
  let (_, _, lines) ← createAxes settings dayOfYear chart {} []
  return lines

end Meteogram.Page
