import Meteogram.Equation.Script
import Meteogram.Page.Drawing
import Meteogram.Page.Variables
import Meteogram.Station.Site

/-!
# Adding the series of a chart

For each chart the script of a page has a function that adds its series. Ranges
of columns and equations are computed there first. The page's own function for
running totals is written once, for the first equation that calls it.
-/

set_option autoImplicit false

namespace Meteogram.Page

open Station (Settings)

/-! ## One series -/

/-- The lines that compute a range of columns. -/
def columnRangeLines (series : Series) : List String :=
  let stem := fieldStem series.field
  let keyword := series.keyword
  ["var " ++ stem ++ "RangeMinMax = [];",
    "for(var i=0; i<" ++ keyword ++ ".length; i++) \x7b" ++ stem ++ "RangeMinMax.push([" ++ keyword ++
      "[i][0],min" ++ stem ++ "[i][1], max" ++ stem ++ "[i][1]]) \x7d"]

/-- The lines that name a series and say where its data are. -/
def dataLines (settings : Settings) (series : Series) : Except Fault (List String) := do
  let keyword := series.keyword
  if series.graphType = "columnrange" then
    let stem := fieldStem series.field
    let name ← settings.label (stem ++ "range")
    return ["    name:'" ++ name ++ "',",
      "    id:'" ++ stem ++ "range',",
      "    data: " ++ stem ++ "RangeMinMax,"]
  else if series.isStatistic && series.graphType = "sma" then
    let name ← settings.label keyword
    return ["    name:'" ++ series.graphType ++ name ++ "',",
      "    id:'" ++ series.graphType ++ keyword ++ "',",
      "    linkedTo:'" ++ keyword ++ "',",
      "    showInLegend:true,",
      "    params: \x7bperiod: " ++ toString series.period ++ " \x7d,"]
  else
    let name ← settings.label keyword
    return ["    name:'" ++ name ++ "',",
      "    id:'" ++ keyword ++ "',",
      "    data: " ++ keyword ++ ","]

/-- The lines about the look of a series. -/
def lookLines (chart : Chart) (series : Series) : List String :=
  (if series.graphType = "area" then
    ["    fillOpacity: " ++ series.opacity.fixedText 1 ++ ","]
  else []) ++
  ["    color: '" ++ series.color ++ "',",
    "    yAxis: '" ++ series.axisId ++ "',",
    "    type: '" ++ series.graphType ++ "',"] ++
  (if chart.hasScatter then [] else ["    lineWidth: " ++ toString series.lineWidth ++ ","]) ++
  (if series.visible then [] else ["    visible: false,"]) ++
  ["    zIndex: " ++ toString series.zIndex ++ ",",
    "    tooltip:\x7bvalueSuffix: ' " ++ series.unit ++ "'\x7d"]

/-- The lines that add a series. -/
def seriesLines (settings : Settings) (chart : Chart) (series : Series) :
    Except Fault (List String) := do
  let data ← dataLines settings series
  return ["   thisChart.addSeries(\x7b "] ++ data ++ lookLines chart series ++ ["   \x7d, false);"]

/-! ## All series of a chart -/

/-- Lines of the script, and whether they call the page's own function for
running totals. -/
structure Added where
  lines : List String := []
  callsSum : Bool := false

/-- What computes the data of a series on the page, in front of the series. An
equation without variables cannot be computed. -/
def computed (tables : Tables) (loaded : List Variable) (chart : Chart) (series : Series) :
    Run (Option Added) := do
  if series.graphType = "columnrange" then return some { lines := columnRangeLines series }
  else
    match series.equation with
    | none => return some {}
    | some equation => do
      let names := (equationVariables tables loaded series).map Variable.name
      match ← Equation.scriptLines series.keyword equation names with
      | some lines => return some { lines, callsSum := Text.contains equation "sum(" }
      | none => do
        Report.complain ("Equation without plot variables is not supported: " ++ chart.id ++ "/" ++
          series.keyword)
        return none

/-- The lines for a series; none if its data cannot be computed. -/
def addedSeries (site : Site) (loaded : List Variable) (chart : Chart) (series : Series) :
    Run Added := do
  match ← computed site.tables loaded chart series with
  | none => return {}
  | some added => do
    let lines ← Report.ofExcept (seriesLines site.settings chart series)
    return { added with lines := added.lines ++ lines }

/-- The lines that add the wind barbs. -/
def windBarbLines (settings : Settings) (chart : Chart) : Except Fault (List String) := do
  if chart.hasWindBarbs then
    let factor ← settings.units.windFactor
    let name ← settings.label "WindBarbs"
    let spacing ← settings.windBarbSpacing
    return ["  thisChart.addSeries(\x7b ",
      "    name: '" ++ name ++ "',",
      "    xAxis: 1,",
      "    color: '" ++ chart.windBarbColor ++ "',",
      "    type: 'windbarb',",
      "    visible: true,",
      "    dataGrouping: \x7benabled: true,units: [ ['hour', [" ++ toString spacing ++ "] ] ]\x7d, ",
      "    tooltip: \x7bpointFormatter() \x7breturn this.series.name + ': ' + " ++
        "(this.value/" ++ factor ++ ").toFixed(1) + ' " ++ settings.units.wind ++ "'\x7d \x7d,",
      "    data: WindBarbData",
      "  \x7d, false);"]
  else return []

/-- The lines of the function that adds the series of a chart. -/
def addingLines (site : Site) (loaded : List Variable) (chart : Chart) : Run Added := do
  let added ← chart.series.mapM (addedSeries site loaded chart)
  let windBarbs ← Report.ofExcept (windBarbLines site.settings chart)
  return {
    lines := ["function " ++ seriesName chart ++ "(thisChart)\x7b"] ++
      added.flatMap Added.lines ++ windBarbs ++ ["  \x7d"]
    callsSum := added.any Added.callsSum }

end Meteogram.Page
