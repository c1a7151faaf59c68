import Meteogram.Page.Axes
import Meteogram.Page.Options

/-!
# Drawing a chart

For each chart the script of a page has a function that draws the empty chart,
with its axes and its range buttons, and then calls for its series.
-/

set_option autoImplicit false

namespace Meteogram.Page

open Station (Settings)

/-- The wind barbs stand above the chart. -/
def barbsAbove (chart : Chart) : Bool :=
  chart.hasWindBarbs && !chart.windBarbsBelow

/-- The lines of the time axis; wind barbs need a second one. -/
def timeAxisLines (chart : Chart) : List String :=
  ["      xAxis:" ++ (if chart.hasWindBarbs then "[" else "") ++
    "      \x7btype: 'datetime', crosshair: true, ordinal: false," ++
    "dateTimeLabelFormats:\x7bday: '%e %b',week: '%e %b %y',month: '%b %y',year: '%Y'\x7d\x7d,"] ++
  if chart.hasWindBarbs then
    [if chart.windBarbsBelow then "\x7blinkedTo:0, labels: \x7benabled: false\x7d, offset: 0\x7d"
      else "\x7blinkedTo:0, opposite: true, labels: \x7benabled: false\x7d \x7d",
      "],"]
  else []

/-- The lines about points and about what is shown of them. In a chart of points
the width of the first series is the size of the points. -/
def plotLines (options : Options) (chart : Chart) : Except Fault (List String) :=
  if chart.hasScatter then
    match chart.series with
    | [] => .error .noSeries
    | first :: _ => .ok [
        "      plotOptions: \x7b scatter: \x7bcursor: 'pointer'," ++
          (if options.boost then "boostThreshold: 200," else "") ++ " lineWidth:0," ++
          "marker: \x7bradius: " ++ toString first.lineWidth ++ " \x7d, \x7d\x7d,",
        "      tooltip: \x7b xDateFormat: '%A, %b %e %H:%M ', " ++
          "pointFormatter() \x7breturn this.series.name + ': ' + this.y\x7d," ++
          "headerFormat: '\x7bpoint.key\x7d<br>' \x7d,"]
  else .ok [
    "      plotOptions: \x7b series: \x7b clip: false, connectNulls: " ++
      switchText options.connectNulls ++ ", turboThreshold: 0, " ++
      "states: \x7b hover: \x7b halo: \x7b size: 5,opacity: 0.25\x7d \x7d \x7d," ++
      "marker: \x7b enabled: false, states: \x7b hover: \x7b enabled: true, radius: 0.1\x7d \x7d \x7d \x7d, \x7d,",
    "      tooltip: \x7bsplit: true, valueDecimals: 1, xDateFormat: '%A, %b %e, %H:%M'\x7d,"]

/-- The lines of the range buttons. For the last days they show a quarter and a
half of the hours that the chart covers. -/
def rangeLines (settings : Settings) (chart : Chart) : Except Fault (List String) :=
  let chosen := toString chart.zoom ++ " - 1"
  if chart.range.isShort then do
    match ← settings.graphHours with
    | none => .error .unsuitableKind
    | some hours =>
      let button (count : Int) := "       count: " ++ toString count ++ ",type: 'hour',text: '" ++
        toString count ++ "h'\x7d, \x7b"
      return ["      rangeSelector:\x7b"] ++
        (if barbsAbove chart then ["    floating: true, y: -50,"] else []) ++
        ["      buttons:[\x7b",
          button (hours.fdiv 4),
          button (hours.fdiv 2),
          "        type: 'all',text: 'All'\x7d],",
          "      inputEnabled: false,",
          "     selected: " ++ (if chart.zoom = -1 then "2" else chosen) ++ " \x7d"]
  else
    let selected :=
      if chart.zoom != -1 then chosen
      else if chart.range = .daily then "0"
      else "4"
    return ["      rangeSelector:\x7ballButtonsEnabled: true, selected: " ++ selected ++ " \x7d"]

/-- The lines that add the word which opens the text about the chart. -/
def infoLines (settings : Settings) (chart : Chart) : Except Fault (List String) := do
  if !chart.hasInfo then return []
  let word ← settings.label "Info"
  return [
    "chart.update(\x7b",
    "  chart:\x7bevents:\x7brender() \x7bconst chart = this; if ( !chart.exporting.group )\x7breturn;\x7d" ++
      "const \x7b x, y, width \x7d = chart.exporting.group.getBBox();",
    "  if ( !this.customText )\x7b",
    "    this.customText = this.renderer.text( '" ++ word ++ "', x - width - 15, y + 15 )",
    "      .add()" ++
      ".css(\x7b color: this.title && this.title.styles ? this.title.styles.color : '#333', cursor: 'pointer' \x7d)" ++
      ".on('click', () => $('#" ++ chart.id ++ "').modal( 'show') );",
    "  \x7d else \x7b",
    "    this.customText.attr(\x7bx: x - width - 15, y: y + 15\x7d); \x7d \x7d \x7d \x7d \x7d);"]

/-- The name of the function that draws a chart. -/
def drawingName (chart : Chart) : String :=
  "do" ++ chart.id

/-- The name of the function that adds the series of a chart. -/
def seriesName (chart : Chart) : String :=
  chart.id ++ "AddSeries"

/-- The lines of the function that draws a chart. -/
def drawingLines (settings : Settings) (options : Options) (dayOfYear : Int) (chart : Chart) :
    Run (List String) := do
  let plot ← Report.ofExcept (plotLines options chart)
  let range ← Report.ofExcept (rangeLines settings chart)
  let info ← Report.ofExcept (infoLines settings chart)
  let axes ← axesLines settings dayOfYear chart
  return ["function " ++ drawingName chart ++ "() \x7b",
      "  console.log('Creating chart: " ++ chart.title ++ "');",
      "  chart = Highcharts.stockChart('chartcontainer', \x7btitle: \x7b",
      " text: '" ++ chart.title ++ "'" ++ (if barbsAbove chart then ", margin: 35" else "") ++ "\x7d,"] ++
    timeAxisLines chart ++
    ["      yAxis:\x7b visible: false \x7d,",
      "      legend:\x7benabled: true\x7d,"] ++
    plot ++
    ["      series:[],"] ++
    range ++
    ["  \x7d);"] ++
    info ++
    ["  chart.showLoading();"] ++
    axes ++
    ["  Promise.all([",
      "]).then(() => \x7b",
      "  " ++ seriesName chart ++ "(chart);",
      "  chart.hideLoading();",
      "  chart.redraw();\x7d);",
      "\x7d"]

end Meteogram.Page
