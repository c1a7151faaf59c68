import Meteogram.Page.Adding
import Meteogram.Page.Includes
import Meteogram.Page.Loading

/-!
# Pages

A page is a menu of its charts, a container for the chart that is shown, and a
script. The script has five parts: the choice of a chart, the start, the loading
of data, the adding of series and the drawing of charts.
-/

set_option autoImplicit false

namespace Meteogram.Page

open Station (Settings)

/-- What all pages of a run have in common. -/
structure Generator where
  site : Site
  options : Options
  /-- The chart that each panel of the dashboard opens. -/
  panels : List String
  /-- The day of the year that the sun is computed for. -/
  dayOfYear : Int

/-- The generator of the pages of a site. -/
def Generator.build (site : Site) (panels : List String) (dayOfYear : Int) :
    Except Fault Generator := do
  return {
    site
    options := ← Options.read site.settings
    panels := if panels.isEmpty then noPanels else panels
    dayOfYear }

/-! ## The menu -/

/-- The page that also switches between the kinds of its charts. -/
def customLogsFilename : String := "customlogscharts.txt"

/-- The line of a chart in the menu. -/
def optionLine (chart : Chart) (first : Bool) : String :=
  let shown := String.ofList (chart.id.toList.map fun c => if c = '_' then ' ' else c)
  "  <option value='" ++ chart.id ++ "'" ++ (if first then " selected" else "") ++ ">" ++ shown ++
    "</option>"

/-- The lines of the menu. -/
def optionLines : List Chart → List String
  | [] => []
  | first :: rest => optionLine first true :: rest.map fun chart => optionLine chart false

/-- The lines that switch to the kind of a chart. -/
def kindLines (chart : Chart) : List String := [
  "if (prevChartRange != " ++ toString chart.range.number ++ " ) \x7b",
  "  $( '.slideOptions' ).slideUp('slow');",
  (if chart.range = .extra then "  $( '#RecentCustomLogs' )" else "  $( '#DailyCustomLogs' )") ++
    ".slideDown('slow'); ",
  "prevChartRange = " ++ toString chart.range.number ++ ";",
  "\x7d"]

/-- The lines that draw a chart if it is chosen. -/
def choiceLines (filename : String) (chart : Chart) : List String :=
  [" if (w1=='" ++ chart.id ++ "') \x7b "] ++
  (if filename = customLogsFilename then kindLines chart else []) ++
  ["    " ++ drawingName chart ++ "()\x7d",
    " else "]

/-- The part of the script that draws the chosen chart, or else the first
one. -/
def menuLines (filename number : String) (first : Chart) (charts : List Chart) : List String :=
  ["console.log( 'Debug... " ++ filename ++ "' );",
    "$('#graph" ++ number ++ "').change(function()\x7b",
    "handleChange" ++ number ++ "();\x7d);",
    "var prevChartRange;",
    "function handleChange" ++ number ++ "() \x7b",
    "  var w1 = document.getElementById('graph" ++ number ++ "').value;"] ++
  charts.flatMap (choiceLines filename) ++
  ["\x7b"] ++
  (if filename = customLogsFilename then
    ["  $( '.slideOptions' ).slideUp('slow');",
      "  $( '#RecentCustomLogs' ).slideDown('slow');  prevChartRange = 1;"]
  else []) ++
  [" document.getElementById('graph" ++ number ++ "').value = '" ++ first.id ++ "';",
    " " ++ drawingName first ++ "();",
    "\x7d",
    "urlParams.delete('dropdown');",
    "urlParams.set('dropdown', document.getElementById('graph" ++ number ++ "').value);",
    "history.pushState(null, null, window.location.origin + window.location.pathname + '?' + urlParams);",
    "\x7d"]

/-! ## Texts about charts -/

/-- The line with the text about a chart. -/
def infoText (settings : Settings) (options : Options) (chart : Chart) : Except Fault String := do
  if options.loadsCharts then
    return "<div class='modal' id='" ++ chart.id ++
      "' style='font-family: Verdana, Geneva, Tahoma, sans-serif;font-size: 120%;'>" ++
    "      <div>" ++
    "        <h5 class='modal-title'>" ++ chart.title ++ "</h5>" ++
    "      </div>" ++
    "      <div style='text-align: left;'>" ++
    "       " ++ chart.infoText ++
    "      </div>" ++
    "</div>"
  else
    let close ← settings.label "Close"
    return "<div class='modal fade' id='" ++ chart.id ++ "' role='dialog' aria-hidden='true'>" ++
    "  <div class='modal-dialog modal-dialog-centered modal-dialog modal-lg' role='document'>" ++
    "    <div class='modal-content'>" ++
    "      <div class='modal-header'>" ++
    "        <h5 class='modal-title'>" ++ chart.title ++ "</h5>" ++
    "        <button type='button' class='close' data-bs-dismiss='modal' aria-label='Close'>" ++
    "<span aria-hidden='true'>&times;</span></button>" ++
    "      </div>" ++
    "      <div class='modal-body text-start'>" ++
    "       " ++ chart.infoText ++
    "      </div>" ++
    "      <div class='modal-footer'>" ++
    "       <button type='button' class='btn btn-secondary' data-bs-dismiss='modal'>" ++
      close ++ "</button>" ++
    "      </div>" ++
    "    </div>" ++
    "  </div>" ++
    "</div>"

/-- The lines that load libraries. -/
def libraryLines (options : Options) (info : Bool) : List String :=
  (if options.loadsQueries then [queryLibraryLine] else []) ++
  (if options.loadsCharts && info then [infoLibraryLine] else []) ++
  (if options.loadsCharts then chartLibraryLines chartLibraryVersion options.boost else [])

/-! ## The whole page -/

/-- The parts of the script, of which a blank line follows each. -/
def scriptLines (parts : List (List String)) : List String :=
  ["<script>"] ++ parts.flatMap (· ++ [""]) ++ ["</script>"]

/-- Lines as a text, with an empty line at the end. -/
def textOfLines (lines : List String) : String :=
  String.join (lines.map (· ++ "\n")) ++ "\n"

/-- The part of the script that declares the arrays and starts the page. -/
def startPart (generator : Generator) (loaded : List Variable) (first : Chart)
    (charts : List Chart) (number : String) : Except Fault (List String) := do
  let windBarbs := charts.any Chart.hasWindBarbs
  let factor ←
    if windBarbs then
      let factor ← generator.site.settings.units.windFactor
      pure [windFactorLine factor]
    else pure []
  let location ← generator.options.dataLocation.shown
  return declarationLines loaded (equationArrays loaded charts) ++
    startLines first.id generator.panels (datafilesOf loaded) windBarbs number ++
    factor ++
    stationLines location

/-- The lines that draw a chart, and those that add its series. -/
def chartLines (generator : Generator) (loaded : List Variable) (chart : Chart) :
    Run (List String × Added) := do
  let drawing ← drawingLines generator.site.settings generator.options generator.dayOfYear chart
  let adding ← addingLines generator.site loaded chart
  return (drawing, adding)

/-- The text of the page of the charts, given its variables. -/
def pageOfVariables (generator : Generator) (loaded : List Variable) (first : Chart)
    (charts : List Chart) (filename number : String) : Run String := do
  let options := generator.options
  let start ← Report.ofExcept (startPart generator loaded first charts number)
  let loaders ← Report.ofExcept
    (loadersLines options loaded (charts.any Chart.hasWindBarbs))
  let parts ← charts.mapM (chartLines generator loaded)
  let height ← Report.ofOption .unsuitableKind options.height
  let infos ← Report.ofExcept
    ((charts.filter Chart.hasInfo).mapM (infoText generator.site.settings options))
  let sum := if parts.any fun part => part.2.callsSum then Equation.sumFunctionLines else []
  return textOfLines (headerLines ++
    libraryLines options (charts.any Chart.hasInfo) ++
    styleLines ++
    ["<div><p style='text-align:center;'>",
      "<select id='graph" ++ number ++ "'>"] ++
    optionLines charts ++
    ["</select>",
      "</p>",
      "</div>",
      "<div id=report><br/>",
      "<div id='chartcontainer' style='min-height:" ++ toString height ++
        "px;margin-top: 10px;margin-bottom: 5px;'> </div>",
      " <p style='text-align:center;font-size:11px;'>Generated with the ChartsCompiler " ++
        version ++ "</p>",
      "</div>"] ++
    scriptLines [
      menuLines filename number first charts,
      start ++ sum,
      loaders,
      parts.flatMap fun part => part.2.lines,
      parts.flatMap Prod.fst] ++
    infos)

/-- The text of the page of an output. There is none without charts, nor if
their variables cannot be found. -/
def generate (generator : Generator) (charts : List Chart) (filename : String) (id : Int) :
    Run (Option String) :=
  match charts with
  | [] => return none
  | first :: _ => do
    match ← variablesOf generator.site.tables charts with
    | none => do
      Report.complain ("Unable to resolve the variables of " ++ filename ++ ", nothing generated")
      return none
    | some loaded => do
      let page ← pageOfVariables generator loaded first charts filename (toString id)
      return some page

end Meteogram.Page
