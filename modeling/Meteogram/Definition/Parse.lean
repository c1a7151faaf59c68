import Meteogram.Definition.Series

/-!
# Chart definitions

Definitions are an optional block of equations and the charts. A chart starts
the output that its own output clause names; the charts in front of it make up
the outputs before.
-/

set_option autoImplicit false

namespace Meteogram.Definition

open Reader

/-! ## Equations in front of the charts -/

/-- Takes one equation of the block and keeps it. -/
def takeDefinition (site : Site) : Reader Unit := do
  let name ← take
  match ← takeEquation site name none with
  | none => refuse (.badEquation name)
  | some equation =>
    modify fun state => { state with equations := state.equations.define name equation }

/-- Takes the block of equations, of which there is at least one. -/
def takeDefinitions (site : Site) : Reader Unit := do
  takeDefinition site
  repeatWhile (fun state => !state.rest.isEmpty && !state.isAt "Chart")
    (fun _ => takeDefinition site) ()

/-! ## Parts of a chart -/

/-- Takes the title: a word, and the words in front of the next clause. -/
def takeTitle : Reader String := do
  let first ← take
  let more ← takeUntil fun word =>
    ["Plot", "Stats", "ConnectsTo", "Zoom", "Has"].any (Text.sameWord word)
  return String.intercalate " " (first :: more)

/-- Connects a chart to a panel of the dashboard, if it can be. -/
def connect (chart : Chart) (firstOutput : Bool) (panel : Int) : Reader Chart := do
  let skipping := "Skipping ConnectsTo " ++ toString panel ++ " of '" ++ chart.id ++ "', "
  if !firstOutput then
    warn (skipping ++ "only charts of the first output connect to the dashboard")
    return chart
  else if panel < 1 || (panelCount : Int) < panel then
    warn (skipping ++ "no such panel")
    return chart
  else
    modify fun state => { state with panels := state.panels.set (panel.toNat - 1) chart.id }
    return { chart with panels := chart.panels ++ [panel] }

/-- The word consists of digits. -/
def isDigits (word : String) : Bool :=
  !word.isEmpty && word.toList.all Text.isDigitLike

/-- Takes the panels that a chart connects to. -/
def takePanels (chart : Chart) (firstOutput : Bool) : Reader Chart :=
  repeatWhile (fun state => isDigits state.next)
    (fun chart => do
      match Number.readInt? (← take) with
      | none => throw (.fault .invalidValue)
      | some panel => connect chart firstOutput panel)
    chart

/-- Takes the zoom of a chart; a word that is no number is reported. -/
def takeZoom (chart : Chart) : Reader Chart := do
  let word ← take
  match ← takeWhole? word with
  | some zoom => return { chart with zoom }
  | none => do
    complain ("Invalid Zoom value '" ++ word ++ "' in chart '" ++ chart.id ++ "'")
    return chart

/-- Takes the side of the wind barbs, which is below or above the chart. -/
def takeBarbsBelow (chart : Chart) : Reader Bool := do
  if ← takeKeyword "Above" then return false
  else if ← takeKeyword "Below" then return true
  else refuse (.sideMissing chart.id)

/-- Takes the wind barbs of a chart, their side and their colour. -/
def takeWindBarbs (chart : Chart) : Reader Chart := do
  if !(← takeKeyword "WindBarbs") then refuse (.windBarbsMissing chart.id)
  let below ← takeBarbsBelow chart
  let chart := { chart with hasWindBarbs := true, windBarbsBelow := below }
  if ← takeKeyword "Colour" then return { chart with windBarbColor := ← take }
  else return chart

/-- Takes one clause between the title and the series. -/
def takeClause (firstOutput : Bool) (chart : Chart) : Reader Chart := do
  if ← takeKeyword "ConnectsTo" then takePanels chart firstOutput
  else if ← takeKeyword "Zoom" then takeZoom chart
  else do
    skip
    takeWindBarbs chart

/-- Takes a chart from its first keyword to its last one. The chart may not have
the name of one of the others. -/
def takeChart (site : Site) (others : List Chart) (firstOutput : Bool) : Reader Chart := do
  if !(← takeKeyword "Chart") then refuse (.chartExpected (← get).next)
  let id ← take
  if others.any fun other => Text.sameWord other.id id then refuse (.duplicateChart id)
  if !(← takeKeyword "Title") then refuse (.titleMissing id)
  let title ← takeTitle
  let chart ← repeatWhile (State.isAtAny · ["ConnectsTo", "Zoom", "Has"]) (takeClause firstOutput)
    { id, title }
  if !(← get).isAtAny ["Plot", "Stats"] then refuse (.nothingPlotted id)
  let chart ← repeatWhile (State.isAtAny · ["Plot", "Stats"]) (takeSeries site) chart
  if !(← takeKeyword "EndChart") then refuse (.endMissing (← get).last id)
  return chart

/-- Takes the text about a chart, which stands in quotation marks. -/
def takeInfo (chart : Chart) : Reader Chart := do
  if chart.hasInfo then refuse (.doubleInfo chart.id)
  if (← take) != "\"" then refuse (.infoNotOpened chart.id)
  let words ← takeUntil (· == "\"")
  if (← get).rest.isEmpty then refuse (.infoNotClosed chart.id)
  skip
  return { chart with hasInfo := true, infoText := String.intercalate " " words }

/-! ## Outputs -/

/-- The outputs that are complete, and the output that charts go to now. -/
structure Progress where
  done : List Output := []
  current : Output := { filename := Output.firstFilename }

namespace Progress

/-- All charts so far. -/
def charts (progress : Progress) : List Chart :=
  (progress.done.flatMap Output.charts) ++ progress.current.charts

/-- Adds a chart to the current output. -/
def add (progress : Progress) (chart : Chart) : Progress :=
  { progress with
    current := { progress.current with charts := progress.current.charts ++ [chart] } }

/-- Ends the current output and starts another one. -/
def begin (progress : Progress) (filename : String) : Progress :=
  { done := progress.done ++ [progress.current], current := { filename } }

/-- All outputs. -/
def outputs (progress : Progress) : List Output :=
  progress.done ++ [progress.current]

end Progress

/-- A chart that has been read, what follows it, and where it goes. -/
structure Ending where
  chart : Chart
  progress : Progress
  /-- An output clause was read. -/
  outputGiven : Bool := false

/-- Takes a clause behind a chart. The first chart of all cannot choose its
output. -/
def takeEnding (ending : Ending) : Reader Ending := do
  if ← takeKeyword "Info" then
    return { ending with chart := ← takeInfo ending.chart }
  else if ending.outputGiven then refuse (.doubleOutput ending.chart.id)
  else
    skip
    let filename ← take
    if ending.progress.done.isEmpty && ending.progress.current.charts.isEmpty then
      warn ("Output " ++ filename ++ " given for the first chart '" ++ ending.chart.id ++
        "', the first chart always goes to " ++ ending.progress.current.filename)
      return { ending with outputGiven := true }
    else
      return { ending with outputGiven := true, progress := ending.progress.begin filename }

/-- Takes a chart with what follows it and adds it to its output. -/
def takeNextChart (site : Site) (progress : Progress) : Reader Progress := do
  let chart ← takeChart site progress.charts progress.done.isEmpty
  let ending ← repeatWhile (State.isAtAny · ["Info", "Output"]) takeEnding { chart, progress }
  return ending.progress.add ending.chart

/-! ## Checks on whole charts -/

/-- The first series drawn as a range of columns without values by day. -/
def columnRangeFlaw? (chart : Chart) : Option Flaw :=
  (chart.series.find? fun series => series.graphType = "columnrange" && !series.range.isByDay).map
    fun series => .columnRangeByDayOnly series.keyword chart.id

/-- The first statistic of something that the chart does not plot. -/
def statisticFlaw? (chart : Chart) : Option Flaw :=
  (chart.series.find? fun series => series.isStatistic && !chart.series.any fun other =>
      !other.isStatistic && Text.sameWord other.keyword series.keyword).map
    fun series => .statisticAlone series.keyword chart.id

/-- The first flaw of whole charts. -/
def chartFlaw? (charts : List Chart) : Option Flaw :=
  charts.findSome? columnRangeFlaw? <|> charts.findSome? statisticFlaw?

/-! ## The whole definitions -/

/-- Takes all definitions. -/
def takeOutputs (site : Site) : Reader (List Output) := do
  if (← get).rest.isEmpty then refuse .noWords
  if ← takeKeyword "Equations" then takeDefinitions site
  let progress ← repeatWhile (fun state => !state.rest.isEmpty) (takeNextChart site) {}
  match chartFlaw? progress.charts with
  | some flaw => refuse flaw
  | none => return progress.outputs

/-- What came of reading definitions. -/
structure Parsed where
  /-- The outputs, if the definitions have no flaw, or the fault that stopped the
  reading. -/
  outcome : Except Fault (Option (List Output))
  /-- The equations of the block in front of the charts. -/
  equations : Equation.Definitions
  /-- The chart that each panel of the dashboard opens. -/
  panels : List String
  log : List Message

/-- Reads definitions. A flaw is logged, and there are no outputs then. -/
def parse (site : Site) (text : String) : Parsed :=
  match takeOutputs site { rest := words text } with
  | .ok outputs state => ⟨.ok (some outputs), state.equations, state.panels, state.log⟩
  | .error (.flaw flaw) state =>
    ⟨.ok none, state.equations, state.panels, state.log ++ [⟨.error, flaw.message⟩]⟩
  | .error (.fault fault) state => ⟨.error fault, state.equations, state.panels, state.log⟩

end Meteogram.Definition
