import Meteogram.Definition.Reader

/-!
# Series in chart definitions

A chart plots keywords and equations, and statistics of what it plots. Behind
each of them stand attributes in any order.
-/

set_option autoImplicit false

namespace Meteogram.Definition

open Reader

/-! ## Ranges and keywords -/

/-- The range that a word names, in any letter case. -/
def rangeOf? (word : String) : Option DataRange :=
  if Text.sameWord word "recent" then some .recent
  else if Text.sameWord word "extra" then some .extra
  else if Text.sameWord word "daily" then some .daily
  else if Text.sameWord word "all" then some .all
  else none

/-- Takes a range; without one the data are recent. -/
def takeRange : Reader DataRange := do
  match rangeOf? (← get).next with
  | none => return .recent
  | some range => do
    skip
    return range

/-- The identity of the axis of a soil moisture unit: each unit but the
percentage has one of its own. -/
def soilMoistureAxisId (unit : String) : String :=
  if unit = "" || unit = Station.percent then Axis.soilMoisture.name
  else Axis.soilMoisture.name ++ unit

/-- The identity of the axis of a keyword. -/
def axisIdOf (keyword : Keyword) : String :=
  if keyword.axis = .soilMoisture then soilMoistureAxisId keyword.unit else keyword.axis.name

/-- The series with the data of a keyword. -/
def ofKeyword (series : Series) (keyword : Keyword) : Series :=
  { series with
    keyword := keyword.name
    field := keyword.field
    unit := keyword.unit
    datafile := keyword.datafile
    axes := keyword.axis.set
    axisId := axisIdOf keyword }

/-! ## Equations -/

/-- Takes the equation between square brackets and checks it. What is wrong with
it is logged, and there is no equation then. -/
def takeEquation (site : Site) (name : String) (range : Option DataRange) :
    Reader (Option String) := do
  if !(← takeKeyword "Eval") then
    complain ("No Eval found for " ++ name)
    return none
  else if (range.map fun range => site.tables.isKeyword range name).getD false then
    complain ("The name of an equation may not be a plot variable keyword: " ++ name)
    return none
  else if (← take) != "[" then
    complain ("No opening [ found in the Eval of " ++ name)
    return none
  else
    let words ← takeUntil (· == "]")
    let _ ← take
    let text := String.intercalate " " words
    let defined := (← get).equations
    let scope := match range with
      | none => Equation.Scope.definitions
      | some range =>
        .chart (fun word => (site.tables.lookup? range word).map Keyword.name) defined
    match Equation.evaluate scope text with
    | .ok equation => return some equation
    | .error mistake => do
      complain (mistake.message text)
      return none

/-! ## Plots and statistics -/

/-- Takes what follows the word `Plot`, up to the attributes. -/
def takePlot (site : Site) (chart : Chart) : Reader Series := do
  let range ← takeRange
  let word ← take
  let keyword := site.tables.lookup? range word
  let series : Series := match keyword with
    | some keyword => ofKeyword { range } keyword
    | none => { range, keyword := word }
  if (← get).isAt "Eval" then
    match ← takeEquation site series.keyword (some range) with
    | none => refuse (.equationRefused series.keyword chart.id)
    | some equation => return { series with equation := some equation }
  else if keyword.isNone then refuse (.notPlottable word chart.id)
  else return series

/-- The series of the chart that a statistic of an equation is made of. -/
def equationSeries? (chart : Chart) (word : String) : Option Series :=
  chart.series.find? fun other => other.equation.isSome && Text.sameWord other.keyword word

/-- The series that a statistic is made of, from the table of its range or from
the equations of the chart. -/
def statisticBase (site : Site) (chart : Chart) (range : DataRange) (word : String) :
    Reader Series :=
  match site.tables.lookup? range word with
  | some keyword => return ofKeyword { range } keyword
  | none =>
    match equationSeries? chart word with
    | none => refuse (.unknownStatistic word chart.id)
    | some base => return {
        range
        keyword := base.keyword
        field := base.field
        unit := base.unit
        datafile := base.datafile
        axes := base.axes
        axisId := base.axisId }

/-- The number of values that a statistic averages if nothing else is said. -/
def standardPeriod : Int := 5

/-- Takes the number of values that a statistic averages. -/
def takePeriod (site : Site) (chart : Chart) : Reader Int := do
  if ← takeKeyword "Period" then
    let word ← take
    match ← takeWhole? word with
    | some period => return period
    | none => refuse (.badPeriod word chart.id)
  else
    let value ← ofExcept (site.settings.site.get "Compiler" "SmaPeriod" (.whole standardPeriod))
    match ← ofExcept value.toWhole with
    | none => return standardPeriod
    | some period => return if period = 0 then standardPeriod else period

/-- Takes what follows the word `Stats`, up to the attributes. -/
def takeStatistic (site : Site) (chart : Chart) : Reader Series := do
  let range ← takeRange
  let range := if range = .daily then .all else range
  let word ← take
  let base ← statisticBase site chart range word
  let type := (← get).next
  if Text.hasCapitals ['S', 'M', 'A'] type.toList then
    skip
    let period ← takePeriod site chart
    return { base with isStatistic := true, graphType := Text.lower type, period }
  else refuse (.statisticTypeMissing chart.id)

/-! ## Attributes -/

/-- The words that attributes start with. -/
def attributeWords : List String :=
  ["InVisible", "As", "Opacity", "Colour", "zIndex", "LineWidth", "Axis"]

/-- The ways in which a series can be drawn. -/
def graphTypes : List String := ["line", "spline", "area", "column", "scatter", "columnrange"]

/-- The keywords that can be drawn as ranges of columns. -/
def columnRangeKeywords : List String :=
  ["MinTemp", "MaxTemp", "AverageTemp", "MaxDewpoint", "MinDewpoint", "MaxFeelsLike",
    "MinFeelsLike", "MinBarometer", "MaxBarometer", "MinHumidity", "MaxHumidity"]

/-- The series drawn as the word says. -/
def withGraphType (chart : Chart) (series : Series) (word : String) : Reader Series :=
  let type := Text.lower word
  if series.isStatistic then do
    warn ("Cannot set the plot type " ++ word ++ " of the statistic " ++ series.keyword ++
      " in chart '" ++ chart.id ++ "'")
    return series
  else if !graphTypes.contains type then refuse (.badGraphType word chart.id)
  else if type = "columnrange" && !columnRangeKeywords.any (Text.sameWord series.keyword) then
    refuse (.noColumnRange series.keyword chart.id)
  else return { series with graphType := type }

/-- The series with the opacity that the word says. An opacity that is not
between nothing and one is one. -/
def withOpacity (chart : Chart) (series : Series) (word : String) : Reader Series :=
  match Number.Binary64.read? word with
  | none => refuse (.badOpacity word series.keyword chart.id)
  | some opacity =>
    return { series with
      opacity := if opacity.isBelowZero || opacity.isAboveOne then .one else opacity }

/-- The series on the axis that the word says, which only an equation can
choose. -/
def withAxis (chart : Chart) (series : Series) (word : String) : Reader Series :=
  if series.equation.isNone then do
    warn ("Axis " ++ word ++ " of " ++ series.keyword ++ " in chart '" ++ chart.id ++
      "' ignored, an axis is only specified for an equation")
    return series
  else
    match Axis.ofKeyword? word with
    | none => refuse (.badAxis word chart.id)
    | some axis => return { series with axes := axis.set, axisId := axis.name }

/-- Takes the number of an attribute. -/
def takeNumber (chart : Chart) (series : Series) (setting : String) : Reader Int := do
  let word ← take
  match ← takeWhole? word with
  | some number => return number
  | none => refuse (.badNumber setting word series.keyword chart.id)

/-- Takes one attribute. -/
def takeAttribute (chart : Chart) (series : Series) : Reader Series := do
  let word ← take
  if Text.sameWord word "InVisible" then return { series with visible := false }
  else if Text.sameWord word "As" then withGraphType chart series (← take)
  else if Text.sameWord word "Opacity" then withOpacity chart series (← take)
  else if Text.sameWord word "Colour" then return { series with color := ← take }
  else if Text.sameWord word "zIndex" then
    return { series with zIndex := ← takeNumber chart series "zindex" }
  else if Text.sameWord word "LineWidth" then
    return { series with lineWidth := ← takeNumber chart series "linewidth" }
  else withAxis chart series (← take)

/-- Takes all attributes of a series. -/
def takeAttributes (chart : Chart) (series : Series) : Reader Series :=
  repeatWhile (State.isAtAny · attributeWords) (takeAttribute chart) series

/-- An equation without an axis goes on the axis without a unit. -/
def withStandardAxis (chart : Chart) (series : Series) : Reader Series := do
  if series.equation.isSome && series.axes = ∅ then
    warn ("No axis specified for " ++ series.keyword ++ " in chart '" ++ chart.id ++
      "', using the Free axis")
    return { series with axes := Axis.free.set, axisId := Axis.free.name }
  else return series

/-- Takes a series and adds it to the chart. The range of the chart is that of
its last series. -/
def takeSeries (site : Site) (chart : Chart) : Reader Chart := do
  let plain ← if ← takeKeyword "Stats" then takeStatistic site chart
    else do
      skip
      takePlot site chart
  let series ← withStandardAxis chart (← takeAttributes chart plain)
  return { chart with
    range := series.range
    hasScatter := chart.hasScatter || series.graphType = "scatter"
    axes := chart.axes ∪ series.axes
    series := chart.series ++ [series] }

end Meteogram.Definition
