import Meteogram.Proofs.Definition.Layout
import Meteogram.Proofs.Definition.Reading
import Meteogram.Proofs.Number.WholeNumbers

/-!
# The language of chart definitions

Definitions as they are written: the parts of the grammar with the items that they are
written as, the rules that the grammar alone does not say, and what is meant by them.

The words that a definition is free to choose are plain ones (`Word`), and numbers are
written with ASCII digits. The rules are those of `DefinitionFile.IsProper`. What is
meant is said without reference to the order in which a reader comes across it: of
clauses that say the same thing the last one counts (`lastOf`), a series depends on
the ones in front of it in its chart, and a chart on the output that it goes to. The
charts of the first output connect to the dashboard and those of later outputs do not,
where it is left open on which side the chart stands that starts the second one
(`ChartDefinition.connectsBehind`).
-/

set_option autoImplicit false

namespace Meteogram.Definition

open Text Number

/-! ## Words -/

/-- A plain word stands for itself. -/
def Word.item (word : Word) : Item :=
  .word word.text

/-- Words with blanks between them. -/
def textOf (words : List Word) : String :=
  String.intercalate " " (words.map Word.text)

/-- What the last element says about which `part` says anything. -/
def lastOf {α β : Type} (part : α → Option β) (list : List α) : Option β :=
  (list.filterMap part).getLast?

section

variable {α β : Type} {part : α → Option β}

@[simp]
theorem lastOf_nil : lastOf part [] = none :=
  rfl

@[simp]
theorem lastOf_concat (list : List α) (element : α) :
    lastOf part (list ++ [element]) = (part element).or (lastOf part list) := by
  rw [lastOf, List.filterMap_append]
  cases said : part element with
  | none => simp [lastOf, said]
  | some value => simp [said]

end

/-! ## Equations -/

/-- An equation in square brackets. -/
def evalItems (expression : List Word) : List Item :=
  .keyword "Eval" :: .word "[" :: (expression.map Word.item ++ [.word "]"])

/-- An equation of the block in front of the charts. -/
structure EquationDefinition where
  name : Word
  expression : List Word

namespace EquationDefinition

/-- How the equation is written. -/
def items (equation : EquationDefinition) : List Item :=
  equation.name.item :: evalItems equation.expression

/-- The text that the equation is kept as. -/
def kept (equation : EquationDefinition) : String :=
  ((Equation.evaluate .definitions (textOf equation.expression)).toOption).getD ""

/-- The name does not start the charts, and the equation is accepted. -/
structure IsProper (equation : EquationDefinition) : Prop where
  name : sameWord equation.name.text "Chart" = false
  accepted : ∃ text, Equation.evaluate .definitions (textOf equation.expression) = .ok text

end EquationDefinition

/-- The equations that a block defines. -/
def definedBy (equations : List EquationDefinition) : Equation.Definitions :=
  equations.foldl (fun defined equation => defined.define equation.name.text equation.kept) []

/-! ## Clauses of a chart -/

/-- A clause between the title and the series. -/
inductive ChartClause where
  /-- `ConnectsTo`, with the numbers of panels. -/
  | connects (panels : List Digits)
  /-- `Zoom`, with a number. -/
  | zoom (number : Numeral)
  /-- `Has WindBarbs`, with the side and the colour. -/
  | barbs (below : Bool) (colour : Option Word)

namespace ChartClause

/-- How the clause is written. -/
def items : ChartClause → List Item
  | connects panels => .keyword "ConnectsTo" :: panels.map fun panel => .word panel.text
  | zoom number => [.keyword "Zoom", .word number.text]
  | barbs below colour =>
    .keyword "Has" :: .keyword "WindBarbs" :: .keyword (if below then "Below" else "Above") ::
      match colour with
      | none => []
      | some colour => [.keyword "Colour", colour.item]

/-- The panels that the clause names. -/
@[simp]
def panels : ChartClause → List Int
  | connects panels => panels.map fun panel => (panel.value : Int)
  | _ => []

/-- The zoom that the clause sets. -/
@[simp]
def zoom? : ChartClause → Option Int
  | zoom number => some number.value
  | _ => none

/-- Whether the wind barbs that the clause asks for are below the chart. -/
@[simp]
def below? : ChartClause → Option Bool
  | barbs below _ => some below
  | _ => none

/-- The colour of the wind barbs that the clause asks for. -/
@[simp]
def colour? : ChartClause → Option String
  | barbs _ colour => colour.map Word.text
  | _ => none

/-- The numbers of the clause can be read. -/
def IsProper : ChartClause → Prop
  | connects panels => ∀ panel ∈ panels, panel.IsShort
  | zoom number => number.IsShort
  | barbs _ _ => True

end ChartClause

/-- The panel is one of those of the dashboard. -/
def isPanel (panel : Int) : Bool :=
  1 ≤ panel && panel ≤ panelCount

/-- The panels that the clauses connect a chart to, if charts connect at all. -/
def connected (connects : Bool) (clauses : List ChartClause) : List Int :=
  if connects then (clauses.flatMap ChartClause.panels).filter isPanel else []

/-- The chart that each panel opens, after these panels were connected to these
charts: the one that it was connected to last. -/
def dashboard (connections : List (Int × String)) : List String :=
  (List.range panelCount).map fun i =>
    (lastOf (fun (panel, chart) => if panel = i + 1 then some chart else none)
      connections).getD ""

/-! ## Attributes of a series -/

/-- An attribute. -/
inductive Attribute where
  | invisible
  /-- `As`, with the way in which the series is drawn. -/
  | drawnAs (type : Word)
  | opacity (number : Word)
  | colour (name : Word)
  | zIndex (number : Numeral)
  | lineWidth (number : Numeral)
  | axis (name : Word)

namespace Attribute

/-- How the attribute is written. -/
def items : Attribute → List Item
  | invisible => [.keyword "InVisible"]
  | drawnAs type => [.keyword "As", type.item]
  | opacity number => [.keyword "Opacity", number.item]
  | colour name => [.keyword "Colour", name.item]
  | zIndex number => [.keyword "zIndex", .word number.text]
  | lineWidth number => [.keyword "LineWidth", .word number.text]
  | axis name => [.keyword "Axis", name.item]

/-- The attribute makes the series invisible. -/
@[simp]
def hides : Attribute → Bool
  | invisible => true
  | _ => false

/-- The way in which the attribute has the series drawn. -/
@[simp]
def type? : Attribute → Option String
  | drawnAs type => some (lower type.text)
  | _ => none

/-- The opacity that the attribute sets; one that is not between nothing and one is
one. -/
@[simp]
def opacity? : Attribute → Option Binary64
  | opacity number => (Binary64.read? number.text).map fun value =>
    if value.isBelowZero || value.isAboveOne then .one else value
  | _ => none

/-- The colour that the attribute sets. -/
@[simp]
def colour? : Attribute → Option String
  | colour name => some name.text
  | _ => none

/-- The depth that the attribute sets. -/
@[simp]
def zIndex? : Attribute → Option Int
  | zIndex number => some number.value
  | _ => none

/-- The width of the line that the attribute sets. -/
@[simp]
def lineWidth? : Attribute → Option Int
  | lineWidth number => some number.value
  | _ => none

/-- The axis that the attribute chooses. -/
@[simp]
def axis? : Attribute → Option Axis
  | axis name => Axis.ofKeyword? name.text
  | _ => none

/-- The attribute says something about the series that makes sense. A statistic is
drawn in its own way and only an equation chooses an axis, whatever an attribute says. -/
def IsProper (series : Series) : Attribute → Prop
  | drawnAs type => series.isStatistic = false → lower type.text ∈ graphTypes ∧
    (lower type.text = "columnrange" →
      columnRangeKeywords.any (sameWord series.keyword) = true)
  | opacity number => (Binary64.read? number.text).isSome = true
  | zIndex number => number.IsShort
  | lineWidth number => number.IsShort
  | axis name => series.equation.isSome = true → (Axis.ofKeyword? name.text).isSome = true
  | _ => True

end Attribute

/-- The series with these attributes. -/
def withAttributes (series : Series) (attributes : List Attribute) : Series :=
  let axis := if series.equation.isSome then lastOf Attribute.axis? attributes else none
  { series with
    visible := series.visible && !attributes.any Attribute.hides
    graphType :=
      if series.isStatistic then series.graphType
      else (lastOf Attribute.type? attributes).getD series.graphType
    opacity := (lastOf Attribute.opacity? attributes).getD series.opacity
    color := (lastOf Attribute.colour? attributes).getD series.color
    zIndex := (lastOf Attribute.zIndex? attributes).getD series.zIndex
    lineWidth := (lastOf Attribute.lineWidth? attributes).getD series.lineWidth
    axes := (axis.map Axis.set).getD series.axes
    axisId := (axis.map Axis.name).getD series.axisId }

/-! ## Series -/

/-- The range of a series as it is written. -/
inductive RangeName where
  | recent
  | extra
  | daily
  | all
  deriving DecidableEq, Repr

namespace RangeName

/-- The keyword for the range. -/
def keyword : RangeName → String
  | recent => "Recent"
  | extra => "Extra"
  | daily => "Daily"
  | all => "All"

/-- The range that is meant. -/
def range : RangeName → DataRange
  | recent => .recent
  | extra => .extra
  | daily => .daily
  | all => .all

end RangeName

/-- What a series shows. -/
inductive Source where
  /-- The data of a keyword. -/
  | keyword
  /-- What an equation computes. -/
  | equation (expression : List Word)
  /-- The moving average of a keyword or an equation, over a period. -/
  | average (period : Option Numeral)

namespace Source

/-- The keyword that the series starts with. -/
def opening : Source → String
  | average _ => "Stats"
  | _ => "Plot"

/-- How the period of a statistic is written. -/
def periodItems : Option Numeral → List Item
  | none => []
  | some number => [.keyword "Period", .word number.text]

/-- What is written behind the name of the series. -/
def items : Source → List Item
  | keyword => []
  | equation expression => evalItems expression
  | average period => .keyword "SMA" :: periodItems period

end Source

/-- A series of a chart. -/
structure SeriesDefinition where
  range : Option RangeName := none
  name : Word
  source : Source := .keyword
  attributes : List Attribute := []

namespace SeriesDefinition

/-- How the series is written. -/
def items (series : SeriesDefinition) : List Item :=
  .keyword series.source.opening :: ((series.range.map fun range => .keyword range.keyword).toList ++
    (series.name.item :: (series.source.items ++ series.attributes.flatMap Attribute.items)))

/-- The range of the data. Without a name the data are recent, and a statistic of
daily values is one of all of them. -/
def dataRange (series : SeriesDefinition) : DataRange :=
  match series.range, series.source with
  | none, _ => .recent
  | some .daily, .average _ => .all
  | some range, _ => range.range

/-- The first series in front that is an equation of this name. -/
def equationNamed? (before : List Series) (name : String) : Option Series :=
  before.find? fun other => other.equation.isSome && sameWord other.keyword name

section

variable (site : Site) (defined : Equation.Definitions)

/-- How an equation of a chart finds the keywords and equations in it. -/
def scope (range : DataRange) : Equation.Scope :=
  .chart (fun word => (site.tables.lookup? range word).map Keyword.name) defined

/-- What a series has before its attributes. A number of values is averaged over the
`standard` period if the series does not say another one. -/
def plain (standard : Int) (before : List Series) (series : SeriesDefinition) : Series :=
  let range := series.dataRange
  let entry := site.tables.lookup? range series.name.text
  match series.source with
  | .keyword => (entry.map (ofKeyword { range })).getD { range }
  | .equation expression =>
    { range
      keyword := series.name.text
      equation := (Equation.evaluate (scope site defined range) (textOf expression)).toOption }
  | .average period =>
    let base : Series := match entry, equationNamed? before series.name.text with
      | some entry, _ => ofKeyword { range } entry
      | none, some other => {
        range
        keyword := other.keyword
        field := other.field
        unit := other.unit
        datafile := other.datafile
        axes := other.axes
        axisId := other.axisId }
      | none, none => { range }
    { base with
      isStatistic := true
      graphType := "sma"
      period := (period.map Numeral.value).getD standard }

/-- The series that is meant, behind the series `before` of its chart. An equation
without an axis goes on the axis without a unit. -/
def value (standard : Int) (before : List Series) (series : SeriesDefinition) : Series :=
  let plain := series.plain site defined standard before
  let full := withAttributes plain series.attributes
  if plain.equation.isSome && (lastOf Attribute.axis? series.attributes).isNone then
    { full with axes := Axis.free.set, axisId := Axis.free.name }
  else full

/-- The name of the series does not look like a range that is left out. -/
def IsUnmistakable (series : SeriesDefinition) : Prop :=
  series.range = none → rangeOf? series.name.text = none

/-- What a series names is there: a keyword of its range, for an equation a name of
its own and an accepted text, for a statistic a keyword or an equation in front of it. -/
def SourceIsProper (before : List Series) (series : SeriesDefinition) : Prop :=
  let entry := site.tables.lookup? series.dataRange series.name.text
  match series.source with
  | .keyword => entry.isSome = true
  | .equation expression =>
    entry = none ∧ series.IsUnmistakable ∧
      ∃ text, Equation.evaluate (scope site defined series.dataRange) (textOf expression) = .ok text
  | .average period =>
    (entry.isSome = true ∨
      (equationNamed? before series.name.text).isSome = true ∧ series.IsUnmistakable) ∧
      ∀ number ∈ period, number.IsShort

/-- The series has something to show, and its attributes make sense. -/
structure IsProper (standard : Int) (before : List Series) (series : SeriesDefinition) : Prop where
  source : series.SourceIsProper site defined before
  attributes : ∀ one ∈ series.attributes,
    one.IsProper (series.plain site defined standard before)

end

end SeriesDefinition

/-- The series of a chart that are meant, each one behind those in front of it. -/
def seriesOf (site : Site) (defined : Equation.Definitions) (standard : Int)
    (list : List SeriesDefinition) : List Series :=
  list.foldl (fun before series => before ++ [series.value site defined standard before]) []

/-- The chart with these series. Its range is that of the last one. -/
def withSeries (chart : Chart) (series : List Series) : Chart :=
  { chart with
    hasScatter := series.any fun one => one.graphType = "scatter"
    axes := .unionAll (series.map Series.axes)
    range := (series.getLast?.map Series.range).getD .recent
    series }

/-- Statistics of the site average this many values if they do not say how many. The
setting is absent, or it is a whole number that can be read, one of at most `maxDigits`
digits; absent and zero, it stands for five. -/
def HasStandardPeriod (settings : Station.Settings) (standard : Int) : Prop :=
  ∃ value number,
    settings.site.get "Compiler" "SmaPeriod" (.whole standardPeriod) = .ok value ∧
    value.toWhole = .ok (some number) ∧
    standard = if number = 0 then standardPeriod else number

/-- A setting that is the text of a number sets the period. -/
theorem hasStandardPeriod_of_text {settings : Station.Settings} {number : Numeral}
    (short : number.IsShort)
    (given : settings.site.get "Compiler" "SmaPeriod" (.whole standardPeriod) =
      .ok (.text number.text)) :
    HasStandardPeriod settings (if number.value = 0 then standardPeriod else number.value) :=
  ⟨_, number.value, given, wholeOf_text short, rfl⟩

/-! ## Charts -/

/-- A clause behind a chart. -/
inductive EndClause where
  /-- `Info`, with the words between the quotation marks. -/
  | info (words : List Word)
  /-- `Output`, with the name of a file. -/
  | output (filename : Word)

/-- How the clause is written. -/
def EndClause.items : EndClause → List Item
  | info words => .keyword "Info" :: .word "\"" :: (words.map Word.item ++ [.word "\""])
  | output filename => [.keyword "Output", filename.item]

/-- A chart with what follows it. -/
structure ChartDefinition where
  id : Word
  /-- The first word of the title. -/
  title : Word
  /-- The other words of the title. -/
  moreTitle : List Word := []
  clauses : List ChartClause := []
  series : List SeriesDefinition
  /-- The text about the chart. -/
  info : Option (List Word) := none
  /-- The file that the chart, and those behind it, go to. -/
  output : Option Word := none
  /-- The output stands in front of the text. -/
  outputFirst : Bool := false

namespace ChartDefinition

/-- The clauses behind the chart. -/
def endings (chart : ChartDefinition) : List EndClause :=
  let info := (chart.info.map EndClause.info).toList
  let output := (chart.output.map EndClause.output).toList
  if chart.outputFirst then output ++ info else info ++ output

/-- How the chart is written. -/
def items (chart : ChartDefinition) : List Item :=
  .keyword "Chart" :: chart.id.item :: .keyword "Title" :: chart.title.item ::
    (chart.moreTitle.map Word.item ++ (chart.clauses.flatMap ChartClause.items ++
      (chart.series.flatMap SeriesDefinition.items ++
        .keyword "EndChart" :: chart.endings.flatMap EndClause.items)))

/-- The chart with the clauses in front of its series. -/
def framed (connects : Bool) (chart : ChartDefinition) (clauses : List ChartClause) : Chart where
  id := chart.id.text
  title := textOf (chart.title :: chart.moreTitle)
  zoom := (lastOf ChartClause.zoom? clauses).getD (-1)
  hasWindBarbs := (lastOf ChartClause.below? clauses).isSome
  windBarbsBelow := (lastOf ChartClause.below? clauses).getD true
  windBarbColor := (lastOf ChartClause.colour? clauses).getD "black"
  panels := connected connects clauses

section

variable (site : Site) (defined : Equation.Definitions) (standard : Int)

/-- The chart that is meant. -/
def value (connects : Bool) (chart : ChartDefinition) : Chart :=
  let full := withSeries (chart.framed connects chart.clauses)
    (seriesOf site defined standard chart.series)
  match chart.info with
  | none => full
  | some words => { full with hasInfo := true, infoText := textOf words }

/-- The rules for a chart on its own. Columns are drawn over ranges only where there
is a value for each day, and a statistic is one of something that the chart plots. -/
structure IsProper (chart : ChartDefinition) : Prop where
  title : ∀ word ∈ chart.moreTitle,
    ["Plot", "Stats", "ConnectsTo", "Zoom", "Has"].any (sameWord word.text) = false
  clauses : ∀ clause ∈ chart.clauses, clause.IsProper
  notEmpty : chart.series ≠ []
  each : ∀ before series after, before ++ series :: after = chart.series →
    series.IsProper site defined standard (seriesOf site defined standard before)
  columns : ∀ series ∈ seriesOf site defined standard chart.series,
    series.graphType = "columnrange" → series.range.isByDay = true
  statistics : ∀ series ∈ seriesOf site defined standard chart.series,
    series.isStatistic = true → ∃ other ∈ seriesOf site defined standard chart.series,
      other.isStatistic = false ∧ sameWord other.keyword series.keyword = true

end

/-- These charts, the first ones of the definitions, all go to the first output: none
of them starts another one. The first chart of all cannot. -/
def stayInFirst (charts : List ChartDefinition) : Bool :=
  charts.tail.all fun chart => chart.output.isNone

/-- The chart connects to the dashboard behind these ones: it goes to the first output.
Whether the chart that starts the second output connects as well is left open. -/
def connectsBehind (starter : Bool) (before : List ChartDefinition) (chart : ChartDefinition) :
    Bool :=
  stayInFirst (before ++ [chart]) || (starter && stayInFirst before)

/-- The file of the output that the chart starts behind these ones, if it starts one. -/
def startsBehind (before : List ChartDefinition) (chart : ChartDefinition) : Option String :=
  if before.isEmpty then none else chart.output.map Word.text

end ChartDefinition

/-! ## Whole definitions -/

/-- All definitions. -/
structure DefinitionFile where
  equations : List EquationDefinition := []
  charts : List ChartDefinition

/-- The outputs that charts go to, each chart with the file of the output that it
starts, if it starts one. -/
def outputsFrom (current : Output) : List (Option String × Chart) → List Output
  | [] => [current]
  | (none, chart) :: charts =>
    outputsFrom { current with charts := current.charts ++ [chart] } charts
  | (some filename, chart) :: charts =>
    current :: outputsFrom { filename, charts := [chart] } charts

namespace DefinitionFile

/-- How the definitions are written. -/
def items (file : DefinitionFile) : List Item :=
  (match file.equations with
    | [] => []
    | equations => .keyword "Equations" :: equations.flatMap EquationDefinition.items) ++
    file.charts.flatMap ChartDefinition.items

/-- The definitions on one line. -/
def text (file : DefinitionFile) : String :=
  String.intercalate " " (file.items.map Item.text)

/-- The equations of the block in front of the charts. -/
def defined (file : DefinitionFile) : Equation.Definitions :=
  definedBy file.equations

section

variable (site : Site) (standard : Int)

section

variable (starter : Bool)

/-- The charts that are meant, each with the file of the output that it starts. -/
def placed (defined : Equation.Definitions) (before : List ChartDefinition) :
    List ChartDefinition → List (Option String × Chart)
  | [] => []
  | chart :: charts =>
    (chart.startsBehind before,
      chart.value site defined standard (chart.connectsBehind starter before)) ::
      placed defined (before ++ [chart]) charts

/-- The outputs that are meant. -/
def outputs (file : DefinitionFile) : List Output :=
  outputsFrom { filename := Output.firstFilename }
    (placed site standard starter file.defined [] file.charts)

/-- The chart that each panel of the dashboard opens. -/
def panels (file : DefinitionFile) : List String :=
  dashboard ((placed site standard starter file.defined [] file.charts).flatMap fun (_, chart) =>
    chart.panels.map fun panel => (panel, chart.id))

end

/-- The rules that definitions keep. -/
structure IsProper (file : DefinitionFile) : Prop where
  equations : ∀ equation ∈ file.equations, equation.IsProper
  notEmpty : file.charts ≠ []
  charts : ∀ chart ∈ file.charts, chart.IsProper site file.defined standard
  distinct : file.charts.Pairwise fun first second =>
    sameWord first.id.text second.id.text = false

end

end DefinitionFile

/-! ## Definitions on one line -/

/-- Each item is written as one word. -/
def AreWritable (items : List Item) : Prop :=
  ∀ item ∈ items, isWritable item.text = true

section

variable {items more : List Item}

theorem areWritable_nil : AreWritable [] :=
  fun _ member => absurd member List.not_mem_nil

theorem AreWritable.cons {item : Item} (here : isWritable item.text = true)
    (writable : AreWritable items) : AreWritable (item :: items) :=
  List.forall_mem_cons.2 ⟨here, writable⟩

theorem AreWritable.append (writable : AreWritable items) (others : AreWritable more) :
    AreWritable (items ++ more) :=
  List.forall_mem_append.2 ⟨writable, others⟩

theorem areWritable_flatMap {α : Type} {write : α → List Item}
    (each : ∀ element, AreWritable (write element)) (list : List α) :
    AreWritable (list.flatMap write) := by
  intro item member
  obtain ⟨element, _, written⟩ := List.mem_flatMap.1 member
  exact each element item written

theorem Word.writable (word : Word) : isWritable word.item.text = true :=
  Bool.or_eq_true_iff.2 (.inl word.plain)

theorem areWritable_words (words : List Word) : AreWritable (words.map Word.item) :=
  List.forall_mem_map.2 fun word _ => word.writable

/-- The text of a number is a plain word. -/
theorem isWritable_numeral (numeral : Numeral) : isWritable numeral.text = true := by
  refine Bool.or_eq_true_iff.2 (.inl (isPlain_iff.2 ?_))
  rw [Numeral.text, String.toList_ofList]
  refine ⟨?_, fun c member => ⟨Numeral.isBlank_chars member, ?_⟩⟩
  · exact fun none => numeral.number.chars_ne_nil (List.append_eq_nil_iff.1 none).2
  · have bounds := Numeral.toNat_bounds member
    refine Bool.eq_false_iff.2 fun mark => ?_
    simp only [isMark, Bool.or_eq_true, beq_iff_eq] at mark
    rcases mark with (rfl | rfl) | rfl
    all_goals simp at bounds

theorem isWritable_digits (number : Digits) : isWritable number.text = true :=
  isWritable_numeral { number }

theorem areWritable_evalItems (expression : List Word) : AreWritable (evalItems expression) := by
  refine .cons (by decide) (.cons (by decide) (.append (areWritable_words expression) ?_))
  exact .cons (by decide) areWritable_nil

theorem EquationDefinition.areWritable (equation : EquationDefinition) :
    AreWritable equation.items :=
  .cons equation.name.writable (areWritable_evalItems equation.expression)

theorem ChartClause.areWritable (clause : ChartClause) : AreWritable clause.items := by
  cases clause with
  | connects panels =>
    exact .cons (by decide) (List.forall_mem_map.2 fun panel _ => isWritable_digits panel)
  | zoom number => exact .cons (by decide) (.cons (isWritable_numeral number) areWritable_nil)
  | barbs below colour =>
    refine .cons (by decide) (.cons (by decide) (.cons (by cases below <;> decide) ?_))
    cases colour with
    | none => exact areWritable_nil
    | some colour => exact .cons (by decide) (.cons colour.writable areWritable_nil)

theorem Attribute.areWritable (one : Attribute) : AreWritable one.items := by
  cases one with
  | invisible => exact .cons (by decide) areWritable_nil
  | drawnAs type => exact .cons (by decide) (.cons type.writable areWritable_nil)
  | opacity number => exact .cons (by decide) (.cons number.writable areWritable_nil)
  | colour name => exact .cons (by decide) (.cons name.writable areWritable_nil)
  | zIndex number => exact .cons (by decide) (.cons (isWritable_numeral number) areWritable_nil)
  | lineWidth number => exact .cons (by decide) (.cons (isWritable_numeral number) areWritable_nil)
  | axis name => exact .cons (by decide) (.cons name.writable areWritable_nil)

theorem Source.areWritable (source : Source) : AreWritable source.items := by
  cases source with
  | keyword => exact areWritable_nil
  | equation expression => exact areWritable_evalItems expression
  | average period =>
    refine .cons (by decide) ?_
    cases period with
    | none => exact areWritable_nil
    | some number => exact .cons (by decide) (.cons (isWritable_numeral number) areWritable_nil)

theorem SeriesDefinition.areWritable (series : SeriesDefinition) : AreWritable series.items := by
  have opening : isWritable series.source.opening = true := by
    cases series.source with
    | keyword => exact show isWritable "Plot" = true by decide
    | equation expression => exact show isWritable "Plot" = true by decide
    | average period => exact show isWritable "Stats" = true by decide
  have range : AreWritable (series.range.map fun range => .keyword range.keyword).toList := by
    cases series.range with
    | none => exact areWritable_nil
    | some range => exact .cons (by cases range <;> decide) areWritable_nil
  exact .cons opening (range.append (.cons series.name.writable
    (series.source.areWritable.append (areWritable_flatMap Attribute.areWritable _))))

theorem EndClause.areWritable (clause : EndClause) : AreWritable clause.items := by
  cases clause with
  | info words =>
    refine .cons (by decide) (.cons (by decide) (.append (areWritable_words words) ?_))
    exact .cons (by decide) areWritable_nil
  | output filename => exact .cons (by decide) (.cons filename.writable areWritable_nil)

theorem ChartDefinition.areWritable (chart : ChartDefinition) : AreWritable chart.items := by
  refine .cons (by decide) (.cons chart.id.writable (.cons (by decide)
    (.cons chart.title.writable ?_)))
  refine (areWritable_words _).append ((areWritable_flatMap ChartClause.areWritable _).append ?_)
  refine (areWritable_flatMap SeriesDefinition.areWritable _).append (.cons (by decide) ?_)
  exact areWritable_flatMap EndClause.areWritable _

end

namespace DefinitionFile

theorem areWritable (file : DefinitionFile) : AreWritable file.items := by
  refine AreWritable.append ?_ (areWritable_flatMap ChartDefinition.areWritable _)
  cases file.equations with
  | nil => exact areWritable_nil
  | cons equation equations =>
    exact .cons (by decide) (areWritable_flatMap EquationDefinition.areWritable _)

/-- Definitions begin with a keyword, whose first letter is neither a blank nor a
semicolon. -/
theorem exists_keyword (file : DefinitionFile) (notEmpty : file.charts ≠ []) :
    ∃ name ∈ ["Equations", "Chart"], ∃ rest, file.items = .keyword name :: rest := by
  rw [items]
  cases file.equations with
  | nil =>
    cases charts : file.charts with
    | nil => exact absurd charts notEmpty
    | cons chart charts => exact ⟨"Chart", by simp, _, rfl⟩
  | cons equation equations => exact ⟨"Equations", by simp, _, rfl⟩

/-- The definitions on one line are a text for them. -/
theorem spells_text (file : DefinitionFile) (notEmpty : file.charts ≠ []) :
    Spells file.items (words file.text) := by
  obtain ⟨name, member, rest, written⟩ := file.exists_keyword notEmpty
  have writable : ∀ word ∈ file.items.map Item.text, isWritable word = true :=
    List.forall_mem_map.2 file.areWritable
  have noComment : isComment (joined (name :: rest.map Item.text)) = false := by
    rcases List.mem_cons.1 member with rfl | other
    · have starts : "Equations".toList = 'E' :: "quations".toList := by decide
      exact isComment_joined starts (by decide) (by decide)
    · obtain rfl := List.mem_singleton.1 other
      have starts : "Chart".toList = 'C' :: "hart".toList := by decide
      exact isComment_joined starts (by decide) (by decide)
  have texts : file.items.map Item.text = name :: rest.map Item.text := by
    rw [written]
    rfl
  rw [texts] at writable
  have found : words file.text = file.items.map Item.text := by
    rw [text, texts]
    exact words_intercalate writable noComment
  rw [found]
  exact spells_texts file.items

end DefinitionFile

end Meteogram.Definition
