import Meteogram.Proofs.Definition.Grammar

/-!
# Series are read as they are meant

The readers of equations, ranges, plots, statistics and attributes, at words that are
written by the grammar. A series ends where a keyword begins that none of its parts
can start with (`behindSeries`), and each part ends in the same way.
-/

set_option autoImplicit false

namespace Meteogram.Definition

open Text Number Reader

section

variable {items : List Item} {memory : Memory}

/-! ## Words and numbers -/

theorem map_item (words : List Word) :
    words.map Word.item = (words.map Word.text).map Item.word := by
  rw [List.map_map]
  rfl

/-- The text of a number is read as the number. -/
theorem reads_takeWhole? {numeral : Numeral} (short : numeral.IsShort) :
    Reads items memory (takeWhole? numeral.text) (some numeral.value) items memory := by
  have number : wholeNumber numeral.text = .ok numeral.value := by
    rw [wholeNumber, wholeOf_text short]
  rw [takeWhole?, number]
  exact Reads.pure _

/-! ## Equations -/

/-- How an equation finds what it refers to: in the block in front of the charts by
itself, and in a chart through the keywords of a range. -/
def scopeIn (site : Site) (defined : Equation.Definitions) : Option DataRange → Equation.Scope
  | none => .definitions
  | some range => SeriesDefinition.scope site defined range

/-- An accepted equation in square brackets is read, under a name that is not one of
the keywords. -/
theorem reads_takeEquation {site : Site} {name : String} {range : Option DataRange}
    {expression : List Word} {equation : String}
    (free : ∀ among ∈ range, site.tables.lookup? among name = none)
    (accepted : Equation.evaluate (scopeIn site memory.equations range) (textOf expression) =
      .ok equation) :
    Reads (evalItems expression ++ items) memory (takeEquation site name range) (some equation)
      items memory := by
  have noKeyword : (range.map fun among => site.tables.isKeyword among name).getD false = false := by
    cases range with
    | none => rfl
    | some among =>
      rw [Option.map_some, Option.getD_some, Tables.isKeyword, free among rfl]
      rfl
  have inside : ∀ word ∈ expression.map Word.text, (word == "]") = false := by
    intro word member
    obtain ⟨given, _, rfl⟩ := List.mem_map.1 member
    exact beq_eq_false_iff_ne.2 (given.text_ne_mark (c := ']') rfl)
  have closes : ∀ word, (Item.word "]").IsSpelled word → (word == "]") = true :=
    fun word spelled => beq_iff_eq.2 spelled
  have split : evalItems expression ++ items = .keyword "Eval" :: .word "[" ::
      ((expression.map Word.text).map Item.word ++ .word "]" :: items) := by
    rw [evalItems, map_item]
    simp
  rw [split, takeEquation]
  refine reads_takeKeyword.bind (Reads.ite_false (by decide) ?_)
  refine Reads.ite_false (by rw [noKeyword]; decide) ?_
  refine reads_take.bind (Reads.ite_false (by decide) ?_)
  refine (reads_takeUntil inside closes).bind (reads_take.bind (Reads.get_bind ?_))
  intro state place
  rw [place.equations, ← textOf]
  dsimp only
  cases range with
  | none =>
    rw [scopeIn] at accepted
    rw [accepted]
    exact Reads.pure _
  | some among =>
    rw [scopeIn, SeriesDefinition.scope] at accepted
    rw [accepted]
    exact Reads.pure _

/-! ## Ranges -/

theorem rangeOf?_of_isSpelled {item : Item} {word : String} (spelled : item.IsSpelled word) :
    rangeOf? word = rangeOf? item.text := by
  simp only [rangeOf?, spelled.sameWord]

theorem rangeOf?_keyword (range : RangeName) : rangeOf? range.keyword = some range.range := by
  cases range with
  | recent => decide
  | extra => decide
  | daily => decide
  | all => decide

/-- A range is taken if there is one, and a name that does not look like one is left. -/
theorem reads_takeRange {range : Option RangeName} {name : Word}
    (unmistakable : range = none → rangeOf? name.text = none) :
    Reads ((range.map fun one => .keyword one.keyword).toList ++ name.item :: items) memory
      takeRange ((range.map RangeName.range).getD .recent) (name.item :: items) memory := by
  refine Reads.get_bind fun state place => ?_
  cases range with
  | none =>
    have none : rangeOf? state.next = none :=
      (rangeOf?_of_isSpelled place.next).trans (unmistakable rfl)
    rw [none]
    exact Reads.pure _
  | some range =>
    have found : rangeOf? state.next = some range.range :=
      (rangeOf?_of_isSpelled place.next).trans (rangeOf?_keyword range)
    rw [found]
    exact reads_skip.bind (Reads.pure _)

/-- The keywords of recent data do not look like ranges. -/
theorem rangeOf?_of_lookup? {units : Station.Units} {external : List String} {word : String}
    (found : ((Tables.build units external).lookup? .recent word).isSome = true) :
    rangeOf? word = none := by
  obtain ⟨keyword, found⟩ := Option.isSome_iff_exists.1 found
  have names : ((Keyword.recentOf units).map Keyword.name).all
      (fun name => (rangeOf? name).isNone) = true := by
    change ["InsideTemp", "Dewpoint", "ApparentTemp", "FeelsLike", "WindChill",
      "HeatIndex", "Temperature", "Humidex", "WindGust", "WindSpeed", "Bearing", "AverageBearing",
      "UV", "CurrentSolarRad", "TheoreticalSolarMax", "RainFall", "RainRate", "Pressure",
      "Humidity", "InsideHumidity", "EvapoTranspiration"].all (fun name =>
        (rangeOf? name).isNone) = true
    decide
  rw [Tables.lookup?] at found
  have member := List.mem_of_find?_eq_some found
  have same := List.find?_some found
  have none := List.all_eq_true.1 names keyword.name (List.mem_map_of_mem member)
  have alike : rangeOf? word = rangeOf? keyword.name := by
    simp only [rangeOf?, ← sameWord_congr_left (show sameWord keyword.name word = true from same)]
  rw [alike]
  exact Option.isNone_iff_eq_none.1 none

/-! ## Plots -/

/-- The keywords that stand behind a series. -/
def behindSeries : List String :=
  ["Plot", "Stats", "EndChart"]

/-- The keywords that stand behind what a series shows. -/
def behindSource : List String :=
  attributeWords ++ behindSeries

section

variable {site : Site} {chart : Chart} {range : Option RangeName} {name : Word}
    {among : DataRange}

/-- A plot of a keyword. -/
theorem reads_takePlot_keyword {entry : Keyword} (opens : OpensWith behindSource items)
    (unmistakable : range = none → rangeOf? name.text = none)
    (given : (range.map RangeName.range).getD .recent = among)
    (found : site.tables.lookup? among name.text = some entry) :
    Reads ((range.map fun one => .keyword one.keyword).toList ++ name.item :: items) memory
      (takePlot site chart) (ofKeyword { range := among } entry) items memory := by
  have noEval : sameWord (headText items) "Eval" = false := opens.isFree (by decide)
  rw [takePlot]
  refine (reads_takeRange unmistakable).bind (reads_take.bind (Reads.get_bind ?_))
  intro state place
  rw [given, found, place.isAt "Eval", noEval]
  exact Reads.pure _

/-- A plot of an equation. -/
theorem reads_takePlot_equation {expression : List Word} {equation : String}
    (unmistakable : range = none → rangeOf? name.text = none)
    (given : (range.map RangeName.range).getD .recent = among)
    (free : site.tables.lookup? among name.text = none)
    (accepted : Equation.evaluate (scopeIn site memory.equations (some among))
      (textOf expression) = .ok equation) :
    Reads ((range.map fun one => .keyword one.keyword).toList ++
        name.item :: (evalItems expression ++ items)) memory (takePlot site chart)
      { range := among, keyword := name.text, equation := some equation } items memory := by
  have isEval : sameWord (headText (evalItems expression ++ items)) "Eval" = true :=
    sameWord_refl "Eval"
  rw [takePlot]
  refine (reads_takeRange unmistakable).bind (reads_take.bind (Reads.get_bind ?_))
  intro state place
  rw [given, free, place.isAt "Eval", isEval]
  refine Reads.ite_true rfl ((reads_takeEquation ?_ accepted).bind (Reads.pure _))
  intro other same
  obtain rfl := Option.some.inj same
  exact free

/-! ## Statistics -/

/-- The period of a statistic is the given one, or that of the settings. -/
theorem reads_takePeriod {period : Option Numeral} {standard : Int}
    (opens : OpensWith behindSource items) (short : ∀ number ∈ period, number.IsShort)
    (settled : HasStandardPeriod site.settings standard) :
    Reads (Source.periodItems period ++ items) memory (takePeriod site chart)
      ((period.map Numeral.value).getD standard) items memory := by
  rw [takePeriod]
  cases period with
  | none =>
    have noPeriod : sameWord (headText items) "Period" = false := opens.isFree (by decide)
    obtain ⟨value, number, found, whole, rfl⟩ := settled
    refine (reads_noKeyword noPeriod).bind (Reads.ite_false Bool.false_ne_true ?_)
    exact (Reads.ofExcept found).bind ((Reads.ofExcept whole).bind (Reads.pure _))
  | some number =>
    refine reads_takeKeyword.bind (Reads.ite_true rfl (reads_take.bind ?_))
    exact (reads_takeWhole? (short number rfl)).bind (Reads.pure _)

/-- What a statistic of a keyword, or of an equation in front of it, shows. -/
theorem reads_takeStatistic {period : Option Numeral} {standard : Int} {base : Series}
    (opens : OpensWith behindSource items) (short : ∀ number ∈ period, number.IsShort)
    (settled : HasStandardPeriod site.settings standard)
    (unmistakable : range = none → rangeOf? name.text = none)
    (given : (if (range.map RangeName.range).getD .recent = .daily then .all
      else (range.map RangeName.range).getD .recent) = among)
    (found : Reads (.keyword "SMA" :: (Source.periodItems period ++ items)) memory
      (statisticBase site chart among name.text) base
      (.keyword "SMA" :: (Source.periodItems period ++ items)) memory) :
    Reads ((range.map fun one => .keyword one.keyword).toList ++
        name.item :: .keyword "SMA" :: (Source.periodItems period ++ items)) memory
      (takeStatistic site chart)
      { base with
        isStatistic := true
        graphType := "sma"
        period := (period.map Numeral.value).getD standard } items memory := by
  have small : lower "SMA" = "sma" := by decide
  rw [takeStatistic]
  refine (reads_takeRange unmistakable).bind (reads_take.bind ?_)
  rw [given]
  refine found.bind (Reads.get_bind fun state place => ?_)
  have type : sameWord state.next "SMA" = true := place.next
  refine Reads.ite_true (hasCapitals_of_sameWord type) ?_
  rw [sameWord_iff.1 type, small]
  exact reads_skip.bind ((reads_takePeriod opens short settled).bind (Reads.pure _))

/-- The base of a statistic is found in the table of its range, or among the series in
front of it. -/
theorem reads_statisticBase_keyword {entry : Keyword}
    (found : site.tables.lookup? among name.text = some entry) :
    Reads items memory (statisticBase site chart among name.text)
      (ofKeyword { range := among } entry) items memory := by
  rw [statisticBase, found]
  exact Reads.pure _

theorem reads_statisticBase_equation {other : Series}
    (free : site.tables.lookup? among name.text = none)
    (found : SeriesDefinition.equationNamed? chart.series name.text = some other) :
    Reads items memory (statisticBase site chart among name.text)
      { range := among
        keyword := other.keyword
        field := other.field
        unit := other.unit
        datafile := other.datafile
        axes := other.axes
        axisId := other.axisId } items memory := by
  have same : equationSeries? chart name.text = some other := found
  rw [statisticBase, free, same]
  exact Reads.pure _

end

/-! ## Attributes -/

theorem attributeWords_apart :
    attributeWords.Pairwise fun first second => sameWord second first = false := by
  decide

section

variable {chart : Chart} {series : Series} {done : List Attribute}

/-- A way to draw the series is taken, unless the series is a statistic. -/
theorem reads_withGraphType {type : Word} (proper : (Attribute.drawnAs type).IsProper series) :
    Reads items memory (withGraphType chart (withAttributes series done) type.text)
      (withAttributes series (done ++ [.drawnAs type])) items memory := by
  rw [withGraphType]
  by_cases statistic : series.isStatistic = true
  · have same : withAttributes series (done ++ [.drawnAs type]) = withAttributes series done := by
      simp [withAttributes, statistic]
    rw [same]
    exact Reads.ite_true statistic ((reads_warn _).bind (Reads.pure _))
  · have known := proper (Bool.eq_false_iff.2 statistic)
    have changed : withAttributes series (done ++ [.drawnAs type]) =
        { withAttributes series done with graphType := lower type.text } := by
      simp [withAttributes, statistic]
    rw [changed]
    refine Reads.ite_false statistic (Reads.ite_false ?_ (Reads.ite_false ?_ (Reads.pure _)))
    · simpa using known.1
    · rw [Bool.and_eq_true, decide_eq_true_eq, Bool.not_eq_true']
      rintro ⟨columns, listed⟩
      have allowed := known.2 columns
      exact Bool.false_ne_true (listed.symm.trans allowed)

/-- An opacity is taken. -/
theorem reads_withOpacity {number : Word} (proper : (Attribute.opacity number).IsProper series) :
    Reads items memory (withOpacity chart (withAttributes series done) number.text)
      (withAttributes series (done ++ [.opacity number])) items memory := by
  obtain ⟨value, found⟩ := Option.isSome_iff_exists.1 proper
  have changed : withAttributes series (done ++ [.opacity number]) =
      { withAttributes series done with
        opacity := if value.isBelowZero || value.isAboveOne then .one else value } := by
    simp [withAttributes, found]
  rw [withOpacity, found, changed]
  exact Reads.pure _

/-- An axis is taken if the series is an equation. -/
theorem reads_withAxis {name : Word} (proper : (Attribute.axis name).IsProper series) :
    Reads items memory (withAxis chart (withAttributes series done) name.text)
      (withAttributes series (done ++ [.axis name])) items memory := by
  rw [withAxis]
  cases equation : series.equation with
  | none =>
    have same : withAttributes series (done ++ [.axis name]) = withAttributes series done := by
      simp [withAttributes, equation]
    have none : (withAttributes series done).equation.isNone = true := by
      rw [show (withAttributes series done).equation = series.equation from rfl, equation]
      rfl
    rw [same]
    exact Reads.ite_true none ((reads_warn _).bind (Reads.pure _))
  | some text =>
    obtain ⟨axis, found⟩ := Option.isSome_iff_exists.1 (proper (by rw [equation]; rfl))
    have changed : withAttributes series (done ++ [.axis name]) =
        { withAttributes series done with axes := axis.set, axisId := axis.name } := by
      simp [withAttributes, equation, found]
    have some : ¬ (withAttributes series done).equation.isNone = true := by
      rw [show (withAttributes series done).equation = series.equation from rfl, equation]
      exact Bool.false_ne_true
    rw [changed, found]
    exact Reads.ite_false some (Reads.pure _)

theorem reads_takeNumber {number : Numeral} {setting : String} (short : number.IsShort) :
    Reads (.word number.text :: items) memory (takeNumber chart series setting) number.value
      items memory :=
  reads_take.bind ((reads_takeWhole? short).bind (Reads.pure _))

/-- An attribute is taken behind the attributes `done`. -/
theorem reads_takeAttribute {one : Attribute} (proper : one.IsProper series) :
    Reads (one.items ++ items) memory (takeAttribute chart (withAttributes series done))
      (withAttributes series (done ++ [one])) items memory := by
  have apart := attributeWords_apart
  simp only [attributeWords, List.pairwise_cons, List.forall_mem_cons] at apart
  cases one with
  | invisible =>
    have changed : withAttributes series (done ++ [.invisible]) =
        { withAttributes series done with visible := false } := by
      simp [withAttributes]
    refine reads_take_bind fun word spelled => ?_
    simp only [spelled.sameWord, Item.text, sameWord_refl, if_true]
    rw [changed]
    exact Reads.pure _
  | drawnAs type =>
    refine reads_take_bind fun word spelled => ?_
    simp only [spelled.sameWord, Item.text, sameWord_refl, apart, Bool.false_eq_true, if_false,
      if_true]
    exact reads_take.bind (reads_withGraphType proper)
  | opacity number =>
    refine reads_take_bind fun word spelled => ?_
    simp only [spelled.sameWord, Item.text, sameWord_refl, apart, Bool.false_eq_true, if_false,
      if_true]
    exact reads_take.bind (reads_withOpacity proper)
  | colour name =>
    have changed : withAttributes series (done ++ [.colour name]) =
        { withAttributes series done with color := name.text } := by
      simp [withAttributes]
    refine reads_take_bind fun word spelled => ?_
    simp only [spelled.sameWord, Item.text, sameWord_refl, apart, Bool.false_eq_true, if_false,
      if_true]
    rw [changed]
    exact reads_take.bind (Reads.pure _)
  | zIndex number =>
    have changed : withAttributes series (done ++ [.zIndex number]) =
        { withAttributes series done with zIndex := number.value } := by
      simp [withAttributes]
    refine reads_take_bind fun word spelled => ?_
    simp only [spelled.sameWord, Item.text, sameWord_refl, apart, Bool.false_eq_true, if_false,
      if_true]
    rw [changed]
    exact (reads_takeNumber proper).bind (Reads.pure _)
  | lineWidth number =>
    have changed : withAttributes series (done ++ [.lineWidth number]) =
        { withAttributes series done with lineWidth := number.value } := by
      simp [withAttributes]
    refine reads_take_bind fun word spelled => ?_
    simp only [spelled.sameWord, Item.text, sameWord_refl, apart, Bool.false_eq_true, if_false,
      if_true]
    rw [changed]
    exact (reads_takeNumber proper).bind (Reads.pure _)
  | axis name =>
    refine reads_take_bind fun word spelled => ?_
    simp only [spelled.sameWord, Item.text, apart, Bool.false_eq_true, if_false]
    exact reads_take.bind (reads_withAxis proper)

/-- Every attribute begins with a keyword of its own. -/
theorem opensWith_attribute (one : Attribute) (more : List Item) :
    OpensWith attributeWords (one.items ++ more) := by
  cases one with
  | invisible => exact ⟨"InVisible", by simp [attributeWords], _, rfl⟩
  | drawnAs type => exact ⟨"As", by simp [attributeWords], _, rfl⟩
  | opacity number => exact ⟨"Opacity", by simp [attributeWords], _, rfl⟩
  | colour name => exact ⟨"Colour", by simp [attributeWords], _, rfl⟩
  | zIndex number => exact ⟨"zIndex", by simp [attributeWords], _, rfl⟩
  | lineWidth number => exact ⟨"LineWidth", by simp [attributeWords], _, rfl⟩
  | axis name => exact ⟨"Axis", by simp [attributeWords], _, rfl⟩

theorem withAttributes_nil (series : Series) : withAttributes series [] = series := by
  simp [withAttributes]

/-- All attributes of a series are taken. -/
theorem reads_takeAttributes {attributes : List Attribute} (opens : OpensWith behindSeries items)
    (proper : ∀ one ∈ attributes, one.IsProper series) :
    Reads (attributes.flatMap Attribute.items ++ items) memory (takeAttributes chart series)
      (withAttributes series attributes) items memory := by
  have one_by_one : ∀ done one rest, done ++ one :: rest = attributes →
      Reads (one.items ++ (rest.flatMap Attribute.items ++ items)) memory
        (takeAttribute chart (withAttributes series done)) (withAttributes series (done ++ [one]))
        (rest.flatMap Attribute.items ++ items) memory := by
    intro done one rest split
    have member : one ∈ attributes := by
      rw [← split]
      exact List.mem_append_right done List.mem_cons_self
    exact reads_takeAttribute (proper one member)
  have all := reads_repeatEach (withAttributes series) (fun _ => memory) attributes
    (fun _ one _ _ _ place => place.isAtAny_of_opens (opensWith_attribute one _) (List.Subset.refl _))
    one_by_one
    (fun one => ne_nil_of_opensWith (opensWith_attribute one))
    (fun _ place => place.not_isAtAny_of_opens opens (by decide))
  rw [withAttributes_nil] at all
  exact all

end

/-! ## Series of a chart -/

/-- What the readers of series rely on: the keywords of recent data do not look like
ranges, and there is a period for statistics that do not say theirs. -/
structure IsSettled (site : Site) (standard : Int) : Prop where
  recent : ∀ word, (site.tables.lookup? .recent word).isSome = true → rangeOf? word = none
  period : HasStandardPeriod site.settings standard

theorem isSettled_of_build {settings : Station.Settings} {site : Site} {standard : Int}
    (built : Site.build settings = .ok site) (period : HasStandardPeriod settings standard) :
    IsSettled site standard := by
  rw [Site.build] at built
  cases names : Site.externalSensors settings with
  | error fault =>
    rw [names] at built
    cases built
  | ok external =>
    rw [names] at built
    obtain rfl := Except.ok.inj built
    exact ⟨fun word => rangeOf?_of_lookup?, period⟩

section

variable {site : Site} {standard : Int} {chart : Chart} {series : SeriesDefinition}

theorem dataRange_of_plot (plot : ∀ period, series.source ≠ .average period) :
    (series.range.map RangeName.range).getD .recent = series.dataRange := by
  rw [SeriesDefinition.dataRange]
  cases series.range with
  | none => rfl
  | some range =>
    cases source : series.source with
    | average period => exact absurd source (plot period)
    | keyword => cases range <;> rfl
    | equation expression => cases range <;> rfl

theorem dataRange_of_average {period : Option Numeral} (average : series.source = .average period) :
    (if (series.range.map RangeName.range).getD .recent = .daily then .all
      else (series.range.map RangeName.range).getD .recent) = series.dataRange := by
  rw [SeriesDefinition.dataRange, average]
  cases series.range with
  | none => rfl
  | some range => cases range <;> rfl

/-- A name of a keyword does not look like a range that is left out. -/
theorem isUnmistakable_of_entry (settled : IsSettled site standard)
    (entry : (site.tables.lookup? series.dataRange series.name.text).isSome = true) :
    series.IsUnmistakable := by
  intro unranged
  have recent : series.dataRange = .recent := by
    rw [SeriesDefinition.dataRange, unranged]
  rw [recent] at entry
  exact settled.recent _ entry

/-- What a series shows is read, from its first keyword to its attributes. -/
theorem reads_plain (settled : IsSettled site standard) (opens : OpensWith behindSource items)
    (proper : series.SourceIsProper site memory.equations chart.series) :
    Reads (.keyword series.source.opening ::
        ((series.range.map fun one => .keyword one.keyword).toList ++
          (series.name.item :: (series.source.items ++ items)))) memory
      (do if ← takeKeyword "Stats" then takeStatistic site chart else do skip; takePlot site chart)
      (series.plain site memory.equations standard chart.series) items memory := by
  have noStats : ∀ rest, sameWord (headText (.keyword "Plot" :: rest)) "Stats" = false :=
    fun rest => show sameWord "Plot" "Stats" = false by decide
  rw [SeriesDefinition.SourceIsProper] at proper
  rw [SeriesDefinition.plain]
  cases source : series.source with
  | keyword =>
    rw [source] at proper
    have unmistakable := isUnmistakable_of_entry settled proper
    have given := dataRange_of_plot fun period => by rw [source]; exact Source.noConfusion
    obtain ⟨entry, found⟩ := Option.isSome_iff_exists.1 proper
    refine (reads_noKeyword (noStats _)).bind (Reads.ite_false Bool.false_ne_true ?_)
    refine reads_skip.bind ?_
    simp only [found, Option.map_some, Option.getD_some]
    exact reads_takePlot_keyword opens unmistakable given found
  | equation expression =>
    rw [source] at proper
    obtain ⟨free, unmistakable, text, accepted⟩ := proper
    have given := dataRange_of_plot fun period => by rw [source]; exact Source.noConfusion
    refine (reads_noKeyword (noStats _)).bind (Reads.ite_false Bool.false_ne_true ?_)
    refine reads_skip.bind ?_
    simp only [accepted, Except.toOption]
    exact reads_takePlot_equation unmistakable given free accepted
  | average period =>
    rw [source] at proper
    obtain ⟨base, short⟩ := proper
    have given := dataRange_of_average source
    refine reads_takeKeyword.bind (Reads.ite_true rfl ?_)
    cases found : site.tables.lookup? series.dataRange series.name.text with
    | some entry =>
      have unmistakable := isUnmistakable_of_entry settled (Option.isSome_of_eq_some found)
      exact reads_takeStatistic opens short settled.period unmistakable given
        (reads_statisticBase_keyword found)
    | none =>
      rw [found] at base
      obtain ⟨present, unmistakable⟩ := base.resolve_left Bool.false_ne_true
      obtain ⟨other, named⟩ := Option.isSome_iff_exists.1 present
      rw [named]
      exact reads_takeStatistic opens short settled.period unmistakable given
        (reads_statisticBase_equation found named)

end

end

end Meteogram.Definition
