import Meteogram.Proofs.Definition.Readers

/-!
# Charts that were read are consistent

Whatever the definitions say, a chart that was read plots something, its own
fields are those of its series taken together, and each series is of exactly one
of three kinds: it has the data of a keyword, it is computed by an equation, or
it is a statistic of data that the chart has. What holds of one series while its
chart is read is `Fits`; reading a series keeps it for all (`Consistent`), and the
checks after the last chart add what no single clause can see.
-/

set_option autoImplicit false

namespace Meteogram.Definition

open Reader Equation

/-! ## The kinds of series -/

/-- The keyword is an entry of the table of this range. -/
def IsEntry (tables : Tables) (range : DataRange) (keyword : Keyword) : Prop :=
  ∃ table, tables.ofRange? range = some table ∧ keyword ∈ table

/-- The series has the data of the keyword. A soil moisture axis is told apart by
its unit, unless that is the percentage or nothing. -/
structure HasDataOf (series : Series) (entry : Keyword) : Prop where
  keyword : series.keyword = entry.name
  field : series.field = entry.field
  unit : series.unit = entry.unit
  datafile : series.datafile = entry.datafile
  axes : series.axes = entry.axis.set
  axisId : series.axisId =
    if entry.axis = .soilMoisture ∧ entry.unit ≠ "" ∧ entry.unit ≠ "%" then
      "SoilMoisture" ++ entry.unit
    else entry.axis.name

/-- Two series have the same data. -/
structure SharesData (series other : Series) : Prop where
  keyword : series.keyword = other.keyword
  field : series.field = other.field
  unit : series.unit = other.unit
  datafile : series.datafile = other.datafile
  axes : series.axes = other.axes
  axisId : series.axisId = other.axisId

theorem HasDataOf.of_shares {series other : Series} {entry : Keyword}
    (data : HasDataOf other entry) (shares : SharesData series other) : HasDataOf series entry :=
  ⟨shares.keyword.trans data.keyword, shares.field.trans data.field, shares.unit.trans data.unit,
    shares.datafile.trans data.datafile, shares.axes.trans data.axes,
    shares.axisId.trans data.axisId⟩

theorem SharesData.of_shares {series other third : Series} (data : SharesData other third)
    (shares : SharesData series other) : SharesData series third :=
  ⟨shares.keyword.trans data.keyword, shares.field.trans data.field, shares.unit.trans data.unit,
    shares.datafile.trans data.datafile, shares.axes.trans data.axes,
    shares.axisId.trans data.axisId⟩

/-- The series is drawn on this axis. The identity of the axis depends on the unit for
soil moisture only. -/
structure IsOnAxis (series : Series) (axis : Axis) : Prop where
  axes : series.axes = axis.set
  axisId : series.axisId =
    if axis = .soilMoisture then soilMoistureAxisId series.unit else axis.name

theorem IsOnAxis.of_shares {series other : Series} {axis : Axis} (on : IsOnAxis other axis)
    (shares : SharesData series other) : IsOnAxis series axis :=
  ⟨shares.axes.trans on.axes, by rw [shares.axisId, shares.unit]; exact on.axisId⟩

/-- The identity of the axis of a keyword tells soil moisture apart by its unit, unless
that is the percentage or nothing. -/
theorem axisIdOf_eq (entry : Keyword) : axisIdOf entry =
    if entry.axis = .soilMoisture ∧ entry.unit ≠ "" ∧ entry.unit ≠ "%" then
      "SoilMoisture" ++ entry.unit
    else entry.axis.name := by
  rw [axisIdOf, soilMoistureAxisId]
  by_cases soil : entry.axis = .soilMoisture
  · rw [if_pos soil, soil]
    simp only [Bool.or_eq_true, decide_eq_true_eq]
    by_cases shared : entry.unit = "" ∨ entry.unit = Station.percent
    · rw [if_pos shared, if_neg]
      rintro ⟨_, notEmpty, notPercent⟩
      exact shared.elim notEmpty notPercent
    · rw [if_neg shared, if_pos ⟨trivial, not_or.1 shared⟩]
      rfl
  · rw [if_neg soil, if_neg fun soil' => soil soil'.1]

/-- A series with the data of a keyword is drawn on the axis of the keyword. -/
theorem HasDataOf.isOnAxis {series : Series} {entry : Keyword} (data : HasDataOf series entry) :
    IsOnAxis series entry.axis where
  axes := data.axes
  axisId := by
    rw [data.axisId, data.unit, ← axisIdOf_eq]
    rfl

/-- The kinds of series. -/
inductive SeriesKind where
  | table
  | equation
  | statistic

/-- What it means for a series behind the series `before` of its chart to be of a
kind. The definitions have these words. -/
def IsOfKind (tables : Tables) (words : List String) (before : List Series) (series : Series) :
    SeriesKind → Prop
  | .table =>
    series.equation = none ∧ series.isStatistic = false ∧
      ∃ keyword, IsEntry tables series.range keyword ∧ HasDataOf series keyword
  | .equation =>
    series.isStatistic = false ∧ series.datafile = "" ∧ series.field = "" ∧
      (∀ keyword, IsEntry tables series.range keyword →
        Text.sameWord keyword.name series.keyword = false) ∧
      ∃ equation, series.equation = some equation ∧
        ∀ defined, evaluate (.chart (spellingIn tables series.range) defined) equation =
          .ok equation
  | .statistic =>
    series.isStatistic = true ∧ series.equation = none ∧
      (∃ word ∈ words, Text.hasCapitals ['S', 'M', 'A'] word.toList = true ∧
        series.graphType = Text.lower word) ∧
      ((∃ keyword, IsEntry tables series.range keyword ∧ HasDataOf series keyword) ∨
        ∃ other ∈ before, other.equation.isSome = true ∧ SharesData series other)

/-- A series is of one kind at most. -/
theorem IsOfKind.unique {tables : Tables} {words : List String} {before : List Series}
    {series : Series} {first second : SeriesKind}
    (left : IsOfKind tables words before series first)
    (right : IsOfKind tables words before series second) : first = second := by
  cases first with
  | table =>
    obtain ⟨noEquation, plain, _⟩ := left
    cases second with
    | table => rfl
    | equation =>
      obtain ⟨_, _, _, _, equation, found, _⟩ := right
      rw [noEquation] at found
      cases found
    | statistic => exact absurd (plain.symm.trans right.1) Bool.false_ne_true
  | equation =>
    obtain ⟨plain, _, _, _, equation, found, _⟩ := left
    cases second with
    | table => rw [right.1] at found; cases found
    | equation => rfl
    | statistic => exact absurd (plain.symm.trans right.1) Bool.false_ne_true
  | statistic =>
    obtain ⟨statistic, _⟩ := left
    cases second with
    | table => exact absurd (right.2.1.symm.trans statistic) Bool.false_ne_true
    | equation => exact absurd (right.1.symm.trans statistic) Bool.false_ne_true
    | statistic => rfl

/-- What holds of a series behind the series `before` of its chart. -/
structure Fits (tables : Tables) (words : List String) (before : List Series)
    (series : Series) : Prop where
  listed : (tables.ofRange? series.range).isSome = true
  kind : ∃ kind, IsOfKind tables words before series kind
  onAxis : ∃ axis, IsOnAxis series axis
  columns : series.graphType = "columnrange" → series.isStatistic = false ∧
    columnRangeKeywords.any (Text.sameWord series.keyword) = true

theorem Fits.axis {tables : Tables} {words : List String} {before : List Series} {series : Series}
    (fits : Fits tables words before series) : ∃ axis : Axis, series.axes = axis.set := by
  obtain ⟨axis, on⟩ := fits.onAxis
  exact ⟨axis, on.axes⟩

/-- The fields of a chart are those of its series taken together. -/
structure Consistent (tables : Tables) (words : List String) (chart : Chart) : Prop where
  axes : chart.axes = .unionAll (chart.series.map Series.axes)
  range : ∀ last ∈ chart.series.getLast?, chart.range = last.range
  scatter : chart.hasScatter = true ↔ ∃ series ∈ chart.series, series.graphType = "scatter"
  each : ∀ before series after, chart.series = before ++ series :: after →
    Fits tables words before series

/-! ## Keywords -/

section

variable {tables : Tables} {range : DataRange}

theorem isEntry_of_lookup? {word : String} {keyword : Keyword}
    (found : tables.lookup? range word = some keyword) : IsEntry tables range keyword := by
  rw [Tables.lookup?] at found
  have member := List.mem_of_find?_eq_some found
  cases table : tables.ofRange? range with
  | none =>
    rw [table] at member
    cases member
  | some table' =>
    rw [table] at member
    exact ⟨table', table, member⟩

/-- A word that is no keyword of the range agrees with none of them. -/
theorem isKeyword_eq_false_iff {word : String} :
    tables.isKeyword range word = false ↔
      ∀ keyword, IsEntry tables range keyword → Text.sameWord keyword.name word = false := by
  rw [Tables.isKeyword, Tables.lookup?, Option.isSome_eq_false_iff, Option.isNone_iff_eq_none,
    List.find?_eq_none]
  constructor
  · rintro none keyword ⟨table, found, member⟩
    rw [found] at none
    exact Bool.eq_false_iff.2 (none keyword member)
  · intro different keyword member
    refine Bool.eq_false_iff.1 (different keyword ?_)
    cases table : tables.ofRange? range with
    | none => rw [table] at member; cases member
    | some table' => rw [table] at member; exact ⟨table', table, member⟩

theorem hasDataOf_ofKeyword (series : Series) (entry : Keyword) :
    HasDataOf (ofKeyword series entry) entry where
  keyword := rfl
  field := rfl
  unit := rfl
  datafile := rfl
  axes := rfl
  axisId := axisIdOf_eq entry

end

/-! ## The base of a series -/

/-- What holds of a series before its attributes are read. -/
structure IsBase (tables : Tables) (words : List String) (before : List Series)
    (series : Series) : Prop where
  listed : (tables.ofRange? series.range).isSome = true
  kind : ∃ kind, IsOfKind tables words before series kind
  onAxis : (∃ axis, IsOnAxis series axis) ∨ series.equation.isSome = true ∧ series.axes = ∅
  unitless : series.equation.isSome = true → series.unit = ""
  columns : series.graphType ≠ "columnrange"

section

variable {all : List String}

/-- A range that words name has a table. -/
theorem isSome_ofRange?_of_rangeOf? (tables : Tables) {word : String} {range : DataRange}
    (named : rangeOf? word = some range) : (tables.ofRange? range).isSome = true := by
  rw [rangeOf?] at named
  split_ifs at named <;> cases named <;> rfl

theorem gives_takeRange (tables : Tables) :
    Gives (Sound all) takeRange fun range => (tables.ofRange? range).isSome = true := by
  have given : ∀ {range : DataRange}, (tables.ofRange? range).isSome = true →
      Gives (Sound all) (Pure.pure range : Reader DataRange)
        fun range => (tables.ofRange? range).isSome = true :=
    fun listed => Gives.pure (Q := fun range => (tables.ofRange? range).isSome = true) listed
  refine Gives.get_bind fun state sound => ?_
  cases named : rangeOf? state.next with
  | none => exact given rfl state sound
  | some range =>
    have listed := isSome_ofRange?_of_rangeOf? tables named
    exact gives_skip.bind (fun _ _ => given listed) state sound

/-- The scope that an equation is evaluated in: that of a range, or that of the
block of definitions. -/
def scopeOf (tables : Tables) (range : Option DataRange) (defined : Definitions) : Scope :=
  match range with
  | none => .definitions
  | some range => .chart (spellingIn tables range) defined

/-- An equation that was taken is the value of some text, and its name is no
keyword of its range. -/
theorem gives_takeEquation (site : Site) (name : String) (range : Option DataRange) :
    Gives (Sound all) (takeEquation site name range) fun found =>
      ∀ equation, found = some equation →
        (range.map fun range => site.tables.isKeyword range name).getD false = false ∧
        ∃ defined text, (∀ entry ∈ defined, Accepted entry.2) ∧
          evaluate (scopeOf site.tables range defined) text = .ok equation := by
  have nothing : ∀ message, Gives (Sound all)
      (complain message >>= fun _ => Pure.pure none : Reader (Option String)) fun found =>
      ∀ equation, found = some equation →
        (range.map fun range => site.tables.isKeyword range name).getD false = false ∧
        ∃ defined text, (∀ entry ∈ defined, Accepted entry.2) ∧
          evaluate (scopeOf site.tables range defined) text = .ok equation :=
    fun message => (gives_complain message).bind fun _ _ => Gives.pure fun _ found => by cases found
  rw [takeEquation]
  refine (gives_takeKeyword "Eval").bind fun evaluates _ => ?_
  refine Gives.ite (fun _ => nothing _) fun _ => ?_
  refine Gives.ite (fun _ => nothing _) fun noKeyword => ?_
  refine gives_take.bind fun opening _ => ?_
  refine Gives.ite (fun _ => nothing _) fun _ => ?_
  refine (gives_takeUntil _).bind fun text _ => ?_
  refine gives_take.bind fun _ _ => ?_
  refine Gives.get_bind fun state sound => ?_
  dsimp only
  split
  · next equation evaluated =>
    refine Gives.pure ?_ state sound
    intro found same
    obtain rfl := Option.some.inj same
    exact ⟨Bool.eq_false_iff.2 noKeyword, _, _, sound.accepted, evaluated⟩
  · exact nothing _ state sound

/-- What follows the word `Plot` is a keyword or an equation. -/
theorem gives_takePlot (site : Site) (chart : Chart) (before : List Series) :
    Gives (Sound all) (takePlot site chart) (IsBase site.tables all before) := by
  rw [takePlot]
  refine (gives_takeRange site.tables).bind fun range listed => ?_
  refine gives_take.bind fun word _ => ?_
  refine Gives.get_bind fun state sound => ?_
  by_cases evaluates : state.isAt "Eval" = true
  · rw [if_pos evaluates]
    refine ((gives_takeEquation site _ (some range)).bind fun found holds => ?_) state sound
    cases found with
    | none => exact Gives.refuse _
    | some equation =>
      obtain ⟨noKeyword, defined, text, accepted, evaluated⟩ := holds equation rfl
      rw [Option.map_some, Option.getD_some] at noKeyword
      have different := isKeyword_eq_false_iff.1 noKeyword
      cases found : site.tables.lookup? range word with
      | some entry =>
        have entry' := isEntry_of_lookup? found
        have same := different entry entry'
        rw [found] at same
        exact absurd (same.symm.trans (Text.sameWord_refl entry.name)) Bool.false_ne_true
      | none =>
        rw [found] at different
        have itself := evaluate_again (isSpelling_spellingIn site.tables range) accepted evaluated
        refine Gives.pure ⟨listed, ⟨.equation, rfl, rfl, rfl, different, equation, rfl, itself⟩,
          .inr ⟨rfl, rfl⟩, fun _ => rfl, ?_⟩
        change "spline" ≠ "columnrange"
        decide
  · rw [if_neg evaluates]
    cases found : site.tables.lookup? range word with
    | none => exact Gives.refuse _ state sound
    | some entry =>
      have data := hasDataOf_ofKeyword { range } entry
      refine Gives.pure ⟨listed, ⟨.table, rfl, rfl, entry, isEntry_of_lookup? found, data⟩,
        .inl ⟨_, data.isOnAxis⟩, fun computed => ?_, ?_⟩ state sound
      · cases computed
      change "spline" ≠ "columnrange"
      decide

/-- A word with the capital form SMA has three characters in lower case, too. -/
theorem length_lower_of_hasCapitals {word : String}
    (capitals : Text.hasCapitals ['S', 'M', 'A'] word.toList = true) :
    (Text.lower word).toList.length = 3 := by
  have undotted : ∀ {capital c : Char}, capital = 'S' ∨ capital = 'M' ∨ capital = 'A' →
      Text.hasCapital capital c = true → c.toNat ≠ 0x130 := by
    intro capital c member capitalOf dotted
    obtain rfl : c = Char.ofNat 0x130 := by rw [← dotted, Char.ofNat_toNat]
    rcases member with rfl | rfl | rfl <;> exact absurd capitalOf (by decide)
  rw [Text.lower, String.toList_ofList]
  generalize word.toList = cs at capitals
  obtain _ | ⟨isS, _ | ⟨isM, _ | ⟨isA, _ | _⟩⟩⟩ := Text.hasCapitals_iff.1 capitals
  rw [Text.length_lowerFrom]
  · rfl
  · simp only [List.forall_mem_cons]
    exact ⟨undotted (.inl rfl) isS, undotted (.inr (.inl rfl)) isM,
      undotted (.inr (.inr rfl)) isA, fun _ member => absurd member List.not_mem_nil⟩

theorem lower_ne_of_hasCapitals {word : String}
    (capitals : Text.hasCapitals ['S', 'M', 'A'] word.toList = true) :
    Text.lower word ≠ "columnrange" := by
  intro same
  have length := length_lower_of_hasCapitals capitals
  rw [same] at length
  exact absurd length (by decide)

/-- What a statistic is made of is a keyword, or an equation of the chart. -/
theorem gives_statisticBase (site : Site) (chart : Chart) (range : DataRange) (word : String) :
    Gives (Sound all) (statisticBase site chart range word) fun base =>
      base.equation = none ∧ base.range = range ∧
        ((∃ entry, IsEntry site.tables range entry ∧ HasDataOf base entry) ∨
          ∃ other ∈ chart.series, other.equation.isSome = true ∧ SharesData base other) := by
  rw [statisticBase]
  cases found : site.tables.lookup? range word with
  | some entry =>
    exact Gives.pure ⟨rfl, rfl, .inl ⟨entry, isEntry_of_lookup? found, hasDataOf_ofKeyword _ entry⟩⟩
  | none =>
    cases other : equationSeries? chart word with
    | none => exact Gives.refuse _
    | some other' =>
      rw [equationSeries?] at other
      have member := List.mem_of_find?_eq_some other
      have holds := List.find?_some other
      have computed := (Bool.and_eq_true_iff.1 holds).1
      exact Gives.pure ⟨rfl, rfl, .inr ⟨other', member, computed, rfl, rfl, rfl, rfl, rfl, rfl⟩⟩

theorem gives_takePeriod (site : Site) (chart : Chart) :
    Gives (Sound all) (takePeriod site chart) fun _ => True := by
  rw [takePeriod]
  refine (gives_takeKeyword "Period").bind fun given _ => ?_
  refine Gives.ite (fun _ => ?_) fun _ => ?_
  · refine gives_take.bind fun word _ => ?_
    refine (gives_takeWhole? word).bind fun number _ => ?_
    cases number with
    | none => exact Gives.refuse _
    | some period => exact Gives.pure trivial
  · refine (Gives.ofExcept (Q := fun _ => True) fun _ _ => trivial).bind fun value _ => ?_
    refine (Gives.ofExcept (Q := fun _ => True) fun _ _ => trivial).bind fun number _ => ?_
    cases number with
    | none => exact Gives.pure trivial
    | some period => exact Gives.pure trivial

/-- What follows the word `Stats` is a statistic. -/
theorem gives_takeStatistic (site : Site) (chart : Chart)
    (axes : ∀ series ∈ chart.series, ∃ axis, IsOnAxis series axis) :
    Gives (Sound all) (takeStatistic site chart) (IsBase site.tables all chart.series) := by
  rw [takeStatistic]
  refine (gives_takeRange site.tables).bind fun range listed => ?_
  refine gives_take.bind fun word _ => ?_
  refine (gives_statisticBase site chart _ word).bind fun base holds => ?_
  obtain ⟨noEquation, sameRange, data⟩ := holds
  have listed' : (site.tables.ofRange? base.range).isSome = true := by
    rw [sameRange]
    split_ifs
    · rfl
    · exact listed
  refine Gives.get_bind fun state sound => ?_
  by_cases capitals : Text.hasCapitals ['S', 'M', 'A'] state.next.toList = true
  · rw [if_pos capitals]
    rw [← sameRange] at data
    refine (gives_skip.bind fun _ _ => (gives_takePeriod site chart).bind fun period _ =>
      Gives.pure ?_) state sound
    have written : state.next ≠ "" := by
      intro empty
      rw [empty] at capitals
      cases capitals
    have computes : base.equation.isSome = true → base.unit = "" := by
      rw [noEquation]
      exact fun computed => by cases computed
    refine ⟨listed', ⟨.statistic, rfl, noEquation, ⟨_, sound.next written, capitals, rfl⟩, ?_⟩, ?_,
      computes, lower_ne_of_hasCapitals capitals⟩
    · rcases data with ⟨entry, isEntry, data⟩ | ⟨other, member, computed, shares⟩
      · exact .inl ⟨entry, isEntry, data.of_shares ⟨rfl, rfl, rfl, rfl, rfl, rfl⟩⟩
      · exact .inr ⟨other, member, computed, shares.of_shares ⟨rfl, rfl, rfl, rfl, rfl, rfl⟩⟩
    · rcases data with ⟨entry, _, data⟩ | ⟨other, member, _, shares⟩
      · exact .inl ⟨entry.axis, data.isOnAxis.of_shares ⟨rfl, rfl, rfl, rfl, rfl, rfl⟩⟩
      · obtain ⟨axis, on⟩ := axes other member
        exact .inl ⟨axis, on.of_shares (shares.of_shares ⟨rfl, rfl, rfl, rfl, rfl, rfl⟩)⟩
  · rw [if_neg capitals]
    exact Gives.refuse _ state sound

/-! ## Attributes -/

/-- What attributes leave as it is, and what they may change. -/
structure Dressed (plain series : Series) : Prop where
  keyword : series.keyword = plain.keyword
  field : series.field = plain.field
  unit : series.unit = plain.unit
  datafile : series.datafile = plain.datafile
  equation : series.equation = plain.equation
  isStatistic : series.isStatistic = plain.isStatistic
  range : series.range = plain.range
  /-- Only an equation can choose another axis. -/
  axis : (series.axes = plain.axes ∧ series.axisId = plain.axisId) ∨
    plain.equation.isSome = true ∧ ∃ axis : Axis, series.axes = axis.set ∧ series.axisId = axis.name
  /-- Only what is no statistic can be drawn in another way, and only some keywords
  as ranges of columns. -/
  graphType : series.graphType = plain.graphType ∨ plain.isStatistic = false ∧
    (series.graphType = "columnrange" →
      columnRangeKeywords.any (Text.sameWord series.keyword) = true)

theorem Dressed.refl (series : Series) : Dressed series series :=
  ⟨rfl, rfl, rfl, rfl, rfl, rfl, rfl, .inl ⟨rfl, rfl⟩, .inl rfl⟩

theorem Dressed.trans {plain between series : Series} (first : Dressed plain between)
    (second : Dressed between series) : Dressed plain series where
  keyword := second.keyword.trans first.keyword
  field := second.field.trans first.field
  unit := second.unit.trans first.unit
  datafile := second.datafile.trans first.datafile
  equation := second.equation.trans first.equation
  isStatistic := second.isStatistic.trans first.isStatistic
  range := second.range.trans first.range
  axis := by
    rcases second.axis with ⟨axes, axisId⟩ | ⟨computed, chosen⟩
    · rcases first.axis with ⟨axes', axisId'⟩ | ⟨computed, axis, chosen⟩
      · exact .inl ⟨axes.trans axes', axisId.trans axisId'⟩
      · exact .inr ⟨computed, axis, axes.trans chosen.1, axisId.trans chosen.2⟩
    · exact .inr ⟨first.equation ▸ computed, chosen⟩
  graphType := by
    rcases second.graphType with same | ⟨plain, columns⟩
    · rcases first.graphType with same' | ⟨plain, columns⟩
      · exact .inl (same.trans same')
      · refine .inr ⟨plain, fun drawn => ?_⟩
        rw [second.keyword]
        exact columns (same ▸ drawn)
    · exact .inr ⟨first.isStatistic ▸ plain, columns⟩

theorem gives_withGraphType (chart : Chart) (series : Series) (word : String) :
    Gives (Sound all) (withGraphType chart series word) (Dressed series) := by
  rw [withGraphType]
  refine Gives.ite (fun _ => ?_) fun plain => ?_
  · exact (gives_warn _).bind fun _ _ => Gives.pure (.refl series)
  · refine Gives.ite (fun _ => Gives.refuse _) fun _ => ?_
    refine Gives.ite (fun _ => Gives.refuse _) fun fits => Gives.pure ?_
    refine { Dressed.refl series with graphType := .inr ⟨Bool.eq_false_iff.2 plain, ?_⟩ }
    intro drawn
    rw [Bool.and_eq_true, not_and, Bool.not_eq_true', Bool.not_eq_false] at fits
    exact fits (decide_eq_true drawn)

theorem gives_withOpacity (chart : Chart) (series : Series) (word : String) :
    Gives (Sound all) (withOpacity chart series word) (Dressed series) := by
  rw [withOpacity]
  cases Number.Binary64.read? word with
  | none => exact Gives.refuse _
  | some opacity => exact Gives.pure { Dressed.refl series with }

theorem gives_withAxis (chart : Chart) (series : Series) (word : String) :
    Gives (Sound all) (withAxis chart series word) (Dressed series) := by
  rw [withAxis]
  refine Gives.ite (fun _ => ?_) fun computed => ?_
  · exact (gives_warn _).bind fun _ _ => Gives.pure (.refl series)
  · rw [Bool.not_eq_true, Option.isNone_eq_false_iff] at computed
    cases Axis.ofKeyword? word with
    | none => exact Gives.refuse _
    | some axis =>
      exact Gives.pure { Dressed.refl series with axis := .inr ⟨computed, axis, rfl, rfl⟩ }

theorem gives_takeNumber (chart : Chart) (series : Series) (setting : String) :
    Gives (Sound all) (takeNumber chart series setting) fun _ => True := by
  rw [takeNumber]
  refine gives_take.bind fun word _ => ?_
  refine (gives_takeWhole? word).bind fun number _ => ?_
  cases number with
  | none => exact Gives.refuse _
  | some period => exact Gives.pure trivial

theorem gives_takeAttribute (chart : Chart) (series : Series) :
    Gives (Sound all) (takeAttribute chart series) (Dressed series) := by
  rw [takeAttribute]
  refine gives_take.bind fun word _ => ?_
  refine Gives.ite (fun _ => Gives.pure { Dressed.refl series with }) fun _ => ?_
  refine Gives.ite (fun _ => gives_take.bind fun type _ => gives_withGraphType _ _ type) fun _ => ?_
  refine Gives.ite (fun _ => gives_take.bind fun number _ => gives_withOpacity _ _ number)
    fun _ => ?_
  refine Gives.ite (fun _ => gives_take.bind fun _ _ =>
    Gives.pure { Dressed.refl series with }) fun _ => ?_
  refine Gives.ite (fun _ => (gives_takeNumber _ _ _).bind fun _ _ =>
    Gives.pure { Dressed.refl series with }) fun _ => ?_
  refine Gives.ite (fun _ => (gives_takeNumber _ _ _).bind fun _ _ =>
    Gives.pure { Dressed.refl series with }) fun _ => ?_
  exact gives_take.bind fun axis _ => gives_withAxis _ _ axis

theorem gives_takeAttributes (chart : Chart) (series : Series) :
    Gives (Sound all) (takeAttributes chart series) (Dressed series) :=
  gives_repeatWhile (fun between dressed => (gives_takeAttribute chart between).weaken
    fun _ further => dressed.trans further) (.refl series)

/-- Attributes do not change the kind of a series. -/
theorem Dressed.isOfKind {tables : Tables} {words : List String} {before : List Series}
    {plain series : Series} (dressed : Dressed plain series) {kind : SeriesKind}
    (isOfKind : IsOfKind tables words before plain kind) :
    IsOfKind tables words before series kind := by
  have shares : plain.equation = none → SharesData series plain := by
    intro noEquation
    rcases dressed.axis with ⟨axes, axisId⟩ | ⟨computed, _⟩
    · exact ⟨dressed.keyword, dressed.field, dressed.unit, dressed.datafile, axes, axisId⟩
    · rw [noEquation] at computed
      cases computed
  cases kind with
  | table =>
    obtain ⟨noEquation, isPlain, entry, isEntry, data⟩ := isOfKind
    exact ⟨dressed.equation.trans noEquation, dressed.isStatistic.trans isPlain, entry,
      dressed.range ▸ isEntry, data.of_shares (shares noEquation)⟩
  | equation =>
    obtain ⟨isPlain, noFile, noField, different, equation, found, itself⟩ := isOfKind
    refine ⟨dressed.isStatistic.trans isPlain, dressed.datafile.trans noFile,
      dressed.field.trans noField, ?_, equation, dressed.equation.trans found, ?_⟩
    · rw [dressed.range, dressed.keyword]
      exact different
    · rw [dressed.range]
      exact itself
  | statistic =>
    obtain ⟨statistic, noEquation, ⟨word, written, capitals, drawn⟩, data⟩ := isOfKind
    refine ⟨dressed.isStatistic.trans statistic, dressed.equation.trans noEquation,
      ⟨word, written, capitals, ?_⟩, ?_⟩
    · rcases dressed.graphType with same | ⟨isPlain, _⟩
      · exact same.trans drawn
      · exact absurd (isPlain.symm.trans statistic) Bool.false_ne_true
    · rcases data with ⟨entry, isEntry, data⟩ | ⟨other, member, computed, shares'⟩
      · exact .inl ⟨entry, dressed.range ▸ isEntry, data.of_shares (shares noEquation)⟩
      · exact .inr ⟨other, member, computed, shares'.of_shares (shares noEquation)⟩

/-- Behind its attributes a series fits into its chart, on the free axis if it has
no other. -/
theorem gives_withStandardAxis (tables : Tables) (chart : Chart) {before : List Series}
    {plain series : Series} (base : IsBase tables all before plain)
    (dressed : Dressed plain series) :
    Gives (Sound all) (withStandardAxis chart series) (Fits tables all before) := by
  obtain ⟨kind, isOfKind⟩ := base.kind
  have columns : series.graphType = "columnrange" → series.isStatistic = false ∧
      columnRangeKeywords.any (Text.sameWord series.keyword) = true := by
    intro drawn
    rcases dressed.graphType with same | ⟨isPlain, columns⟩
    · exact absurd (same.symm.trans drawn) base.columns
    · exact ⟨dressed.isStatistic.trans isPlain, columns drawn⟩
  have listed : (tables.ofRange? series.range).isSome = true := dressed.range ▸ base.listed
  have chooses : series.equation.isSome = true → ∀ axis : Axis, series.axisId = axis.name →
      series.axisId = if axis = .soilMoisture then soilMoistureAxisId series.unit else axis.name := by
    intro computed axis named
    rw [dressed.unit, base.unitless (dressed.equation ▸ computed), named]
    split_ifs with soil
    · rw [soil]
      rfl
    · rfl
  rw [withStandardAxis]
  refine Gives.ite (fun free => ?_) fun notFree => Gives.pure ?_
  · rw [Bool.and_eq_true] at free
    refine (gives_warn _).bind fun _ _ => Gives.pure
      ⟨listed, ⟨kind, ?_⟩, ⟨.free, rfl, rfl⟩, columns⟩
    refine Dressed.isOfKind (dressed.trans ?_) isOfKind
    exact { Dressed.refl series with axis := .inr ⟨free.1, .free, rfl, rfl⟩ }
  · refine ⟨listed, ⟨kind, dressed.isOfKind isOfKind⟩, ?_, columns⟩
    rw [Bool.and_eq_true, not_and, decide_eq_true_eq] at notFree
    rcases dressed.axis with ⟨axes, axisId⟩ | ⟨computed, axis, axes, axisId⟩
    · rcases base.onAxis with ⟨axis, on⟩ | ⟨computed, none⟩
      · exact ⟨axis, axes.trans on.axes, by rw [axisId, dressed.unit]; exact on.axisId⟩
      · exact absurd (axes.trans none) (notFree (dressed.equation ▸ computed))
    · exact ⟨axis, axes, chooses (dressed.equation ▸ computed) axis axisId⟩

/-! ## Charts -/

section

variable {tables : Tables}

/-- Two charts plot the same. -/
structure SamePlots (chart other : Chart) : Prop where
  axes : other.axes = chart.axes
  range : other.range = chart.range
  hasScatter : other.hasScatter = chart.hasScatter
  series : other.series = chart.series

theorem SamePlots.refl (chart : Chart) : SamePlots chart chart := ⟨rfl, rfl, rfl, rfl⟩

theorem SamePlots.trans {first second third : Chart} (left : SamePlots first second)
    (right : SamePlots second third) : SamePlots first third :=
  ⟨right.axes.trans left.axes, right.range.trans left.range,
    right.hasScatter.trans left.hasScatter, right.series.trans left.series⟩

/-- A chart that plots something, with the fields of its series taken
together. -/
structure IsPlotted (tables : Tables) (words : List String) (chart : Chart) : Prop where
  consistent : Consistent tables words chart
  nonempty : chart.series ≠ []

theorem Consistent.same {words : List String} {chart other : Chart}
    (consistent : Consistent tables words chart) (same : SamePlots chart other) :
    Consistent tables words other where
  axes := by rw [same.axes, same.series]; exact consistent.axes
  range := by rw [same.range, same.series]; exact consistent.range
  scatter := by rw [same.hasScatter, same.series]; exact consistent.scatter
  each := by rw [same.series]; exact consistent.each

theorem consistent_empty (id title : String) : Consistent tables all { id, title } where
  axes := rfl
  range := fun _ member => by cases member
  scatter := by
    refine iff_of_false Bool.false_ne_true ?_
    rintro ⟨_, member, _⟩
    exact absurd member List.not_mem_nil
  each := fun before _ _ split => by simp at split

/-- Adding a series that fits keeps a chart consistent. -/
theorem Consistent.add {chart : Chart} (consistent : Consistent tables all chart)
    {series : Series} (fits : Fits tables all chart.series series) :
    Consistent tables all { chart with
      range := series.range
      hasScatter := chart.hasScatter || series.graphType = "scatter"
      axes := chart.axes ∪ series.axes
      series := chart.series ++ [series] } where
  axes := by
    change chart.axes ∪ series.axes = _
    rw [consistent.axes, AxisSet.unionAll, AxisSet.unionAll, List.map_append, List.foldl_append]
    rfl
  range := by
    intro last member
    rw [List.getLast?_concat] at member
    rw [Option.mem_some.1 member]
  scatter := by
    change (chart.hasScatter || decide (series.graphType = "scatter")) = true ↔ _
    rw [Bool.or_eq_true, consistent.scatter, decide_eq_true_eq]
    simp only [List.mem_append, List.mem_singleton, or_and_right, exists_or, exists_eq_left]
  each := by
    intro before other after split
    rcases List.eq_nil_or_concat after with rfl | ⟨after, last, rfl⟩
    · obtain ⟨rfl, same⟩ := List.append_inj' split rfl
      obtain rfl := List.head_eq_of_cons_eq same
      exact fits
    · rw [List.concat_eq_append, ← List.cons_append, ← List.append_assoc] at split
      obtain ⟨split, _⟩ := List.append_inj' split rfl
      exact consistent.each before other after split

/-- Each series of a consistent chart is drawn on an axis. -/
theorem Consistent.onAxis {words : List String} {chart : Chart}
    (consistent : Consistent tables words chart) :
    ∀ series ∈ chart.series, ∃ axis, IsOnAxis series axis := by
  intro series member
  obtain ⟨before, after, split⟩ := List.append_of_mem member
  exact (consistent.each before series after split).onAxis

theorem gives_takeSeries (site : Site) {chart : Chart}
    (consistent : Consistent site.tables all chart) :
    Gives (Sound all) (takeSeries site chart) (IsPlotted site.tables all) := by
  have dress : ∀ plain, IsBase site.tables all chart.series plain →
      Gives (Sound all) (takeAttributes chart plain >>= fun dressed =>
        withStandardAxis chart dressed >>= fun series => Pure.pure { chart with
          range := series.range
          hasScatter := chart.hasScatter || series.graphType = "scatter"
          axes := chart.axes ∪ series.axes
          series := chart.series ++ [series] }) (IsPlotted site.tables all) := by
    intro plain base
    refine (gives_takeAttributes chart plain).bind fun dressed isDressed => ?_
    refine (gives_withStandardAxis site.tables chart base isDressed).bind fun series fits => ?_
    exact Gives.pure ⟨consistent.add fits, List.append_ne_nil_of_right_ne_nil _
      (List.cons_ne_nil _ _)⟩
  rw [takeSeries]
  refine (gives_takeKeyword "Stats").bind fun statistic _ => ?_
  refine Gives.ite (fun _ => ?_) fun _ => ?_
  · exact (gives_takeStatistic site chart consistent.onAxis).bind dress
  · exact gives_skip.bind fun _ _ => (gives_takePlot site chart chart.series).bind dress

theorem gives_connect (chart : Chart) (firstOutput : Bool) (panel : Int) :
    Gives (Sound all) (connect chart firstOutput panel) (SamePlots chart) := by
  rw [connect]
  refine Gives.ite (fun _ => ?_) fun _ => ?_
  · exact (gives_warn _).bind fun _ _ => Gives.pure (.refl chart)
  · refine Gives.ite (fun _ => ?_) fun _ => ?_
    · exact (gives_warn _).bind fun _ _ => Gives.pure (.refl chart)
    · exact (Gives.modify fun _ sound => ⟨sound.left, sound.accepted⟩).bind fun _ _ =>
        Gives.pure ⟨rfl, rfl, rfl, rfl⟩

theorem gives_takePanels (chart : Chart) (firstOutput : Bool) :
    Gives (Sound all) (takePanels chart firstOutput) (SamePlots chart) := by
  refine gives_repeatWhile (fun between same => ?_) (.refl chart)
  refine gives_take.bind fun word _ => ?_
  cases Number.readInt? word with
  | none => exact Gives.throw _
  | some panel =>
    exact (gives_connect between firstOutput panel).weaken fun _ further => same.trans further

theorem gives_takeZoom (chart : Chart) : Gives (Sound all) (takeZoom chart) (SamePlots chart) := by
  rw [takeZoom]
  refine gives_take.bind fun word _ => (gives_takeWhole? word).bind fun number _ => ?_
  cases number with
  | none => exact (gives_complain _).bind fun _ _ => Gives.pure (.refl chart)
  | some zoom => exact Gives.pure ⟨rfl, rfl, rfl, rfl⟩

theorem gives_takeWindBarbs (chart : Chart) :
    Gives (Sound all) (takeWindBarbs chart) (SamePlots chart) := by
  have side : Gives (Sound all) (takeBarbsBelow chart) fun _ => True := by
    refine (gives_takeKeyword "Above").bind fun _ _ => ?_
    refine Gives.ite (fun _ => Gives.pure trivial) fun _ => ?_
    refine (gives_takeKeyword "Below").bind fun _ _ => ?_
    exact Gives.ite (fun _ => Gives.pure trivial) fun _ => Gives.refuse _
  rw [takeWindBarbs]
  refine (gives_takeKeyword "WindBarbs").bind fun _ _ => Gives.guard fun _ => ?_
  refine side.bind fun below _ => (gives_takeKeyword "Colour").bind fun _ _ => ?_
  refine Gives.ite (fun _ => ?_) fun _ => Gives.pure ⟨rfl, rfl, rfl, rfl⟩
  exact gives_take.bind fun _ _ => Gives.pure ⟨rfl, rfl, rfl, rfl⟩

theorem gives_takeClause (firstOutput : Bool) (chart : Chart) :
    Gives (Sound all) (takeClause firstOutput chart) (SamePlots chart) := by
  rw [takeClause]
  refine (gives_takeKeyword "ConnectsTo").bind fun _ _ => ?_
  refine Gives.ite (fun _ => gives_takePanels chart firstOutput) fun _ => ?_
  refine (gives_takeKeyword "Zoom").bind fun _ _ => ?_
  refine Gives.ite (fun _ => gives_takeZoom chart) fun _ => ?_
  exact gives_skip.bind fun _ _ => gives_takeWindBarbs chart

theorem gives_takeTitle : Gives (Sound all) takeTitle fun _ => True := by
  rw [takeTitle]
  exact gives_take.bind fun _ _ => (gives_takeUntil _).bind fun _ _ => Gives.pure trivial

/-- The loop over the series takes one at least, as it starts in front of one. -/
theorem gives_takeSeries_loop (site : Site) {chart : Chart}
    (consistent : Consistent site.tables all chart) {state : State} (sound : Sound all state)
    (starts : state.isAtAny ["Plot", "Stats"] = true) :
    GivesFrom (Sound all) state
      (repeatWhile (State.isAtAny · ["Plot", "Stats"]) (takeSeries site) chart)
      (IsPlotted site.tables all) := by
  have each : ∀ between, IsPlotted site.tables all between →
      Gives (Sound all) (takeSeries site between) (IsPlotted site.tables all) :=
    fun between plotted => gives_takeSeries site plotted.consistent
  rw [repeatWhile]
  refine GivesFrom.get_bind ?_
  rw [repeatUpTo]
  refine GivesFrom.get_bind ?_
  rw [if_pos starts]
  exact (gives_takeSeries site consistent).bind
    (fun between plotted => gives_repeatUpTo each state.rest.length plotted) state sound

/-- A chart that was read plots something and is consistent. -/
theorem gives_takeChart (site : Site) (others : List Chart) (firstOutput : Bool) :
    Gives (Sound all) (takeChart site others firstOutput) (IsPlotted site.tables all) := by
  rw [takeChart]
  refine (gives_takeKeyword "Chart").bind fun _ _ => ?_
  refine Gives.ite (fun _ => Gives.get_bind fun state sound => Gives.refuse_bind _ state sound)
    fun _ => ?_
  refine gives_take.bind fun id _ => Gives.guard fun _ => ?_
  refine (gives_takeKeyword "Title").bind fun _ _ => Gives.guard fun _ => ?_
  refine gives_takeTitle.bind fun title _ => ?_
  have clauses : Gives (Sound all) (repeatWhile (State.isAtAny · ["ConnectsTo", "Zoom", "Has"])
      (takeClause firstOutput) { id, title }) (SamePlots { id, title }) :=
    gives_repeatWhile (fun between same => (gives_takeClause firstOutput between).weaken
      fun _ further => same.trans further) (.refl _)
  refine clauses.bind fun chart same => ?_
  have empty : Consistent site.tables all { id, title } := consistent_empty id title
  have consistent := empty.same same
  refine Gives.get_bind fun state sound => ?_
  by_cases starts : state.isAtAny ["Plot", "Stats"] = true
  · rw [if_neg (by rw [starts]; decide)]
    refine (gives_takeSeries_loop site consistent sound starts).bind fun chart plotted => ?_
    refine (gives_takeKeyword "EndChart").bind fun _ _ => ?_
    exact Gives.ite (fun _ => Gives.get_bind fun state sound => Gives.refuse_bind _ state sound)
      fun _ => Gives.pure plotted
  · rw [if_pos (by rw [Bool.not_eq_true] at starts; rw [starts]; decide)]
    exact Gives.refuse_bind _ state sound

theorem gives_takeInfo (chart : Chart) : Gives (Sound all) (takeInfo chart) (SamePlots chart) := by
  rw [takeInfo]
  refine Gives.guard fun _ => gives_take.bind fun _ _ => Gives.guard fun _ => ?_
  refine (gives_takeUntil _).bind fun words _ => Gives.get_bind fun state sound => ?_
  refine Gives.guard (fun _ => ?_) state sound
  exact gives_skip.bind fun _ _ => Gives.pure ⟨rfl, rfl, rfl, rfl⟩

/-! ## Outputs -/

/-- All charts so far are plotted. -/
def ArePlotted (tables : Tables) (words : List String) (progress : Progress) : Prop :=
  ∀ chart ∈ progress.charts, IsPlotted tables words chart

theorem charts_begin (progress : Progress) (filename : String) :
    (progress.begin filename).charts = progress.charts := by
  simp only [Progress.charts, Progress.begin, List.flatMap_append, List.flatMap_singleton,
    List.append_nil]

theorem charts_add (progress : Progress) (chart : Chart) :
    (progress.add chart).charts = progress.charts ++ [chart] := by
  simp only [Progress.charts, Progress.add, List.append_assoc]

theorem flatMap_charts_outputs (progress : Progress) :
    progress.outputs.flatMap Output.charts = progress.charts := by
  simp only [Progress.outputs, Progress.charts, List.flatMap_append, List.flatMap_singleton]

theorem gives_takeEnding {ending : Ending} (plotted : IsPlotted tables all ending.chart)
    (others : ArePlotted tables all ending.progress) :
    Gives (Sound all) (takeEnding ending) fun ending =>
      IsPlotted tables all ending.chart ∧ ArePlotted tables all ending.progress := by
  rw [takeEnding]
  refine (gives_takeKeyword "Info").bind fun _ _ => Gives.ite (fun _ => ?_) fun _ => ?_
  · refine (gives_takeInfo ending.chart).bind fun chart same => Gives.pure ⟨?_, others⟩
    exact ⟨plotted.consistent.same same, same.series ▸ plotted.nonempty⟩
  · refine Gives.ite (fun _ => Gives.refuse _) fun _ => gives_skip.bind fun _ _ => ?_
    refine gives_take.bind fun filename _ => Gives.ite (fun _ => ?_) fun _ => ?_
    · exact (gives_warn _).bind fun _ _ => Gives.pure ⟨plotted, others⟩
    · refine Gives.pure ⟨plotted, ?_⟩
      rw [ArePlotted, charts_begin]
      exact others

theorem gives_takeNextChart (site : Site) {progress : Progress}
    (others : ArePlotted site.tables all progress) :
    Gives (Sound all) (takeNextChart site progress) (ArePlotted site.tables all) := by
  rw [takeNextChart]
  refine (gives_takeChart site _ _).bind fun chart plotted => ?_
  have endings : Gives (Sound all) (repeatWhile (State.isAtAny · ["Info", "Output"]) takeEnding
      { chart, progress }) fun ending =>
        IsPlotted site.tables all ending.chart ∧ ArePlotted site.tables all ending.progress :=
    gives_repeatWhile (fun _ both => gives_takeEnding both.1 both.2) ⟨plotted, others⟩
  refine endings.bind fun ending both => Gives.pure ?_
  rw [ArePlotted, charts_add]
  exact List.forall_mem_append.2 ⟨both.2, List.forall_mem_singleton.2 both.1⟩

/-- Defining an accepted equation keeps the definitions in order. -/
theorem accepted_define {defined : Definitions} (accepted : ∀ entry ∈ defined, Accepted entry.2)
    {name equation : String} (isAccepted : Accepted equation) :
    ∀ entry ∈ defined.define name equation, Accepted entry.2 := by
  rw [Definitions.define]
  split
  · intro entry member
    obtain ⟨other, inDefined, same⟩ := List.mem_map.1 member
    by_cases replaced : (other.1 == name) = true
    · rw [if_pos replaced] at same
      rw [← same]
      exact isAccepted
    · rw [if_neg replaced] at same
      rw [← same]
      exact accepted other inDefined
  · exact List.forall_mem_append.2 ⟨accepted, List.forall_mem_singleton.2 isAccepted⟩

theorem gives_takeDefinition (site : Site) :
    Gives (Sound all) (takeDefinition site) fun _ => True := by
  rw [takeDefinition]
  refine gives_take.bind fun name _ => (gives_takeEquation site name none).bind fun found holds => ?_
  cases found with
  | none => exact Gives.refuse _
  | some equation =>
    obtain ⟨_, _, text, _, evaluated⟩ := holds equation rfl
    exact Gives.modify fun state sound =>
      ⟨sound.left, accepted_define sound.accepted (accepted_of_evaluate evaluated)⟩

theorem gives_takeDefinitions (site : Site) :
    Gives (Sound all) (takeDefinitions site) fun _ => True :=
  (gives_takeDefinition site).bind fun _ _ =>
    gives_repeatWhile (fun _ _ => gives_takeDefinition site) trivial

/-- Ends the reading with what was gathered if the charts have no flaw. -/
def endOutputs (progress : Progress) : Reader (List Output) :=
  match chartFlaw? progress.charts with
  | some flaw => refuse flaw
  | none => pure progress.outputs

/-- The outputs that were read have consistent charts, which passed the checks on
whole charts. -/
theorem gives_takeOutputs (site : Site) :
    Gives (Sound all) (takeOutputs site) fun outputs =>
      (∀ chart ∈ outputs.flatMap Output.charts, IsPlotted site.tables all chart) ∧
        chartFlaw? (outputs.flatMap Output.charts) = none := by
  rw [takeOutputs]
  refine Gives.get_bind fun state sound => Gives.guard (fun _ => ?_) state sound
  have charts : Gives (Sound all) (repeatWhile (fun state => !state.rest.isEmpty)
      (takeNextChart site) {} >>= endOutputs) fun outputs =>
      (∀ chart ∈ outputs.flatMap Output.charts, IsPlotted site.tables all chart) ∧
        chartFlaw? (outputs.flatMap Output.charts) = none := by
    have loop : Gives (Sound all) (repeatWhile (fun state => !state.rest.isEmpty)
        (takeNextChart site) {}) (ArePlotted site.tables all) :=
      gives_repeatWhile (fun _ plotted => gives_takeNextChart site plotted)
        fun _ member => absurd member List.not_mem_nil
    refine loop.bind fun progress plotted => ?_
    rw [endOutputs]
    cases flaw : chartFlaw? progress.charts with
    | some found => exact Gives.refuse found
    | none =>
      refine Gives.pure ?_
      rw [flatMap_charts_outputs]
      exact ⟨plotted, flaw⟩
  refine (gives_takeKeyword "Equations").bind fun _ _ => Gives.ite (fun _ => ?_) fun _ => charts
  exact (gives_takeDefinitions site).bind fun _ _ => charts

end

end

/-! ## Checks on whole charts -/

theorem flaws_of_chartFlaw? {charts : List Chart} (noFlaw : chartFlaw? charts = none) {chart : Chart}
    (member : chart ∈ charts) : columnRangeFlaw? chart = none ∧ statisticFlaw? chart = none := by
  rw [chartFlaw?, Option.orElse_eq_orElse, Option.orElse_eq_or, Option.or_eq_none_iff,
    List.findSome?_eq_none_iff, List.findSome?_eq_none_iff] at noFlaw
  exact ⟨noFlaw.1 chart member, noFlaw.2 chart member⟩

/-- Only values by day are drawn as ranges of columns. -/
theorem isByDay_of_columnRangeFlaw? {chart : Chart} (noFlaw : columnRangeFlaw? chart = none)
    {series : Series} (member : series ∈ chart.series) (drawn : series.graphType = "columnrange") :
    series.range.isByDay = true := by
  rw [columnRangeFlaw?, Option.map_eq_none_iff, List.find?_eq_none] at noFlaw
  have passed := noFlaw series member
  rw [Bool.and_eq_true, not_and, Bool.not_eq_true', Bool.not_eq_false] at passed
  exact passed (decide_eq_true drawn)

/-- A chart plots what it has a statistic of. -/
theorem plotted_of_statisticFlaw? {chart : Chart} (noFlaw : statisticFlaw? chart = none)
    {series : Series} (member : series ∈ chart.series) (statistic : series.isStatistic = true) :
    ∃ other ∈ chart.series, other.isStatistic = false ∧
      Text.sameWord other.keyword series.keyword = true := by
  rw [statisticFlaw?, Option.map_eq_none_iff, List.find?_eq_none] at noFlaw
  have passed := noFlaw series member
  rw [Bool.and_eq_true, not_and, Bool.not_eq_true', Bool.not_eq_false, List.any_eq_true] at passed
  obtain ⟨other, inChart, both⟩ := passed statistic
  rw [Bool.and_eq_true, Bool.not_eq_true'] at both
  exact ⟨other, inChart, both⟩

/-- The keywords that can be drawn as ranges of columns are keywords of daily
values. -/
theorem isEntry_of_columnRangeKeywords {units : Station.Units} {external : List String}
    {range : DataRange} (byDay : range.isByDay = true) {word : String}
    (column : columnRangeKeywords.any (Text.sameWord word) = true) :
    ∃ entry, IsEntry (.build units external) range entry ∧
      Text.sameWord entry.name word = true := by
  obtain ⟨name, listed, same⟩ := List.any_eq_true.1 column
  have names : ∀ name ∈ columnRangeKeywords,
      name ∈ (Keyword.dailyOf units).map Keyword.name := by
    change ∀ name ∈ columnRangeKeywords, name ∈ ["MinTemp", "MaxTemp", "AverageTemp",
      "AvgWindChill", "MaxDewpoint", "MinDewpoint", "MaxFeelsLike", "MinFeelsLike", "MaxGust",
      "WindRun", "HighAvgWindSpeed", "SunHours", "SolarRadiation", "UVIndex", "DayRain",
      "MaxRainRate", "MinBarometer", "MaxBarometer", "MinHumidity", "MaxHumidity",
      "HeatingDegreeDays", "CoolingDegreeDays", "DayEVT"]
    decide
  obtain ⟨entry, member, rfl⟩ := List.mem_map.1 (names name listed)
  refine ⟨entry, ⟨Keyword.dailyOf units, ?_, member⟩, Text.sameWord_comm _ _ ▸ same⟩
  cases range with
  | daily => rfl
  | all => rfl
  | recent => cases byDay
  | extra => cases byDay
  | unlisted number => cases byDay

/-- What holds of all charts that were read. -/
theorem plotted_of_parse {site : Site} {text : String} {outputs : List Output}
    (parsed : (parse site text).outcome = .ok (some outputs)) :
    (∀ chart ∈ outputs.flatMap Output.charts, IsPlotted site.tables (words text) chart) ∧
      chartFlaw? (outputs.flatMap Output.charts) = none := by
  have start : Sound (words text) { rest := words text } :=
    ⟨List.suffix_refl _, fun _ member => absurd member List.not_mem_nil⟩
  rw [parse] at parsed
  cases taken : takeOutputs site { rest := words text } with
  | error stop state =>
    rw [taken] at parsed
    cases stop <;> cases parsed
  | ok found state =>
    rw [taken] at parsed
    obtain rfl : found = outputs := Option.some.inj (Except.ok.inj parsed)
    exact (gives_takeOutputs _ _ start found state taken).2

/-- Every chart that was read is consistent, whatever the definitions say. It has
a series; its axes are those of all its series, each a single one; its range is
that of the last series; it has a scatter if a series is one. Each series is of
exactly one kind, seen from the series in front of it. A statistic stands in a
chart that plots what it is made of, and only keywords of daily values are drawn as
ranges of columns. -/
theorem parsed_charts_are_consistent (settings : Station.Settings) (units : Station.Units)
    (external : List String) (text : String) (outputs : List Output)
    (parsed : (parse ⟨settings, .build units external⟩ text).outcome = .ok (some outputs)) :
    ∀ output ∈ outputs, ∀ chart ∈ output.charts,
      chart.series ≠ [] ∧
      chart.axes = .unionAll (chart.series.map Series.axes) ∧
      (∀ last ∈ chart.series.getLast?, chart.range = last.range) ∧
      (chart.hasScatter = true ↔ ∃ series ∈ chart.series, series.graphType = "scatter") ∧
      (∀ before series after, chart.series = before ++ series :: after →
        (∃ axis : Axis, series.axes = axis.set) ∧
        ∃! kind, IsOfKind (.build units external) (words text) before series kind) ∧
      (∀ series ∈ chart.series, series.isStatistic = true →
        ∃ other ∈ chart.series, other.isStatistic = false ∧
          Text.sameWord other.keyword series.keyword = true) ∧
      (∀ before series after, chart.series = before ++ series :: after →
        series.graphType = "columnrange" → series.range.isByDay = true ∧
          columnRangeKeywords.any (Text.sameWord series.keyword) = true ∧
          IsOfKind (.build units external) (words text) before series .table) := by
  obtain ⟨plotted, noFlaw⟩ := plotted_of_parse parsed
  intro output inOutputs chart inCharts
  have member : chart ∈ outputs.flatMap Output.charts :=
    List.mem_flatMap.2 ⟨output, inOutputs, inCharts⟩
  obtain ⟨consistent, nonempty⟩ := plotted chart member
  obtain ⟨noColumns, noStatistic⟩ := flaws_of_chartFlaw? noFlaw member
  refine ⟨nonempty, consistent.axes, consistent.range, consistent.scatter, ?_, ?_, ?_⟩
  · intro before series after split
    have fits := consistent.each before series after split
    obtain ⟨kind, isOfKind⟩ := fits.kind
    exact ⟨fits.axis, kind, isOfKind, fun _ other => other.unique isOfKind⟩
  · exact fun series inChart statistic => plotted_of_statisticFlaw? noStatistic inChart statistic
  · intro before series after split drawn
    have fits := consistent.each before series after split
    have inChart : series ∈ chart.series := by
      rw [split]
      exact List.mem_append_right before List.mem_cons_self
    have byDay := isByDay_of_columnRangeFlaw? noColumns inChart drawn
    obtain ⟨plain, column⟩ := fits.columns drawn
    refine ⟨byDay, column, ?_⟩
    obtain ⟨kind, isOfKind⟩ := fits.kind
    cases kind with
    | table => exact isOfKind
    | equation =>
      obtain ⟨_, _, _, different, _⟩ := isOfKind
      obtain ⟨entry, isEntry, same⟩ := isEntry_of_columnRangeKeywords byDay column
      exact absurd ((different entry isEntry).symm.trans same) Bool.false_ne_true
    | statistic => exact absurd (plain.symm.trans isOfKind.1) Bool.false_ne_true

/-- The units of a station that chooses none. -/
def plainUnits : Station.Units :=
  ⟨{}, "°C", "km/h", "hPa", "mm", "mm/hr", "m", "km", []⟩

/-- The settings of a site that sets nothing. -/
def plainSettings : Station.Settings :=
  ⟨{}, {}, {}, [], plainUnits⟩

/-- A chart of a keyword, an equation and a statistic of the equation. -/
def averagedText : String :=
  "Chart A Title T Plot Temperature Plot Twice Eval [ temperature*2 ] As Scatter
    Stats twice sMa Period 3 EndChart"

/-- The series in front of the statistic. -/
def averagedSeries : List Series := [
  { keyword := "Temperature", field := "temp", datafile := "tempdata.json", axes := ⟨1⟩,
    axisId := "Temp", unit := "°C" },
  { keyword := "Twice", axes := ⟨16384⟩, axisId := "Free", graphType := "scatter",
    equation := some "Temperature*2" }]

/-- The statistic. -/
def averageSeries : Series :=
  { keyword := "Twice", axes := ⟨16384⟩, axisId := "Free", graphType := "sma", period := 3,
    isStatistic := true }

/-- The chart that the text is read as. -/
def averagedChart : Chart :=
  { id := "A", title := "T", hasScatter := true, axes := ⟨16385⟩,
    series := averagedSeries ++ [averageSeries] }

/-- A statistic of an equation fits behind the equation. -/
theorem averaged_chart_is_consistent :
    (parse ⟨plainSettings, .build plainUnits []⟩ averagedText).outcome =
      .ok (some [{ filename := "cumuluscharts.txt", charts := [averagedChart] }]) ∧
    ∃! kind, IsOfKind (.build plainUnits []) (words averagedText) averagedSeries averageSeries
      kind := by
  have parsed : (parse ⟨plainSettings, .build plainUnits []⟩ averagedText).outcome =
      .ok (some [{ filename := "cumuluscharts.txt", charts := [averagedChart] }]) := by
    decide +kernel
  have consistent := parsed_charts_are_consistent _ _ _ _ _ parsed _ List.mem_cons_self _
    List.mem_cons_self
  exact ⟨parsed, (consistent.2.2.2.2.1 averagedSeries averageSeries [] rfl).2⟩

end Meteogram.Definition
