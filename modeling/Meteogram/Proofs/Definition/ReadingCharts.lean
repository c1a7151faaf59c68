import Meteogram.Proofs.Definition.ReadingSeries

/-!
# Charts are read as they are meant

The readers of the clauses of a chart, of its series and of a chart as a whole, at
words that are written by the grammar. The clauses in front of the series change the
chart and the panels of the dashboard; what has come of them is the chart with these
clauses (`ChartDefinition.framed`) and the dashboard with the connections so far
(`dashboard`). The series are read one by one, each behind those in front of it.
-/

set_option autoImplicit false

namespace Meteogram.Definition

open Text Number Reader

/-! ## Numbers of panels -/

set_option maxRecDepth 4000 in
/-- No digit of any kind is a letter. -/
theorem letters_avoid_digits :
    CharTable.decimalZeros.all (fun start => avoids CharTable.letters start (start + 9)) = true ∧
      CharTable.otherDigits.all (fun range =>
        Nat.ble 128 range.1 && avoids CharTable.letters range.1 range.2) = true := by
  decide

theorem isLetter_of_isDigitLike {c : Char} (digit : isDigitLike c = true) : isLetter c = false := by
  rw [isDigitLike, Bool.or_eq_true] at digit
  rcases digit with decimal | other
  · rw [decimalValue?] at decimal
    by_cases ascii : c.toNat < 128
    · rw [if_pos ascii] at decimal
      split at decimal
      · next isDigit =>
        rw [isLetter_of_ascii ascii, Char.isAlpha, Bool.or_eq_false_iff, Bool.eq_false_iff,
          Bool.eq_false_iff, Ne, Ne, isUpper_iff, isLower_iff]
        have bounds := (isDigit_iff c).1 isDigit
        omega
      · cases decimal
    · rw [if_neg ascii, Option.isSome_map] at decimal
      obtain ⟨start, found⟩ := Option.isSome_iff_exists.1 decimal
      have fits := List.find?_some found
      have avoided := List.all_eq_true.1 letters_avoid_digits.1 start
        (List.mem_of_find?_eq_some found)
      rw [Bool.and_eq_true, decide_eq_true_eq, decide_eq_true_eq] at fits
      rw [isLetter_of_not_ascii (by omega)]
      exact inTable_of_avoids avoided fits.1 (by omega)
  · obtain ⟨range, member, fits⟩ := List.any_eq_true.1 other
    have avoided := List.all_eq_true.1 letters_avoid_digits.2 range member
    simp only [Bool.and_eq_true, decide_eq_true_eq, Nat.ble_eq] at fits avoided
    rw [isLetter_of_not_ascii (by omega)]
    exact inTable_of_avoids avoided.2 fits.1 fits.2

/-- A word for a keyword that begins with a letter does not look like a number. -/
theorem isDigits_of_sameWord {name word : String} (same : sameWord word name = true)
    (letter : name.toList.head?.map isLetter = some true) : isDigits word = false := by
  have first := (head?_isLetter_of_sameWord same).trans letter
  rw [isDigits, Bool.and_eq_false_iff]
  cases chars : word.toList with
  | nil => rw [chars] at first; cases first
  | cons c cs =>
    rw [chars, List.head?_cons, Option.map_some] at first
    refine .inr (List.all_eq_false.2 ⟨c, List.mem_cons_self, fun digit => ?_⟩)
    rw [isLetter_of_isDigitLike digit] at first
    cases first

theorem isDigits_text (panel : Digits) : isDigits panel.text = true := by
  have digits : ∀ c ∈ panel.chars, isDigitLike c = true := by
    intro c member
    obtain ⟨digit, rfl⟩ := Digits.exists_digit member
    rw [isDigitLike, decimalValue?_digitChar]
    rfl
  have notEmpty : panel.text ≠ "" := by
    intro empty
    have none := congrArg String.toList empty
    rw [Digits.text, String.toList_ofList] at none
    exact panel.chars_ne_nil none
  rw [isDigits, Bool.and_eq_true, Bool.not_eq_true', ← Bool.not_eq_true, String.isEmpty_iff,
    List.all_eq_true, Digits.text, String.toList_ofList]
  exact ⟨notEmpty, digits⟩

/-- The number of a panel is read if it is not too long. -/
theorem readInt?_panel {panel : Digits} (short : panel.IsShort) :
    readInt? panel.text = some (panel.value : Int) :=
  (readInt?_text { number := panel }).trans (if_pos short)

/-! ## The dashboard -/

/-- The panels among these that a chart is connected to, if charts connect at all. -/
def linked (connects : Bool) (panels : List Int) : List Int :=
  if connects then panels.filter isPanel else []

theorem linked_append (connects : Bool) (first second : List Int) :
    linked connects (first ++ second) = linked connects first ++ linked connects second := by
  cases connects with
  | false => rfl
  | true => exact List.filter_append first second

theorem linked_nil (connects : Bool) : linked connects [] = [] := by
  cases connects <;> rfl

/-- The connections of a chart to panels. -/
def linksOf (chart : String) (panels : List Int) : List (Int × String) :=
  panels.map fun panel => (panel, chart)

theorem linksOf_append (chart : String) (first second : List Int) :
    linksOf chart (first ++ second) = linksOf chart first ++ linksOf chart second :=
  List.map_append

theorem dashboard_nil : dashboard [] = noPanels := by
  decide

/-- The last connection of a panel counts. -/
theorem dashboard_concat (connections : List (Int × String)) {panel : Int}
    (known : isPanel panel = true) (chart : String) :
    dashboard (connections ++ [(panel, chart)]) =
      (dashboard connections).set (panel.toNat - 1) chart := by
  rw [isPanel, Bool.and_eq_true, decide_eq_true_eq, decide_eq_true_eq] at known
  refine List.ext_getElem (by simp [dashboard]) fun i inside _ => ?_
  simp only [dashboard, List.getElem_map, List.getElem_range, lastOf_concat, List.getElem_set]
  by_cases here : panel = i + 1
  · rw [if_pos here, if_pos (by omega)]
    rfl
  · rw [if_neg here, if_neg (by omega)]
    rfl

/-- The chart with further panels. -/
def withPanels (chart : Chart) (more : List Int) : Chart :=
  { chart with panels := chart.panels ++ more }

theorem withPanels_nil (chart : Chart) : withPanels chart [] = chart := by
  rw [withPanels, List.append_nil]

theorem withPanels_append (chart : Chart) (first second : List Int) :
    withPanels chart (first ++ second) = withPanels (withPanels chart first) second := by
  simp only [withPanels, List.append_assoc]

/-- The numbers of panels as they are written. -/
def numbersOf (panels : List Digits) : List Int :=
  panels.map fun panel => (panel.value : Int)

section

variable {items : List Item} {equations : Equation.Definitions}
  {connections : List (Int × String)}

/-- A chart is connected to a panel if it can be. -/
theorem reads_connect (chart : Chart) (connects : Bool) (panel : Int) :
    Reads items ⟨equations, dashboard connections⟩ (connect chart connects panel)
      (withPanels chart (linked connects [panel])) items
      ⟨equations, dashboard (connections ++ linksOf chart.id (linked connects [panel]))⟩ := by
  have unlinked : linked connects [panel] = [] →
      Reads items ⟨equations, dashboard connections⟩ (Pure.pure chart)
        (withPanels chart (linked connects [panel])) items
        ⟨equations, dashboard (connections ++ linksOf chart.id (linked connects [panel]))⟩ := by
    intro none
    rw [none, linksOf, List.map_nil, List.append_nil, withPanels_nil]
    exact Reads.pure chart
  rw [connect]
  cases connects with
  | false => exact Reads.ite_true rfl ((reads_warn _).bind (unlinked rfl))
  | true =>
    refine Reads.ite_false (by decide) ?_
    by_cases known : isPanel panel = true
    · have outside : ¬ (panel < 1 || (panelCount : Int) < panel) = true := by
        rw [isPanel, Bool.and_eq_true, decide_eq_true_eq, decide_eq_true_eq] at known
        rw [Bool.or_eq_true, decide_eq_true_eq, decide_eq_true_eq]
        omega
      have alone : linked true [panel] = [panel] := by
        rw [linked, if_pos rfl, List.filter_cons_of_pos known, List.filter_nil]
      rw [alone, linksOf, List.map_singleton, dashboard_concat connections known]
      refine Reads.ite_false outside ?_
      intro state place
      refine ⟨_, rfl, place.words, place.equations, ?_, place.quiet⟩
      exact congrArg (fun panels => List.set panels (panel.toNat - 1) chart.id) place.panels
    · have outside : (panel < 1 || (panelCount : Int) < panel) = true := by
        rw [isPanel, Bool.and_eq_true, decide_eq_true_eq, decide_eq_true_eq] at known
        rw [Bool.or_eq_true, decide_eq_true_eq, decide_eq_true_eq]
        omega
      have none : linked true [panel] = [] := by
        rw [linked, if_pos rfl, List.filter_cons_of_neg known, List.filter_nil]
      exact Reads.ite_true outside ((reads_warn _).bind (unlinked none))

/-! ## Clauses of a chart -/

/-- The keywords that stand behind a clause. -/
def behindClause : List String :=
  ["ConnectsTo", "Zoom", "Has", "Plot", "Stats"]

/-- Takes one panel of a clause. -/
def takePanel (connects : Bool) (chart : Chart) : Reader Chart := do
  match Number.readInt? (← take) with
  | none => throw (.fault .invalidValue)
  | some panel => connect chart connects panel

/-- All panels of a clause are taken. -/
theorem reads_takePanels {chart : Chart} {connects : Bool} {panels : List Digits}
    (opens : OpensWith behindClause items) (short : ∀ panel ∈ panels, panel.IsShort) :
    Reads (panels.map (fun panel => .word panel.text) ++ items)
      ⟨equations, dashboard connections⟩ (takePanels chart connects)
      (withPanels chart (linked connects (numbersOf panels))) items
      ⟨equations, dashboard (connections ++
        linksOf chart.id (linked connects (numbersOf panels)))⟩ := by
  have starts : ∀ name ∈ behindClause, name.toList.head?.map isLetter = some true := by
    decide
  have all : Reads (panels.flatMap (fun panel => [.word panel.text]) ++ items)
      ⟨equations, dashboard (connections ++ linksOf chart.id (linked connects (numbersOf [])))⟩
      (repeatWhile (fun state => isDigits state.next) (takePanel connects)
        (withPanels chart (linked connects (numbersOf []))))
      (withPanels chart (linked connects (numbersOf panels))) items
      ⟨equations, dashboard (connections ++
        linksOf chart.id (linked connects (numbersOf panels)))⟩ := by
    refine reads_repeatEach
      (fun done => withPanels chart (linked connects (numbersOf done)))
      (fun done => ⟨equations, dashboard (connections ++
        linksOf chart.id (linked connects (numbersOf done)))⟩)
      panels ?_ ?_ (fun _ => List.cons_ne_nil _ _) ?_
    · intro done panel rest split state place
      rw [show state.next = panel.text from place.next]
      exact isDigits_text panel
    · intro done panel rest split
      have member : panel ∈ panels := by
        rw [← split]
        exact List.mem_append_right done List.mem_cons_self
      have more : linked connects (numbersOf (done ++ [panel])) =
          linked connects (numbersOf done) ++ linked connects [(panel.value : Int)] := by
        rw [numbersOf, List.map_append, linked_append]
        rfl
      refine reads_take.bind ?_
      rw [readInt?_panel (short panel member), more, withPanels_append, linksOf_append,
        ← List.append_assoc]
      exact reads_connect _ connects panel.value
    · intro state place
      obtain ⟨name, member, rest, rfl⟩ := opens
      exact isDigits_of_sameWord place.next (starts name member)
  rw [numbersOf, List.map_nil, linked_nil, withPanels_nil, linksOf, List.map_nil,
    List.append_nil, ← List.map_eq_flatMap] at all
  exact all

theorem connected_concat (connects : Bool) (done : List ChartClause) (clause : ChartClause) :
    connected connects (done ++ [clause]) =
      connected connects done ++ linked connects clause.panels := by
  change linked connects ((done ++ [clause]).flatMap ChartClause.panels) = _
  rw [List.flatMap_append, linked_append, List.flatMap_singleton]
  rfl

/-- The side of the wind barbs is taken. -/
theorem reads_takeBarbsBelow {memory : Memory} (chart : Chart) (below : Bool) :
    Reads (.keyword (if below then "Below" else "Above") :: items) memory (takeBarbsBelow chart)
      below items memory := by
  have noAbove : ∀ rest, sameWord (headText (.keyword "Below" :: rest)) "Above" = false :=
    fun rest => show sameWord "Below" "Above" = false by decide
  rw [takeBarbsBelow]
  cases below with
  | false => exact reads_takeKeyword.bind (Reads.ite_true rfl (Reads.pure false))
  | true =>
    refine (reads_noKeyword (noAbove _)).bind (Reads.ite_false Bool.false_ne_true ?_)
    exact reads_takeKeyword.bind (Reads.ite_true rfl (Reads.pure true))

/-- Wind barbs are taken, with their colour if there is one. -/
theorem reads_takeWindBarbs {memory : Memory} {chart : ChartDefinition} {connects : Bool}
    {done : List ChartClause} {below : Bool} {colour : Option Word}
    (opens : OpensWith behindClause items) :
    Reads ((ChartClause.barbs below colour).items.tail ++ items) memory
      (takeWindBarbs (chart.framed connects done))
      (chart.framed connects (done ++ [.barbs below colour])) items memory := by
  have noColour : sameWord (headText items) "Colour" = false := opens.isFree (by decide)
  have framed : ∀ name, colour.map Word.text = name →
      chart.framed connects (done ++ [.barbs below colour]) =
        { chart.framed connects done with
          hasWindBarbs := true
          windBarbsBelow := below
          windBarbColor := name.getD (chart.framed connects done).windBarbColor } := by
    rintro name rfl
    cases colour <;>
      simp [ChartDefinition.framed, connected_concat, linked_nil]
  rw [takeWindBarbs]
  refine reads_takeKeyword.bind (Reads.ite_false (by decide) ?_)
  refine (reads_takeBarbsBelow _ below).bind ?_
  cases colour with
  | none =>
    refine (reads_noKeyword noColour).bind (Reads.ite_false Bool.false_ne_true ?_)
    rw [framed none rfl]
    exact Reads.pure _
  | some colour =>
    refine reads_takeKeyword.bind (Reads.ite_true rfl (reads_take.bind ?_))
    rw [framed (some colour.text) rfl]
    exact Reads.pure _

/-- A clause is taken behind the clauses `done`. -/
theorem reads_takeClause {chart : ChartDefinition} {connects : Bool} {done : List ChartClause}
    {clause : ChartClause} (opens : OpensWith behindClause items) (proper : clause.IsProper) :
    Reads (clause.items ++ items)
      ⟨equations, dashboard (connections ++ linksOf chart.id.text (connected connects done))⟩
      (takeClause connects (chart.framed connects done))
      (chart.framed connects (done ++ [clause])) items
      ⟨equations, dashboard (connections ++
        linksOf chart.id.text (connected connects (done ++ [clause])))⟩ := by
  have zoomNoConnects : ∀ rest, sameWord (headText (.keyword "Zoom" :: rest)) "ConnectsTo" = false :=
    fun rest => show sameWord "Zoom" "ConnectsTo" = false by decide
  have hasNoConnects : ∀ rest, sameWord (headText (.keyword "Has" :: rest)) "ConnectsTo" = false :=
    fun rest => show sameWord "Has" "ConnectsTo" = false by decide
  have hasNoZoom : ∀ rest, sameWord (headText (.keyword "Has" :: rest)) "Zoom" = false :=
    fun rest => show sameWord "Has" "Zoom" = false by decide
  rw [takeClause, connected_concat]
  cases clause with
  | connects panels =>
    have framed : chart.framed connects (done ++ [.connects panels]) =
        withPanels (chart.framed connects done) (linked connects (numbersOf panels)) := by
      simp [ChartDefinition.framed, withPanels, connected_concat, numbersOf]
    refine reads_takeKeyword.bind (Reads.ite_true rfl ?_)
    rw [framed, linksOf_append, ← List.append_assoc]
    exact reads_takePanels opens proper
  | zoom number =>
    have framed : chart.framed connects (done ++ [.zoom number]) =
        { chart.framed connects done with zoom := number.value } := by
      simp [ChartDefinition.framed, connected_concat, linked_nil]
    refine (reads_noKeyword (zoomNoConnects _)).bind (Reads.ite_false Bool.false_ne_true ?_)
    refine reads_takeKeyword.bind (Reads.ite_true rfl ?_)
    rw [framed, show (ChartClause.zoom number).panels = [] from rfl, linked_nil, List.append_nil]
    exact reads_take.bind ((reads_takeWhole? proper).bind (Reads.pure _))
  | barbs below colour =>
    refine (reads_noKeyword (hasNoConnects _)).bind (Reads.ite_false Bool.false_ne_true ?_)
    refine (reads_noKeyword (hasNoZoom _)).bind (Reads.ite_false Bool.false_ne_true ?_)
    rw [show (ChartClause.barbs below colour).panels = [] from rfl, linked_nil, List.append_nil]
    exact reads_skip.bind (reads_takeWindBarbs opens)

/-- Every clause begins with a keyword of its own. -/
theorem opensWith_clause (clause : ChartClause) (more : List Item) :
    OpensWith ["ConnectsTo", "Zoom", "Has"] (clause.items ++ more) := by
  cases clause with
  | connects panels => exact ⟨"ConnectsTo", by simp, _, rfl⟩
  | zoom number => exact ⟨"Zoom", by simp, _, rfl⟩
  | barbs below colour => exact ⟨"Has", by simp, _, rfl⟩

/-- All clauses in front of the series are taken. -/
theorem reads_takeClauses {chart : ChartDefinition} (connects : Bool)
    (opens : OpensWith ["Plot", "Stats"] items) (proper : ∀ clause ∈ chart.clauses, clause.IsProper) :
    Reads (chart.clauses.flatMap ChartClause.items ++ items)
      ⟨equations, dashboard (connections ++ linksOf chart.id.text (connected connects []))⟩
      (repeatWhile (State.isAtAny · ["ConnectsTo", "Zoom", "Has"]) (takeClause connects)
        (chart.framed connects []))
      (chart.framed connects chart.clauses) items
      ⟨equations, dashboard (connections ++
        linksOf chart.id.text (connected connects chart.clauses))⟩ := by
  have opens' : OpensWith behindClause items := opens.weaken (by simp [behindClause])
  have each : ∀ clause more, OpensWith behindClause (ChartClause.items clause ++ more) :=
    fun clause more => (opensWith_clause clause more).weaken (by simp [behindClause])
  refine reads_repeatEach (fun done => chart.framed connects done)
    (fun done => ⟨equations, dashboard (connections ++
      linksOf chart.id.text (connected connects done))⟩) chart.clauses ?_ ?_ ?_ ?_
  · intro _ clause _ _ _ place
    exact place.isAtAny_of_opens (opensWith_clause clause _) (List.Subset.refl _)
  · intro done clause rest split
    have member : clause ∈ chart.clauses := by
      rw [← split]
      exact List.mem_append_right done List.mem_cons_self
    exact reads_takeClause (opensWith_flatMap each rest opens') (proper clause member)
  · exact fun clause => ne_nil_of_opensWith (opensWith_clause clause)
  · intro _ place
    exact place.not_isAtAny_of_opens opens (by decide)

end

/-! ## Series of a chart -/

theorem withSeries_concat (chart : Chart) (before : List Series) (series : Series) :
    withSeries chart (before ++ [series]) =
      { withSeries chart before with
        range := series.range
        hasScatter := (withSeries chart before).hasScatter || series.graphType = "scatter"
        axes := (withSeries chart before).axes ∪ series.axes
        series := before ++ [series] } := by
  simp [withSeries, AxisSet.unionAll]

theorem seriesOf_concat (site : Site) (defined : Equation.Definitions) (standard : Int)
    (before : List SeriesDefinition) (series : SeriesDefinition) :
    seriesOf site defined standard (before ++ [series]) =
      seriesOf site defined standard before ++
        [series.value site defined standard (seriesOf site defined standard before)] := by
  rw [seriesOf, List.foldl_append]
  rfl

theorem set_ne_empty (axis : Axis) : axis.set ≠ ∅ := by
  cases axis <;> decide

section

variable {items : List Item} {memory : Memory} {site : Site} {standard : Int}
  {before : List Series} {series : SeriesDefinition}

/-- An equation has no axis before its attributes. -/
theorem axes_plain_of_equation (site : Site) (defined : Equation.Definitions) (standard : Int)
    (before : List Series) (series : SeriesDefinition)
    (computed : (series.plain site defined standard before).equation.isSome = true) :
    (series.plain site defined standard before).axes = ∅ := by
  rw [SeriesDefinition.plain] at computed ⊢
  cases source : series.source with
  | keyword =>
    rw [source] at computed
    revert computed
    cases site.tables.lookup? series.dataRange series.name.text <;> exact fun none => by cases none
  | equation expression => rfl
  | average period =>
    rw [source] at computed
    revert computed
    cases site.tables.lookup? series.dataRange series.name.text with
    | some entry => exact fun none => by cases none
    | none =>
      cases SeriesDefinition.equationNamed? before series.name.text <;>
        exact fun none => by cases none

/-- An equation without an axis is put on the axis without a unit. -/
theorem reads_withStandardAxis (chart : Chart) :
    Reads items memory
      (withStandardAxis chart (withAttributes
        (series.plain site memory.equations standard before) series.attributes))
      (series.value site memory.equations standard before) items memory := by
  have noAxes := axes_plain_of_equation site memory.equations standard before series
  rw [SeriesDefinition.value, withStandardAxis]
  generalize series.plain site memory.equations standard before = plain at noAxes ⊢
  have kept : (withAttributes plain series.attributes).equation = plain.equation := rfl
  rw [kept]
  by_cases computed : plain.equation.isSome = true
  · have axes : (withAttributes plain series.attributes).axes =
        ((lastOf Attribute.axis? series.attributes).map Axis.set).getD ∅ := by
      simp only [withAttributes, computed, if_true, noAxes computed]
    cases chosen : lastOf Attribute.axis? series.attributes with
    | none =>
      rw [chosen] at axes
      refine Reads.ite_true (by rw [computed, axes]; decide) ((reads_warn _).bind ?_)
      rw [if_pos (by rw [computed]; rfl)]
      exact Reads.pure _
    | some axis =>
      rw [chosen] at axes
      have taken : (withAttributes plain series.attributes).axes ≠ ∅ := by
        rw [axes]
        exact set_ne_empty axis
      refine Reads.ite_false (by simp [computed, taken]) ?_
      rw [if_neg (by simp)]
      exact Reads.pure _
  · refine Reads.ite_false (by simp [computed]) ?_
    rw [if_neg (by simp [computed])]
    exact Reads.pure _

/-- A series is read behind the series in front of it. -/
theorem reads_takeSeries {frame : Chart} (settled : IsSettled site standard)
    (opens : OpensWith behindSeries items)
    (proper : series.IsProper site memory.equations standard before) :
    Reads (series.items ++ items) memory (takeSeries site (withSeries frame before))
      (withSeries frame (before ++ [series.value site memory.equations standard before]))
      items memory := by
  have split : takeSeries site (withSeries frame before) =
      (do if ← takeKeyword "Stats" then takeStatistic site (withSeries frame before)
          else do skip; takePlot site (withSeries frame before)) >>= fun plain =>
        takeAttributes (withSeries frame before) plain >>= fun dressed =>
          withStandardAxis (withSeries frame before) dressed >>= fun series =>
            Pure.pure { withSeries frame before with
              range := series.range
              hasScatter := (withSeries frame before).hasScatter || series.graphType = "scatter"
              axes := (withSeries frame before).axes ∪ series.axes
              series := (withSeries frame before).series ++ [series] } := by
    rw [takeSeries, bind_assoc]
    refine congrArg _ (funext fun statistic => ?_)
    cases statistic with
    | true => rfl
    | false => exact (bind_assoc skip _ _).symm
  have written : series.items ++ items = .keyword series.source.opening ::
      ((series.range.map fun one => .keyword one.keyword).toList ++
        (series.name.item :: (series.source.items ++
          (series.attributes.flatMap Attribute.items ++ items)))) := by
    simp [SeriesDefinition.items]
  have opens' : OpensWith behindSource (series.attributes.flatMap Attribute.items ++ items) := by
    refine opensWith_flatMap (fun one more => (opensWith_attribute one more).weaken ?_) _
      (opens.weaken ?_)
    · exact List.subset_append_left _ _
    · exact List.subset_append_right _ _
  rw [split, written]
  refine (reads_plain settled opens' proper.source).bind ?_
  refine (reads_takeAttributes opens proper.attributes).bind ?_
  refine (reads_withStandardAxis _).bind ?_
  rw [withSeries_concat]
  exact Reads.pure _

theorem opensWith_series (series : SeriesDefinition) (more : List Item) :
    OpensWith ["Plot", "Stats"] (series.items ++ more) := by
  rw [SeriesDefinition.items]
  cases series.source with
  | keyword => exact ⟨"Plot", by simp, _, rfl⟩
  | equation expression => exact ⟨"Plot", by simp, _, rfl⟩
  | average period => exact ⟨"Stats", by simp, _, rfl⟩

/-- All series of a chart are read. -/
theorem reads_takeSeries_all {frame : Chart} (settled : IsSettled site standard)
    {list : List SeriesDefinition} (proper : ∀ before series after, before ++ series :: after = list →
      series.IsProper site memory.equations standard
        (seriesOf site memory.equations standard before)) :
    Reads (list.flatMap SeriesDefinition.items ++ .keyword "EndChart" :: items) memory
      (repeatWhile (State.isAtAny · ["Plot", "Stats"]) (takeSeries site)
        (withSeries frame (seriesOf site memory.equations standard [])))
      (withSeries frame (seriesOf site memory.equations standard list))
      (.keyword "EndChart" :: items) memory := by
  have ending : OpensWith behindSeries (.keyword "EndChart" :: items) :=
    ⟨"EndChart", by simp [behindSeries], _, rfl⟩
  have each : ∀ series more, OpensWith behindSeries (SeriesDefinition.items series ++ more) :=
    fun series more => (opensWith_series series more).weaken (by simp [behindSeries])
  refine reads_repeatEach
    (fun done => withSeries frame (seriesOf site memory.equations standard done))
    (fun _ => memory) list ?_ ?_ ?_ ?_
  · intro _ series _ _ _ place
    exact place.isAtAny_of_opens (opensWith_series series _) (List.Subset.refl _)
  · intro done series rest split
    rw [seriesOf_concat]
    exact reads_takeSeries settled (opensWith_flatMap each rest ending) (proper done series rest split)
  · exact fun series => ne_nil_of_opensWith (opensWith_series series)
  · intro _ place
    have only : OpensWith ["EndChart"] (.keyword "EndChart" :: items) := ⟨_, by simp, _, rfl⟩
    exact place.not_isAtAny_of_opens only (by decide)

end

end Meteogram.Definition
