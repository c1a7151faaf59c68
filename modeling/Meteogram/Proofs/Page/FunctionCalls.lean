import Meteogram.Proofs.Equation.PageText
import Meteogram.Proofs.Page.OpenedFunctions

/-!
# The functions that a page calls

The script of a page calls functions from several of its parts: the menu draws a chart, the
functions that draw charts add their series, the start loads data, and the code of equations
adds up running totals. The functions themselves are written by other parts, under conditions
of their own. A call stands on a line of its own, and the lines that may be calls are told by
how they end. Whatever is called there is defined on the page (`pages_define_what_they_call`).

The function for running totals is written once for a page, if an equation that the page has
code for has the text of its call. Whether there is a running total in this equation is found
out later, by splitting it, so the call needs the text.
-/

set_option autoImplicit false

namespace Meteogram.Page

open Definition Equation
open Station (Settings)

/-! ## Calls in the menu -/

/-- The end of a line that draws the chosen chart. -/
def choiceEnd : List Char := ['(', ')', '}']

/-- The end of a line that draws the first chart. -/
def firstEnd : List Char := ['(', ')', ';']

/-- The line that draws a chart if it is chosen. -/
def choiceCall (name : String) : String :=
  "    " ++ name ++ "()\x7d"

/-- The line that draws the first chart. -/
def firstCall (name : String) : String :=
  " " ++ name ++ "();"

theorem hasEnd_choiceCall (name : String) : hasEnd choiceEnd (choiceCall name) = true :=
  hasEnd_append (hasEnd_ofList rfl) _

theorem filter_choiceLines (filename : String) (chart : Chart) :
    (choiceLines filename chart).filter (hasEnd choiceEnd) = [choiceCall (drawingName chart)] := by
  have kind : Lacks (hasEnd choiceEnd) (kindLines chart) := by
    simp (disch := exact endsApart_ofList rfl) only [kindLines, lacks_cons, lacks_nil,
      hasEnd_append_of_apart, true_and, and_true]
    exact ⟨hasEnd_ofList rfl, hasEnd_ofList rfl⟩
  have asks : Lacks (hasEnd choiceEnd) [" if (w1=='" ++ chart.id ++ "') \x7b "] :=
    lacks_cons.2 ⟨hasEnd_append_of_apart (endsApart_ofList rfl) _, lacks_nil⟩
  have calls := hasEnd_choiceCall (drawingName chart)
  have others : Lacks (hasEnd choiceEnd) [" else "] :=
    lacks_cons.2 ⟨hasEnd_ofList rfl, lacks_nil⟩
  rw [choiceLines, List.filter_append, List.filter_append, asks.filter]
  split_ifs
  · rw [kind.filter]
    exact filter_cons_of_lacks calls others
  · exact filter_cons_of_lacks calls others

theorem filter_menuLines_choice (filename number : String) (first : Chart) (charts : List Chart) :
    (menuLines filename number first charts).filter (hasEnd choiceEnd) =
      charts.map fun chart => choiceCall (drawingName chart) := by
  have choices : (charts.flatMap (choiceLines filename)).filter (hasEnd choiceEnd) =
      charts.map fun chart => choiceCall (drawingName chart) := by
    rw [List.filter_flatMap, List.map_eq_flatMap]
    exact List.flatMap_congr fun chart _ => filter_choiceLines filename chart
  unfold menuLines
  refine (filter_append_of_lacks_back ?_).trans ((filter_append_of_lacks_back ?_).trans
    ((filter_append_of_lacks_back ?_).trans ((filter_append_of_lacks_front ?_).trans choices)))
  · simp (disch := exact endsApart_ofList rfl) only [lacks_cons, lacks_nil,
      hasEnd_append_of_apart, true_and, and_true]
    and_intros <;> exact hasEnd_ofList rfl
  · split_ifs
    · exact lacks_cons.2 ⟨hasEnd_ofList rfl, lacks_cons.2 ⟨hasEnd_ofList rfl, lacks_nil⟩⟩
    · exact lacks_nil
  · exact lacks_cons.2 ⟨hasEnd_ofList rfl, lacks_nil⟩
  · simp (disch := exact endsApart_ofList rfl) only [lacks_cons, lacks_nil,
      hasEnd_append_of_apart, true_and, and_true]
    exact hasEnd_ofList rfl

/-- The line may call the function that draws the first chart. -/
def isFirstCall (line : String) : Bool :=
  hasStart [' '] line && hasEnd firstEnd line

theorem isFirstCall_of_end {line : String} (ends : hasEnd firstEnd line = false) :
    isFirstCall line = false := by
  rw [isFirstCall, ends, Bool.and_false]

theorem isFirstCall_append_of_apart {back : String} (apart : endsApart firstEnd back = true)
    (front : String) : isFirstCall (front ++ back) = false :=
  isFirstCall_of_end (hasEnd_append_of_apart apart front)

theorem isFirstCall_firstCall (name : String) : isFirstCall (firstCall name) = true := by
  have starts : hasStart [' '] (" " ++ name ++ "();") = true :=
    hasStart_append (hasStart_append (hasStart_ofList rfl) _) _
  have ends : hasEnd firstEnd (" " ++ name ++ "();") = true :=
    hasEnd_append (hasEnd_ofList rfl) _
  rw [isFirstCall, firstCall, starts, ends, Bool.and_self]

theorem filter_menuLines_first (filename number : String) (first : Chart) (charts : List Chart) :
    (menuLines filename number first charts).filter isFirstCall =
      [firstCall (drawingName first)] := by
  have choices : Lacks isFirstCall (charts.flatMap (choiceLines filename)) := by
    refine lacks_flatMap.2 fun chart _ => ?_
    have noted : isFirstCall ("prevChartRange = " ++ toString chart.range.number ++ ";") =
        false := by
      rw [isFirstCall, String.append_assoc, hasStart_append_of_apart (startsApart_ofList rfl),
        Bool.false_and]
    rw [choiceLines, kindLines]
    split_ifs <;> simp (disch := exact endsApart_ofList rfl) only [lacks_append, lacks_cons,
      lacks_nil, noted, isFirstCall_append_of_apart, true_and, and_true]
    all_goals and_intros <;> exact isFirstCall_of_end (hasEnd_ofList rfl)
  unfold menuLines
  refine (filter_append_of_lacks_front ?_).trans
    (filter_of_getElem? (n := 1) ?_ rfl (isFirstCall_firstCall (drawingName first)) ?_)
  · split_ifs <;> simp (disch := exact endsApart_ofList rfl) only [lacks_append, lacks_cons,
      lacks_nil, isFirstCall_append_of_apart, choices, true_and, and_true]
    all_goals and_intros <;> exact isFirstCall_of_end (hasEnd_ofList rfl)
  · simp (disch := exact endsApart_ofList rfl) only [List.take_succ_cons, List.take_zero,
      lacks_cons, lacks_nil, isFirstCall_append_of_apart, and_true]
  · simp (disch := exact endsApart_ofList rfl) only [List.drop_succ_cons, List.drop_zero,
      lacks_cons, lacks_nil, isFirstCall_append_of_apart, true_and, and_true]
    and_intros <;> exact isFirstCall_of_end (hasEnd_ofList rfl)

/-! ## Calls in the start -/

/-- The end of a line that calls for data. -/
def loadingEnd : List Char := ['(', ')']

/-- The line that loads a data file. -/
def loadingCall (name : String) : String :=
  ", " ++ name ++ "()"

/-- The line that loads the station's own settings, before all data. -/
def loadingStart (name : String) : String :=
  "  $.when( Promise.all([" ++ name ++ "()"

theorem hasEnd_loadingCall (name : String) : hasEnd loadingEnd (loadingCall name) = true :=
  hasEnd_append (hasEnd_ofList rfl) _

theorem hasEnd_loadingStart (name : String) : hasEnd loadingEnd (loadingStart name) = true :=
  hasEnd_append (hasEnd_ofList rfl) _

theorem loadingStart_ne_loadingCall (first second : String) :
    loadingStart first ≠ loadingCall second := by
  intro same
  have starts : hasStart [','] (loadingCall second) = true :=
    hasStart_append (hasStart_append (hasStart_ofList rfl) _) _
  have other : hasStart [','] (loadingStart first) = false := by
    unfold loadingStart
    rw [String.append_assoc]
    exact hasStart_append_of_apart (startsApart_ofList rfl) _
  exact Bool.false_ne_true (other.symm.trans (same ▸ starts))

/-- The calls for data are those of the data files, and that of the wind barbs if there are any. -/
theorem filter_startLines (first : String) (panels datafiles : List String) (windBarbs : Bool)
    (number : String) :
    (startLines first panels datafiles windBarbs number).filter (hasEnd loadingEnd) =
      loadingStart "GraphconfigAjax" ::
        (datafiles.map (fun datafile => loadingCall (loaderName datafile)) ++
          if windBarbs then [loadingCall "WindBarbsAjax"] else []) := by
  refine (filter_append_of_lacks_back ?_).trans ?_
  · simp (disch := exact endsApart_ofList rfl) only [lacks_cons, lacks_nil,
      hasEnd_append_of_apart, true_and, and_true]
    exact hasEnd_ofList rfl
  have barbs : (if windBarbs then [", WindBarbsAjax()"] else []).filter (hasEnd loadingEnd) =
      if windBarbs then [loadingCall "WindBarbsAjax"] else [] := by
    have same : ", WindBarbsAjax()" = loadingCall "WindBarbsAjax" := by
      decide
    split
    · rw [same, filter_cons_of_lacks (hasEnd_loadingCall _) lacks_nil]
    · rfl
  have files : (datafiles.map fun datafile => ", " ++ loaderName datafile ++ "()").filter
      (hasEnd loadingEnd) = datafiles.map fun datafile => loadingCall (loaderName datafile) :=
    List.filter_eq_self.2
      (List.forall_mem_map.2 fun datafile _ => hasEnd_loadingCall (loaderName datafile))
  rw [List.filter_append, List.filter_append, barbs, files, List.append_assoc]
  refine congrArg (· ++ _) (filter_of_getElem? (n := 5) ?_ rfl (hasEnd_loadingStart _) lacks_nil)
  simp (disch := exact endsApart_ofList rfl) only [List.take_succ_cons, List.take_zero, lacks_cons,
    lacks_nil, hasEnd_append_of_apart, true_and, and_true]
  and_intros <;> exact hasEnd_ofList rfl

theorem filter_startPart {generator : Generator} {loaded : List Variable} {first : Chart}
    {charts : List Chart} {number : String} {lines : List String}
    (written : startPart generator loaded first charts number = .ok lines) :
    lines.filter (hasEnd loadingEnd) = loadingStart "GraphconfigAjax" ::
      ((datafilesOf loaded).map (fun datafile => loadingCall (loaderName datafile)) ++
        if charts.any Chart.hasWindBarbs then [loadingCall "WindBarbsAjax"] else []) := by
  obtain ⟨factors, location, _, rfl⟩ := exists_startPart written
  have declares : Lacks (hasEnd loadingEnd)
      (declarationLines loaded (equationArrays loaded charts)) := by
    refine lacks_append.2 ⟨List.forall_mem_map.2 fun name _ => ?_, ?_⟩
    · exact hasEnd_append_of_apart (endsApart_ofList rfl) _
    · exact lacks_cons.2 ⟨hasEnd_ofList rfl, lacks_nil⟩
  have converts : Lacks (hasEnd loadingEnd) (factors.map windFactorLine) :=
    List.forall_mem_map.2 fun factor _ => hasEnd_append_of_apart (endsApart_ofList rfl) _
  have station : Lacks (hasEnd loadingEnd) (stationLines location) := by
    simp (disch := exact endsApart_ofList rfl) only [stationLines, lacks_cons, lacks_nil,
      hasEnd_append_of_apart, true_and, and_true]
    and_intros <;> exact hasEnd_ofList rfl
  rw [filter_append_of_lacks_back station, filter_append_of_lacks_back converts,
    filter_append_of_lacks_front declares, filter_startLines]

/-! ## Calls in the functions that draw -/

/-- The end of a line that adds the series to a chart. -/
def seriesEnd : List Char := ['(', 'c', 'h', 'a', 'r', 't', ')', ';']

/-- The line that adds the series to a chart. -/
def seriesCall (name : String) : String :=
  "  " ++ name ++ "(chart);"

theorem hasEnd_seriesCall (name : String) : hasEnd seriesEnd (seriesCall name) = true :=
  hasEnd_append (hasEnd_ofList rfl) _

theorem lacks_axesLines {settings : Settings} {dayOfYear : Int} {chart : Chart}
    {lines : List String} (written : (axesLines settings dayOfYear chart).outcome = .ok lines) :
    Lacks (hasEnd seriesEnd) lines := by
  refine forall_mem_axesLines ?_ ?_ written
  · intro series axis opposite line drawn
    obtain ⟨sun, _, drawn⟩ := Report.outcome_bind_eq_ok_iff.1 drawn
    obtain ⟨title, _, drawn⟩ := Report.outcome_bind_eq_ok_iff.1 drawn
    obtain ⟨options, _, same⟩ := Report.outcome_bind_eq_ok_iff.1 drawn
    obtain rfl := Except.ok.inj same
    exact hasEnd_append_of_apart (by decide) _
  · exact hasEnd_append_of_apart (endsApart_ofList rfl) _

theorem lacks_timeAxisLines (chart : Chart) : Lacks (hasEnd seriesEnd) (timeAxisLines chart) := by
  rw [timeAxisLines]
  split_ifs <;> simp (disch := exact endsApart_ofList rfl) only [List.append_nil,
    List.cons_append, List.nil_append, lacks_cons, lacks_nil, hasEnd_append_of_apart, true_and,
    and_true]
  all_goals exact ⟨hasEnd_ofList rfl, hasEnd_ofList rfl⟩

theorem lacks_plotLines {options : Options} {chart : Chart} {lines : List String}
    (written : plotLines options chart = .ok lines) : Lacks (hasEnd seriesEnd) lines := by
  rw [plotLines] at written
  split at written
  · split at written
    · cases written
    · obtain rfl := Except.ok.inj written
      simp (disch := exact endsApart_ofList rfl) only [lacks_cons, lacks_nil,
        hasEnd_append_of_apart, and_self]
  · obtain rfl := Except.ok.inj written
    simp (disch := exact endsApart_ofList rfl) only [lacks_cons, lacks_nil,
      hasEnd_append_of_apart, true_and, and_true]
    exact hasEnd_ofList rfl

theorem lacks_rangeLines {settings : Settings} {chart : Chart} {lines : List String}
    (written : rangeLines settings chart = .ok lines) : Lacks (hasEnd seriesEnd) lines := by
  rw [rangeLines] at written
  dsimp only at written
  split at written
  · obtain ⟨hours?, _, written⟩ := bind_eq_ok.1 written
    cases hours? with
    | none => cases written
    | some hours =>
      obtain rfl := Except.ok.inj written
      split_ifs <;> simp (disch := exact endsApart_ofList rfl) only [List.append_nil,
        List.cons_append, List.nil_append, lacks_cons, lacks_nil, hasEnd_append_of_apart, true_and,
        and_true]
      all_goals and_intros <;> exact hasEnd_ofList rfl
  · obtain rfl := Except.ok.inj written
    simp (disch := exact endsApart_ofList rfl) only [lacks_cons, lacks_nil,
      hasEnd_append_of_apart, and_self]

theorem lacks_infoLines {settings : Settings} {chart : Chart} {lines : List String}
    (written : infoLines settings chart = .ok lines) : Lacks (hasEnd seriesEnd) lines := by
  rw [infoLines] at written
  split at written
  · obtain rfl := Except.ok.inj written
    exact lacks_nil
  · obtain ⟨word, _, same⟩ := bind_eq_ok.1 written
    obtain rfl := Except.ok.inj same
    simp (disch := exact endsApart_ofList rfl) only [lacks_cons, lacks_nil,
      hasEnd_append_of_apart, true_and, and_true]
    and_intros <;> exact hasEnd_ofList rfl

theorem filter_drawingLines {settings : Settings} {options : Options} {dayOfYear : Int}
    {chart : Chart} {lines : List String}
    (written : (drawingLines settings options dayOfYear chart).outcome = .ok lines) :
    lines.filter (hasEnd seriesEnd) = [seriesCall (seriesName chart)] := by
  obtain ⟨plot, plots, written⟩ := Report.outcome_bind_eq_ok_iff.1 written
  obtain ⟨range, ranges, written⟩ := Report.outcome_bind_eq_ok_iff.1 written
  obtain ⟨info, informs, written⟩ := Report.outcome_bind_eq_ok_iff.1 written
  obtain ⟨axes, draws, same⟩ := Report.outcome_bind_eq_ok_iff.1 written
  obtain rfl := Except.ok.inj same
  have calls := hasEnd_seriesCall (seriesName chart)
  refine (filter_append_of_lacks_front ?_).trans (filter_of_getElem? (n := 2) ?_ rfl calls ?_)
  · simp (disch := exact endsApart_ofList rfl) only [lacks_append, lacks_cons, lacks_nil,
      hasEnd_append_of_apart, lacks_timeAxisLines chart, lacks_plotLines plots,
      lacks_rangeLines ranges, lacks_infoLines informs, lacks_axesLines draws, true_and, and_true]
    and_intros <;> exact hasEnd_ofList rfl
  · exact lacks_cons.2 ⟨hasEnd_ofList rfl, lacks_cons.2 ⟨hasEnd_ofList rfl, lacks_nil⟩⟩
  · simp only [List.drop_succ_cons, List.drop_zero, lacks_cons, lacks_nil, and_true]
    and_intros <;> exact hasEnd_ofList rfl

/-! ## Functions that are called -/

/-- Some line opens a function of this name. -/
def IsDefined (lines : List String) (name : String) : Prop :=
  ∃ line ∈ lines, ∃ rest, line = "function " ++ name ++ "(" ++ rest

/-- The page has code for this equation. -/
def IsEmitted (generator : Generator) (charts : List Chart) (contents : Contents)
    (equation : String) : Prop :=
  ∃ chart ∈ charts, ∃ series ∈ chart.series, series.graphType ≠ "columnrange" ∧
    series.equation = some equation ∧ ∃ added,
      (computed generator.site.tables contents.loaded chart series).outcome = .ok (some added)

/-- The line that adds a value to a running total. -/
def totalCall (value first : String) : String :=
  "  sum( " ++ value ++ ", sumResult, i, " ++ first ++ "[i][0]);"

/-- Whatever the parts of the page call is defined on the page. -/
structure DefinesItsCalls (generator : Generator) (charts : List Chart) (contents : Contents)
    (filename number : String) (lines : List String) : Prop where
  /-- The menu draws the chosen chart or the first one. -/
  menu : ∀ name, choiceCall name ∈ menuLines filename number contents.first charts ∨
    firstCall name ∈ menuLines filename number contents.first charts → IsDefined lines name
  /-- The functions that draw the charts add their series. -/
  drawing : ∀ part ∈ contents.parts, ∀ name, seriesCall name ∈ part.1 → IsDefined lines name
  /-- The start of the page loads the station's own settings and all data. -/
  loading : ∀ name, loadingStart name ∈ contents.start ∨ loadingCall name ∈ contents.start →
    IsDefined lines name
  /-- The function that loads the wind barbs converts wind speeds. -/
  windBarbs : barbsHead ∈ contents.loaders → IsDefined lines "convertToMs"
  /-- The code of an equation adds up running totals. -/
  total : ∀ chart ∈ charts, ∀ series ∈ chart.series, ∀ added,
    (computed generator.site.tables contents.loaded chart series).outcome = .ok (some added) →
    ∀ value first, totalCall value first ∈ added.lines → IsDefined lines "sum"
  /-- The function for running totals is there once if an equation on the page calls it, whichever
  and however many do. -/
  sum : (∃ equation, IsEmitted generator charts contents equation ∧
      Text.contains equation "sum(" = true) →
    sumFunctionLines <:+: lines ∧ lines.count sumHead = 1
  /-- It is not there otherwise. -/
  noSum : (∀ equation, IsEmitted generator charts contents equation →
      Text.contains equation "sum(" = false) → sumHead ∉ lines

theorem not_mem_of_lacks {test : String → Bool} {lines : List String} {line : String}
    (lacks : Lacks test lines) (passes : test line = true) : line ∉ lines :=
  fun member => Bool.false_ne_true ((lacks line member).symm.trans passes)

/-- A text that can be split at a part has the part. -/
theorem hasPart_of_splitAtPart? {part text : List Char} {pieces : List Char × List Char}
    (split : splitAtPart? part text = some pieces) : Text.hasPart part text = true := by
  induction text generalizing pieces with
  | nil => cases split
  | cons c cs ih =>
    rw [Text.hasPart, Bool.or_eq_true]
    rw [splitAtPart?] at split
    split at split
    · next found => exact .inl (found ▸ rfl)
    · obtain ⟨_, inner, _⟩ := Option.map_eq_some_iff.1 split
      exact .inr (ih inner)

/-- An equation has a running total only if it calls for one. -/
theorem contains_of_sum? {equation : String} {names : List String} {code : Code}
    (coded : (codeOf equation.toList names).outcome = .ok code) (totals : code.sum? ≠ none) :
    Text.contains equation "sum(" = true := by
  cases split : splitSum equation.toList with
  | error fault =>
    rw [codeOf, split] at coded
    cases coded
  | ok pieces =>
    obtain ⟨inner, rest⟩ := pieces
    obtain rfl := Except.ok.inj ((outcome_codeOf split names).symm.trans coded)
    rw [splitSum] at split
    split at split
    · cases split
      exact absurd rfl totals
    · next found => exact hasPart_of_splitAtPart? found

/-- The end of the line that adds a value to a running total. -/
def totalEnd : List Char := ['[', '0', ']', ')', ';']

/-- The code of a series adds up a running total only if its equation calls for one. -/
theorem callsSum_of_totalCall {tables : Tables} {loaded : List Variable} {chart : Chart}
    {series : Series} {added : Added}
    (emitted : (computed tables loaded chart series).outcome = .ok (some added))
    {value first : String} (member : totalCall value first ∈ added.lines) :
    added.callsSum = true := by
  have adds : hasEnd totalEnd (totalCall value first) = true :=
    hasEnd_append (hasEnd_ofList rfl) _
  rcases computed_cases emitted with ⟨_, rfl⟩ | ⟨_, _, rfl⟩ |
    ⟨equation, used, names, code, _, _, _, coded, rfl⟩
  · refine absurd member (not_mem_of_lacks ?_ adds)
    simp (disch := exact endsApart_ofList rfl) only [columnRangeLines, lacks_cons, lacks_nil,
      hasEnd_append_of_apart, and_self]
  · cases member
  · refine contains_of_sum? coded fun noTotal => ?_
    rw [noTotal] at member
    refine not_mem_of_lacks ?_ adds member
    simp (disch := exact endsApart_ofList rfl) only [totalLines, arrayLines, List.nil_append,
      lacks_cons, lacks_nil, hasEnd_append_of_apart, true_and, and_true]
    exact hasEnd_ofList rfl

/-- Running totals are called for by the equations that a page has code for. -/
theorem callsSum_iff_of_addedSeries {site : Site} {loaded : List Variable} {chart : Chart}
    {series : Series} {part : Added}
    (written : (addedSeries site loaded chart series).outcome = .ok part) :
    part.callsSum = true ↔ ∃ equation, series.graphType ≠ "columnrange" ∧
      series.equation = some equation ∧
      (∃ added, (computed site.tables loaded chart series).outcome = .ok (some added)) ∧
      Text.contains equation "sum(" = true := by
  obtain ⟨found, emitted, written⟩ := Report.outcome_bind_eq_ok_iff.1 written
  cases found with
  | none =>
    obtain rfl := Except.ok.inj written
    refine iff_of_false Bool.false_ne_true ?_
    rintro ⟨_, _, _, ⟨added, emitted'⟩, _⟩
    cases emitted.symm.trans emitted'
  | some added =>
    obtain ⟨lines, _, same⟩ := Report.outcome_bind_eq_ok_iff.1 written
    obtain rfl := Except.ok.inj same
    rcases computed_cases emitted with ⟨columns, rfl⟩ | ⟨_, plain, rfl⟩ |
      ⟨equation, used, names, code, noColumns, isEquation, _, coded, rfl⟩
    · exact iff_of_false Bool.false_ne_true fun ⟨_, noColumns, _⟩ => noColumns columns
    · refine iff_of_false Bool.false_ne_true ?_
      rintro ⟨_, _, isEquation, _⟩
      cases plain.symm.trans isEquation
    · constructor
      · exact fun calls => ⟨equation, noColumns, isEquation, ⟨_, emitted⟩, calls⟩
      · rintro ⟨other, _, same, _, calls⟩
        cases isEquation.symm.trans same
        exact calls

theorem callsSum_iff_of_chartLines {generator : Generator} {loaded : List Variable} {chart : Chart}
    {part : List String × Added}
    (written : (chartLines generator loaded chart).outcome = .ok part) :
    part.2.callsSum = true ↔ ∃ series ∈ chart.series, ∃ equation,
      series.graphType ≠ "columnrange" ∧ series.equation = some equation ∧
      (∃ added, (computed generator.site.tables loaded chart series).outcome = .ok (some added)) ∧
      Text.contains equation "sum(" = true := by
  obtain ⟨drawing, _, written⟩ := Report.outcome_bind_eq_ok_iff.1 written
  obtain ⟨adding, added, same⟩ := Report.outcome_bind_eq_ok_iff.1 written
  obtain rfl := Except.ok.inj same
  obtain ⟨parts, each, added⟩ := Report.outcome_bind_eq_ok_iff.1 added
  obtain ⟨barbs, _, same⟩ := Report.outcome_bind_eq_ok_iff.1 added
  obtain rfl := Except.ok.inj same
  rw [Report.outcome_mapM] at each
  rw [List.any_eq_true]
  constructor
  · rintro ⟨part, inParts, calls⟩
    obtain ⟨series, member, here⟩ := (Log.values_of_mapM each).2 part inParts
    exact ⟨series, member, (callsSum_iff_of_addedSeries here).1 calls⟩
  · rintro ⟨series, member, equation⟩
    obtain ⟨part, inParts, here⟩ := (Log.values_of_mapM each).1 series member
    exact ⟨part, inParts, (callsSum_iff_of_addedSeries here).2 equation⟩

theorem callsSum_iff {generator : Generator} {charts : List Chart} {number : String}
    {contents : Contents} (made : IsMade generator charts number contents) :
    contents.callsSum = true ↔ ∃ equation, IsEmitted generator charts contents equation ∧
      Text.contains equation "sum(" = true := by
  rw [Contents.callsSum, List.any_eq_true]
  constructor
  · rintro ⟨part, inParts, calls⟩
    obtain ⟨chart, inCharts, here⟩ := made.exists_chart inParts
    obtain ⟨series, member, equation, noColumns, isEquation, emitted, calls⟩ :=
      (callsSum_iff_of_chartLines here).1 calls
    exact ⟨equation, ⟨chart, inCharts, series, member, noColumns, isEquation, emitted⟩, calls⟩
  · rintro ⟨equation, ⟨chart, inCharts, series, member, noColumns, isEquation, emitted⟩, calls⟩
    obtain ⟨part, inParts, here⟩ := made.exists_part inCharts
    exact ⟨part, inParts, (callsSum_iff_of_chartLines here).2
      ⟨series, member, equation, noColumns, isEquation, emitted, calls⟩⟩

/-! ## Functions that are defined -/

theorem isDefined_of_mem {lines : List String} {name back rest : String}
    (member : "function " ++ name ++ back ∈ lines) (opens : back = "(" ++ rest) :
    IsDefined lines name := by
  refine ⟨_, member, rest, ?_⟩
  rw [opens, ← String.append_assoc]

theorem eq_of_around {front back first second : String}
    (same : front ++ first ++ back = front ++ second ++ back) : first = second := by
  rw [← String.toList_inj] at same
  simp only [String.toList_append, List.append_cancel_left_eq, List.append_cancel_right_eq] at same
  exact String.toList_inj.1 same

/-- The line that opens the function for running totals is on the page once if some equation
calls the function, and not at all otherwise. -/
theorem count_sumHead {generator : Generator} {charts : List Chart} {number : String}
    {contents : Contents} (made : IsMade generator charts number contents) (filename : String) :
    (contents.lines generator.options charts filename number).count sumHead =
      if contents.callsSum then 1 else 0 := by
  have opens : opensFunction sumHead = true := opensFunction_ofList rfl
  -- Of all lines that open functions, only this one ends with a bracket.
  have bracket : hasEnd [')'] sumHead = true := hasEnd_ofList rfl
  obtain ⟨factors, _, heads⟩ := opened_lines made filename
  have atStart : Lacks (hasEnd [')']) ([menuHead number, startHead generator.panels number] ++
      factors.map windFactorLine ++ [configHead]) := by
    refine lacks_append.2 ⟨lacks_append.2 ⟨?_, ?_⟩, lacks_cons.2 ⟨hasEnd_ofList rfl, lacks_nil⟩⟩
    · exact lacks_cons.2 ⟨hasEnd_append_of_apart (endsApart_ofList rfl) _,
        lacks_cons.2 ⟨hasEnd_append_of_apart (endsApart_ofList rfl) _, lacks_nil⟩⟩
    · exact List.forall_mem_map.2 fun factor _ => hasEnd_append_of_apart (endsApart_ofList rfl) _
  have loaders : Lacks (hasEnd [')']) ((datafilesOf contents.loaded).map loaderHead) :=
    List.forall_mem_map.2 fun datafile _ => hasEnd_append_of_apart (endsApart_ofList rfl) _
  have barbs :
      Lacks (hasEnd [')']) (if charts.any Chart.hasWindBarbs then [barbsHead] else []) := by
    split
    · exact lacks_cons.2 ⟨hasEnd_ofList rfl, lacks_nil⟩
    · exact lacks_nil
  have adding : Lacks (hasEnd [')']) (charts.map addingHead) :=
    List.forall_mem_map.2 fun chart _ => hasEnd_append_of_apart (endsApart_ofList rfl) _
  have drawing : Lacks (hasEnd [')']) (charts.map drawingHead) :=
    List.forall_mem_map.2 fun chart _ => hasEnd_append_of_apart (endsApart_ofList rfl) _
  have other : ∀ {lines}, Lacks (hasEnd [')']) lines → lines.count sumHead = 0 :=
    fun lacks => List.count_eq_zero.2 (not_mem_of_lacks lacks bracket)
  rw [← List.count_filter opens, ← opened, heads, List.count_append, List.count_append,
    List.count_append, List.count_append, List.count_append, other atStart, other loaders,
    other barbs, other adding, other drawing]
  split
  · rw [List.count_singleton_self]
  · rw [List.count_nil]

/-- The functions that a page defines, by what they are for. -/
structure DefinesFunctions (charts : List Chart) (contents : Contents) (lines : List String) :
    Prop where
  drawing : ∀ chart ∈ charts, IsDefined lines (drawingName chart)
  adding : ∀ chart ∈ charts, IsDefined lines (seriesName chart)
  config : IsDefined lines "GraphconfigAjax"
  loading : ∀ datafile ∈ datafilesOf contents.loaded, IsDefined lines (loaderName datafile)
  windBarbs : charts.any Chart.hasWindBarbs = true → IsDefined lines "WindBarbsAjax"
  converting : charts.any Chart.hasWindBarbs = true → IsDefined lines "convertToMs"
  sum : contents.callsSum = true → IsDefined lines "sum"

theorem definesFunctions_of_isMade {generator : Generator} {charts : List Chart} {number : String}
    {contents : Contents} (made : IsMade generator charts number contents) (filename : String) :
    DefinesFunctions charts contents
      (contents.lines generator.options charts filename number) := by
  obtain ⟨factors, count, heads⟩ := opened_lines made filename
  generalize contents.lines generator.options charts filename number = lines at heads
  have isOpened : ∀ line, line ∈ opened lines → line ∈ lines :=
    fun _ => List.mem_of_mem_filter
  refine ⟨?drawing, ?adding, ?config, ?loading, ?windBarbs, ?converting, ?sum⟩
  case drawing =>
    intro chart member
    have parameters : "() \x7b" = "(" ++ ") \x7b" := by
      decide
    refine isDefined_of_mem (isOpened (drawingHead chart) ?_) parameters
    rw [heads]
    exact List.mem_append_right _ (List.mem_map_of_mem member)
  case adding =>
    intro chart member
    have parameters : "(thisChart)\x7b" = "(" ++ "thisChart)\x7b" := by
      decide
    refine isDefined_of_mem (isOpened (addingHead chart) ?_) parameters
    rw [heads]
    exact List.mem_append_left _ (List.mem_append_right _ (List.mem_map_of_mem member))
  case config =>
    refine ⟨configHead, isOpened _ ?_, ")\x7b", by decide⟩
    rw [heads]
    iterate 5 refine List.mem_append_left _ ?_
    exact List.mem_append_right _ List.mem_cons_self
  case loading =>
    intro datafile member
    have parameters : "()\x7b" = "(" ++ ")\x7b" := by
      decide
    refine isDefined_of_mem (isOpened (loaderHead datafile) ?_) parameters
    rw [heads]
    iterate 3 refine List.mem_append_left _ ?_
    exact List.mem_append_right _ (List.mem_map_of_mem member)
  case windBarbs =>
    intro drawn
    refine ⟨barbsHead, isOpened _ ?_, ") \x7b", by decide⟩
    rw [heads, if_pos drawn]
    iterate 2 refine List.mem_append_left _ ?_
    exact List.mem_append_right _ List.mem_cons_self
  case converting =>
    intro drawn
    rw [if_pos drawn] at count
    obtain ⟨factor, rfl⟩ := List.length_eq_one_iff.1 count
    have head : "function convertToMs(data) \x7b" =
        "function " ++ "convertToMs" ++ "(" ++ "data) \x7b" := by
      decide
    refine ⟨windFactorLine factor, isOpened _ ?_, ?_⟩
    · rw [heads]
      iterate 6 refine List.mem_append_left _ ?_
      exact List.mem_append_right _ List.mem_cons_self
    · unfold windFactorLine
      rw [head]
      iterate 6 rw [@String.append_assoc ("function " ++ "convertToMs" ++ "(")]
      exact ⟨_, rfl⟩
  case sum =>
    intro calls
    refine ⟨sumHead, isOpened _ ?_, " curVal, valArray, curIndex, thisEpochDate)", by decide⟩
    rw [heads, if_pos calls]
    iterate 4 refine List.mem_append_left _ ?_
    exact List.mem_append_right _ List.mem_cons_self

/-- A line that loads data calls for the station's own settings, a data file or the wind barbs. -/
theorem mem_startPart_of_call {generator : Generator} {loaded : List Variable} {first : Chart}
    {charts : List Chart} {number : String} {lines : List String}
    (written : startPart generator loaded first charts number = .ok lines) {name : String}
    (called : loadingStart name ∈ lines ∨ loadingCall name ∈ lines) :
    name = "GraphconfigAjax" ∨ (∃ datafile ∈ datafilesOf loaded, name = loaderName datafile) ∨
      (charts.any Chart.hasWindBarbs = true ∧ name = "WindBarbsAjax") := by
  have found : loadingStart name = loadingStart "GraphconfigAjax" ∨
      loadingCall name ∈
        (datafilesOf loaded).map (fun datafile => loadingCall (loaderName datafile)) ∨
      loadingCall name ∈
        if charts.any Chart.hasWindBarbs then [loadingCall "WindBarbsAjax"] else [] := by
    rcases called with member | member
    · have found := mem_of_filter (filter_startPart written) (hasEnd_loadingStart name) member
      refine .inl ((List.mem_cons.1 found).resolve_right fun others => ?_)
      rcases List.mem_append.1 others with file | barbs
      · obtain ⟨datafile, _, same⟩ := List.mem_map.1 file
        exact loadingStart_ne_loadingCall _ _ same.symm
      · split at barbs
        · exact loadingStart_ne_loadingCall _ _ (List.mem_singleton.1 barbs)
        · cases barbs
    · have found := mem_of_filter (filter_startPart written) (hasEnd_loadingCall name) member
      exact .inr (List.mem_append.1 ((List.mem_cons.1 found).resolve_left fun same =>
        loadingStart_ne_loadingCall _ _ same.symm))
  rcases found with config | file | barbs
  · exact .inl (eq_of_around config)
  · obtain ⟨datafile, listed, same⟩ := List.mem_map.1 file
    exact .inr (.inl ⟨datafile, listed, (eq_of_around same).symm⟩)
  · split at barbs
    · next drawn => exact .inr (.inr ⟨drawn, eq_of_around (List.mem_singleton.1 barbs)⟩)
    · cases barbs

/-- The parts of a page call functions of the page only. -/
theorem definesItsCalls_of_isMade {generator : Generator} {charts : List Chart} {number : String}
    {contents : Contents} (made : IsMade generator charts number contents) (filename : String) :
    DefinesItsCalls generator charts contents filename number
      (contents.lines generator.options charts filename number) := by
  have defined := definesFunctions_of_isMade made filename
  have count := count_sumHead made filename
  have calls := callsSum_iff made
  have inLines : contents.start ++ contents.sumLines <:+:
      contents.lines generator.options charts filename number := by
    have inScript : contents.start ++ contents.sumLines ∈ contents.script charts filename number :=
      List.mem_cons_of_mem _ List.mem_cons_self
    exact (infix_scriptLines inScript).trans (List.infix_append _ _ _)
  generalize contents.lines generator.options charts filename number = lines at *
  refine ⟨?menu, ?drawing, ?loading, ?windBarbs, ?total, ?sum, ?noSum⟩
  case menu =>
    rintro name (member | member)
    · have only := filter_menuLines_choice filename number contents.first charts
      obtain ⟨chart, inCharts, same⟩ :=
        List.mem_map.1 (mem_of_filter only (hasEnd_choiceCall name) member)
      exact eq_of_around same ▸ defined.drawing chart inCharts
    · have only := filter_menuLines_first filename number contents.first charts
      have found := mem_of_filter only (isFirstCall_firstCall name) member
      exact eq_of_around (List.mem_singleton.1 found) ▸
        defined.drawing contents.first (List.mem_of_head? made.first)
  case drawing =>
    intro part inParts name member
    obtain ⟨chart, inCharts, here⟩ := made.exists_chart inParts
    have only := filter_drawingLines (drawn_and_added here).1
    have found := mem_of_filter only (hasEnd_seriesCall name) member
    exact eq_of_around (List.mem_singleton.1 found) ▸ defined.adding chart inCharts
  case loading =>
    intro name called
    rcases mem_startPart_of_call made.start called with rfl | ⟨datafile, listed, rfl⟩ | ⟨drawn, rfl⟩
    · exact defined.config
    · exact defined.loading datafile listed
    · exact defined.windBarbs drawn
  case windBarbs =>
    intro member
    have opens : opensFunction barbsHead = true := opensFunction_ofList rfl
    have found := List.mem_filter.2 ⟨member, opens⟩
    have others : barbsHead ∉ (datafilesOf contents.loaded).map loaderHead := by
      have ends : hasEnd [' ', '\x7b'] barbsHead = true := hasEnd_ofList rfl
      refine not_mem_of_lacks (List.forall_mem_map.2 fun datafile _ => ?_) ends
      exact hasEnd_append_of_apart (endsApart_ofList rfl) _
    rw [← opened, opened_loadersLines made.loaders, List.mem_append, or_iff_right others] at found
    split at found
    · next drawn => exact defined.converting drawn
    · cases found
  case total =>
    intro chart inCharts series member added emitted value first total
    have calling := callsSum_of_totalCall emitted total
    rcases computed_cases emitted with ⟨_, rfl⟩ | ⟨_, _, rfl⟩ |
      ⟨equation, _, _, _, noColumns, isEquation, _, _, rfl⟩
    · cases calling
    · cases calling
    · exact defined.sum (calls.2 ⟨equation,
        ⟨chart, inCharts, series, member, noColumns, isEquation, _, emitted⟩, calling⟩)
  case sum =>
    intro called
    rw [if_pos (calls.2 called)] at count
    refine ⟨?_, count⟩
    rw [Contents.sumLines, if_pos (calls.2 called)] at inLines
    exact (List.suffix_append _ _).isInfix.trans inLines
  case noSum =>
    intro none
    have notCalled : ¬contents.callsSum = true := by
      intro called
      obtain ⟨equation, emitted, calling⟩ := calls.1 called
      exact Bool.false_ne_true ((none equation emitted).symm.trans calling)
    rw [if_neg notCalled] at count
    exact List.count_eq_zero.1 count

/-- Each page of a run defines the functions that its menu, its start, the functions that draw
its charts and the code of its equations call, for any charts. The function for running totals
is written anew for each page: once if an equation with code on the page has the text of the
call, and not at all otherwise. -/
theorem pages_define_what_they_call (generator : Generator) (requests : List (Output × Int))
    {pages : List (Option String)}
    (generated : (requests.mapM fun request =>
      generate generator request.1.charts request.1.filename request.2).outcome = .ok pages) :
    List.Forall₂ (fun request page => ∀ text ∈ page, ∃ contents,
      IsMade generator request.1.charts (toString request.2) contents ∧
      text = textOfLines (contents.lines generator.options request.1.charts request.1.filename
        (toString request.2)) ∧
      DefinesItsCalls generator request.1.charts contents request.1.filename (toString request.2)
        (contents.lines generator.options request.1.charts request.1.filename
          (toString request.2))) requests pages := by
  rw [Report.outcome_mapM] at generated
  refine (forall₂_of_mapM generated).imp ?_
  rintro request _ here text rfl
  obtain ⟨contents, made, written⟩ := exists_contents_of_generate here
  exact ⟨contents, made, written, definesItsCalls_of_isMade made _⟩

/-- A chart of the running total of an equation. -/
def runningChart (id equation : String) : Chart where
  id := id
  series := [{ keyword := "Total", equation := some equation, range := .daily }]

/-- A page with two running totals, one of which cannot be computed. -/
def firstTotals : Output where
  filename := "a.txt"
  charts := [runningChart "A" "sum(1)", runningChart "B" "sum(DayRain)"]

/-- A page with a single running total. -/
def secondTotals : Output where
  filename := "b.txt"
  charts := [runningChart "C" "sum(DayEVT)"]

/-- Both pages have the function for running totals, once each. -/
theorem totals_are_defined_on_each_page : ∃ first second,
    ([(firstTotals, 0), (secondTotals, 1)].mapM fun request =>
      generate plainGenerator request.1.charts request.1.filename request.2).outcome =
        .ok [some (textOfLines first), some (textOfLines second)] ∧
    first.count sumHead = 1 ∧ second.count sumHead = 1 := by
  have written : ((generate plainGenerator firstTotals.charts firstTotals.filename
      0).outcome.toOption.bind id).isSome = true := by
    decide
  have written' : ((generate plainGenerator secondTotals.charts secondTotals.filename
      1).outcome.toOption.bind id).isSome = true := by
    decide
  obtain ⟨first, firstFound⟩ := exists_ok_of_isSome written
  obtain ⟨second, secondFound⟩ := exists_ok_of_isSome written'
  have generated : ([(firstTotals, 0), (secondTotals, 1)].mapM fun request =>
      generate plainGenerator request.1.charts request.1.filename request.2).outcome =
        .ok [some first, some second] := by
    rw [Report.outcome_mapM, List.mapM_cons, List.mapM_cons, firstFound, secondFound]
    rfl
  obtain ⟨firstPage, others⟩ := List.forall₂_cons.1 (pages_define_what_they_call _ _ generated)
  obtain ⟨secondPage, _⟩ := List.forall₂_cons.1 others
  obtain ⟨contents, made, rfl, calls⟩ := firstPage first rfl
  obtain ⟨contents', made', rfl, calls'⟩ := secondPage second rfl
  have emitted : IsEmitted plainGenerator firstTotals.charts contents "sum(DayRain)" := by
    have loaded : (variablesOf plainGenerator.site.tables firstTotals.charts).outcome =
        .ok (some [⟨"DayRain", "rain", "alldailyraindata.json"⟩]) := by
      decide
    refine ⟨runningChart "B" "sum(DayRain)", List.mem_cons_of_mem _ List.mem_cons_self, _,
      List.mem_cons_self, by decide, rfl, ?_⟩
    rw [Option.some.inj (Except.ok.inj (made.loaded.symm.trans loaded))]
    exact ⟨_, rfl⟩
  have emitted' : IsEmitted plainGenerator secondTotals.charts contents' "sum(DayEVT)" := by
    have loaded : (variablesOf plainGenerator.site.tables secondTotals.charts).outcome =
        .ok (some [⟨"DayEVT", "evapotranspiration", "CUserdataALL.json"⟩]) := by
      decide
    refine ⟨runningChart "C" "sum(DayEVT)", List.mem_cons_self, _, List.mem_cons_self, by decide,
      rfl, ?_⟩
    rw [Option.some.inj (Except.ok.inj (made'.loaded.symm.trans loaded))]
    exact ⟨_, rfl⟩
  exact ⟨_, _, generated, (calls.sum ⟨_, emitted, by decide⟩).2,
    (calls'.sum ⟨_, emitted', by decide⟩).2⟩

end Meteogram.Page
