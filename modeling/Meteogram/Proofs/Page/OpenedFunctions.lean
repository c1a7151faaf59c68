import Meteogram.Proofs.Page.Contents

/-!
# The functions of a page

The script of a page is a list of functions. Which ones these are can be told from the lines
that open them: all other lines start with something else, or empty the array of an equation.
So the lines that open functions are known exactly (`opened_lines`), in their order, whatever
the charts are called and whatever their texts say.
-/

set_option autoImplicit false

namespace Meteogram.Page

open Equation
open Station (Settings)

/-! ## Lines that open functions -/

/-- What a line starts with that opens a function. -/
def functionStart : List Char :=
  ['f', 'u', 'n', 'c', 't', 'i', 'o', 'n', ' ']

/-- The end of the line that empties the array of an equation. -/
def emptiedEnd : List Char :=
  ['=', '0', ';']

/-- The line opens a function. The line that empties the array of an equation starts with the
name of the equation, and this may be anything. -/
def opensFunction (line : String) : Bool :=
  hasStart functionStart line && !hasEnd emptiedEnd line

/-- A line opens a function if it starts so and does not stop like an emptied array. -/
theorem opensFunction_append {front back : String} (starts : hasStart functionStart front = true)
    (ends : endsApart emptiedEnd back = true) : opensFunction (front ++ back) = true := by
  rw [opensFunction, hasStart_append starts, hasEnd_append_of_apart ends, Bool.not_false,
    Bool.true_and]

theorem opensFunction_of_apart {front : String} (apart : startsApart functionStart front = true)
    (rest : String) : opensFunction (front ++ rest) = false := by
  rw [opensFunction, hasStart_append_of_apart apart, Bool.false_and]

theorem opensFunction_ofList {cs : List Char} {opens : Bool}
    (found : (functionStart.isPrefixOf cs && !emptiedEnd.reverse.isPrefixOf cs.reverse) = opens) :
    opensFunction (String.ofList cs) = opens := by
  rwa [opensFunction, hasStart, hasEnd, String.toList_ofList]

theorem opensFunction_emptied (keyword : String) :
    opensFunction (keyword ++ ".length=0;") = false := by
  have ends : hasEnd emptiedEnd ".length=0;" = true := by
    decide
  rw [opensFunction, hasEnd_append ends, Bool.not_true, Bool.and_false]

/-- The lines that open functions. -/
def opened (lines : List String) : List String :=
  lines.filter opensFunction

theorem opened_eq_nil {lines : List String} (lacks : Lacks opensFunction lines) :
    opened lines = [] :=
  lacks.filter

theorem opened_append (first second : List String) :
    opened (first ++ second) = opened first ++ opened second :=
  List.filter_append _ _

/-- If each element gives lines of which one opens a function, the lines of all elements open
these functions. -/
theorem opened_flatMap_of_mapM {ε α β : Type} {write : α → Except ε β} {lines : β → List String}
    {head : α → String} (opens : ∀ a b, write a = .ok b → opened (lines b) = [head a])
    {list : List α} {results : List β} (each : list.mapM write = .ok results) :
    opened (results.flatMap lines) = list.map head := by
  rw [opened, List.map_eq_flatMap]
  exact filter_flatMap_of_mapM opens each

/-! ## The frame of a page -/

theorem opensNone_headerLines : Lacks opensFunction headerLines := by
  simp (disch := exact startsApart_ofList rfl) only [headerLines, lacks_cons, lacks_nil,
    opensFunction_of_apart, true_and, and_true]
  and_intros <;> exact opensFunction_ofList rfl

theorem opensNone_styleLines : Lacks opensFunction styleLines := by
  simp only [styleLines, lacks_cons, lacks_nil, and_true]
  and_intros <;> exact opensFunction_ofList rfl

theorem opensNone_libraryLines (options : Options) (info : Bool) :
    Lacks opensFunction (libraryLines options info) := by
  have queries : opensFunction queryLibraryLine = false := opensFunction_ofList rfl
  have infos : opensFunction infoLibraryLine = false := by
    unfold infoLibraryLine
    rewrite [String.append_assoc, String.append_assoc]
    exact opensFunction_of_apart (startsApart_ofList rfl) _
  have charts : Lacks opensFunction (chartLibraryLines chartLibraryVersion options.boost) := by
    generalize chartLibraryVersion = version
    unfold chartLibraryLines
    split_ifs <;> simp (disch := exact startsApart_ofList rfl) only [List.map_cons, List.map_nil,
      lacks_append, lacks_cons, lacks_nil, String.append_assoc, opensFunction_of_apart,
      true_and, and_true]
    all_goals exact ⟨opensFunction_ofList rfl, opensFunction_ofList rfl⟩
  rw [libraryLines]
  split_ifs <;> simp only [lacks_append, lacks_cons, lacks_nil, queries, infos, charts,
    and_self]

theorem opensNone_topLines (options : Options) (charts : List Chart) (number : String) :
    Lacks opensFunction (Contents.topLines options charts number) := by
  simp (disch := exact startsApart_ofList rfl) only [Contents.topLines, lacks_append,
    lacks_cons, lacks_nil, opensNone_headerLines, opensNone_libraryLines,
    opensNone_styleLines, String.append_assoc, opensFunction_of_apart, true_and, and_true]
  exact opensFunction_ofList rfl

theorem opensNone_optionLines (charts : List Chart) : Lacks opensFunction (optionLines charts) := by
  have each : ∀ chart first, opensFunction (optionLine chart first) = false := by
    intro chart first
    unfold optionLine
    simp (disch := exact startsApart_ofList rfl) only [String.append_assoc, opensFunction_of_apart]
  cases charts with
  | nil => exact lacks_nil
  | cons first rest =>
    rw [optionLines, lacks_cons]
    exact ⟨each first true, List.forall_mem_map.2 fun chart _ => each chart false⟩

theorem opensNone_middleLines (contents : Contents) : Lacks opensFunction contents.middleLines := by
  simp (disch := exact startsApart_ofList rfl) only [Contents.middleLines, lacks_cons,
    lacks_nil, String.append_assoc, opensFunction_of_apart, true_and, and_true]
  and_intros <;> exact opensFunction_ofList rfl

theorem opensFunction_infoText {settings : Settings} {options : Options} {chart : Chart}
    {line : String} (written : infoText settings options chart = .ok line) :
    opensFunction line = false := by
  rw [infoText] at written
  split at written
  · obtain rfl := Except.ok.inj written
    simp (disch := exact startsApart_ofList rfl) only [String.append_assoc, opensFunction_of_apart]
  · obtain ⟨close, _, same⟩ := bind_eq_ok.1 written
    obtain rfl := Except.ok.inj same
    simp (disch := exact startsApart_ofList rfl) only [String.append_assoc, opensFunction_of_apart]

/-- The script opens the functions of its parts. -/
theorem opened_scriptLines (parts : List (List String)) :
    opened (scriptLines parts) = parts.flatMap opened := by
  have blank : Lacks opensFunction [""] := lacks_cons.2 ⟨opensFunction_ofList rfl, lacks_nil⟩
  have opens : Lacks opensFunction ["<script>"] :=
    lacks_cons.2 ⟨opensFunction_ofList rfl, lacks_nil⟩
  have closes : Lacks opensFunction ["</script>"] :=
    lacks_cons.2 ⟨opensFunction_ofList rfl, lacks_nil⟩
  rw [scriptLines, opened_append, opened_append, opened_eq_nil opens, opened_eq_nil closes,
    List.nil_append, List.append_nil, opened, List.filter_flatMap]
  refine List.flatMap_congr fun part _ => ?_
  rw [← opened, opened_append, opened_eq_nil blank, List.append_nil]

/-! ## The menu -/

theorem opensNone_choiceLines (filename : String) (chart : Chart) :
    Lacks opensFunction (choiceLines filename chart) := by
  have kind : Lacks opensFunction (kindLines chart) := by
    rw [kindLines]
    split_ifs <;> simp (disch := exact startsApart_ofList rfl) only [lacks_cons, lacks_nil,
      String.append_assoc, opensFunction_of_apart, true_and, and_true]
    all_goals exact ⟨opensFunction_ofList rfl, opensFunction_ofList rfl⟩
  rw [choiceLines]
  split_ifs <;> simp (disch := exact startsApart_ofList rfl) only [lacks_append, lacks_cons,
    lacks_nil, String.append_assoc, opensFunction_of_apart, kind, true_and, and_true]
  all_goals exact opensFunction_ofList rfl

/-- The line that opens the function of the menu. -/
def menuHead (number : String) : String :=
  "function handleChange" ++ number ++ "() \x7b"

theorem opened_menuLines (filename number : String) (first : Chart) (charts : List Chart) :
    opened (menuLines filename number first charts) = [menuHead number] := by
  have choices : Lacks opensFunction (charts.flatMap (choiceLines filename)) :=
    lacks_flatMap.2 fun chart _ => opensNone_choiceLines filename chart
  have opens : opensFunction (menuHead number) = true :=
    opensFunction_append (hasStart_append (hasStart_ofList rfl) number) (endsApart_ofList rfl)
  refine filter_of_getElem? (n := 4) ?_ rfl opens ?_
  · simp (disch := exact startsApart_ofList rfl) only [menuLines, List.cons_append,
      List.take_succ_cons, List.take_zero, lacks_cons, lacks_nil, String.append_assoc,
      opensFunction_of_apart, true_and, and_true]
    exact opensFunction_ofList rfl
  · rw [menuLines]
    split_ifs <;> simp (disch := exact startsApart_ofList rfl) only [List.cons_append,
      List.nil_append, List.drop_succ_cons, List.drop_zero, lacks_append, lacks_cons,
      lacks_nil, String.append_assoc, opensFunction_of_apart, choices, true_and, and_true]
    all_goals and_intros <;> exact opensFunction_ofList rfl

/-! ## The start -/

theorem opensNone_declarationLines (loaded : List Variable) (equations : List String) :
    Lacks opensFunction (declarationLines loaded equations) := by
  rw [declarationLines, lacks_append]
  constructor
  · refine List.forall_mem_map.2 fun name _ => ?_
    rw [declarationLine, String.append_assoc]
    exact opensFunction_of_apart (startsApart_ofList rfl) _
  · exact List.forall_mem_singleton.2 (opensFunction_ofList rfl)

/-- The line that opens the function that starts a page. -/
def startHead (panels : List String) (number : String) : String :=
  "function InitCumulusCharts" ++ number ++ "() \x7b  ChartsType = 'compiler';" ++
    "    ClickEventChart = [" ++
    String.intercalate "," (panels.map fun panel => "'" ++ panel ++ "'") ++ "];"

theorem opened_startLines (first : String) (panels datafiles : List String) (windBarbs : Bool)
    (number : String) :
    opened (startLines first panels datafiles windBarbs number) = [startHead panels number] := by
  have opens : opensFunction (startHead panels number) = true := by
    refine opensFunction_append ?_ (endsApart_ofList rfl)
    iterate 4 refine hasStart_append ?_ _
    exact hasStart_ofList rfl
  have calls :
      Lacks opensFunction (datafiles.map fun datafile => ", " ++ (loaderName datafile ++ "()")) :=
    List.forall_mem_map.2 fun datafile _ => opensFunction_of_apart (startsApart_ofList rfl) _
  refine filter_of_getElem? (n := 4) ?_ rfl opens ?_
  · simp (disch := exact startsApart_ofList rfl) only [startLines, List.cons_append,
      List.take_succ_cons, List.take_zero, lacks_cons, lacks_nil, String.append_assoc,
      opensFunction_of_apart, true_and, and_true]
    and_intros <;> exact opensFunction_ofList rfl
  · rw [startLines]
    split_ifs <;> simp (disch := exact startsApart_ofList rfl) only [List.cons_append,
      List.nil_append, List.drop_succ_cons, List.drop_zero, lacks_append, lacks_cons,
      lacks_nil, String.append_assoc, opensFunction_of_apart, calls, true_and, and_true]
    all_goals and_intros <;> exact opensFunction_ofList rfl

theorem opensFunction_windFactorLine (factor : String) :
    opensFunction (windFactorLine factor) = true := by
  refine opensFunction_append ?_ (endsApart_ofList rfl)
  iterate 5 refine hasStart_append ?_ _
  exact hasStart_ofList rfl

/-- The line that opens the function that loads the station's own settings. -/
def configHead : String := "function GraphconfigAjax()\x7b"

theorem opened_stationLines (location : String) :
    opened (stationLines location) = [configHead] := by
  refine filter_of_getElem? (n := 4) ?_ rfl (opensFunction_ofList rfl) ?_
  · simp only [stationLines, List.take_succ_cons, List.take_zero, lacks_cons, lacks_nil,
      and_true]
    and_intros <;> exact opensFunction_ofList rfl
  · simp (disch := exact startsApart_ofList rfl) only [stationLines, List.drop_succ_cons,
      List.drop_zero, lacks_cons, lacks_nil, String.append_assoc, opensFunction_of_apart,
      true_and, and_true]
    and_intros <;> exact opensFunction_ofList rfl

theorem opened_startPart {generator : Generator} {loaded : List Variable} {first : Chart}
    {charts : List Chart} {number : String} {lines : List String}
    (written : startPart generator loaded first charts number = .ok lines) :
    ∃ factors : List String,
      factors.length = (if charts.any Chart.hasWindBarbs then 1 else 0) ∧
      opened lines =
        startHead generator.panels number :: (factors.map windFactorLine ++ [configHead]) := by
  obtain ⟨factors, location, count, rfl⟩ := exists_startPart written
  have converts : opened (factors.map windFactorLine) = factors.map windFactorLine :=
    List.filter_eq_self.2
      (List.forall_mem_map.2 fun factor _ => opensFunction_windFactorLine factor)
  refine ⟨factors, count, ?_⟩
  rw [opened_append, opened_append, opened_append, opened_eq_nil (opensNone_declarationLines _ _),
    opened_startLines, converts, opened_stationLines, List.nil_append, List.append_assoc,
    List.singleton_append]

/-! ## The loading of data -/

/-- The line that opens the function of a data file. -/
def loaderHead (datafile : String) : String :=
  "function " ++ loaderName datafile ++ "()\x7b"

/-- The line that opens the function of the wind barbs. -/
def barbsHead : String := "function WindBarbsAjax() \x7b"

theorem opensNone_fillLines (item : Variable) : Lacks opensFunction (fillLines item) := by
  simp (disch := exact startsApart_ofList rfl) only [fillLines, lacks_cons, lacks_nil,
    String.append_assoc, opensFunction_of_apart, and_self]

theorem opened_loaderLines {options : Options} {loaded : List Variable} {datafile : String}
    {lines : List String} (written : loaderLines options loaded datafile = .ok lines) :
    opened lines = [loaderHead datafile] := by
  obtain ⟨location, _, same⟩ := bind_eq_ok.1 written
  obtain rfl := Except.ok.inj same
  have opens : opensFunction (loaderHead datafile) = true :=
    opensFunction_append (hasStart_append (hasStart_ofList rfl) _) (endsApart_ofList rfl)
  generalize (loaded.filter fun item => item.datafile == datafile) = own
  have empties : Lacks opensFunction (own.map fun item => "  " ++ (item.name ++ ".length = 0;")) :=
    List.forall_mem_map.2 fun item _ => opensFunction_of_apart (startsApart_ofList rfl) _
  have fills : Lacks opensFunction (own.flatMap fillLines) :=
    lacks_flatMap.2 fun item _ => opensNone_fillLines item
  simp only [List.cons_append, List.nil_append, List.append_assoc]
  refine filter_cons_of_lacks opens ?_
  simp (disch := exact startsApart_ofList rfl) only [lacks_append, lacks_cons,
    lacks_nil, String.append_assoc, opensFunction_of_apart, empties, fills, true_and, and_true]
  and_intros <;> exact opensFunction_ofList rfl

theorem opened_windBarbLoaderLines (location : String) :
    opened (windBarbLoaderLines location) = [barbsHead] := by
  refine filter_cons_of_lacks (opensFunction_ofList rfl) ?_
  simp (disch := exact startsApart_ofList rfl) only [lacks_cons,
    lacks_nil, String.append_assoc, opensFunction_of_apart, true_and, and_true]
  and_intros <;> exact opensFunction_ofList rfl

theorem opened_loadersLines {options : Options} {loaded : List Variable} {windBarbs : Bool}
    {lines : List String} (written : loadersLines options loaded windBarbs = .ok lines) :
    opened lines =
      (datafilesOf loaded).map loaderHead ++ (if windBarbs then [barbsHead] else []) := by
  obtain ⟨loaders, each, written⟩ := bind_eq_ok.1 written
  have heads : opened (loaders.flatMap id) = (datafilesOf loaded).map loaderHead :=
    opened_flatMap_of_mapM (fun datafile function => opened_loaderLines) each
  rw [List.flatMap_id] at heads
  cases windBarbs with
  | true =>
    obtain ⟨location, _, same⟩ := bind_eq_ok.1 written
    obtain rfl := Except.ok.inj same
    rw [opened_append, heads, opened_windBarbLoaderLines, if_pos rfl]
  | false =>
    obtain rfl := Except.ok.inj written
    rw [List.append_nil, heads, if_neg Bool.false_ne_true, List.append_nil]

/-! ## The adding of series -/

/-- The line that opens the page's own function for running totals. -/
def sumHead : String := "function sum( curVal, valArray, curIndex, thisEpochDate)"

theorem opened_sumFunctionLines : opened sumFunctionLines = [sumHead] := by
  refine filter_cons_of_lacks (opensFunction_ofList rfl) ?_
  simp only [lacks_cons, lacks_nil, and_true]
  and_intros <;> exact opensFunction_ofList rfl

theorem opensNone_columnRangeLines (series : Series) :
    Lacks opensFunction (columnRangeLines series) := by
  simp (disch := exact startsApart_ofList rfl) only [columnRangeLines, lacks_cons,
    lacks_nil, String.append_assoc, opensFunction_of_apart, and_self]

theorem opensNone_dataLines {settings : Settings} {series : Series} {lines : List String}
    (written : dataLines settings series = .ok lines) : Lacks opensFunction lines := by
  rw [dataLines] at written
  split_ifs at written
  all_goals
    obtain ⟨name, _, same⟩ := bind_eq_ok.1 written
    obtain rfl := Except.ok.inj same
    simp (disch := exact startsApart_ofList rfl) only [lacks_cons,
      lacks_nil, String.append_assoc, opensFunction_of_apart, true_and, and_true]
  exact opensFunction_ofList rfl

theorem opensNone_lookLines (chart : Chart) (series : Series) :
    Lacks opensFunction (lookLines chart series) := by
  rw [lookLines]
  split_ifs <;>
  simp (disch := exact startsApart_ofList rfl) only [lacks_append, lacks_cons,
    lacks_nil, String.append_assoc, opensFunction_of_apart, true_and, and_true]
  all_goals exact opensFunction_ofList rfl

theorem opensNone_seriesLines {settings : Settings} {chart : Chart} {series : Series}
    {lines : List String} (written : seriesLines settings chart series = .ok lines) :
    Lacks opensFunction lines := by
  obtain ⟨data, found, same⟩ := bind_eq_ok.1 written
  obtain rfl := Except.ok.inj same
  simp only [lacks_append, lacks_cons, lacks_nil, opensNone_dataLines found, opensNone_lookLines,
    and_true]
  and_intros <;> exact opensFunction_ofList rfl

theorem opensNone_windBarbLines {settings : Settings} {chart : Chart} {lines : List String}
    (written : windBarbLines settings chart = .ok lines) : Lacks opensFunction lines := by
  rw [windBarbLines] at written
  split at written
  · obtain ⟨factor, _, written⟩ := bind_eq_ok.1 written
    obtain ⟨name, _, written⟩ := bind_eq_ok.1 written
    obtain ⟨spacing, _, same⟩ := bind_eq_ok.1 written
    obtain rfl := Except.ok.inj same
    simp (disch := exact startsApart_ofList rfl) only [lacks_cons, lacks_nil,
      String.append_assoc, opensFunction_of_apart, true_and, and_true]
    and_intros <;> exact opensFunction_ofList rfl
  · obtain rfl := Except.ok.inj written
    exact lacks_nil

theorem opensNone_sumLines (first sum : String) : Lacks opensFunction (sumLines first sum) := by
  simp (disch := exact startsApart_ofList rfl) only [sumLines, lacks_cons, lacks_nil,
    String.append_assoc, opensFunction_of_apart, true_and, and_true]
  and_intros <;> exact opensFunction_ofList rfl

theorem opensNone_arrayLines (keyword first expression : String) :
    Lacks opensFunction (arrayLines keyword first expression) := by
  simp (disch := exact startsApart_ofList rfl) only [arrayLines, opensFunction_emptied,
    lacks_cons, lacks_nil, String.append_assoc, opensFunction_of_apart, true_and, and_true]
  exact opensFunction_ofList rfl

theorem opensNone_computed {tables : Tables} {loaded : List Variable} {chart : Chart}
    {series : Series} {added : Added}
    (emitted : (computed tables loaded chart series).outcome = .ok (some added)) :
    Lacks opensFunction added.lines := by
  rcases computed_cases emitted with ⟨_, rfl⟩ | ⟨_, _, rfl⟩ | ⟨_, first, _, code, _, _, _, _, rfl⟩
  · exact opensNone_columnRangeLines series
  · exact lacks_nil
  · refine lacks_append.2 ⟨?_, opensNone_arrayLines _ _ _⟩
    cases code.sum? with
    | none => exact lacks_nil
    | some inner => exact opensNone_sumLines _ _

theorem opensNone_addedSeries {site : Site} {loaded : List Variable} {chart : Chart}
    {series : Series} {added : Added}
    (emitted : (addedSeries site loaded chart series).outcome = .ok added) :
    Lacks opensFunction added.lines := by
  obtain ⟨found, emitted', written⟩ := Report.outcome_bind_eq_ok_iff.1 emitted
  cases found with
  | none =>
    obtain rfl := Except.ok.inj written
    exact lacks_nil
  | some code =>
    obtain ⟨lines, shown, same⟩ := Report.outcome_bind_eq_ok_iff.1 written
    obtain rfl := Except.ok.inj same
    exact lacks_append.2 ⟨opensNone_computed emitted', opensNone_seriesLines shown⟩

/-- The line that opens the function that adds the series of a chart. -/
def addingHead (chart : Chart) : String :=
  "function " ++ seriesName chart ++ "(thisChart)\x7b"

theorem opened_addingLines {site : Site} {loaded : List Variable} {chart : Chart} {adding : Added}
    (written : (addingLines site loaded chart).outcome = .ok adding) :
    opened adding.lines = [addingHead chart] := by
  obtain ⟨parts, each, written⟩ := Report.outcome_bind_eq_ok_iff.1 written
  obtain ⟨barbs, found, same⟩ := Report.outcome_bind_eq_ok_iff.1 written
  obtain rfl := Except.ok.inj same
  rw [Report.outcome_mapM] at each
  have series : Lacks opensFunction (parts.flatMap Added.lines) := by
    refine lacks_flatMap.2 fun part inParts => ?_
    obtain ⟨series, _, emitted⟩ := (Log.values_of_mapM each).2 part inParts
    exact opensNone_addedSeries emitted
  have opens : opensFunction (addingHead chart) = true :=
    opensFunction_append (hasStart_append (hasStart_ofList rfl) _) (endsApart_ofList rfl)
  refine filter_cons_of_lacks opens (lacks_append.2 ⟨lacks_append.2 ⟨series, ?_⟩, ?_⟩)
  · exact opensNone_windBarbLines found
  · exact lacks_cons.2 ⟨opensFunction_ofList rfl, lacks_nil⟩

/-! ## The drawing of charts -/

/-- The line that opens the function that draws a chart. -/
def drawingHead (chart : Chart) : String :=
  "function " ++ drawingName chart ++ "() \x7b"

theorem opensNone_timeAxisLines (chart : Chart) : Lacks opensFunction (timeAxisLines chart) := by
  rw [timeAxisLines]
  split_ifs <;> simp (disch := exact startsApart_ofList rfl) only [List.append_nil,
    List.cons_append, List.nil_append, lacks_cons, lacks_nil, String.append_assoc,
    opensFunction_of_apart, true_and, and_true]
  all_goals exact ⟨opensFunction_ofList rfl, opensFunction_ofList rfl⟩

theorem opensNone_plotLines {options : Options} {chart : Chart} {lines : List String}
    (written : plotLines options chart = .ok lines) : Lacks opensFunction lines := by
  rw [plotLines] at written
  split at written
  · split at written
    · cases written
    · obtain rfl := Except.ok.inj written
      split_ifs <;> simp (disch := exact startsApart_ofList rfl) only [lacks_cons,
        lacks_nil, String.append_assoc, opensFunction_of_apart, and_self]
  · obtain rfl := Except.ok.inj written
    simp (disch := exact startsApart_ofList rfl) only [lacks_cons, lacks_nil,
      String.append_assoc, opensFunction_of_apart, true_and, and_true]
    exact opensFunction_ofList rfl

theorem opensNone_rangeLines {settings : Settings} {chart : Chart} {lines : List String}
    (written : rangeLines settings chart = .ok lines) : Lacks opensFunction lines := by
  rw [rangeLines] at written
  dsimp only at written
  split at written
  · obtain ⟨hours?, _, written⟩ := bind_eq_ok.1 written
    cases hours? with
    | none => cases written
    | some hours =>
      obtain rfl := Except.ok.inj written
      split_ifs <;> simp (disch := exact startsApart_ofList rfl) only [List.append_nil,
        List.cons_append, List.nil_append, lacks_cons, lacks_nil, String.append_assoc,
        opensFunction_of_apart, true_and, and_true]
      all_goals and_intros <;> exact opensFunction_ofList rfl
  · obtain rfl := Except.ok.inj written
    simp (disch := exact startsApart_ofList rfl) only [lacks_cons, lacks_nil,
      String.append_assoc, opensFunction_of_apart, and_self]

theorem opensNone_infoLines {settings : Settings} {chart : Chart} {lines : List String}
    (written : infoLines settings chart = .ok lines) : Lacks opensFunction lines := by
  rw [infoLines] at written
  split at written
  · obtain rfl := Except.ok.inj written
    exact lacks_nil
  · obtain ⟨word, _, same⟩ := bind_eq_ok.1 written
    obtain rfl := Except.ok.inj same
    simp (disch := exact startsApart_ofList rfl) only [lacks_cons, lacks_nil,
      String.append_assoc, opensFunction_of_apart, true_and, and_true]
    and_intros <;> exact opensFunction_ofList rfl

theorem opensNone_axesLines {settings : Settings} {dayOfYear : Int} {chart : Chart}
    {lines : List String} (written : (axesLines settings dayOfYear chart).outcome = .ok lines) :
    Lacks opensFunction lines := by
  refine forall_mem_axesLines ?_ ?_ written
  · intro series axis opposite line drawn
    obtain ⟨sun, _, drawn⟩ := Report.outcome_bind_eq_ok_iff.1 drawn
    obtain ⟨title, _, drawn⟩ := Report.outcome_bind_eq_ok_iff.1 drawn
    obtain ⟨options, _, same⟩ := Report.outcome_bind_eq_ok_iff.1 drawn
    obtain rfl := Except.ok.inj same
    simp (disch := exact startsApart_ofList rfl) only [String.append_assoc, opensFunction_of_apart]
  · unfold oppositeCopyLine
    simp (disch := exact startsApart_ofList rfl) only [String.append_assoc, opensFunction_of_apart]

theorem opened_drawingLines {settings : Settings} {options : Options} {dayOfYear : Int}
    {chart : Chart} {lines : List String}
    (written : (drawingLines settings options dayOfYear chart).outcome = .ok lines) :
    opened lines = [drawingHead chart] := by
  obtain ⟨plot, plots, written⟩ := Report.outcome_bind_eq_ok_iff.1 written
  obtain ⟨range, ranges, written⟩ := Report.outcome_bind_eq_ok_iff.1 written
  obtain ⟨info, informs, written⟩ := Report.outcome_bind_eq_ok_iff.1 written
  obtain ⟨axes, draws, same⟩ := Report.outcome_bind_eq_ok_iff.1 written
  obtain rfl := Except.ok.inj same
  have opens : opensFunction (drawingHead chart) = true :=
    opensFunction_append (hasStart_append (hasStart_ofList rfl) _) (endsApart_ofList rfl)
  simp only [List.cons_append, List.nil_append, List.append_assoc]
  refine filter_cons_of_lacks opens ?_
  simp (disch := exact startsApart_ofList rfl) only [lacks_append, lacks_cons,
    lacks_nil, String.append_assoc, opensFunction_of_apart, opensNone_timeAxisLines chart,
    opensNone_plotLines plots, opensNone_rangeLines ranges, opensNone_infoLines informs,
    opensNone_axesLines draws, true_and, and_true]
  and_intros <;> exact opensFunction_ofList rfl

/-! ## The whole page -/

/-- The lines of a page that open functions. The conversion of wind speeds is there exactly if
the page has wind barbs, and the function for running totals if an equation calls it. -/
theorem opened_lines {generator : Generator} {charts : List Chart} {number : String}
    {contents : Contents} (made : IsMade generator charts number contents) (filename : String) :
    ∃ factors : List String,
      factors.length = (if charts.any Chart.hasWindBarbs then 1 else 0) ∧
      opened (contents.lines generator.options charts filename number) =
        [menuHead number, startHead generator.panels number] ++
        factors.map windFactorLine ++
        [configHead] ++
        (if contents.callsSum then [sumHead] else []) ++
        (datafilesOf contents.loaded).map loaderHead ++
        (if charts.any Chart.hasWindBarbs then [barbsHead] else []) ++
        charts.map addingHead ++
        charts.map drawingHead := by
  obtain ⟨factors, count, start⟩ := opened_startPart made.start
  have adding :
      opened (contents.parts.flatMap fun part => part.2.lines) = charts.map addingHead := by
    refine opened_flatMap_of_mapM (fun chart part here => ?_) made.mapM_parts
    exact opened_addingLines (drawn_and_added here).2
  have drawing : opened (contents.parts.flatMap Prod.fst) = charts.map drawingHead := by
    refine opened_flatMap_of_mapM (fun chart part here => ?_) made.mapM_parts
    exact opened_drawingLines (drawn_and_added here).1
  have sum : opened contents.sumLines = if contents.callsSum then [sumHead] else [] := by
    rw [Contents.sumLines]
    split
    · exact opened_sumFunctionLines
    · rfl
  have infos : Lacks opensFunction contents.infos := by
    intro line member
    obtain ⟨chart, _, written⟩ := (Log.values_of_mapM made.infos).2 line member
    exact opensFunction_infoText written
  refine ⟨factors, count, ?_⟩
  rw [Contents.lines, opened_append, opened_append, opened_append, opened_append,
    opened_eq_nil (opensNone_topLines _ _ _), opened_eq_nil (opensNone_optionLines charts),
    opened_eq_nil (opensNone_middleLines contents), opened_eq_nil infos, opened_scriptLines]
  simp only [Contents.script, List.flatMap_cons, List.flatMap_nil, opened_append,
    opened_menuLines, start, sum, opened_loadersLines made.loaders, adding, drawing,
    List.nil_append, List.append_nil, List.append_assoc, List.cons_append]

end Meteogram.Page
