import Meteogram.Proofs.Page.ResultArrays

/-!
# What a page is made of

The lines of a page are put together from parts that are made one by one
(`exists_contents_of_generate`). This module takes the parts apart: the start of the page, what
is computed in front of a series, the lines about axes. Most lines have a fixed start and a
fixed end around the names and texts of the charts. So lines are told apart by how they start
or end, whatever stands in between.
-/

set_option autoImplicit false

namespace Meteogram.Page

open Equation
open Station (Settings)

/-! ## Parts -/

/-- The parts of a page. -/
structure Contents where
  /-- The chart that is shown at first. -/
  first : Chart
  /-- The variables that the page loads. -/
  loaded : List Variable
  /-- The lines that declare the arrays and start the page. -/
  start : List String
  /-- The lines that load data. -/
  loaders : List String
  /-- For each chart the lines that draw it, and those that add its series. -/
  parts : List (List String × Added)
  height : Int
  infos : List String

/-- The parts are made for these charts. -/
structure IsMade (generator : Generator) (charts : List Chart) (number : String)
    (contents : Contents) : Prop where
  first : charts.head? = some contents.first
  loaded : (variablesOf generator.site.tables charts).outcome = .ok (some contents.loaded)
  start : startPart generator contents.loaded contents.first charts number = .ok contents.start
  loaders : loadersLines generator.options contents.loaded (charts.any Chart.hasWindBarbs) =
    .ok contents.loaders
  parts : (charts.mapM (chartLines generator contents.loaded)).outcome = .ok contents.parts
  height : generator.options.height = some contents.height
  infos : (charts.filter Chart.hasInfo).mapM (infoText generator.site.settings generator.options) =
    .ok contents.infos

namespace Contents

/-- Some equation of the page calls for running totals. -/
def callsSum (contents : Contents) : Bool :=
  contents.parts.any fun part => part.2.callsSum

/-- The page's own function for running totals, if it is called. -/
def sumLines (contents : Contents) : List String :=
  if contents.callsSum then sumFunctionLines else []

/-- The five parts of the script. -/
def script (contents : Contents) (charts : List Chart) (filename number : String) :
    List (List String) := [
  menuLines filename number contents.first charts,
  contents.start ++ contents.sumLines,
  contents.loaders,
  contents.parts.flatMap fun part => part.2.lines,
  contents.parts.flatMap Prod.fst]

/-- The lines in front of the menu. -/
def topLines (options : Options) (charts : List Chart) (number : String) : List String :=
  headerLines ++
  libraryLines options (charts.any Chart.hasInfo) ++
  styleLines ++
  ["<div><p style='text-align:center;'>",
    "<select id='graph" ++ number ++ "'>"]

/-- The lines between the menu and the script. -/
def middleLines (contents : Contents) : List String :=
  ["</select>",
    "</p>",
    "</div>",
    "<div id=report><br/>",
    "<div id='chartcontainer' style='min-height:" ++ toString contents.height ++
      "px;margin-top: 10px;margin-bottom: 5px;'> </div>",
    " <p style='text-align:center;font-size:11px;'>Generated with the ChartsCompiler " ++
      version ++ "</p>",
    "</div>"]

/-- All lines of the page. -/
def lines (contents : Contents) (options : Options) (charts : List Chart)
    (filename number : String) : List String :=
  topLines options charts number ++ optionLines charts ++ contents.middleLines ++
    scriptLines (contents.script charts filename number) ++ contents.infos

end Contents

/-- What is computed for the elements of a list, element by element. -/
theorem forall₂_of_mapM {ε α β : Type} {step : α → Except ε β} {list : List α} {values : List β}
    (found : list.mapM step = .ok values) :
    List.Forall₂ (fun a value => step a = .ok value) list values := by
  induction list generalizing values with
  | nil =>
    cases found
    exact .nil
  | cons a list ih =>
    rw [List.mapM_cons] at found
    obtain ⟨value, here, found⟩ := bind_eq_ok.1 found
    obtain ⟨rest, behind, same⟩ := bind_eq_ok.1 found
    obtain rfl := Except.ok.inj same
    exact .cons here (ih behind)

/-- A page that is generated is put together from parts that are made for its charts. -/
theorem exists_contents_of_generate {generator : Generator} {charts : List Chart}
    {filename page : String} {id : Int}
    (generated : (generate generator charts filename id).outcome = .ok (some page)) :
    ∃ contents, IsMade generator charts (toString id) contents ∧
      page = textOfLines (contents.lines generator.options charts filename (toString id)) := by
  cases charts with
  | nil => cases generated
  | cons first rest =>
    rw [generate] at generated
    obtain ⟨found, resolved, generated⟩ := Report.outcome_bind_eq_ok_iff.1 generated
    cases found with
    | none =>
      obtain ⟨_, _, impossible⟩ := Report.outcome_bind_eq_ok_iff.1 generated
      cases impossible
    | some loaded =>
      obtain ⟨text, written, same⟩ := Report.outcome_bind_eq_ok_iff.1 generated
      obtain rfl := Option.some.inj (Except.ok.inj same)
      obtain ⟨start, started, written⟩ := Report.outcome_bind_eq_ok_iff.1 written
      obtain ⟨loaders, loads, written⟩ := Report.outcome_bind_eq_ok_iff.1 written
      obtain ⟨parts, each, written⟩ := Report.outcome_bind_eq_ok_iff.1 written
      obtain ⟨height, high, written⟩ := Report.outcome_bind_eq_ok_iff.1 written
      obtain ⟨infos, informs, written⟩ := Report.outcome_bind_eq_ok_iff.1 written
      have sameHeight : generator.options.height = some height := by
        cases given : generator.options.height with
        | none =>
          rw [given] at high
          cases high
        | some other =>
          rw [given] at high
          exact congrArg some (Except.ok.inj high)
      refine ⟨⟨first, loaded, start, loaders, parts, height, infos⟩,
        ⟨rfl, resolved, started, loads, each, sameHeight, informs⟩, ?_⟩
      obtain rfl := Except.ok.inj written
      rfl

/-! ## The parts -/

theorem drawn_and_added {generator : Generator} {loaded : List Variable} {chart : Chart}
    {part : List String × Added} (written : (chartLines generator loaded chart).outcome = .ok part) :
    (drawingLines generator.site.settings generator.options generator.dayOfYear chart).outcome =
        .ok part.1 ∧
      (addingLines generator.site loaded chart).outcome = .ok part.2 := by
  obtain ⟨drawing, drawn, written⟩ := Report.outcome_bind_eq_ok_iff.1 written
  obtain ⟨adding, added, same⟩ := Report.outcome_bind_eq_ok_iff.1 written
  obtain rfl := Except.ok.inj same
  exact ⟨drawn, added⟩

namespace IsMade

variable {generator : Generator} {charts : List Chart} {number : String} {contents : Contents}

/-- The parts are made for the charts one after the other. -/
theorem mapM_parts (made : IsMade generator charts number contents) :
    charts.mapM (fun chart => (chartLines generator contents.loaded chart).outcome) =
      .ok contents.parts := by
  rw [← Report.outcome_mapM]
  exact made.parts

theorem exists_part (made : IsMade generator charts number contents) {chart : Chart}
    (inCharts : chart ∈ charts) :
    ∃ part ∈ contents.parts, (chartLines generator contents.loaded chart).outcome = .ok part :=
  (Log.values_of_mapM made.mapM_parts).1 chart inCharts

theorem exists_chart (made : IsMade generator charts number contents)
    {part : List String × Added} (inParts : part ∈ contents.parts) :
    ∃ chart ∈ charts, (chartLines generator contents.loaded chart).outcome = .ok part :=
  (Log.values_of_mapM made.mapM_parts).2 part inParts

end IsMade

/-- The start of a page: the arrays, the function that starts the page, the conversion of wind
speeds if there are wind barbs, and what all pages have. -/
theorem exists_startPart {generator : Generator} {loaded : List Variable} {first : Chart}
    {charts : List Chart} {number : String} {lines : List String}
    (written : startPart generator loaded first charts number = .ok lines) :
    ∃ (factors : List String) (location : String),
      factors.length = (if charts.any Chart.hasWindBarbs then 1 else 0) ∧
      lines = declarationLines loaded (equationArrays loaded charts) ++
        startLines first.id generator.panels (datafilesOf loaded) (charts.any Chart.hasWindBarbs)
          number ++
        factors.map windFactorLine ++ stationLines location := by
  rw [startPart] at written
  split at written
  · next drawn =>
    obtain ⟨factor, _, written⟩ := bind_eq_ok.1 written
    obtain ⟨factors, found, written⟩ := bind_eq_ok.1 written
    obtain ⟨location, _, same⟩ := bind_eq_ok.1 written
    obtain rfl := Except.ok.inj same
    obtain rfl := Except.ok.inj found
    exact ⟨[factor], location, (if_pos drawn).symm, rfl⟩
  · next noBarbs =>
    obtain ⟨factors, found, written⟩ := bind_eq_ok.1 written
    obtain ⟨location, _, same⟩ := bind_eq_ok.1 written
    obtain rfl := Except.ok.inj same
    obtain rfl := Except.ok.inj found
    exact ⟨[], location, (if_neg noBarbs).symm, rfl⟩

/-- The lines of a running total, if there is one. -/
def totalLines (first : String) : Option (List Char) → List String
  | none => []
  | some inner => sumLines first (String.ofList inner)

/-- What is computed in front of a series: a range of columns, nothing for plain data, or an
equation that uses some variable. -/
theorem computed_cases {tables : Tables} {loaded : List Variable} {chart : Chart}
    {series : Series} {added : Added}
    (emitted : (computed tables loaded chart series).outcome = .ok (some added)) :
    (series.graphType = "columnrange" ∧ added = { lines := columnRangeLines series }) ∨
    (series.graphType ≠ "columnrange" ∧ series.equation = none ∧ added = {}) ∨
    ∃ equation first names code, series.graphType ≠ "columnrange" ∧
      series.equation = some equation ∧
      (equationVariables tables loaded series).map Variable.name = first :: names ∧
      (codeOf equation.toList (first :: names)).outcome = .ok code ∧
      added = {
        lines := totalLines first code.sum? ++
          arrayLines series.keyword first (String.ofList code.expression)
        callsSum := Text.contains equation "sum(" } := by
  rw [computed] at emitted
  split at emitted
  · next columns => exact .inl ⟨columns, (Option.some.inj (Except.ok.inj emitted)).symm⟩
  · next noColumns =>
    split at emitted
    · next plain =>
      exact .inr (.inl ⟨noColumns, plain, (Option.some.inj (Except.ok.inj emitted)).symm⟩)
    · next equation isEquation =>
      obtain ⟨lines?, scripted, emitted⟩ := Report.outcome_bind_eq_ok_iff.1 emitted
      cases lines? with
      | none =>
        obtain ⟨_, _, impossible⟩ := Report.outcome_bind_eq_ok_iff.1 emitted
        cases impossible
      | some lines =>
        obtain rfl := Option.some.inj (Except.ok.inj emitted)
        cases uses : (equationVariables tables loaded series).map Variable.name with
        | nil =>
          rw [uses] at scripted
          cases scripted
        | cons first names =>
          rw [uses, Equation.scriptLines] at scripted
          dsimp only at scripted
          split at scripted
          · cases scripted
          · next code coded =>
            obtain rfl := Option.some.inj (Except.ok.inj scripted)
            refine .inr (.inr ⟨equation, first, names, code, noColumns, isEquation, rfl, coded, ?_⟩)
            cases code.sum? <;> rfl

/-- What holds of every line that adds an axis holds of all lines about the axes of a chart. -/
theorem forall_mem_axesLines {settings : Settings} {dayOfYear : Int} {chart : Chart}
    {P : String → Prop}
    (each : ∀ series axis opposite line,
      (axisLine settings dayOfYear chart series axis opposite).outcome = .ok line → P line)
    (copy : P (oppositeCopyLine chart)) {lines : List String}
    (written : (axesLines settings dayOfYear chart).outcome = .ok lines) :
    ∀ line ∈ lines, P line := by
  have step : ∀ (series : Series) (drawn more : Drawn), (∀ line ∈ drawn.lines, P line) →
      (drawn.add settings dayOfYear chart series).outcome = .ok more →
      ∀ line ∈ more.lines, P line := by
    intro series drawn more sofar added
    rw [Drawn.add] at added
    split at added
    · obtain rfl := Except.ok.inj added
      exact sofar
    · split at added
      · obtain ⟨_, _, same⟩ := Report.outcome_bind_eq_ok_iff.1 added
        obtain rfl := Except.ok.inj same
        exact sofar
      · obtain ⟨line, drawnHere, same⟩ := Report.outcome_bind_eq_ok_iff.1 added
        obtain rfl := Except.ok.inj same
        exact List.forall_mem_append.2
          ⟨sofar, List.forall_mem_singleton.2 (each _ _ _ line drawnHere)⟩
  have run : ∀ (list : List Series) (drawn last : Drawn), (∀ line ∈ drawn.lines, P line) →
      (list.foldlM (Drawn.add settings dayOfYear chart) drawn).outcome = .ok last →
      ∀ line ∈ last.lines, P line := by
    intro list
    induction list with
    | nil =>
      intro drawn last sofar done
      obtain rfl := Except.ok.inj done
      exact sofar
    | cons series rest ih =>
      intro drawn last sofar done
      rw [List.foldlM_cons] at done
      obtain ⟨more, added, done⟩ := Report.outcome_bind_eq_ok_iff.1 done
      exact ih more last (step series drawn more sofar added) done
  obtain ⟨⟨count, context, all⟩, created, same⟩ := Report.outcome_bind_eq_ok_iff.1 written
  obtain rfl := Except.ok.inj same
  obtain ⟨drawn, drawing, same⟩ := Report.outcome_bind_eq_ok_iff.1 created
  cases same
  have own := run _ _ drawn (List.forall_mem_nil _) drawing
  rw [List.nil_append, Drawn.allLines]
  split
  · exact List.forall_mem_append.2 ⟨own, List.forall_mem_singleton.2 copy⟩
  · exact own

/-! ## How lines start and end -/

/-- The line starts with the part. -/
def hasStart (part : List Char) (line : String) : Bool :=
  part.isPrefixOf line.toList

/-- The line ends with the part. -/
def hasEnd (part : List Char) (line : String) : Bool :=
  part.reverse.isPrefixOf line.toList.reverse

/-- Neither of the texts starts with the other one. -/
def areApart (first second : List Char) : Bool :=
  !first.isPrefixOf second && !second.isPrefixOf first

/-- The line starts otherwise than with the part, and so does whatever begins with the line. -/
def startsApart (part : List Char) (line : String) : Bool :=
  areApart part line.toList

/-- The line ends otherwise than with the part, and so does whatever stops with the line. -/
def endsApart (part : List Char) (line : String) : Bool :=
  areApart part.reverse line.toList.reverse

theorem isPrefixOf_append_of_apart {part front : List Char} (apart : areApart part front = true)
    (rest : List Char) : part.isPrefixOf (front ++ rest) = false := by
  rw [areApart, Bool.and_eq_true, Bool.not_eq_true', Bool.not_eq_true'] at apart
  rw [← Bool.not_eq_true, List.isPrefixOf_iff_prefix]
  intro starts
  rcases List.prefix_or_prefix_of_prefix starts (List.prefix_append front rest) with
    longer | shorter
  · exact Bool.false_ne_true (apart.1.symm.trans (List.isPrefixOf_iff_prefix.2 longer))
  · exact Bool.false_ne_true (apart.2.symm.trans (List.isPrefixOf_iff_prefix.2 shorter))

section

variable {part : List Char} {front back : String}

theorem hasStart_append_of_apart (apart : startsApart part front = true) (rest : String) :
    hasStart part (front ++ rest) = false := by
  rw [hasStart, String.toList_append]
  exact isPrefixOf_append_of_apart apart rest.toList

theorem hasEnd_append_of_apart (apart : endsApart part back = true) (front : String) :
    hasEnd part (front ++ back) = false := by
  rw [hasEnd, String.toList_append, List.reverse_append]
  exact isPrefixOf_append_of_apart apart front.toList.reverse

theorem hasStart_append (starts : hasStart part front = true) (rest : String) :
    hasStart part (front ++ rest) = true := by
  rw [hasStart, List.isPrefixOf_iff_prefix] at starts ⊢
  rw [String.toList_append]
  exact starts.trans (List.prefix_append _ _)

theorem hasEnd_append (ends : hasEnd part back = true) (front : String) :
    hasEnd part (front ++ back) = true := by
  rw [hasEnd, List.isPrefixOf_iff_prefix] at ends ⊢
  rw [String.toList_append, List.reverse_append]
  exact ends.trans (List.prefix_append _ _)

/-- How a text starts is seen from its characters. -/
theorem hasStart_ofList {cs : List Char} {starts : Bool} (found : part.isPrefixOf cs = starts) :
    hasStart part (String.ofList cs) = starts := by
  rwa [hasStart, String.toList_ofList]

theorem hasEnd_ofList {cs : List Char} {ends : Bool}
    (found : part.reverse.isPrefixOf cs.reverse = ends) :
    hasEnd part (String.ofList cs) = ends := by
  rwa [hasEnd, String.toList_ofList]

theorem startsApart_ofList {cs : List Char} (apart : areApart part cs = true) :
    startsApart part (String.ofList cs) = true := by
  rwa [startsApart, String.toList_ofList]

theorem endsApart_ofList {cs : List Char} (apart : areApart part.reverse cs.reverse = true) :
    endsApart part (String.ofList cs) = true := by
  rwa [endsApart, String.toList_ofList]

end

/-! ## Lines that pass a test -/

/-- No line passes the test. -/
def Lacks (test : String → Bool) (lines : List String) : Prop :=
  ∀ line ∈ lines, test line = false

section

variable {test : String → Bool} {lines : List String}

theorem Lacks.filter (lacks : Lacks test lines) : lines.filter test = [] :=
  List.filter_eq_nil_iff.2 fun line member => Bool.not_eq_true _ ▸ lacks line member

/-- A line that passes the test is one of those that do. -/
theorem mem_of_filter {list : List String} {line : String} (only : lines.filter test = list)
    (passes : test line = true) (member : line ∈ lines) : line ∈ list :=
  only ▸ List.mem_filter.2 ⟨member, passes⟩

/-- The first line passes the test, and no other line does. -/
theorem filter_cons_of_lacks {line : String} (passes : test line = true)
    (lacks : Lacks test lines) : (line :: lines).filter test = [line] := by
  rw [List.filter_cons_of_pos passes, lacks.filter]

theorem filter_append_of_lacks_front {first second : List String} (lacks : Lacks test first) :
    (first ++ second).filter test = second.filter test := by
  rw [List.filter_append, lacks.filter, List.nil_append]

theorem filter_append_of_lacks_back {first second : List String} (lacks : Lacks test second) :
    (first ++ second).filter test = first.filter test := by
  rw [List.filter_append, lacks.filter, List.append_nil]

/-- One line in the middle passes the test. -/
theorem filter_of_getElem? {line : String} {n : Nat} (before : Lacks test (lines.take n))
    (here : lines[n]? = some line) (passes : test line = true)
    (behind : Lacks test (lines.drop (n + 1))) : lines.filter test = [line] := by
  have split : lines = lines.take n ++ line :: lines.drop (n + 1) := by
    obtain ⟨short, rfl⟩ := List.getElem?_eq_some_iff.1 here
    rw [List.cons_getElem_drop_succ, List.take_append_drop]
  rw [split, List.filter_append, before.filter, filter_cons_of_lacks passes behind,
    List.nil_append]

/-- What passes the test in the lines of all elements, if it is known for each element. -/
theorem filter_flatMap_of_mapM {ε α β : Type} {write : α → Except ε β} {lines : β → List String}
    {kept : α → List String} (keeps : ∀ a b, write a = .ok b → (lines b).filter test = kept a)
    {list : List α} {results : List β} (each : list.mapM write = .ok results) :
    (results.flatMap lines).filter test = list.flatMap kept := by
  replace each := forall₂_of_mapM each
  induction each with
  | nil => rfl
  | cons here behind ih =>
    rw [List.flatMap_cons, List.filter_append, keeps _ _ here, ih, List.flatMap_cons]

theorem lacks_nil : Lacks test [] :=
  List.forall_mem_nil _

theorem lacks_cons {line : String} :
    Lacks test (line :: lines) ↔ test line = false ∧ Lacks test lines :=
  List.forall_mem_cons

theorem lacks_append {first second : List String} :
    Lacks test (first ++ second) ↔ Lacks test first ∧ Lacks test second :=
  List.forall_mem_append

theorem lacks_flatMap {α : Type} {list : List α} {lines : α → List String} :
    Lacks test (list.flatMap lines) ↔ ∀ a ∈ list, Lacks test (lines a) :=
  List.forall_mem_flatMap

end

end Meteogram.Page
