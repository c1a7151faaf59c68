import Meteogram.Proofs.Definition.Consistency
import Meteogram.Proofs.Definition.ReadingCharts

/-!
# Definitions are read as they are meant

The readers of a chart with what stands behind it, of the block of equations and of
whole definitions, at words that are written by the grammar. The readers keep the
outputs so far as the ones that are complete and the one that charts go to now; what
they end with are the outputs that the charts go to one after the other
(`Progress.outputs_gathered`).

Everything that the grammar writes within the rules is read, in any layout and in any
letter case of the keywords, and what is read is what is meant
(`definitions_are_read_as_meant`). The one limit that the rules need is on the length
of numbers (`long_panel_stops_reading`).
-/

set_option autoImplicit false

namespace Meteogram.Definition

open Text Number Reader

section

variable {items : List Item} {memory : Memory} {equations : Equation.Definitions}
  {connections : List (Int × String)} {site : Site} {standard : Int}

/-! ## Charts -/

/-- The title ends where a clause or a series begins. -/
theorem reads_takeTitle (chart : ChartDefinition) (opens : OpensWith behindClause items)
    (proper : ∀ word ∈ chart.moreTitle,
      ["Plot", "Stats", "ConnectsTo", "Zoom", "Has"].any (sameWord word.text) = false) :
    Reads (chart.title.item :: (chart.moreTitle.map Word.item ++ items)) memory takeTitle
      (textOf (chart.title :: chart.moreTitle)) items memory := by
  obtain ⟨name, member, rest, rfl⟩ := opens
  have free : ∀ word ∈ chart.moreTitle.map Word.text,
      ["Plot", "Stats", "ConnectsTo", "Zoom", "Has"].any (sameWord word) = false :=
    List.forall_mem_map.2 proper
  have ends : ∀ word, (Item.keyword name).IsSpelled word →
      ["Plot", "Stats", "ConnectsTo", "Zoom", "Has"].any (sameWord word) = true := by
    intro word spelled
    have among : behindClause ⊆ ["Plot", "Stats", "ConnectsTo", "Zoom", "Has"] := by
      simp [behindClause]
    exact List.any_eq_true.2 ⟨name, among member, spelled⟩
  rw [takeTitle, map_item]
  exact reads_take.bind ((reads_takeUntil free ends).bind (Reads.pure _))

/-- A chart is read from its first keyword to its last one. -/
theorem reads_takeChart {chart : ChartDefinition} {others : List Chart} {connects : Bool}
    (settled : IsSettled site standard) (proper : chart.IsProper site equations standard)
    (fresh : others.any (fun other => sameWord other.id chart.id.text) = false) :
    Reads (.keyword "Chart" :: chart.id.item :: .keyword "Title" :: chart.title.item ::
        (chart.moreTitle.map Word.item ++ (chart.clauses.flatMap ChartClause.items ++
          (chart.series.flatMap SeriesDefinition.items ++ .keyword "EndChart" :: items))))
      ⟨equations, dashboard connections⟩ (takeChart site others connects)
      (withSeries (chart.framed connects chart.clauses)
        (seriesOf site equations standard chart.series)) items
      ⟨equations, dashboard (connections ++
        linksOf chart.id.text (connected connects chart.clauses))⟩ := by
  have plots : OpensWith ["Plot", "Stats"]
      (chart.series.flatMap SeriesDefinition.items ++ .keyword "EndChart" :: items) := by
    cases split : chart.series with
    | nil => exact absurd split proper.notEmpty
    | cons series rest =>
      rw [List.flatMap_cons, List.append_assoc]
      exact opensWith_series series _
  have titled : OpensWith behindClause (chart.clauses.flatMap ChartClause.items ++
      (chart.series.flatMap SeriesDefinition.items ++ .keyword "EndChart" :: items)) := by
    refine opensWith_flatMap (fun clause more => ?_) _ (plots.weaken (by simp [behindClause]))
    exact (opensWith_clause clause more).weaken (by simp [behindClause])
  have start : ({ id := chart.id.text, title := textOf (chart.title :: chart.moreTitle) } : Chart) =
      chart.framed connects [] := by
    cases connects <;> rfl
  have bare : withSeries (chart.framed connects chart.clauses) [] =
      chart.framed connects chart.clauses := rfl
  have notTaken : ¬ others.any (fun other => sameWord other.id chart.id.text) = true := by
    rw [fresh]
    exact Bool.false_ne_true
  have unlinked : linksOf chart.id.text (connected connects []) = [] := by
    cases connects <;> rfl
  have clauses : Reads _ ⟨equations, dashboard (connections ++
      linksOf chart.id.text (connected connects []))⟩ _ _ _ _ :=
    reads_takeClauses connects plots proper.clauses
  rw [unlinked, List.append_nil] at clauses
  rw [takeChart]
  refine reads_takeKeyword.bind (Reads.ite_false (by decide) ?_)
  refine reads_take.bind (Reads.ite_false notTaken ?_)
  refine reads_takeKeyword.bind (Reads.ite_false (by decide) ?_)
  refine (reads_takeTitle chart titled proper.title).bind ?_
  rw [start]
  refine clauses.bind (Reads.get_bind fun state place => ?_)
  refine Reads.ite_false (by rw [place.isAtAny_of_opens plots (List.Subset.refl _)]; decide) ?_
  rw [← bare]
  refine Reads.bind (reads_takeSeries_all settled ?_) ?_
  · exact proper.each
  · exact reads_takeKeyword.bind (Reads.ite_false (by decide) (Reads.pure _))

/-! ## What stands behind a chart -/

/-- The clause is a text about the chart. -/
def EndClause.isInfo : EndClause → Bool
  | info _ => true
  | output _ => false

/-- No chart has an output yet. -/
def Progress.isFresh (progress : Progress) : Bool :=
  progress.done.isEmpty && progress.current.charts.isEmpty

namespace Ending

/-- No clause of this kind was read. -/
def lacks (ending : Ending) : EndClause → Prop
  | .info _ => ending.chart.hasInfo = false
  | .output _ => ending.outputGiven = false

/-- What the clause makes of the ending. -/
def andThen (ending : Ending) : EndClause → Ending
  | .info words => { ending with
      chart := { ending.chart with hasInfo := true, infoText := textOf words } }
  | .output filename => { ending with
      outputGiven := true
      progress := if ending.progress.isFresh then ending.progress
        else ending.progress.begin filename.text }

/-- A clause makes no difference to a clause of the other kind. -/
theorem lacks_andThen {ending : Ending} {clause other : EndClause} (lacks : ending.lacks clause)
    (apart : other.isInfo ≠ clause.isInfo) : (ending.andThen other).lacks clause := by
  cases clause with
  | info words =>
    cases other with
    | info more => exact absurd rfl apart
    | output filename => exact lacks
  | output filename =>
    cases other with
    | info words => exact lacks
    | output more => exact absurd rfl apart

theorem lacks_foldl {ending : Ending} {done : List EndClause} {clause : EndClause}
    (lacks : ending.lacks clause) (apart : ∀ other ∈ done, other.isInfo ≠ clause.isInfo) :
    (done.foldl andThen ending).lacks clause := by
  induction done generalizing ending with
  | nil => exact lacks
  | cons other done ih =>
    obtain ⟨here, apart⟩ := List.forall_mem_cons.1 apart
    exact ih (lacks_andThen lacks here) apart

end Ending

/-- A clause behind a chart is taken, if none of its kind was taken before. -/
theorem reads_takeEnding {ending : Ending} {clause : EndClause} (lacks : ending.lacks clause) :
    Reads (clause.items ++ items) memory (takeEnding ending) (ending.andThen clause) items
      memory := by
  have noInfo : ∀ rest, sameWord (headText (.keyword "Output" :: rest)) "Info" = false :=
    fun rest => show sameWord "Output" "Info" = false by decide
  rw [takeEnding]
  cases clause with
  | info words =>
    have noText : ¬ ending.chart.hasInfo = true := by
      rw [show ending.chart.hasInfo = false from lacks]
      exact Bool.false_ne_true
    have inside : ∀ word ∈ words.map Word.text, (word == "\"") = false := by
      intro word member
      obtain ⟨given, _, rfl⟩ := List.mem_map.1 member
      exact beq_eq_false_iff_ne.2 (given.text_ne_mark (c := '"') rfl)
    have closes : ∀ word, (Item.word "\"").IsSpelled word → (word == "\"") = true :=
      fun word spelled => beq_iff_eq.2 spelled
    have split : (EndClause.info words).items ++ items = .keyword "Info" :: .word "\"" ::
        ((words.map Word.text).map Item.word ++ .word "\"" :: items) := by
      rw [EndClause.items, map_item]
      simp
    rw [split]
    refine reads_takeKeyword.bind (Reads.ite_true rfl ?_)
    refine Reads.bind ?_ (Reads.pure _)
    refine Reads.ite_false noText (reads_take.bind (Reads.ite_false (by decide) ?_))
    refine (reads_takeUntil inside closes).bind (Reads.get_bind fun state place => ?_)
    refine Reads.ite_false (by rw [place.isEmpty]; exact Bool.false_ne_true) ?_
    exact reads_skip.bind (Reads.pure _)
  | output filename =>
    have noOutput : ¬ ending.outputGiven = true := by
      rw [show ending.outputGiven = false from lacks]
      exact Bool.false_ne_true
    refine (reads_noKeyword (noInfo _)).bind (Reads.ite_false Bool.false_ne_true ?_)
    refine Reads.ite_false noOutput (reads_skip.bind (reads_take.bind ?_))
    rw [Ending.andThen]
    by_cases first : ending.progress.isFresh = true
    · rw [if_pos first]
      exact Reads.ite_true first ((reads_warn _).bind (Reads.pure _))
    · rw [if_neg first]
      exact Reads.ite_false first (Reads.pure _)

/-- Every clause behind a chart begins with a keyword of its own. -/
theorem opensWith_endClause (clause : EndClause) (more : List Item) :
    OpensWith ["Info", "Output"] (clause.items ++ more) := by
  cases clause with
  | info words => exact ⟨"Info", by simp, _, rfl⟩
  | output filename => exact ⟨"Output", by simp, _, rfl⟩

/-- No two of the clauses behind a chart are of one kind. -/
theorem endings_apart (chart : ChartDefinition) :
    chart.endings.Pairwise fun first second => first.isInfo ≠ second.isInfo := by
  rw [ChartDefinition.endings]
  cases chart.info <;> cases chart.output <;> cases chart.outputFirst <;>
    simp [EndClause.isInfo]

/-- All clauses behind a chart are taken. -/
theorem reads_endings {chart : ChartDefinition} {ending : Ending}
    (ends : ["Info", "Output"].any (sameWord (headText items)) = false)
    (lacks : ∀ clause ∈ chart.endings, ending.lacks clause) :
    Reads (chart.endings.flatMap EndClause.items ++ items) memory
      (repeatWhile (State.isAtAny · ["Info", "Output"]) takeEnding ending)
      (chart.endings.foldl Ending.andThen ending) items memory := by
  refine reads_repeatEach (fun done => done.foldl Ending.andThen ending) (fun _ => memory)
    chart.endings ?_ ?_ ?_ ?_
  · intro _ clause _ _ _ place
    exact place.isAtAny_of_opens (opensWith_endClause clause _) (List.Subset.refl _)
  · intro done clause rest split
    have apart := endings_apart chart
    rw [← split, List.pairwise_append] at apart
    have member : clause ∈ chart.endings := by
      rw [← split]
      exact List.mem_append_right done List.mem_cons_self
    rw [List.foldl_append]
    exact reads_takeEnding (Ending.lacks_foldl (lacks clause member) fun other inDone =>
      apart.2.2 other inDone clause List.mem_cons_self)
  · exact fun clause => ne_nil_of_opensWith (opensWith_endClause clause)
  · intro state place
    rw [place.isAtAny, ends]

end

/-! ## Outputs -/

namespace Progress

/-- Adds a chart to the output that it goes to. -/
def place (progress : Progress) : Option String × Chart → Progress
  | (none, chart) => progress.add chart
  | (some filename, chart) => (progress.begin filename).add chart

/-- What charts come to, one after the other. -/
def gathered (charts : List (Option String × Chart)) : Progress :=
  charts.foldl place {}

theorem gathered_concat (charts : List (Option String × Chart)) (one : Option String × Chart) :
    gathered (charts ++ [one]) = (gathered charts).place one := by
  rw [gathered, List.foldl_append]
  rfl

/-- The outputs are the ones that the charts go to. -/
theorem outputs_foldl_place (progress : Progress) (charts : List (Option String × Chart)) :
    (charts.foldl place progress).outputs = progress.done ++ outputsFrom progress.current charts := by
  induction charts generalizing progress with
  | nil => rfl
  | cons one charts ih =>
    obtain ⟨start, chart⟩ := one
    cases start with
    | none => exact ih _
    | some filename =>
      rw [outputsFrom, List.append_cons]
      exact ih _

theorem outputs_gathered (charts : List (Option String × Chart)) :
    (gathered charts).outputs = outputsFrom { filename := Output.firstFilename } charts :=
  outputs_foldl_place {} charts

theorem charts_gathered (charts : List (Option String × Chart)) :
    (gathered charts).charts = charts.map Prod.snd := by
  induction charts using List.reverseRecOn with
  | nil => rfl
  | append_singleton charts one ih =>
    obtain ⟨start, chart⟩ := one
    rw [gathered_concat, List.map_append, ← ih]
    cases start with
    | none => exact charts_add _ _
    | some filename => exact (charts_add _ _).trans (congrArg (· ++ [chart]) (charts_begin _ _))

/-- An output is complete if and only if a chart started another one. -/
theorem isEmpty_done_gathered (charts : List (Option String × Chart)) :
    (gathered charts).done.isEmpty = charts.all fun one => one.1.isNone := by
  induction charts using List.reverseRecOn with
  | nil => rfl
  | append_singleton charts one ih =>
    obtain ⟨start, chart⟩ := one
    rw [gathered_concat, List.all_append, ← ih]
    cases start <;> simp [place, add, begin]

/-- Only without charts no chart has an output. -/
theorem isFresh_gathered (charts : List (Option String × Chart)) :
    (gathered charts).isFresh = charts.isEmpty := by
  induction charts using List.reverseRecOn with
  | nil => rfl
  | append_singleton charts one _ =>
    obtain ⟨start, last⟩ := one
    have added : ∀ (list : List Chart), (list ++ [last]).isEmpty = false :=
      fun list => List.isEmpty_eq_false_iff.2 (by simp)
    rw [List.isEmpty_eq_false_iff.2 (List.concat_ne_nil _ charts), isFresh, gathered_concat]
    cases start with
    | none => exact Bool.and_eq_false_iff.2 (.inr (added _))
    | some filename => exact Bool.and_eq_false_iff.2 (.inr (added []))

end Progress

namespace ChartDefinition

variable {site : Site} {defined : Equation.Definitions} {standard : Int} {connects : Bool}
  {chart : ChartDefinition}

theorem id_value : (chart.value site defined standard connects).id = chart.id.text := by
  rw [value]
  cases chart.info <;> rfl

theorem panels_value :
    (chart.value site defined standard connects).panels = connected connects chart.clauses := by
  rw [value]
  cases chart.info <;> rfl

theorem series_value : (chart.value site defined standard connects).series =
    seriesOf site defined standard chart.series := by
  rw [value]
  cases chart.info <;> rfl

/-- While a chart is read, it is not known yet whether it starts an output: with the
chart that starts the second one, all charts connect that are read in the first output. -/
theorem connectsBehind_true (before : List ChartDefinition) :
    chart.connectsBehind true before = stayInFirst before := by
  rw [connectsBehind, Bool.true_and]
  cases before with
  | nil => rfl
  | cons first others =>
    rw [stayInFirst, stayInFirst, List.cons_append, List.tail_cons, List.tail_cons,
      List.all_append]
    cases others.all fun other => other.output.isNone
    · rw [Bool.false_and, Bool.false_or]
    · rw [Bool.or_true]

end ChartDefinition

namespace DefinitionFile

variable {site : Site} {standard : Int} {starter : Bool} {defined : Equation.Definitions}

theorem placed_append (before list more : List ChartDefinition) :
    placed site standard starter defined before (list ++ more) =
      placed site standard starter defined before list ++
        placed site standard starter defined (before ++ list) more := by
  induction list generalizing before with
  | nil => rw [List.append_nil]; rfl
  | cons chart list ih =>
    rw [List.cons_append, placed, placed, ih, List.append_assoc, List.cons_append]
    rfl

theorem placed_concat (before : List ChartDefinition) (chart : ChartDefinition) :
    placed site standard starter defined [] (before ++ [chart]) =
      placed site standard starter defined [] before ++
        [(chart.startsBehind before,
          chart.value site defined standard (chart.connectsBehind starter before))] :=
  placed_append [] before [chart]

theorem isEmpty_placed (before list : List ChartDefinition) :
    (placed site standard starter defined before list).isEmpty = list.isEmpty := by
  cases list <;> rfl

theorem map_id_placed (before list : List ChartDefinition) :
    ((placed site standard starter defined before list).map Prod.snd).map Chart.id =
      list.map fun chart => chart.id.text := by
  induction list generalizing before with
  | nil => rfl
  | cons chart list ih =>
    rw [placed, List.map_cons, List.map_cons, ih, ChartDefinition.id_value, List.map_cons]

/-- Charts are in the first output as long as none of them starts another one. -/
theorem all_isNone_placed (list : List ChartDefinition) :
    (placed site standard starter defined [] list).all (fun one => one.1.isNone) =
      ChartDefinition.stayInFirst list := by
  have behind : ∀ before more, before ≠ [] →
      (placed site standard starter defined before more).all (fun one => one.1.isNone) =
        more.all fun chart => chart.output.isNone := by
    intro before more notEmpty
    induction more generalizing before with
    | nil => rfl
    | cons chart more ih =>
      have notFirst : before.isEmpty = false := List.isEmpty_eq_false_iff.2 notEmpty
      rw [placed, List.all_cons, List.all_cons, ih _ (by simp), ChartDefinition.startsBehind,
        notFirst, if_neg Bool.false_ne_true, Option.isNone_map]
  cases list with
  | nil => rfl
  | cons chart list => exact behind [chart] list (List.cons_ne_nil _ _)

end DefinitionFile

/-! ## Charts one after the other -/

namespace ChartDefinition

variable {site : Site} {defined : Equation.Definitions} {standard : Int} {connects : Bool}
  {chart : ChartDefinition}

/-- The clauses behind a chart put the text into the chart, and the chart into its output. -/
theorem foldl_endings (charts : List (Option String × Chart)) (before : List ChartDefinition)
    (same : charts.isEmpty = before.isEmpty) {full : Chart}
    (given : full = withSeries (chart.framed connects chart.clauses)
      (seriesOf site defined standard chart.series)) :
    (chart.endings.foldl Ending.andThen { chart := full, progress := .gathered charts }).progress.add
        (chart.endings.foldl Ending.andThen { chart := full, progress := .gathered charts }).chart =
      .gathered (charts ++
        [(chart.startsBehind before, chart.value site defined standard connects)]) := by
  have fresh : (Progress.gathered charts).isFresh = before.isEmpty :=
    (Progress.isFresh_gathered charts).trans same
  rw [Progress.gathered_concat, startsBehind, value, endings, ← given]
  cases chart.info <;> cases chart.output <;> cases chart.outputFirst <;> cases first : before.isEmpty <;>
    simp [Ending.andThen, Progress.place, fresh, first]

end ChartDefinition

/-- The connections of charts to panels, one after the other. -/
def connectionsOf (charts : List (Option String × Chart)) : List (Int × String) :=
  charts.flatMap fun one => linksOf one.2.id one.2.panels

section

variable {items : List Item} {memory : Memory} {site : Site} {standard : Int}
  {defined : Equation.Definitions}

/-- A chart with what stands behind it is read behind the charts `before`. -/
theorem reads_takeNextChart {chart : ChartDefinition} {before : List ChartDefinition}
    (settled : IsSettled site standard) (proper : chart.IsProper site defined standard)
    (apart : ∀ other ∈ before, sameWord other.id.text chart.id.text = false)
    (ends : ["Info", "Output"].any (sameWord (headText items)) = false) :
    Reads (chart.items ++ items)
      ⟨defined, dashboard (connectionsOf (DefinitionFile.placed site standard true defined [] before))⟩
      (takeNextChart site (.gathered (DefinitionFile.placed site standard true defined [] before)))
      (.gathered (DefinitionFile.placed site standard true defined [] (before ++ [chart]))) items
      ⟨defined, dashboard (connectionsOf
        (DefinitionFile.placed site standard true defined [] (before ++ [chart])))⟩ := by
  have empty : (DefinitionFile.placed site standard true defined [] before).isEmpty = before.isEmpty :=
    DefinitionFile.isEmpty_placed [] before
  have connects : (Progress.gathered (DefinitionFile.placed site standard true defined [] before)).done.isEmpty =
      chart.connectsBehind true before := by
    rw [Progress.isEmpty_done_gathered, DefinitionFile.all_isNone_placed,
      ChartDefinition.connectsBehind_true]
  have links : connectionsOf (DefinitionFile.placed site standard true defined [] (before ++ [chart])) =
      connectionsOf (DefinitionFile.placed site standard true defined [] before) ++
        linksOf chart.id.text (connected (chart.connectsBehind true before) chart.clauses) := by
    rw [DefinitionFile.placed_concat, connectionsOf, List.flatMap_append, List.flatMap_singleton,
      ChartDefinition.id_value, ChartDefinition.panels_value]
    rfl
  have fresh : (Progress.gathered (DefinitionFile.placed site standard true defined [] before)).charts.any
      (fun other => sameWord other.id chart.id.text) = false := by
    have alone : ∀ id ∈ before.map fun other => other.id.text, sameWord id chart.id.text = false :=
      List.forall_mem_map.2 apart
    rw [Progress.charts_gathered, List.any_eq_false]
    intro other member
    rw [alone other.id]
    · exact Bool.false_ne_true
    · rw [← DefinitionFile.map_id_placed [] before]
      exact List.mem_map_of_mem member
  have written : chart.items ++ items = .keyword "Chart" :: chart.id.item :: .keyword "Title" ::
      chart.title.item :: (chart.moreTitle.map Word.item ++
        (chart.clauses.flatMap ChartClause.items ++ (chart.series.flatMap SeriesDefinition.items ++
          .keyword "EndChart" :: (chart.endings.flatMap EndClause.items ++ items)))) := by
    simp [ChartDefinition.items]
  rw [written, links, takeNextChart, connects, DefinitionFile.placed_concat,
    ← ChartDefinition.foldl_endings _ before empty rfl]
  refine (reads_takeChart settled proper fresh).bind ?_
  refine (reads_endings ends ?_).bind (Reads.pure _)
  intro clause _
  cases clause with
  | info words => rfl
  | output filename => rfl

/-- All charts are read, each one behind the ones in front of it. -/
theorem reads_takeNextChart_all {charts : List ChartDefinition} (settled : IsSettled site standard)
    (proper : ∀ chart ∈ charts, chart.IsProper site defined standard)
    (distinct : charts.Pairwise fun first second =>
      sameWord first.id.text second.id.text = false) :
    Reads (charts.flatMap ChartDefinition.items) ⟨defined, noPanels⟩
      (repeatWhile (fun state => !state.rest.isEmpty) (takeNextChart site) {})
      (.gathered (DefinitionFile.placed site standard true defined [] charts)) []
      ⟨defined, dashboard (connectionsOf
        (DefinitionFile.placed site standard true defined [] charts))⟩ := by
  have ends : ∀ rest : List ChartDefinition, ["Info", "Output"].any
      (sameWord (headText (rest.flatMap ChartDefinition.items ++ []))) = false := by
    intro rest
    cases rest with
    | nil => exact show ["Info", "Output"].any (sameWord "") = false by decide
    | cons chart rest => exact show ["Info", "Output"].any (sameWord "Chart") = false by decide
  have all : Reads (charts.flatMap ChartDefinition.items ++ []) ⟨defined, dashboard []⟩
      (repeatWhile (fun state => !state.rest.isEmpty) (takeNextChart site) {})
      (.gathered (DefinitionFile.placed site standard true defined [] charts)) []
      ⟨defined, dashboard (connectionsOf
        (DefinitionFile.placed site standard true defined [] charts))⟩ := by
    refine reads_repeatEach
      (fun done => Progress.gathered (DefinitionFile.placed site standard true defined [] done))
      (fun done => ⟨defined, dashboard (connectionsOf
        (DefinitionFile.placed site standard true defined [] done))⟩) charts ?_ ?_ ?_ ?_
    · intro _ chart _ _ _ place
      rw [place.isEmpty]
      rfl
    · intro done chart rest split
      have member : chart ∈ charts := by
        rw [← split]
        exact List.mem_append_right done List.mem_cons_self
      rw [← split, List.pairwise_append] at distinct
      exact reads_takeNextChart settled (proper chart member)
        (fun other inDone => distinct.2.2 other inDone chart List.mem_cons_self) (ends rest)
    · exact fun chart => List.cons_ne_nil _ _
    · intro _ place
      rw [place.isEmpty]
      rfl
  rwa [List.append_nil, dashboard_nil] at all

/-! ## Equations in front of the charts -/

/-- An accepted equation of the block is kept as it is meant. -/
theorem EquationDefinition.IsProper.evaluate {equation : EquationDefinition}
    (proper : equation.IsProper) :
    Equation.evaluate .definitions (textOf equation.expression) = .ok equation.kept := by
  obtain ⟨text, accepted⟩ := proper.accepted
  rw [EquationDefinition.kept, accepted]
  rfl

theorem definedBy_concat (equations : List EquationDefinition) (equation : EquationDefinition) :
    definedBy (equations ++ [equation]) =
      (definedBy equations).define equation.name.text equation.kept := by
  rw [definedBy, List.foldl_append]
  rfl

/-- An equation of the block is read. -/
theorem reads_takeDefinition {equation : EquationDefinition} (proper : equation.IsProper)
    {panels : List String} (before : List EquationDefinition) :
    Reads (equation.items ++ items) ⟨definedBy before, panels⟩ (takeDefinition site) () items
      ⟨definedBy (before ++ [equation]), panels⟩ := by
  have written : equation.items ++ items =
      equation.name.item :: (evalItems equation.expression ++ items) := rfl
  rw [written, takeDefinition]
  have accepted : Equation.evaluate (scopeIn site (definedBy before) none)
      (textOf equation.expression) = .ok equation.kept := proper.evaluate
  refine reads_take.bind (Reads.bind (reads_takeEquation ?_ accepted) ?_)
  · exact fun among none => by cases none
  · intro state place
    refine ⟨_, rfl, place.words, ?_, place.panels, place.quiet⟩
    rw [definedBy_concat]
    exact congrArg (fun equations => Equation.Definitions.define equations _ _) place.equations

/-- The block of equations is read up to the first chart. -/
theorem reads_takeDefinitions {equation : EquationDefinition} {equations : List EquationDefinition}
    (proper : ∀ one ∈ equation :: equations, one.IsProper) {panels : List String}
    (opens : OpensWith ["Chart"] items) :
    Reads ((equation :: equations).flatMap EquationDefinition.items ++ items) ⟨[], panels⟩
      (takeDefinitions site) () items ⟨definedBy (equation :: equations), panels⟩ := by
  obtain ⟨first, proper⟩ := List.forall_mem_cons.1 proper
  rw [List.flatMap_cons, List.append_assoc, takeDefinitions]
  refine (reads_takeDefinition first []).bind ?_
  refine reads_repeatEach (fun _ => ())
    (fun done => ⟨definedBy ([equation] ++ done), panels⟩) equations ?_ ?_ ?_ ?_
  · intro done one rest split state place
    have member : one ∈ equations := by
      rw [← split]
      exact List.mem_append_right done List.mem_cons_self
    have other : sameWord (headText (one.items ++ (rest.flatMap EquationDefinition.items ++ items)))
        "Chart" = false := (proper one member).name
    rw [place.isEmpty, place.isAt, other]
    rfl
  · intro done one rest split
    have member : one ∈ equations := by
      rw [← split]
      exact List.mem_append_right done List.mem_cons_self
    have shifted : [equation] ++ (done ++ [one]) = [equation] ++ done ++ [one] := rfl
    rw [shifted]
    exact reads_takeDefinition (proper one member) _
  · exact fun one => List.cons_ne_nil _ _
  · intro state place
    rw [place.isAt]
    obtain ⟨name, member, rest, rfl⟩ := opens
    rw [List.mem_singleton.1 member, show headText (.keyword "Chart" :: rest) = "Chart" from rfl,
      sameWord_refl, Bool.not_true, Bool.and_false]

/-! ## Checks on whole charts -/

/-- Charts that keep the rules have no flaw. -/
theorem chartFlaw?_eq_none {charts : List Chart}
    (columns : ∀ chart ∈ charts, ∀ series ∈ chart.series,
      series.graphType = "columnrange" → series.range.isByDay = true)
    (statistics : ∀ chart ∈ charts, ∀ series ∈ chart.series, series.isStatistic = true →
      ∃ other ∈ chart.series, other.isStatistic = false ∧
        sameWord other.keyword series.keyword = true) : chartFlaw? charts = none := by
  have noColumns : charts.findSome? columnRangeFlaw? = none := by
    refine List.findSome?_eq_none_iff.2 fun chart member => ?_
    rw [columnRangeFlaw?, Option.map_eq_none_iff, List.find?_eq_none]
    intro series inChart wrong
    rw [Bool.and_eq_true, decide_eq_true_eq, Bool.not_eq_true'] at wrong
    have byDay := columns chart member series inChart wrong.1
    exact Bool.false_ne_true (wrong.2.symm.trans byDay)
  have noStatistics : charts.findSome? statisticFlaw? = none := by
    refine List.findSome?_eq_none_iff.2 fun chart member => ?_
    rw [statisticFlaw?, Option.map_eq_none_iff, List.find?_eq_none]
    intro series inChart wrong
    rw [Bool.and_eq_true, Bool.not_eq_true', List.any_eq_false] at wrong
    obtain ⟨other, plotted, isPlain, same⟩ := statistics chart member series inChart wrong.1
    exact wrong.2 other plotted (by rw [isPlain, same]; rfl)
  rw [chartFlaw?, noColumns, noStatistics]
  rfl

/-! ## Whole definitions -/

namespace DefinitionFile

/-- Charts within the rules have no flaw. -/
theorem chartFlaw?_gathered {charts : List ChartDefinition}
    (proper : ∀ chart ∈ charts, chart.IsProper site defined standard) :
    chartFlaw? (Progress.gathered (placed site standard true defined [] charts)).charts = none := by
  have series : ∀ before list, ∀ one ∈ (placed site standard true defined before list).map Prod.snd,
      ∃ chart ∈ list, one.series = seriesOf site defined standard chart.series := by
    intro before list
    induction list generalizing before with
    | nil => exact fun one member => by cases member
    | cons chart list ih =>
      intro one member
      rw [placed, List.map_cons] at member
      rcases List.mem_cons.1 member with rfl | behind
      · exact ⟨chart, List.mem_cons_self, ChartDefinition.series_value⟩
      · obtain ⟨other, inList, same⟩ := ih _ one behind
        exact ⟨other, List.mem_cons_of_mem _ inList, same⟩
  rw [Progress.charts_gathered]
  refine chartFlaw?_eq_none (fun one member => ?_) (fun one member => ?_)
  · obtain ⟨chart, inCharts, same⟩ := series [] charts one member
    rw [same]
    exact (proper chart inCharts).columns
  · obtain ⟨chart, inCharts, same⟩ := series [] charts one member
    rw [same]
    exact (proper chart inCharts).statistics

/-- The charts of definitions begin with a keyword. -/
theorem opensWith_charts {file : DefinitionFile} (notEmpty : file.charts ≠ []) :
    OpensWith ["Chart"] (file.charts.flatMap ChartDefinition.items) := by
  cases split : file.charts with
  | nil => exact absurd split notEmpty
  | cons chart charts => exact ⟨"Chart", List.mem_singleton_self _, _, rfl⟩

/-- Definitions within the rules are read as they are meant. The chart that starts the
second output connects as those of the first output do. -/
theorem reads_takeOutputs {file : DefinitionFile} (settled : IsSettled site standard)
    (proper : file.IsProper site standard) :
    Reads file.items {} (takeOutputs site) (file.outputs site standard true) []
      ⟨file.defined, file.panels site standard true⟩ := by
  have opens := opensWith_charts proper.notEmpty
  have noEquations : sameWord (headText (file.charts.flatMap ChartDefinition.items))
      "Equations" = false := opens.isFree (by decide)
  have notEmpty : ∀ state, At file.items {} state → ¬ state.rest.isEmpty = true := by
    intro state place
    obtain ⟨name, member, rest, same⟩ := opens
    rw [place.isEmpty, items, same]
    simp
  have finish : Reads [] ⟨file.defined, file.panels site standard true⟩
      (endOutputs (Progress.gathered (placed site standard true file.defined [] file.charts)))
      (file.outputs site standard true) [] ⟨file.defined, file.panels site standard true⟩ := by
    rw [endOutputs, chartFlaw?_gathered proper.charts, Progress.outputs_gathered]
    exact Reads.pure _
  have charts : Reads (file.charts.flatMap ChartDefinition.items) ⟨file.defined, noPanels⟩
      (repeatWhile (fun state => !state.rest.isEmpty) (takeNextChart site) {} >>= endOutputs)
      (file.outputs site standard true) [] ⟨file.defined, file.panels site standard true⟩ :=
    Reads.bind (reads_takeNextChart_all settled proper.charts proper.distinct) finish
  rw [takeOutputs]
  refine Reads.get_bind fun state place => Reads.ite_false (notEmpty state place) ?_
  cases equations : file.equations with
  | nil =>
    have written : file.items = file.charts.flatMap ChartDefinition.items := by
      rw [items, equations]
      rfl
    have start : ({} : Memory) = ⟨file.defined, noPanels⟩ := by
      rw [defined, equations]
      rfl
    rw [written, start]
    exact (reads_noKeyword noEquations).bind (Reads.ite_false Bool.false_ne_true charts)
  | cons equation more =>
    have written : file.items = .keyword "Equations" ::
        ((equation :: more).flatMap EquationDefinition.items ++
          file.charts.flatMap ChartDefinition.items) := by
      rw [items, equations]
      rfl
    have allProper := proper.equations
    rw [equations] at allProper
    have block : Reads ((equation :: more).flatMap EquationDefinition.items ++
        file.charts.flatMap ChartDefinition.items) {} (takeDefinitions site) ()
        (file.charts.flatMap ChartDefinition.items) ⟨file.defined, noPanels⟩ := by
      rw [defined, equations]
      exact reads_takeDefinitions allProper opens
    rw [written]
    exact reads_takeKeyword.bind (Reads.ite_true rfl (block.bind charts))

end DefinitionFile

end

/-- Whatever the settings of a site are, as long as the standard period is absent or a
whole number, all definitions within the rules are read, in any layout and in any letter
case of their keywords. The outputs, the equations and the panels are the ones that are
meant, and nothing worse than warnings is logged. The charts of the first output connect
to the dashboard and those of later outputs do not; the chart that starts the second
output may stand on either side. -/
theorem definitions_are_read_as_meant {settings : Station.Settings} {site : Site} {standard : Int}
    (built : Site.build settings = .ok site) (period : HasStandardPeriod settings standard)
    {file : DefinitionFile} (proper : file.IsProper site standard) {text : String}
    (written : Spells file.items (words text)) :
    ∃ starter, (parse site text).outcome = .ok (some (file.outputs site standard starter)) ∧
      (parse site text).equations = file.defined ∧
      (parse site text).panels = file.panels site standard starter ∧
      ∀ message ∈ (parse site text).log, message.level = .warning := by
  have start : At file.items {} { rest := words text } :=
    ⟨written, rfl, rfl, fun _ member => absurd member List.not_mem_nil⟩
  obtain ⟨last, ends, place⟩ :=
    DefinitionFile.reads_takeOutputs (isSettled_of_build built period) proper _ start
  rw [parse, ends]
  exact ⟨true, rfl, place.equations, place.panels, place.quiet⟩

/-- The site of a station that chooses no units and has no sensors. -/
def plainSite : Site :=
  ⟨plainSettings, .build plainUnits []⟩

theorem hasStandardPeriod_plain : HasStandardPeriod plainSettings 5 :=
  ⟨.whole 5, 5, rfl, rfl, rfl⟩

/-- The site of a station whose statistics average twelve values. -/
def twelveSite : Site where
  settings := { plainSettings with
    site := { body := { children :=
      [("Compiler", {}, .group { settings := [{ key := "SmaPeriod", text := "12" }] })] } } }
  tables := .build plainUnits []

theorem hasStandardPeriod_twelve : HasStandardPeriod twelveSite.settings 12 := by
  have short : Numeral.IsShort { number := ⟨[1, 2], by decide⟩ } := show 2 ≤ maxDigits by decide
  exact hasStandardPeriod_of_text short rfl

/-- An equation in front of two charts that go to different outputs. The first chart
plots a keyword, an equation of this equation, and two averages of it. -/
def sampleFile : DefinitionFile where
  equations := [{
    name := ⟨"Warm", by decide⟩
    expression := [⟨"Temperature", by decide⟩, ⟨"+", by decide⟩, ⟨"1", by decide⟩] }]
  charts := [
    { id := ⟨"A", by decide⟩
      title := ⟨"Warm", by decide⟩
      moreTitle := [⟨"days", by decide⟩]
      clauses := [.connects [⟨[3], by decide⟩], .barbs false none]
      series := [
        { name := ⟨"Temperature", by decide⟩, attributes := [.colour ⟨"red", by decide⟩] },
        { name := ⟨"Sum", by decide⟩
          source := .equation [⟨"Warm", by decide⟩, ⟨"*", by decide⟩, ⟨"2", by decide⟩]
          attributes := [.axis ⟨"Temp", by decide⟩] },
        { name := ⟨"Sum", by decide⟩, source := .average (some { number := ⟨[3], by decide⟩ }) },
        { name := ⟨"Sum", by decide⟩, source := .average none }]
      info := some [⟨"About", by decide⟩] },
    { id := ⟨"B", by decide⟩
      title := ⟨"Highs", by decide⟩
      series := [{ range := some .daily, name := ⟨"MaxTemp", by decide⟩ }]
      output := some ⟨"b.txt", by decide⟩ }]

/-- What holds of the first element, and of the others behind it, holds at every place
of the list. -/
theorem forall_split_cons {α : Type} {motive : List α → α → Prop} {first : α} {list : List α}
    (here : motive [] first)
    (behind : ∀ before one after, before ++ one :: after = list → motive (first :: before) one) :
    ∀ before one after, before ++ one :: after = first :: list → motive before one := by
  intro before one after split
  cases before with
  | nil =>
    obtain ⟨rfl, -⟩ := List.cons.inj split
    exact here
  | cons other before =>
    obtain ⟨rfl, inRest⟩ := List.cons.inj split
    exact behind before one after inRest

theorem forall_split_nil {α : Type} {motive : List α → α → Prop} :
    ∀ before one after, before ++ one :: after = [] → motive before one :=
  fun _ _ _ split => absurd split (List.append_ne_nil_of_right_ne_nil _ (List.cons_ne_nil _ _))

/-- The sample keeps the rules. -/
theorem sampleFile_isProper : sampleFile.IsProper twelveSite 12 := by
  have defined : sampleFile.defined = [("Warm", "Temperature+1")] := by decide +kernel
  refine ⟨?_, List.cons_ne_nil _ _, ?_, by decide⟩
  · refine List.forall_mem_singleton.2 ⟨by decide +kernel, "Temperature+1", by decide +kernel⟩
  · rw [defined]
    refine List.forall_mem_cons.2 ⟨?_, List.forall_mem_singleton.2 ?_⟩
    · refine ⟨by decide +kernel, ?_, List.cons_ne_nil _ _, ?_, by decide +kernel, by decide +kernel⟩
      · refine List.forall_mem_cons.2 ⟨?_, List.forall_mem_singleton.2 trivial⟩
        exact List.forall_mem_singleton.2 (show 1 ≤ maxDigits by decide)
      · refine forall_split_cons ⟨?_, ?_⟩ (forall_split_cons ⟨?_, ?_⟩
          (forall_split_cons ⟨?_, ?_⟩ (forall_split_cons ⟨?_, ?_⟩ forall_split_nil)))
        · exact show Option.isSome _ = true by decide
        · exact List.forall_mem_singleton.2 trivial
        · exact ⟨by decide +kernel, fun _ => by decide +kernel, "(Temperature+1)*2", by decide +kernel⟩
        · exact List.forall_mem_singleton.2 fun _ => by decide
        · refine ⟨.inr ⟨by decide +kernel, fun _ => by decide +kernel⟩, fun number given => ?_⟩
          obtain rfl := Option.some.inj given
          exact show 1 ≤ maxDigits by decide
        · exact fun _ member => by cases member
        · exact ⟨.inr ⟨by decide +kernel, fun _ => by decide +kernel⟩, fun _ given => by cases given⟩
        · exact fun _ member => by cases member
    · refine ⟨by decide, ?_, List.cons_ne_nil _ _, ?_, by decide, by decide⟩
      · exact fun _ member => by cases member
      · refine forall_split_cons ⟨?_, ?_⟩ forall_split_nil
        · exact show Option.isSome _ = true by decide
        · exact fun _ member => by cases member

/-- The sample is read as it is meant. The chart that starts the second output is on no
panel, so it makes no difference whether it connects. -/
theorem sampleFile_is_read :
    Site.build twelveSite.settings = .ok twelveSite ∧ HasStandardPeriod twelveSite.settings 12 ∧
      sampleFile.IsProper twelveSite 12 ∧ Spells sampleFile.items (words sampleFile.text) ∧
      ∀ starter, (parse twelveSite sampleFile.text).outcome =
        .ok (some (sampleFile.outputs twelveSite 12 starter)) := by
  have written := sampleFile.spells_text (List.cons_ne_nil _ _)
  obtain ⟨starter, outcome, -⟩ := definitions_are_read_as_meant rfl hasStandardPeriod_twelve
    sampleFile_isProper written
  refine ⟨rfl, hasStandardPeriod_twelve, sampleFile_isProper, written, fun starter' => ?_⟩
  have same : sampleFile.outputs twelveSite 12 starter =
      sampleFile.outputs twelveSite 12 starter' := by
    cases starter <;> cases starter' <;> rfl
  rw [outcome, same]

/-! ## Numbers that are too long -/

section

variable {α β : Type} {items items' : List Item} {memory memory' : Memory} {stop : Stop}

/-- At any words that spell the items, the reader stops for this reason. -/
def Stops (items : List Item) (memory : Memory) (reader : Reader α) (stop : Stop) : Prop :=
  ∀ state, At items memory state → ∃ last, reader state = .error stop last

theorem stops_throw : Stops items memory (throw stop : Reader α) stop :=
  fun state _ => ⟨state, rfl⟩

theorem Stops.bind {reader : Reader α} (stops : Stops items memory reader stop)
    (next : α → Reader β) : Stops items memory (reader >>= next) stop := by
  intro state place
  obtain ⟨last, ends⟩ := stops state place
  refine ⟨last, ?_⟩
  change EStateM.bind reader next state = _
  rw [EStateM.bind, ends]

theorem Reads.bind_stops {reader : Reader α} {value : α} {next : α → Reader β}
    (first : Reads items memory reader value items' memory')
    (second : Stops items' memory' (next value) stop) :
    Stops items memory (reader >>= next) stop := by
  intro state place
  obtain ⟨between, ends, place'⟩ := first state place
  obtain ⟨last, ends'⟩ := second between place'
  refine ⟨last, ?_⟩
  change EStateM.bind reader next state = _
  rw [EStateM.bind, ends]
  exact ends'

theorem Stops.get_bind {next : State → Reader β}
    (goes : ∀ state, At items memory state → Stops items memory (next state) stop) :
    Stops items memory (get >>= next) stop :=
  fun state place => goes state place state place

theorem Stops.ite_true {condition : Prop} [Decidable condition] {first second : Reader α}
    (holds : condition) (stops : Stops items memory first stop) :
    Stops items memory (if condition then first else second) stop := by
  rwa [if_pos holds]

theorem Stops.ite_false {condition : Prop} [Decidable condition] {first second : Reader α}
    (fails : ¬ condition) (stops : Stops items memory second stop) :
    Stops items memory (if condition then first else second) stop := by
  rwa [if_neg fails]

/-- A repetition stops with its first step. -/
theorem Stops.repeatWhile {condition : State → Bool} {step : β → Reader β} {value : β}
    (goes : ∀ state, At items memory state → condition state = true)
    (stops : Stops items memory (step value) stop) :
    Stops items memory (repeatWhile condition step value) stop := by
  intro state place
  obtain ⟨last, ends⟩ := stops.bind (repeatUpTo condition step state.rest.length) state place
  refine ⟨last, ?_⟩
  change repeatUpTo condition step (state.rest.length + 1) value state = _
  rw [← ends, repeatUpTo]
  change (if condition state = true then _ else _ : Reader β) state = _
  rw [if_pos (goes state place)]

end

/-- A chart of the temperature that is connected to a panel. -/
def chartOnPanel (panel : Digits) : ChartDefinition where
  id := ⟨"A", by decide⟩
  title := ⟨"T", by decide⟩
  clauses := [.connects [panel]]
  series := [{ name := ⟨"Temperature", by decide⟩ }]

/-- With a short number the chart keeps the rules. -/
theorem chartOnPanel_isProper {panel : Digits} (short : panel.IsShort) :
    DefinitionFile.IsProper plainSite 5 { charts := [chartOnPanel panel] } where
  equations _ member := absurd member List.not_mem_nil
  notEmpty := List.cons_ne_nil _ _
  distinct := List.pairwise_singleton _ _
  charts := by
    refine List.forall_mem_singleton.2 ⟨?_, ?_, List.cons_ne_nil _ _, ?_, ?_, ?_⟩
    · exact fun _ member => absurd member List.not_mem_nil
    · exact List.forall_mem_singleton.2 (List.forall_mem_singleton.2 short)
    · refine forall_split_cons ⟨?_, fun _ member => absurd member List.not_mem_nil⟩ forall_split_nil
      exact show Option.isSome _ = true by decide
    · exact show ∀ series ∈ seriesOf plainSite [] 5 [{ name := ⟨"Temperature", by decide⟩ }],
        series.graphType = "columnrange" → series.range.isByDay = true by decide
    · exact show ∀ series ∈ seriesOf plainSite [] 5 [{ name := ⟨"Temperature", by decide⟩ }],
        series.isStatistic = true → ∃ other ∈ seriesOf plainSite [] 5
          [{ name := ⟨"Temperature", by decide⟩ }],
          other.isStatistic = false ∧ sameWord other.keyword series.keyword = true by decide

section

variable {items : List Item} {memory : Memory} {panel : Digits}

/-- The number of a panel that is too long is no number. -/
theorem stops_takePanels (long : ¬ panel.IsShort) (chart : Chart) (connects : Bool) :
    Stops (.word panel.text :: items) memory (takePanels chart connects)
      (.fault .invalidValue) := by
  have none : readInt? panel.text = none := (readInt?_text { number := panel }).trans (if_neg long)
  refine Stops.repeatWhile (fun state place => ?_) (reads_take.bind_stops ?_)
  · rw [show state.next = panel.text from place.next]
    exact isDigits_text panel
  · rw [none]
    exact stops_throw

theorem stops_takeOutputs (long : ¬ panel.IsShort) (site : Site) :
    Stops (DefinitionFile.items { charts := [chartOnPanel panel] }) {} (takeOutputs site)
      (.fault .invalidValue) := by
  have noEquations : ∀ rest, sameWord (headText (.keyword "Chart" :: rest)) "Equations" = false :=
    fun rest => show sameWord "Chart" "Equations" = false by decide
  have connects : OpensWith ["ConnectsTo"]
      [.keyword "ConnectsTo", .word panel.text, .keyword "Plot", .word "Temperature",
        .keyword "EndChart"] := ⟨_, List.mem_singleton_self _, _, rfl⟩
  have noMore : ∀ word ∈ (chartOnPanel panel).moreTitle,
      ["Plot", "Stats", "ConnectsTo", "Zoom", "Has"].any (sameWord word.text) = false :=
    fun _ member => absurd member List.not_mem_nil
  rw [takeOutputs]
  refine Stops.get_bind fun state place => Stops.ite_false ?_ ?_
  · rw [place.isEmpty]
    exact Bool.false_ne_true
  refine (reads_noKeyword (noEquations _)).bind_stops (Stops.ite_false Bool.false_ne_true ?_)
  refine Stops.bind (Stops.repeatWhile (fun state place => ?_) (Stops.bind ?_ _)) _
  · rw [place.isEmpty]
    rfl
  refine reads_takeKeyword.bind_stops (Stops.ite_false (by decide) ?_)
  refine reads_take.bind_stops (Stops.ite_false Bool.false_ne_true ?_)
  refine reads_takeKeyword.bind_stops (Stops.ite_false (by decide) ?_)
  refine (reads_takeTitle (chartOnPanel panel) (connects.weaken ?_) noMore).bind_stops ?_
  · simp [behindClause]
  refine Stops.bind (Stops.repeatWhile (fun state place => ?_) ?_) _
  · exact place.isAtAny_of_opens connects (by simp)
  · exact reads_takeKeyword.bind_stops (Stops.ite_true rfl (stops_takePanels long _ _))

/-- Whatever the layout of the definitions is, their number is too long. -/
theorem outcome_chartOnPanel (long : ¬ panel.IsShort) (site : Site) {text : String}
    (written : Spells (DefinitionFile.items { charts := [chartOnPanel panel] }) (words text)) :
    (parse site text).outcome = .error .invalidValue := by
  have start : At (DefinitionFile.items { charts := [chartOnPanel panel] }) {}
      { rest := words text } :=
    ⟨written, rfl, rfl, fun _ member => absurd member List.not_mem_nil⟩
  obtain ⟨last, ends⟩ := stops_takeOutputs long site _ start
  rw [parse, ends]

end

/-- Zeros in front of other digits make no difference. -/
theorem ofDigits_zeros (count : Nat) (digits : List Nat) :
    ofDigits (List.replicate count 0 ++ digits) = ofDigits digits := by
  have zeros : (List.replicate count 0).foldl (fun total digit => 10 * total + digit) 0 = 0 := by
    induction count with
    | zero => rfl
    | succ count ih => rw [List.replicate_succ, List.foldl_cons, ih]
  rw [ofDigits, List.foldl_append, zeros]
  rfl

/-- The number one, with so many zeros in front of it that it is too long. -/
def longPanel : Digits :=
  ⟨List.replicate maxDigits 0 ++ [1], List.append_ne_nil_of_right_ne_nil _ (List.cons_ne_nil _ _)⟩

/-- The definitions of a chart on the first panel, whose number is too long. -/
def longFile : DefinitionFile where
  charts := [chartOnPanel longPanel]

/-- The chart on the first panel keeps all other rules, but it is not read, because the
number of the panel is too long. -/
theorem long_panel_stops_reading :
    (∀ panel : Digits, panel.IsShort →
      DefinitionFile.IsProper plainSite 5 { charts := [chartOnPanel panel] }) ∧
    longPanel.value = 1 ∧ Spells longFile.items (words longFile.text) ∧
    (parse plainSite longFile.text).outcome = .error .invalidValue := by
  have value : longPanel.value = 1 := by
    have digits : longPanel.digits.map Fin.val = List.replicate maxDigits 0 ++ [1] := by
      rw [longPanel, List.map_append, List.map_replicate]
      rfl
    rw [Digits.value, digits, ofDigits_zeros]
    rfl
  have long : ¬ longPanel.IsShort := by
    rw [Digits.IsShort, longPanel, List.length_append, List.length_replicate, List.length_singleton]
    omega
  have written := longFile.spells_text (List.cons_ne_nil _ _)
  exact ⟨fun _ short => chartOnPanel_isProper short, value, written,
    outcome_chartOnPanel long plainSite written⟩

end Meteogram.Definition
