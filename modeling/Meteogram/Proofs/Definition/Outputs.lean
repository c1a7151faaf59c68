import Meteogram.Proofs.Definition.Passages

/-!
# Outputs of a text

The charts of a text are divided among the outputs in their order. An output starts at
each chart with an output clause but the first one, wherever the clause stands among
those behind the chart (`outputs_partition_charts`).

Only charts in front of which no chart starts another output connect to the dashboard.
The clause that starts an output stands behind its chart, so the chart that starts the
second output is one of them: `panels_open_last_charts` says which charts connect and
which one each panel opens, and `second_output_connects` is a text whose second output has
a chart that a panel opens.
-/

set_option autoImplicit false

namespace Meteogram.Definition

open Text Number

/-! ## Charts divided among outputs -/

section

variable (current : Output) (charts : List (Option String × Chart))

/-- The first output has the charts in front of the first one that starts another. -/
theorem head?_outputsFrom : (outputsFrom current charts).head? = some { current with
    charts := current.charts ++ (charts.takeWhile fun one => one.1.isNone).map Prod.snd } := by
  induction charts generalizing current with
  | nil => rw [List.takeWhile_nil, List.map_nil, List.append_nil]; rfl
  | cons one charts ih =>
    obtain ⟨start, chart⟩ := one
    cases start with
    | none => rw [outputsFrom, ih]; simp
    | some filename => simp [outputsFrom]

theorem exists_outputsFrom : ∃ first later, outputsFrom current charts = first :: later ∧
    first.charts = current.charts ++ (charts.takeWhile fun one => one.1.isNone).map Prod.snd := by
  obtain ⟨later, split⟩ := List.head?_eq_some_iff.1 (head?_outputsFrom current charts)
  exact ⟨_, later, split, rfl⟩

/-- The other outputs start at the charts that start one. -/
theorem tail_outputsFrom :
    (outputsFrom current charts).tail.map (fun output => (output.filename, output.charts.head?)) =
      charts.filterMap fun one => one.1.map fun filename => (filename, some one.2) := by
  induction charts generalizing current with
  | nil => rfl
  | cons one charts ih =>
    obtain ⟨start, chart⟩ := one
    cases start with
    | none => rw [outputsFrom, ih]; rfl
    | some filename =>
      have first := head?_outputsFrom { filename, charts := [chart] } charts
      obtain ⟨others, split⟩ := List.head?_eq_some_iff.1 first
      have behind := ih { filename, charts := [chart] }
      rw [split, List.tail_cons] at behind
      rw [outputsFrom, List.tail_cons, split, List.map_cons, behind]
      rfl

/-- The other outputs have the charts that start them, at least. -/
theorem charts_ne_nil_of_mem_tail {output : Output}
    (member : output ∈ (outputsFrom current charts).tail) : output.charts ≠ [] := by
  have started := List.mem_map_of_mem (f := fun output => (output.filename, output.charts.head?))
    member
  rw [tail_outputsFrom] at started
  obtain ⟨one, _, same⟩ := List.mem_filterMap.1 started
  obtain ⟨filename, _, same⟩ := Option.map_eq_some_iff.1 same
  intro empty
  rw [empty] at same
  cases (Prod.mk.inj same).2

end

/-- The charts of all outputs are all charts. -/
theorem flatMap_charts_outputsFrom (charts : List (Option String × Chart)) :
    (outputsFrom { filename := Output.firstFilename } charts).flatMap Output.charts =
      charts.map Prod.snd := by
  rw [← Progress.outputs_gathered, flatMap_charts_outputs, Progress.charts_gathered]

/-! ## Texts that are read -/

section

variable {site : Site} {text : String} {outputs : List Output}

/-- A text that is read is divided into passages, and the outputs have their charts. -/
theorem divided_of_parse (parsed : (parse site text).outcome = .ok (some outputs)) :
    ∃ equations passages last,
      IsDivided site { rest := words text } equations passages last ∧
      outputs = outputsFrom { filename := Output.firstFilename } (Passage.placed passages) ∧
      (parse site text).panels = dashboard (Passage.connections passages) := by
  have ends : Ends { rest := words text } (takeOutputs site) _ _ :=
    ends_takeOutputs (List.suffix_refl (words text))
  rw [Ends] at ends
  rw [parse] at parsed ⊢
  cases taken : takeOutputs site { rest := words text } with
  | error stop state =>
    rw [taken] at parsed
    cases stop <;> cases parsed
  | ok found last =>
    rw [taken] at parsed ends
    obtain rfl : found = outputs := Option.some.inj (Except.ok.inj parsed)
    obtain ⟨equations, passages, divided, same⟩ := ends
    refine ⟨equations, passages, last, divided, same, ?_⟩
    obtain ⟨start, block, read, -⟩ := divided
    have passed := block.then_ read.passed
    exact passed.panels [] dashboard_nil.symm

/-- The whole text spells what it is divided into. -/
theorem IsDivided.spells {equations : List BlockEquation} {passages : List Passage} {first last : State}
    (divided : IsDivided site first equations passages last) :
    Spells (blockItems equations ++ passages.flatMap Passage.items) first.rest := by
  obtain ⟨start, block, read, ends⟩ := divided
  obtain ⟨taken, spelled, split⟩ := (block.then_ read.passed).words
  rwa [split, ends, List.append_nil]

/-- No passage has the name of one in front of it. -/
theorem AreRead.distinct {passages : List Passage} {start last : State}
    (read : AreRead site start passages last) :
    passages.Pairwise fun first second => sameWord first.full.id second.full.id = false := by
  induction read with
  | none => exact List.Pairwise.nil
  | next others read ih =>
    refine List.pairwise_append.2 ⟨ih, List.pairwise_singleton _ _, ?_⟩
    exact fun other member => List.forall_mem_singleton.2 (read.fresh other member)

/-- Each passage is read behind the ones in front of it. -/
theorem AreRead.each {passages : List Passage} {start last : State}
    (read : AreRead site start passages last) {before after : List Passage} {passage : Passage}
    (split : before ++ passage :: after = passages) :
    ∃ state final, passage.IsRead site before state final := by
  induction read generalizing after with
  | none => exact absurd split (List.append_ne_nil_of_right_ne_nil _ (List.cons_ne_nil _ _))
  | next others read ih =>
    cases after using List.reverseRecOn with
    | nil =>
      obtain ⟨rfl, same⟩ := List.append_inj' split rfl
      obtain rfl := List.singleton_inj.1 same
      exact ⟨_, _, read⟩
    | append_singleton after ending =>
      rw [← List.cons_append, ← List.append_assoc] at split
      exact ih (List.append_inj' split rfl).1

/-- The outputs of every text that is read divide its charts among them, in their order
and each one once. If there is a chart, then no output is without one. The first output
goes to the standard file; the others start at the charts, but the first one of all, that
have an output clause, and go to the files that these name. No two charts have names that
only differ in their letter case. -/
theorem outputs_partition_charts (parsed : (parse site text).outcome = .ok (some outputs)) :
    ∃ equations passages last,
      IsDivided site { rest := words text } equations passages last ∧
      Spells (blockItems equations ++ passages.flatMap Passage.items) (words text) ∧
      outputs.flatMap Output.charts = passages.map Passage.full ∧
      (passages ≠ [] → ∀ output ∈ outputs, output.charts ≠ []) ∧
      outputs.head?.map Output.filename = some "cumuluscharts.txt" ∧
      outputs.tail.map (fun output => (output.filename, output.charts.head?)) =
        passages.tail.filterMap (fun passage =>
          passage.output?.map fun filename => (filename, some passage.full)) ∧
      (outputs.flatMap Output.charts).Pairwise fun first second =>
        sameWord first.id second.id = false := by
  obtain ⟨equations, passages, last, divided, rfl, -⟩ := divided_of_parse parsed
  obtain ⟨start, block, read, ends⟩ := divided
  have charts : (outputsFrom { filename := Output.firstFilename } (Passage.placed passages)).flatMap
      Output.charts = passages.map Passage.full :=
    (flatMap_charts_outputsFrom _).trans (Passage.map_snd_placed passages)
  have first := head?_outputsFrom { filename := Output.firstFilename } (Passage.placed passages)
  have others := tail_outputsFrom { filename := Output.firstFilename } (Passage.placed passages)
  refine ⟨equations, passages, last, ⟨start, block, read, ends⟩,
    IsDivided.spells ⟨start, block, read, ends⟩, charts, ?_, by rw [first]; rfl, ?_, ?_⟩
  · intro notEmpty output member
    obtain ⟨later, split⟩ := List.head?_eq_some_iff.1 first
    rw [split] at member
    rcases List.mem_cons.1 member with rfl | inLater
    · obtain ⟨passage, passages, rfl⟩ := List.exists_cons_of_ne_nil notEmpty
      simp [Passage.placed]
    · refine charts_ne_nil_of_mem_tail { filename := Output.firstFilename } (Passage.placed passages) ?_
      rw [split]
      exact inLater
  · rw [others]
    cases passages with
    | nil => rfl
    | cons passage passages => simp [Passage.placed, List.filterMap_map]
  · rw [charts, List.pairwise_map]
    exact read.distinct

/-! ## Panels of the dashboard -/

theorem lastOf_append {α β : Type} (part : α → Option β) (first second : List α) :
    lastOf part (first ++ second) = (lastOf part second).or (lastOf part first) := by
  rw [lastOf, List.filterMap_append, List.getLast?_append]
  rfl

/-- A panel opens a chart that is connected to it. -/
theorem lastOf_linksOf (chart : String) (panels : List Int) (panel : Int) :
    lastOf (fun link => if link.1 = panel then some link.2 else none) (linksOf chart panels) =
      if panel ∈ panels then some chart else none := by
  induction panels using List.reverseRecOn with
  | nil => rfl
  | append_singleton panels last ih =>
    rw [linksOf_append, lastOf_append, ih]
    by_cases here : panel = last <;> by_cases before : panel ∈ panels <;>
      simp [linksOf, lastOf, here, before, eq_comm]

/-- A panel opens the last chart that is connected to it. -/
theorem lastOf_connections (passages : List Passage) (panel : Int) :
    lastOf (fun link => if link.1 = panel then some link.2 else none)
        (Passage.connections passages) =
      lastOf (fun passage => if panel ∈ passage.full.panels then some passage.full.id else none)
        passages := by
  induction passages using List.reverseRecOn with
  | nil => rfl
  | append_singleton passages passage ih =>
    rw [Passage.connections_concat, lastOf_append, lastOf_concat, ih, lastOf_linksOf]

theorem length_placed (passages : List Passage) :
    (Passage.placed passages).length = passages.length := by
  cases passages with
  | nil => rfl
  | cons first others => simp [Passage.placed]

/-- The number of passages in front of the first one that starts another output. -/
def inFirstOutput (passages : List Passage) : Nat :=
  ((Passage.placed passages).takeWhile fun one => one.1.isNone).length

/-- Charts connect behind the passages `before` as long as these are charts of the first
output. -/
theorem connectsBehind_iff (before after : List Passage) :
    Passage.connectsBehind before = true ↔ before.length ≤ inFirstOutput (before ++ after) := by
  cases before with
  | nil => exact iff_of_true rfl (Nat.zero_le _)
  | cons first others =>
    have split : Passage.placed (first :: others ++ after) = Passage.placed (first :: others) ++
        after.map fun passage => (passage.output?, passage.full) := by
      simp [Passage.placed]
    rw [← Passage.all_isNone_placed, inFirstOutput, split, ← length_placed, List.takeWhile_append]
    by_cases whole : ((Passage.placed (first :: others)).takeWhile fun one => one.1.isNone).length =
        (Passage.placed (first :: others)).length
    · have same := (List.takeWhile_prefix _).eq_of_length whole
      rw [if_pos whole, List.length_append]
      refine iff_of_true ?_ (Nat.le_add_right _ _)
      exact List.all_eq_true.2 (List.takeWhile_eq_self_iff.1 same)
    · have fewer := (List.takeWhile_prefix (l := Passage.placed (first :: others))
        fun one => one.1.isNone).length_le
      rw [if_neg whole]
      refine iff_of_false (fun all => whole ?_) (by omega)
      rw [List.takeWhile_eq_self_iff.2 (List.all_eq_true.1 all)]

/-- The chart that each panel opens if the charts of all these passages connect: the last
one that names the panel. -/
def lastNaming (passages : List Passage) : List String :=
  (List.range panelCount).map fun (i : Nat) =>
    (lastOf (fun passage => if (i + 1 : Int) ∈ passage.text.named then some passage.text.id else none)
      passages).getD ""

theorem lastOf_congr {α β : Type} {part part' : α → Option β} {list : List α}
    (same : ∀ element ∈ list, part element = part' element) : lastOf part list = lastOf part' list := by
  rw [lastOf, lastOf, List.filterMap_congr same]

/-- A chart has its name, and the panels that it names if it is one of the first output
or the one behind these. -/
theorem AreRead.chart_at {passages : List Passage} {start last : State}
    (read : AreRead site start passages last) {k : Nat} {passage : Passage}
    (here : passages[k]? = some passage) : passage.full.id = passage.text.id ∧
      passage.full.panels = linked (k ≤ inFirstOutput passages) passage.text.named := by
  obtain ⟨inside, rfl⟩ := List.getElem?_eq_some_iff.1 here
  have split : passages.take k ++ passages[k] :: passages.drop (k + 1) = passages := by
    rw [← List.drop_eq_getElem_cons inside, List.take_append_drop]
  have length : (passages.take k).length = k := List.length_take_of_le (Nat.le_of_lt inside)
  obtain ⟨_, _, isRead⟩ := read.each split
  have connects := connectsBehind_iff (passages.take k) (passages[k] :: passages.drop (k + 1))
  rw [split, length] at connects
  refine ⟨isRead.id, isRead.panels.trans ?_⟩
  rw [Bool.eq_iff_iff.2 (connects.trans decide_eq_true_iff.symm)]

theorem isPanel_of_mem_range {i : Nat} (member : i ∈ List.range panelCount) :
    isPanel (i + 1) = true := by
  have inside := List.mem_range.1 member
  rw [isPanel, Bool.and_eq_true, decide_eq_true_eq, decide_eq_true_eq]
  omega

/-- A panel opens the last chart that names it, if the charts that come first connect to
the panels that they name, and the others do not connect. -/
theorem dashboard_connections {passages others : List Passage}
    (connect : ∀ passage ∈ passages, passage.full.id = passage.text.id ∧
      passage.full.panels = passage.text.named.filter isPanel)
    (apart : ∀ passage ∈ others, passage.full.panels = []) :
    dashboard (Passage.connections (passages ++ others)) = lastNaming passages := by
  rw [dashboard, lastNaming]
  refine List.map_congr_left fun i member => congrArg (Option.getD · "") ?_
  have nothing : lastOf (fun passage : Passage =>
      if (i + 1 : Int) ∈ passage.full.panels then some passage.full.id else none) others = none := by
    rw [lastOf_eq_none_iff, List.filterMap_eq_nil_iff]
    intro passage member
    rw [apart passage member, if_neg List.not_mem_nil]
  refine (lastOf_connections _ _).trans ?_
  rw [lastOf_append, nothing, Option.none_or]
  refine lastOf_congr fun passage inPassages => ?_
  obtain ⟨id, panels⟩ := connect passage inPassages
  simp [id, panels, isPanel_of_mem_range member]

/-- A chart that names no panel makes no difference. -/
theorem lastNaming_append (passages : List Passage) {more : List Passage}
    (free : ∀ passage ∈ more, passage.text.named.filter isPanel = []) :
    lastNaming (passages ++ more) = lastNaming passages := by
  rw [lastNaming, lastNaming]
  refine List.map_congr_left fun i member => congrArg (Option.getD · "") ?_
  have nothing : lastOf (fun passage : Passage =>
      if (i + 1 : Int) ∈ passage.text.named then some passage.text.id else none) more = none := by
    rw [lastOf_eq_none_iff, List.filterMap_eq_nil_iff]
    intro passage inMore
    refine if_neg fun named => ?_
    exact List.filter_eq_nil_iff.1 (free passage inMore) _ named (isPanel_of_mem_range member)
  rw [lastOf_append, nothing, Option.none_or]

/-- The charts that connect to the dashboard are those of the first output and the one
that starts the second output. Each of them connects to the panels that it names, and a
panel opens the last one that names it. If the chart that starts the second output names
no panel, then only charts of the first output connect. -/
theorem panels_open_last_charts (parsed : (parse site text).outcome = .ok (some outputs)) :
    ∃ equations passages last first later,
      IsDivided site { rest := words text } equations passages last ∧
      outputs = first :: later ∧
      outputs.flatMap Output.charts = passages.map Passage.full ∧
      (∀ passage ∈ passages.take (first.charts.length + 1),
        passage.full.panels = passage.text.named.filter isPanel) ∧
      (∀ passage ∈ passages.drop (first.charts.length + 1), passage.full.panels = []) ∧
      (parse site text).panels = lastNaming (passages.take (first.charts.length + 1)) ∧
      ((∀ passage ∈ passages[first.charts.length]?, passage.text.named.filter isPanel = []) →
        (parse site text).panels = lastNaming (passages.take first.charts.length) ∧
          ∀ output ∈ later, ∀ chart ∈ output.charts, chart.panels = []) := by
  obtain ⟨equations, passages, last, divided, rfl, panels⟩ := divided_of_parse parsed
  obtain ⟨start, block, read, ends⟩ := divided
  obtain ⟨first, later, split, inFirst⟩ :=
    exists_outputsFrom { filename := Output.firstFilename } (Passage.placed passages)
  have charts := (flatMap_charts_outputsFrom _).trans (Passage.map_snd_placed passages)
  have count : first.charts.length = inFirstOutput passages := by
    rw [inFirst]
    exact List.length_map _
  -- The charts up to the one that starts the second output, and those behind it.
  have connect : ∀ passage ∈ passages.take (inFirstOutput passages + 1),
      passage.full.id = passage.text.id ∧
        passage.full.panels = passage.text.named.filter isPanel := by
    intro passage member
    obtain ⟨k, here⟩ := List.mem_iff_getElem?.1 member
    rw [List.getElem?_take] at here
    split at here
    · next inside =>
      obtain ⟨id, panels⟩ := read.chart_at here
      rw [decide_eq_true (Nat.le_of_lt_succ inside)] at panels
      exact ⟨id, panels⟩
    · cases here
  have behind : ∀ passage ∈ passages.drop (inFirstOutput passages + 1),
      passage.full.panels = [] := by
    intro passage member
    obtain ⟨k, here⟩ := List.mem_iff_getElem?.1 member
    rw [List.getElem?_drop] at here
    obtain ⟨-, panels⟩ := read.chart_at here
    rw [decide_eq_false (by omega)] at panels
    exact panels
  have opened : (parse site text).panels = lastNaming (passages.take (inFirstOutput passages + 1)) := by
    rw [panels, ← dashboard_connections connect behind, List.take_append_drop]
  refine ⟨equations, passages, last, first, later, ⟨start, block, read, ends⟩, split, charts, ?_, ?_,
    ?_, fun free => ⟨?_, ?_⟩⟩
  · rw [count]
    exact fun passage member => (connect passage member).2
  · rw [count]
    exact behind
  · rw [count]
    exact opened
  · rw [opened, count, List.take_add_one]
    refine lastNaming_append _ fun passage member => free passage ?_
    rw [count]
    exact Option.mem_toList.1 member
  · intro output inLater chart inOutput
    have rest : later.flatMap Output.charts = (passages.drop first.charts.length).map Passage.full := by
      rw [split, List.flatMap_cons] at charts
      rw [List.map_drop, ← charts, List.drop_left]
    have member := List.mem_flatMap.2 ⟨output, inLater, inOutput⟩
    rw [rest, count, List.mem_map] at member
    obtain ⟨passage, inRest, rfl⟩ := member
    rw [List.drop_eq_getElem?_toList_append] at inRest
    rcases List.mem_append.1 inRest with starts | further
    · have here := Option.mem_toList.1 starts
      rw [(read.chart_at here).2, decide_eq_true (le_refl _)]
      exact free passage (by rwa [count])
    · exact behind passage further

/-! ## A text with two outputs -/

/-- A chart of the temperature that was read. -/
def temperatureChart (id : String) (panels : List Int) : Chart :=
  { id, title := "T", panels, axes := ⟨1⟩,
    series := [{ keyword := "Temperature", field := "temp", datafile := "tempdata.json",
                 axes := ⟨1⟩, axisId := "Temp", unit := "°C" }] }

/-- The output clause of the first chart counts for nothing; the second chart starts an
output, and the third one goes there too. -/
def dividedText : String :=
  "Chart A Title T ConnectsTo 3 Plot Temperature EndChart Output a.txt
    Chart B Title T ConnectsTo 3 30 Plot Temperature EndChart Output b.txt
    Chart C Title T ConnectsTo 4 Plot Temperature EndChart"

/-- The outputs that the text is read as. -/
def dividedOutputs : List Output := [
  { filename := "cumuluscharts.txt", charts := [temperatureChart "A" [3]] },
  { filename := "b.txt", charts := [temperatureChart "B" [3], temperatureChart "C" []] }]

theorem parse_dividedText : (parse plainSite dividedText).outcome = .ok (some dividedOutputs) ∧
    (parse plainSite dividedText).panels = noPanels.set 2 "B" := by
  decide +kernel

/-- Two of the charts of the text are in the second output, which starts at the second
chart. -/
theorem dividedText_is_partitioned :
    (parse plainSite dividedText).outcome = .ok (some dividedOutputs) ∧
    ∃ equations passages last,
      IsDivided plainSite { rest := words dividedText } equations passages last ∧
      passages.map Passage.full =
        [temperatureChart "A" [3], temperatureChart "B" [3], temperatureChart "C" []] ∧
      passages.tail.filterMap (fun passage =>
          passage.output?.map fun filename => (filename, some passage.full)) =
        [("b.txt", some (temperatureChart "B" [3]))] := by
  obtain ⟨equations, passages, last, divided, -, charts, -, -, others, -⟩ :=
    outputs_partition_charts parse_dividedText.1
  exact ⟨parse_dividedText.1, equations, passages, last, divided, charts.symm, others.symm⟩

/-- The charts that connect are the one of the first output and the first one of the
second. -/
theorem two_charts_of_dividedText_connect :
    (parse plainSite dividedText).outcome = .ok (some dividedOutputs) ∧
    ∃ passages : List Passage,
      passages.map Passage.full =
        [temperatureChart "A" [3], temperatureChart "B" [3], temperatureChart "C" []] ∧
      lastNaming (passages.take 2) = noPanels.set 2 "B" := by
  obtain ⟨equations, passages, last, first, later, -, split, charts, -, -, panels, -⟩ :=
    panels_open_last_charts parse_dividedText.1
  obtain ⟨rfl, -⟩ := List.cons.inj split
  exact ⟨parse_dividedText.1, passages, charts.symm, panels.symm.trans parse_dividedText.2⟩

/-- A chart that connects to a panel and starts the second output. -/
def connectedOutputText : String :=
  "Chart A Title T Plot Temperature EndChart
    Chart B Title T ConnectsTo 1 Plot Temperature EndChart Output b.txt"

/-- The chart is the only one of its output, and the panel opens it all the same. -/
theorem second_output_connects :
    (parse plainSite connectedOutputText).outcome = .ok (some [
      { filename := "cumuluscharts.txt", charts := [temperatureChart "A" []] },
      { filename := "b.txt", charts := [temperatureChart "B" [1]] }]) ∧
    (parse plainSite connectedOutputText).panels = noPanels.set 0 "B" := by
  decide +kernel

end

end Meteogram.Definition
