import Meteogram.Proofs.Page.OwnData

/-!
# The series that statistics are linked to

A statistic is drawn over a series that it is linked to by the id of this series. The definitions
are refused unless the keyword of the statistic is plotted in the same chart, in any letter case.
But the id of a series depends on how it is drawn, and it is not there if the series cannot be
computed. So a statistic is linked to a series of its chart if that has the keyword in the same
spelling, is drawn in another way than as a range of columns, and has data
(`statistics_are_linked_to_ids`); otherwise the link may lead nowhere (`links_lead_nowhere`).
-/

set_option autoImplicit false

namespace Meteogram.Page

open Text Definition Equation
open Station (Settings Units)

/-! ## Ids and links -/

/-- The line with the id of a series. -/
def idLine (name : String) : String :=
  "    id:'" ++ name ++ "',"

/-- The line with the id of the series that a series is linked to. -/
def linkLine (name : String) : String :=
  "    linkedTo:'" ++ name ++ "',"

/-- What a line with an id starts with. -/
def idStart : List Char := "    id:'".toList

/-- What a line with a link starts with. -/
def linkStart : List Char := "    linkedTo:'".toList

theorem hasStart_idLine (name : String) : hasStart idStart (idLine name) = true :=
  hasStart_append (hasStart_append (hasStart_ofList rfl) _) _

theorem hasStart_linkLine (name : String) : hasStart linkStart (linkLine name) = true :=
  hasStart_append (hasStart_append (hasStart_ofList rfl) _) _

/-- The series is drawn as a running average, over another one. -/
def isLinked (series : Series) : Bool :=
  series.isStatistic && series.graphType = "sma"

/-- The id of a series. -/
def seriesId (series : Series) : String :=
  if series.graphType = "columnrange" then fieldStem series.field ++ "range"
  else if isLinked series then series.graphType ++ series.keyword
  else series.keyword

/-- The lines that name a series have its id, and a link if it is a running average. -/
theorem dataLines_cases {settings : Settings} {series : Series} {lines : List String}
    (written : dataLines settings series = .ok lines) :
    ∃ name data, lines = ["    name:'" ++ name ++ "',", idLine (seriesId series)] ++
        (if isLinked series then
          [linkLine series.keyword, "    showInLegend:true,",
            "    params: \x7bperiod: " ++ toString series.period ++ " \x7d,"]
        else ["    data: " ++ data ++ ","]) := by
  have columnsId : "    id:'" ++ fieldStem series.field ++ "range'," =
      idLine (fieldStem series.field ++ "range") := by
    have back : "range'," = "range" ++ "'," := by
      decide
    rw [idLine, back]
    simp only [String.append_assoc]
  have columnsData : "    data: " ++ fieldStem series.field ++ "RangeMinMax," =
      "    data: " ++ (fieldStem series.field ++ "RangeMinMax") ++ "," := by
    have back : "RangeMinMax," = "RangeMinMax" ++ "," := by
      decide
    rw [back]
    simp only [String.append_assoc]
  rw [dataLines] at written
  dsimp only at written
  split at written
  · next columns =>
    obtain ⟨name, _, same⟩ := bind_eq_ok.1 written
    obtain rfl := Except.ok.inj same
    have notLinked : isLinked series = false := by
      rw [isLinked, columns]
      exact Bool.and_false _
    refine ⟨name, fieldStem series.field ++ "RangeMinMax", ?_⟩
    rw [notLinked, seriesId, if_pos columns, columnsId, columnsData]
    rfl
  · next noColumns =>
    split at written
    · next linked =>
      obtain ⟨name, _, same⟩ := bind_eq_ok.1 written
      obtain rfl := Except.ok.inj same
      have isLinked' : isLinked series = true := linked
      refine ⟨series.graphType ++ name, "", ?_⟩
      rw [isLinked', seriesId, if_neg noColumns, if_pos isLinked', if_pos rfl, idLine]
      simp only [← String.append_assoc]
      rfl
    · next notLinked =>
      obtain ⟨name, _, same⟩ := bind_eq_ok.1 written
      obtain rfl := Except.ok.inj same
      have notLinked' : ¬isLinked series = true := notLinked
      refine ⟨name, series.keyword, ?_⟩
      rw [seriesId, if_neg noColumns, if_neg notLinked', if_neg notLinked']
      rfl

theorem lacks_lookLines {start : List Char} (apart : start = idStart ∨ start = linkStart)
    (chart : Chart) (series : Series) : Lacks (hasStart start) (lookLines chart series) := by
  rw [lookLines]
  rcases apart with rfl | rfl <;> split_ifs <;>
    simp (disch := exact startsApart_ofList rfl) only [List.nil_append, List.append_nil,
      List.cons_append, lacks_cons, lacks_nil, String.append_assoc, hasStart_append_of_apart,
      true_and, and_true]
  all_goals exact hasStart_ofList rfl

/-- The lines around a series, and the one with its name, are neither its id nor its link. -/
theorem lacks_frameLines {start : List Char} (apart : start = idStart ∨ start = linkStart)
    (name : String) :
    Lacks (hasStart start) ["   thisChart.addSeries(\x7b "] ∧
      Lacks (hasStart start) ["   \x7d, false);"] ∧
      hasStart start ("    name:'" ++ name ++ "',") = false := by
  rcases apart with rfl | rfl <;>
    simp (disch := exact startsApart_ofList rfl) only [lacks_cons, lacks_nil,
      String.append_assoc, hasStart_append_of_apart, and_true] <;>
    exact ⟨hasStart_ofList rfl, hasStart_ofList rfl⟩

/-- Nor is the line with its data. -/
theorem lacks_sourceLine {start : List Char} (apart : start = idStart ∨ start = linkStart)
    (source : String) : Lacks (hasStart start) ["    data: " ++ source ++ ","] := by
  rcases apart with rfl | rfl <;>
    simp (disch := exact startsApart_ofList rfl) only [lacks_cons, lacks_nil,
      String.append_assoc, hasStart_append_of_apart, and_true]

/-- A series has one id, and at most one link. -/
theorem filter_seriesLines {settings : Settings} {chart : Chart} {series : Series}
    {lines : List String} (written : seriesLines settings chart series = .ok lines) :
    lines.filter (hasStart idStart) = [idLine (seriesId series)] ∧
    lines.filter (hasStart linkStart) =
      if isLinked series then [linkLine series.keyword] else [] := by
  obtain ⟨data, named, same⟩ := bind_eq_ok.1 written
  obtain rfl := Except.ok.inj same
  obtain ⟨name, source, rfl⟩ := dataLines_cases named
  have isId := hasStart_idLine (seriesId series)
  have isLink := hasStart_linkLine series.keyword
  constructor
  · obtain ⟨opens, closes, named⟩ := lacks_frameLines (.inl rfl) name
    have rest : Lacks (hasStart idStart) (if isLinked series then
        [linkLine series.keyword, "    showInLegend:true,",
          "    params: \x7bperiod: " ++ toString series.period ++ " \x7d,"]
        else ["    data: " ++ source ++ ","]) := by
      split
      · simp (disch := exact startsApart_ofList rfl) only [linkLine, lacks_cons, lacks_nil,
          String.append_assoc, hasStart_append_of_apart, true_and, and_true]
        exact hasStart_ofList rfl
      · exact lacks_sourceLine (.inl rfl) source
    have first : Lacks (hasStart idStart) ["    name:'" ++ name ++ "',"] :=
      lacks_cons.2 ⟨named, lacks_nil⟩
    rw [filter_append_of_lacks_back closes,
      filter_append_of_lacks_back (lacks_lookLines (.inl rfl) chart series),
      filter_append_of_lacks_front opens, filter_append_of_lacks_back rest]
    exact (filter_append_of_lacks_front first).trans (filter_cons_of_lacks isId lacks_nil)
  · obtain ⟨opens, closes, named⟩ := lacks_frameLines (.inr rfl) name
    have front :
        Lacks (hasStart linkStart) ["    name:'" ++ name ++ "',", idLine (seriesId series)] := by
      refine lacks_cons.2 ⟨named, lacks_cons.2 ⟨?_, lacks_nil⟩⟩
      rw [idLine, String.append_assoc]
      exact hasStart_append_of_apart (startsApart_ofList rfl) _
    rw [filter_append_of_lacks_back closes,
      filter_append_of_lacks_back (lacks_lookLines (.inr rfl) chart series),
      filter_append_of_lacks_front opens, filter_append_of_lacks_front front]
    split
    · refine filter_cons_of_lacks isLink
        (lacks_cons.2 ⟨hasStart_ofList rfl, lacks_cons.2 ⟨?_, lacks_nil⟩⟩)
      rw [String.append_assoc]
      exact hasStart_append_of_apart (startsApart_ofList rfl) _
    · exact (lacks_sourceLine (.inr rfl) source).filter

/-! ## Series that are added -/

/-- The page adds the series with these lines, for its data can be computed. -/
def IsAdded (site : Site) (loaded : List Variable) (chart : Chart) (series : Series)
    (lines : List String) : Prop :=
  (∃ added, (computed site.tables loaded chart series).outcome = .ok (some added)) ∧
    seriesLines site.settings chart series = .ok lines

/-- Some series that is added to the chart has this id. -/
def HasId (site : Site) (loaded : List Variable) (chart : Chart) (name : String) : Prop :=
  ∃ series ∈ chart.series, ∃ lines, IsAdded site loaded chart series lines ∧ idLine name ∈ lines

section

variable {site : Site} {loaded : List Variable} {chart : Chart} {series : Series}
  {lines : List String}

theorem id_of_isAdded (isAdded : IsAdded site loaded chart series lines) {name : String} :
    idLine name ∈ lines ↔ name = seriesId series := by
  have ids := (filter_seriesLines isAdded.2).1
  have filtered : idLine name ∈ lines ↔ idLine name ∈ lines.filter (hasStart idStart) :=
    (List.mem_filter.trans (and_iff_left (hasStart_idLine name))).symm
  rw [filtered, ids, List.mem_singleton]
  exact ⟨eq_of_around, congrArg idLine⟩

theorem link_of_isAdded (isAdded : IsAdded site loaded chart series lines) {name : String} :
    linkLine name ∈ lines ↔ isLinked series = true ∧ name = series.keyword := by
  have links := (filter_seriesLines isAdded.2).2
  have filtered : linkLine name ∈ lines ↔ linkLine name ∈ lines.filter (hasStart linkStart) :=
    (List.mem_filter.trans (and_iff_left (hasStart_linkLine name))).symm
  rw [filtered, links]
  split
  · next linked =>
    rw [List.mem_singleton, and_iff_right linked]
    exact ⟨eq_of_around, congrArg linkLine⟩
  · next notLinked => exact iff_of_false List.not_mem_nil fun both => notLinked both.1

/-- If the series of a chart are added, each of them has its lines unless it cannot be computed,
and the function that adds them has these lines. -/
theorem exists_isAdded {adding : Added}
    (written : (addingLines site loaded chart).outcome = .ok adding)
    (member : series ∈ chart.series) :
    ((computed site.tables loaded chart series).outcome = .ok none ∨
      ∃ lines, IsAdded site loaded chart series lines) ∧
    ∀ lines, IsAdded site loaded chart series lines → lines <:+: adding.lines := by
  obtain ⟨parts, each, written⟩ := Report.outcome_bind_eq_ok_iff.1 written
  obtain ⟨barbs, _, same⟩ := Report.outcome_bind_eq_ok_iff.1 written
  obtain rfl := Except.ok.inj same
  rw [Report.outcome_mapM] at each
  obtain ⟨part, inParts, here⟩ := (Log.values_of_mapM each).1 series member
  obtain ⟨found, emitted, here⟩ := Report.outcome_bind_eq_ok_iff.1 here
  cases found with
  | none =>
    refine ⟨.inl emitted, fun lines ⟨⟨added, emitted'⟩, _⟩ => ?_⟩
    cases emitted.symm.trans emitted'
  | some added =>
    obtain ⟨lines, drawn, same⟩ := Report.outcome_bind_eq_ok_iff.1 here
    obtain rfl := Except.ok.inj same
    refine ⟨.inr ⟨lines, ⟨added, emitted⟩, drawn⟩, fun lines' isAdded => ?_⟩
    obtain rfl : lines = lines' := Except.ok.inj (drawn.symm.trans isAdded.2)
    have inside : lines <:+: parts.flatMap Added.lines :=
      (List.suffix_append added.lines lines).isInfix.trans (infix_flatMap inParts Added.lines)
    exact inside.trans ((List.infix_append _ _ barbs).trans (List.prefix_append _ _).isInfix)

end

/-- The page has no code for the equation of the series: it uses no variable, or its running total
is never closed. -/
def IsSkipped (tables : Tables) (loaded : List Variable) (series : Series) : Prop :=
  series.graphType ≠ "columnrange" ∧ ∃ equation, series.equation = some equation ∧
    (equationVariables tables loaded series = [] ∨
      ∃ fault, splitSum equation.toList = .error fault)

theorem computed_eq_none_iff {tables : Tables} {loaded : List Variable} {chart : Chart}
    {series : Series} {found : Option Added}
    (emitted : (computed tables loaded chart series).outcome = .ok found) :
    found = none ↔ IsSkipped tables loaded series := by
  cases found with
  | some added =>
    refine iff_of_false nofun ?_
    rintro ⟨noColumns, equation, isEquation, cause⟩
    rcases computed_cases emitted with ⟨columns, _⟩ | ⟨_, plain, _⟩ |
      ⟨other, first, names, code, _, isEquation', uses, coded, _⟩
    · exact noColumns columns
    · cases plain.symm.trans isEquation
    · obtain rfl := Option.some.inj (isEquation'.symm.trans isEquation)
      rcases cause with noVariables | ⟨fault, unclosed⟩
      · rw [noVariables] at uses
        cases uses
      · rw [codeOf, unclosed] at coded
        cases coded
  | none =>
    refine iff_of_true rfl ?_
    rw [computed] at emitted
    split at emitted
    · cases emitted
    · next noColumns =>
      split at emitted
      · cases emitted
      · next equation isEquation =>
        obtain ⟨lines?, scripted, emitted⟩ := Report.outcome_bind_eq_ok_iff.1 emitted
        refine ⟨noColumns, equation, isEquation, ?_⟩
        cases uses : equationVariables tables loaded series with
        | nil => exact .inl rfl
        | cons first rest =>
          refine .inr ?_
          cases split : splitSum equation.toList with
          | error fault => exact ⟨fault, rfl⟩
          | ok pieces =>
            rw [uses, List.map_cons, Equation.scriptLines] at scripted
            dsimp only at scripted
            rw [outcome_codeOf split] at scripted
            obtain rfl := Except.ok.inj scripted
            cases emitted

/-- If the series of a chart are added, the ids of the chart are those of the series that are not
skipped. -/
theorem hasId_iff {site : Site} {loaded : List Variable} {chart : Chart} {adding : Added}
    (written : (addingLines site loaded chart).outcome = .ok adding) {name : String} :
    HasId site loaded chart name ↔
      ∃ series ∈ chart.series, seriesId series = name ∧ ¬IsSkipped site.tables loaded series := by
  constructor
  · rintro ⟨series, member, lines, isAdded, hasId⟩
    obtain ⟨added, emitted⟩ := isAdded.1
    refine ⟨series, member, ((id_of_isAdded isAdded).1 hasId).symm, ?_⟩
    rw [← computed_eq_none_iff emitted]
    nofun
  · rintro ⟨series, member, rfl, notSkipped⟩
    rcases (exists_isAdded written member).1 with skipped | ⟨lines, isAdded⟩
    · exact absurd ((computed_eq_none_iff skipped).1 rfl) notSkipped
    · exact ⟨series, member, lines, isAdded, (id_of_isAdded isAdded).2 rfl⟩

/-- A series that is neither a statistic nor drawn as a range of columns has its keyword as its
id. -/
theorem hasId_of_plain {site : Site} {loaded : List Variable} {chart : Chart} {adding : Added}
    (written : (addingLines site loaded chart).outcome = .ok adding) {base : Series}
    (member : base ∈ chart.series) (plain : base.isStatistic = false)
    (noColumns : base.graphType ≠ "columnrange")
    (notSkipped : ¬IsSkipped site.tables loaded base) : HasId site loaded chart base.keyword := by
  refine (hasId_iff written).2 ⟨base, member, ?_, notSkipped⟩
  have notLinked : ¬isLinked base = true := by
    rw [isLinked, plain, Bool.false_and]
    exact Bool.false_ne_true
  rw [seriesId, if_neg noColumns, if_neg notLinked]

/-! ## Links of charts that were read -/

/-- The series is no statistic, and the name is its keyword in some letter case. -/
def Plots (name : String) (series : Series) : Prop :=
  series.isStatistic = false ∧ sameWord series.keyword name = true

/-- The keywords of both series are different, and the first one is an equation, or one of both
shows a sensor of the configuration. -/
def AreSpelledApart (external : List String) (first second : Series) : Prop :=
  first.keyword ≠ second.keyword ∧
    (first.equation.isSome = true ∨ IsExternal external first ∨ IsExternal external second)

/-- What holds of the link of a series that is added with these lines. -/
structure IsLink (external : List String) (site : Site) (loaded : List Variable) (chart : Chart)
    (series : Series) (lines : List String) (name : String) : Prop where
  keyword : name = series.keyword
  statistic : series.isStatistic = true
  /-- It does not lead to the series itself. -/
  other : idLine name ∉ lines
  found : HasId site loaded chart name ↔
    ∃ other ∈ chart.series, seriesId other = name ∧ ¬IsSkipped site.tables loaded other
  plotted : ∃ base ∈ chart.series, Plots name base
  /-- If there is no such id, then each series with the keyword is drawn as a range of columns, or
  it is skipped, or it has the keyword in another spelling. -/
  lost : ¬HasId site loaded chart name → ∀ base ∈ chart.series, Plots name base →
    base.graphType = "columnrange" ∨ IsSkipped site.tables loaded base ∨
      AreSpelledApart external base series ∨
      ∃ other ∈ chart.series, other.keyword = name ∧ IsSkipped site.tables loaded other

section

variable {settings : Settings} {units : Units} {external : List String} {text : String}
  {outputs : List Output}
  (parsed : (parse ⟨settings, .build units external⟩ text).outcome = .ok (some outputs))
  {output : Output} (inOutputs : output ∈ outputs) {chart : Chart}
  (inOutput : chart ∈ output.charts)

include parsed inOutputs inOutput

theorem plain_of_equation {series : Series} (member : series ∈ chart.series)
    (isEquation : series.equation.isSome = true) :
    series.isStatistic = false ∧ series.graphType ≠ "columnrange" := by
  have inCharts := List.mem_flatMap.2 ⟨output, inOutputs, inOutput⟩
  constructor
  · obtain ⟨_, _, _, fits⟩ := Data.fits_of_parse parsed inCharts member
    obtain ⟨kind, isOfKind⟩ := fits.kind
    cases kind with
    | table => exact isOfKind.2.1
    | equation => exact isOfKind.1
    | statistic =>
      rw [isOfKind.2.1] at isEquation
      cases isEquation
  · intro drawn
    rw [(entry_of_columns parsed inOutputs inOutput member drawn).1] at isEquation
    cases isEquation

variable {site : Site} {loaded : List Variable} {adding : Added}
  (written : (addingLines site loaded chart).outcome = .ok adding)

include written

/-- If the id that a statistic is linked to is not there, a series with the keyword of the
statistic in another spelling is an equation, or one of both shows a sensor of the configuration,
or the statistic is that of an equation that is skipped. -/
theorem spelledApart_of_lost {series : Series} (member : series ∈ chart.series)
    (statistic : series.isStatistic = true) (lost : ¬HasId site loaded chart series.keyword)
    {base : Series} (inChart : base ∈ chart.series) (plots : Plots series.keyword base)
    (apart : base.keyword ≠ series.keyword) :
    AreSpelledApart external base series ∨
      ∃ other ∈ chart.series, other.keyword = series.keyword ∧
        IsSkipped site.tables loaded other := by
  have inCharts := List.mem_flatMap.2 ⟨output, inOutputs, inOutput⟩
  by_cases reason :
    base.equation.isSome = true ∨ IsExternal external base ∨ IsExternal external series
  · exact .inl ⟨apart, reason⟩
  · rw [not_or, not_or, Option.not_isSome_iff_eq_none] at reason
    obtain ⟨noEquation, baseCommon, common⟩ := reason
    obtain ⟨before, after, split, fits⟩ := Data.fits_of_parse parsed inCharts member
    obtain ⟨kind, isOfKind⟩ := fits.kind
    cases kind with
    | table => exact absurd (isOfKind.2.1.symm.trans statistic) Bool.false_ne_true
    | equation => exact absurd (isOfKind.1.symm.trans statistic) Bool.false_ne_true
    | statistic =>
      obtain ⟨_, _, _, ⟨entry, isEntry, data⟩ | ⟨other, inBefore, isEquation, shares⟩⟩ := isOfKind
      -- Both keywords are ones that every station has, so they cannot differ in the case only.
      · have inAll : base ∈ allSeries output.charts := List.mem_flatMap.2 ⟨chart, inOutput, inChart⟩
        have plotted := plottedVariable?_of_plain parsed inOutputs inAll noEquation plots.1
        obtain ⟨_, entry', isEntry', own⟩ :=
          entry_of_plottedVariable? parsed inOutputs inAll plotted
        have named : base.keyword = entry'.name := congrArg Variable.name own
        have same := plots.2
        rw [named, data.keyword] at same
        have agree := ofKeyword_eq_of_sameWord
          (isEntry_of_not_isExternal isEntry' named baseCommon)
          (isEntry_of_not_isExternal isEntry data.keyword common) same
        have sameName : entry'.name = entry.name := congrArg Variable.name agree
        exact absurd (named.trans (sameName.trans data.keyword.symm)) apart
      -- The equation has the keyword in this spelling, so it is not on the page.
      · have inSeries : other ∈ chart.series := by
          rw [split]
          exact List.mem_append_left _ inBefore
        obtain ⟨plain, noColumns⟩ := plain_of_equation parsed inOutputs inOutput inSeries isEquation
        refine .inr ⟨other, inSeries, shares.keyword.symm, ?_⟩
        by_contra notSkipped
        have hasId := hasId_of_plain written inSeries plain noColumns notSkipped
        exact lost (shares.keyword ▸ hasId)

theorem isLink_of_mem {series : Series} (member : series ∈ chart.series) {lines : List String}
    (isAdded : IsAdded site loaded chart series lines) {name : String}
    (links : linkLine name ∈ lines) : IsLink external site loaded chart series lines name := by
  obtain ⟨linked, rfl⟩ := (link_of_isAdded isAdded).1 links
  have both := linked
  rw [isLinked, Bool.and_eq_true, decide_eq_true_eq] at both
  obtain ⟨statistic, average⟩ := both
  have inCharts := List.mem_flatMap.2 ⟨output, inOutputs, inOutput⟩
  have noFlaw := flaws_of_chartFlaw? (plotted_of_parse parsed).2 inCharts
  refine ⟨rfl, statistic, ?other, hasId_iff written,
    plotted_of_statisticFlaw? noFlaw.2 member statistic, ?lost⟩
  case other =>
    -- The id of a running average is longer than the keyword that it is linked to.
    have noColumns : series.graphType ≠ "columnrange" := by
      rw [average]
      decide
    rw [id_of_isAdded isAdded, seriesId, if_neg noColumns, if_pos linked, average]
    intro same
    have length := congrArg String.length same
    have short : "sma".length = 3 := by
      decide
    rw [String.length_append, short] at length
    omega
  case lost =>
    intro noId base inChart plots
    by_cases columns : base.graphType = "columnrange"
    · exact .inl columns
    by_cases skipped : IsSkipped site.tables loaded base
    · exact .inr (.inl skipped)
    by_cases apart : base.keyword = series.keyword
    · exact absurd (apart ▸ hasId_of_plain written inChart plots.1 columns skipped) noId
    · exact .inr (.inr (spelledApart_of_lost parsed inOutputs inOutput written member statistic noId
        inChart plots apart))

end

/-- On the page of each output that was read, whatever sensors the configuration knows of: a series
with a link is a statistic, which is linked to its keyword. Another series with this id is added
to the same chart exactly if the chart has a series that is not skipped whose id this is. The
parser has found a series with the keyword, in some letter case. If nevertheless no series has the
id, then each series with the keyword is drawn as a range of columns, or it is skipped, or the
keyword is spelled apart. -/
theorem statistics_are_linked_to_ids (settings : Settings) (units : Units)
    (external : List String) {text : String} {outputs : List Output}
    (parsed : (parse ⟨settings, .build units external⟩ text).outcome = .ok (some outputs))
    {output : Output} (inOutputs : output ∈ outputs) {generator : Generator}
    {filename page : String} {id : Int}
    (generated : (generate generator output.charts filename id).outcome = .ok (some page)) :
    ∃ contents, IsMade generator output.charts (toString id) contents ∧
      page = textOfLines (contents.lines generator.options output.charts filename (toString id)) ∧
      ∀ chart ∈ output.charts, ∃ part ∈ contents.parts,
        (chartLines generator contents.loaded chart).outcome = .ok part ∧
        ∀ series ∈ chart.series, ∀ lines,
          IsAdded generator.site contents.loaded chart series lines →
          lines <:+: part.2.lines ∧ ∀ name, linkLine name ∈ lines →
            IsLink external generator.site contents.loaded chart series lines name := by
  obtain ⟨contents, made, written⟩ := exists_contents_of_generate generated
  refine ⟨contents, made, written, fun chart inOutput => ?_⟩
  obtain ⟨part, inParts, here⟩ := made.exists_part inOutput
  have added := (drawn_and_added here).2
  refine ⟨part, inParts, here, fun series member lines isAdded => ?_⟩
  exact ⟨(exists_isAdded added member).2 lines isAdded, fun name links =>
    isLink_of_mem parsed inOutputs inOutput added member isAdded links⟩

/-- A series of daily values. -/
def averagedSeries : Series :=
  { columnsSeries with graphType := "spline" }

/-- A running average of the series. -/
def averageSeries : Series :=
  { columnsSeries with graphType := "sma", period := 5, isStatistic := true, range := .all }

/-- The chart of both. -/
def averageChart : Chart where
  id := "A"
  title := "T"
  axes := .unionAll [Axis.temp.set, Axis.temp.set]
  range := .all
  series := [averagedSeries, averageSeries]

/-- The running average is linked to the series. -/
theorem average_is_linked : ∃ contents, IsMade plainGenerator [averageChart] "0" contents ∧
    ∃ lines, IsAdded plainGenerator.site contents.loaded averageChart averageSeries lines ∧
      linkLine "MinTemp" ∈ lines ∧
      HasId plainGenerator.site contents.loaded averageChart "MinTemp" := by
  have parsed : (parse ⟨plainSettings, .build plainUnits []⟩
      "Chart A Title T Plot Daily MinTemp Stats Daily MinTemp SMA EndChart").outcome =
      .ok (some [{ filename := "cumuluscharts.txt", charts := [averageChart] }]) := by
    decide
  have written : ((generate plainGenerator [averageChart] "cumuluscharts.txt"
      0).outcome.toOption.bind id).isSome = true := by
    decide
  have number : toString (0 : Int) = "0" := rfl
  obtain ⟨page, generated⟩ := exists_ok_of_isSome written
  obtain ⟨contents, made, _, each⟩ := statistics_are_linked_to_ids plainSettings plainUnits []
    parsed List.mem_cons_self generated
  rw [number] at made
  obtain ⟨part, _, _, links⟩ := each averageChart List.mem_cons_self
  have member : averageSeries ∈ averageChart.series := List.mem_cons_of_mem _ List.mem_cons_self
  have isAdded : ∃ lines,
      IsAdded plainGenerator.site contents.loaded averageChart averageSeries lines :=
    ⟨_, ⟨{}, rfl⟩, rfl⟩
  obtain ⟨lines, isAdded⟩ := isAdded
  have isLinked' : linkLine "MinTemp" ∈ lines := (link_of_isAdded isAdded).2 ⟨by decide, rfl⟩
  refine ⟨contents, made, lines, isAdded, isLinked', ?_⟩
  refine ((links averageSeries member lines isAdded).2 "MinTemp" isLinked').found.2 ?_
  refine ⟨averagedSeries, List.mem_cons_self, by decide, ?_⟩
  rintro ⟨_, equation, isEquation, _⟩
  cases isEquation

/-- The function that adds the series of the chart links one of them to an id that is not
there. -/
def linksNowhere (site : Site) (loaded : List Variable) (name : String) (chart : Chart) : Bool :=
  match (addingLines site loaded chart).outcome with
  | .error _ => false
  | .ok adding => adding.lines.contains (linkLine name) && !adding.lines.contains (idLine name)

/-- The page of the first output of a text, if some chart of it has a link to this name that leads
nowhere. -/
def deadPage? (generator : Generator) (text name : String) : Option String := do
  let outputs ← (parse generator.site text).outcome.toOption.bind id
  let output ← outputs.head?
  let loaded ← (variablesOf generator.site.tables output.charts).outcome.toOption.bind id
  if output.charts.any (linksNowhere generator.site loaded name) then
    (generate generator output.charts output.filename 0).outcome.toOption.bind id
  else none

/-- A text is read, and the page of one of its outputs has a link to this name that leads
nowhere. -/
def HasDeadLink (generator : Generator) (text name : String) : Prop :=
  ∃ outputs, (parse generator.site text).outcome = .ok (some outputs) ∧
    ∃ output ∈ outputs, ∃ page contents,
      (generate generator output.charts output.filename 0).outcome = .ok (some page) ∧
      IsMade generator output.charts (toString (0 : Int)) contents ∧
      ∃ chart ∈ output.charts, ∃ part ∈ contents.parts,
        (chartLines generator contents.loaded chart).outcome = .ok part ∧
        linkLine name ∈ part.2.lines ∧ idLine name ∉ part.2.lines

theorem hasDeadLink_of_deadPage? {generator : Generator} {text name : String}
    (dead : (deadPage? generator text name).isSome = true) : HasDeadLink generator text name := by
  obtain ⟨page, dead⟩ := Option.isSome_iff_exists.1 dead
  obtain ⟨outputs, parsed, dead⟩ := Option.bind_eq_some_iff.1 dead
  obtain ⟨output, first, dead⟩ := Option.bind_eq_some_iff.1 dead
  obtain ⟨loaded, resolved, dead⟩ := Option.bind_eq_some_iff.1 dead
  obtain ⟨nowhere, generated⟩ := Option.ite_none_right_eq_some.1 dead
  obtain ⟨contents, made, _⟩ := exists_contents_of_generate (eq_ok_of_bind generated)
  obtain ⟨chart, inOutput, nowhere⟩ := List.any_eq_true.1 nowhere
  refine ⟨outputs, eq_ok_of_bind parsed, output, List.mem_of_head? first, page, contents,
    eq_ok_of_bind generated, made, chart, inOutput, ?_⟩
  have same : loaded = contents.loaded :=
    Option.some.inj (Except.ok.inj ((eq_ok_of_bind resolved).symm.trans made.loaded))
  obtain ⟨part, inParts, here⟩ := made.exists_part inOutput
  refine ⟨part, inParts, here, ?_⟩
  rw [linksNowhere, same, (drawn_and_added here).2] at nowhere
  simpa using nowhere

/-- The base of a statistic may be drawn as a range of columns, which has an id of its own; it may
be an equation that is skipped; and it may be an equation over another range, with the keyword in
another spelling. Then the statistic is linked to an id that no series has. -/
theorem links_lead_nowhere :
    HasDeadLink plainGenerator
      "Chart A Title T Plot Daily MinTemp As ColumnRange Stats Daily MinTemp SMA EndChart"
      "MinTemp" ∧
    HasDeadLink plainGenerator
      "Chart A Title T Plot Base Eval [ 1 + 2 ] Stats Base SMA EndChart" "Base" ∧
    HasDeadLink plainGenerator
      "Chart A Title T Plot Extra temperature Eval [ Temp1 ] Stats Temperature SMA EndChart"
      "Temperature" := by
  refine ⟨hasDeadLink_of_deadPage? ?_, hasDeadLink_of_deadPage? ?_, hasDeadLink_of_deadPage? ?_⟩
  · decide
  · decide +kernel
  · decide +kernel

end Meteogram.Page
