import Meteogram.Proofs.Data.Collecting
import Meteogram.Proofs.Data.FileText
import Meteogram.Proofs.Definition.Consistency
import Meteogram.Proofs.Page.LoadedVariables

/-!
# The data files that a page loads

A page loads the variables that its charts plot and those that its equations use. A run
makes data files for what is plotted only. So after a full run the variables of a page
that come from own data files are found in them, but for those that nothing but equations
use (`plotted_variables_have_data`): an equation on evapotranspiration alone has a page load
a file that no run writes (`equation_loads_unwritten_file`).
-/

set_option autoImplicit false

namespace Meteogram.Data

open Definition Page
open Station (Settings Units Window)
open Time (Moment)

/-! ## Own data files -/

section

variable {units : Units} {external : List String}

/-- The own data file of a range. -/
def ownFile (range : DataRange) : String :=
  if range.isByDay then "CUserdataALL.json" else "CUserdataRECENT.json"

theorem isPlainName_ownFile (range : DataRange) : IsPlainName (ownFile range) := by
  rw [ownFile]
  split
  · exact ⟨by decide, by decide, by decide, by decide⟩
  · exact ⟨by decide, by decide, by decide, by decide⟩

/-- All extra sensors have the same data file. -/
theorem datafile_of_extra : ∀ entry ∈ Keyword.extraOf units external,
    entry.datafile = Keyword.extraDatafile := by
  simp only [Keyword.extraOf, Keyword.numbered, Keyword.soilMoistureOf, Keyword.externalOf,
    List.forall_mem_append, List.forall_mem_map, List.forall_mem_cons]
  simp [Keyword.sensor]

/-- The check of a keyword: if its data file is an own one, it is that of the range, and
the keyword cannot be drawn as a range of columns. -/
def isFitForOwn (range : DataRange) (name datafile : String) : Bool :=
  !Text.startsWith datafile ownStart ||
    datafile == ownFile range && !columnRangeKeywords.any (Text.sameWord name)

/-- The keywords of an own data file are not drawn as ranges of columns. -/
theorem datafile_of_entry {range : DataRange} {entry : Keyword}
    (isEntry : IsEntry (.build units external) range entry)
    (own : Text.startsWith entry.datafile ownStart = true) :
    entry.datafile = ownFile range ∧
      columnRangeKeywords.any (Text.sameWord entry.name) = false := by
  have recent : ((Keyword.recentOf units).map fun entry =>
      isFitForOwn .recent entry.name entry.datafile).all id = true := by
    change ((Keyword.recentOf plainUnits).map fun entry =>
      isFitForOwn .recent entry.name entry.datafile).all id = true
    decide
  have daily : ((Keyword.dailyOf units).map fun entry =>
      isFitForOwn .daily entry.name entry.datafile).all id = true := by
    change ((Keyword.dailyOf plainUnits).map fun entry =>
      isFitForOwn .daily entry.name entry.datafile).all id = true
    decide
  rw [List.all_map, List.all_eq_true] at recent daily
  have fits : isFitForOwn range entry.name entry.datafile = true := by
    obtain ⟨table, found, member⟩ := isEntry
    cases range with
    | recent =>
      cases found
      exact recent entry member
    | extra =>
      cases found
      rw [datafile_of_extra entry member] at own
      exact absurd own (by decide)
    | daily =>
      cases found
      exact daily entry member
    | all =>
      cases found
      exact daily entry member
    | unlisted number => cases found
  rw [isFitForOwn, own, Bool.not_true, Bool.false_or, Bool.and_eq_true, Bool.not_eq_true'] at fits
  exact ⟨eq_of_beq fits.1, fits.2⟩

end

/-! ## Plotted from own data files -/

section

variable {settings : Settings} {units : Units} {external : List String} {text : String}
  {outputs : List Output}
  (parsed : (parse ⟨settings, .build units external⟩ text).outcome = .ok (some outputs))

include parsed

theorem fits_of_parse {chart : Chart} (inCharts : chart ∈ outputs.flatMap Output.charts)
    {series : Series} (member : series ∈ chart.series) :
    ∃ before after, chart.series = before ++ series :: after ∧
      Fits (.build units external) (words text) before series := by
  obtain ⟨before, after, split⟩ := List.append_of_mem member
  exact ⟨before, after, split,
    ((plotted_of_parse parsed).1 chart inCharts).consistent.each before series after split⟩

/-- An equation has no data file. -/
theorem datafile_of_equation {chart : Chart} (inCharts : chart ∈ outputs.flatMap Output.charts)
    {series : Series} (member : series ∈ chart.series) (computed : series.equation.isSome = true) :
    series.datafile = "" := by
  obtain ⟨before, _, _, fits⟩ := fits_of_parse parsed inCharts member
  obtain ⟨kind, isOfKind⟩ := fits.kind
  cases kind with
  | table =>
    rw [isOfKind.1] at computed
    cases computed
  | equation => exact isOfKind.2.1
  | statistic =>
    rw [isOfKind.2.1] at computed
    cases computed

/-- A series with a data file has the data of a keyword of its range. -/
theorem entry_of_datafile {chart : Chart} (inCharts : chart ∈ outputs.flatMap Output.charts)
    {series : Series} (member : series ∈ chart.series) (notComputed : series.datafile ≠ "") :
    ∃ entry, IsEntry (.build units external) series.range entry ∧ HasDataOf series entry := by
  obtain ⟨before, after, split, fits⟩ := fits_of_parse parsed inCharts member
  obtain ⟨kind, isOfKind⟩ := fits.kind
  cases kind with
  | table => exact isOfKind.2.2
  | equation => exact absurd isOfKind.2.1 notComputed
  | statistic =>
    obtain ⟨_, _, _, keyword | ⟨other, inBefore, computed, shares⟩⟩ := isOfKind
    · exact keyword
    · have inChart : other ∈ chart.series := by
        rw [split]
        exact List.mem_append_left _ inBefore
      exact absurd (shares.datafile.trans (datafile_of_equation parsed inCharts inChart computed))
        notComputed

/-- A series with an own data file has the data of a keyword of its range. -/
theorem entry_of_own {chart : Chart} (inCharts : chart ∈ outputs.flatMap Output.charts)
    {series : Series} (member : series ∈ chart.series) (own : isOwn series = true) :
    ∃ entry, IsEntry (.build units external) series.range entry ∧ HasDataOf series entry := by
  refine entry_of_datafile parsed inCharts member fun none => ?_
  rw [isOwn, none] at own
  exact absurd own (by decide)

/-- A series with an own data file covers the last days or days, and the data file is that of its
range. -/
theorem own_of_parse {series : Series} (member : series ∈ allSeries (outputs.flatMap Output.charts))
    (own : isOwn series = true) :
    series.datafile = ownFile series.range ∧
      (series.range.isShort = true ∨ series.range.isByDay = true) := by
  obtain ⟨chart, inCharts, inChart⟩ := List.mem_flatMap.1 member
  obtain ⟨entry, isEntry, data⟩ := entry_of_own parsed inCharts inChart own
  rw [isOwn, data.datafile] at own
  refine ⟨data.datafile.trans (datafile_of_entry isEntry own).1, ?_⟩
  obtain ⟨table, found, _⟩ := isEntry
  cases range : series.range with
  | recent => exact .inl rfl
  | extra => exact .inl rfl
  | daily => exact .inr rfl
  | all => exact .inr rfl
  | unlisted number =>
    rw [range] at found
    cases found

/-- No bound of a range of columns is read from own data. -/
theorem not_isBound_of_parse {output : Output} (inOutputs : output ∈ outputs) {item : Variable}
    (own : Text.startsWith item.datafile ownStart = true) : ¬ IsBound output.charts item := by
  rintro ⟨series, member, _, columns, bound⟩
  obtain ⟨chart, inOutput, inChart⟩ := List.mem_flatMap.1 member
  have inCharts : chart ∈ outputs.flatMap Output.charts := List.mem_flatMap.2 ⟨output, inOutputs, inOutput⟩
  have sameFile : item.datafile = series.datafile := by
    obtain ⟨_, _, rfl⟩ := List.mem_map.1 bound
    rfl
  have own' : isOwn series = true := by
    rw [isOwn, ← sameFile]
    exact own
  obtain ⟨entry, isEntry, data⟩ := entry_of_own parsed inCharts inChart own'
  obtain ⟨_, _, _, fits⟩ := fits_of_parse parsed inCharts inChart
  have isColumn := (fits.columns columns).2
  rw [data.keyword] at isColumn
  rw [sameFile, data.datafile] at own
  exact absurd (isColumn.symm.trans (datafile_of_entry isEntry own).2) (by decide)

/-- A variable from own data is plotted or used by an equation. -/
theorem isUsed_of_not_plotted {output : Output} (inOutputs : output ∈ outputs) {loaded : List Variable}
    (resolved : (variablesOf (.build units external) output.charts).outcome = .ok (some loaded))
    {item : Variable} (inLoaded : item ∈ loaded)
    (own : Text.startsWith item.datafile ownStart = true)
    (unplotted : ¬ ∃ series ∈ allSeries (outputs.flatMap Output.charts),
      series.datafile = item.datafile ∧ series.field = item.field) :
    IsUsed (.build units external) output.charts item := by
  rw [variablesOf, outcome_addAllNeeded] at resolved
  have grown := (isGrown_plottedVariables (.build units external) output.charts).foldlM
    (List.Subset.refl _) (Except.ok.inj resolved)
  rcases grown.each item inLoaded with plotted | bound | used
  · refine absurd ?_ unplotted
    obtain ⟨series, member, found⟩ := List.mem_filterMap.1 (List.mem_of_find?_eq_some plotted)
    rw [plottedVariable?] at found
    split at found
    · cases found
    · cases found
      obtain ⟨chart, inOutput, inChart⟩ := List.mem_flatMap.1 member
      have inCharts : chart ∈ outputs.flatMap Output.charts :=
        List.mem_flatMap.2 ⟨output, inOutputs, inOutput⟩
      exact ⟨series, List.mem_flatMap.2 ⟨chart, inCharts, inChart⟩, rfl, rfl⟩
  · exact absurd bound (not_isBound_of_parse parsed inOutputs own)
  · exact used

end

/-! ## Data files after a run -/

/-- The data file is there, and it has an entry for the field. -/
def HasEntry (files : Files) (directory datafile field : String) : Prop :=
  ∃ fields bytes points, files.read (joinName directory datafile) = .ok bytes ∧
    IsDataFile fields bytes ∧ fields.lookup field = some points

/-- After a full run over all charts, each series with an own data file has an entry in it. -/
theorem hasEntry_of_update {settings : Settings} {units : Units} {external : List String}
    {text : String} {outputs : List Output}
    (parsed : (parse ⟨settings, .build units external⟩ text).outcome = .ok (some outputs))
    (turn : Turn) (charts : turn.charts = outputs.flatMap Output.charts) (full : turn.full = true)
    {stop : Moment} (ended : (turn.update settings).outcome = .ok stop) {series : Series}
    (member : series ∈ allSeries turn.charts) (own : isOwn series = true) :
    HasEntry (turn.update settings).files turn.directory series.datafile series.field := by
  have notEmpty : turn.charts ≠ [] := by
    intro none
    rw [none] at member
    cases member
  obtain ⟨window, due, contents, well⟩ := Turn.endsWell_of_update notEmpty ended
  have collected := isCollected_of_collect well.collects
  have makes : (turn.request window due).makes series = true := by
    have due' : (turn.request window due).due = true := well.isDue full
    rw [Request.makes_eq, own, due', Bool.and_true, Bool.true_and, Bool.or_eq_true]
    exact (own_of_parse parsed (charts ▸ member) own).2
  have plain : ∀ name ∈ contents.map Prod.fst, IsPlainName name := by
    intro name inContents
    obtain ⟨other, member', makes', rfl⟩ := collected.named name inContents
    rw [Request.makes_eq, Bool.and_eq_true] at makes'
    rw [(own_of_parse parsed (charts ▸ member') makes'.1).1]
    exact isPlainName_ownFile other.range
  obtain ⟨points, found⟩ := Option.isSome_iff_exists.1 (collected.complete series member makes).2
  obtain ⟨fields, inContents, inFields⟩ := Option.bind_eq_some_iff.1 found
  refine ⟨fields, _, points, ?_, isDataFile_fileText (collected.isWellFormed inContents), inFields⟩
  rw [well.leaves]
  refine read_writeAll collected.distinct well.writes inContents ?_
  exact isAlone_of_plain plain (writeAll_eq_ok_iff.1 well.writes)
    (List.mem_map_of_mem ((mem_iff_lookup collected.distinct).2 inContents))

/-- After a full run over the charts of all outputs, the page of an output finds the variables
that it loads from own data files there, but for those that only equations use: no series of any
output has their data. -/
theorem plotted_variables_have_data (settings : Settings) (units : Units) (external : List String)
    {text : String} {outputs : List Output}
    (parsed : (parse ⟨settings, .build units external⟩ text).outcome = .ok (some outputs))
    (files : Files) (logDirectory directory : String) (now : Moment) {stop : Moment}
    (ended : (update settings files (outputs.flatMap Output.charts) logDirectory directory now
      true).outcome = .ok stop)
    {output : Output} (inOutputs : output ∈ outputs) {loaded : List Variable}
    (resolved : (variablesOf (.build units external) output.charts).outcome = .ok (some loaded))
    {item : Variable} (inLoaded : item ∈ loaded)
    (own : Text.startsWith item.datafile ownStart = true) :
    HasEntry (update settings files (outputs.flatMap Output.charts) logDirectory directory now
        true).files directory item.datafile item.field ∨
      (IsUsed (.build units external) output.charts item ∧
        ∀ series ∈ allSeries (outputs.flatMap Output.charts),
          ¬(series.datafile = item.datafile ∧ series.field = item.field)) := by
  have hasEntry : ∀ series ∈ allSeries (outputs.flatMap Output.charts),
      series.datafile = item.datafile → series.field = item.field →
      HasEntry (update settings files (outputs.flatMap Output.charts) logDirectory directory now
        true).files directory item.datafile item.field := by
    intro series member sameFile sameField
    rw [← sameFile, ← sameField]
    have own' : isOwn series = true := by
      rw [isOwn, sameFile]
      exact own
    exact hasEntry_of_update parsed
      ⟨files, outputs.flatMap Output.charts, logDirectory, directory, now, true⟩ rfl rfl
      ended member own'
  by_cases plotted : ∃ series ∈ allSeries (outputs.flatMap Output.charts),
      series.datafile = item.datafile ∧ series.field = item.field
  · obtain ⟨series, member, sameFile, sameField⟩ := plotted
    exact .inl (hasEntry series member sameFile sameField)
  · refine .inr ⟨isUsed_of_not_plotted parsed inOutputs resolved inLoaded own plotted, ?_⟩
    exact fun series member same => plotted ⟨series, member, same⟩

/-! ## One chart each -/

/-- A noon in summer. -/
def summerNoon : Moment := ⟨⟨2024, 6, 21⟩, 12, 0, 0, 0⟩

/-- Two directories without files. -/
def twoDirectories : Files := { directories := [["data"], ["out"]] }

/-- The evapotranspiration of the last days, with the data file of its own. -/
def lossVariable : Variable := ⟨"EvapoTranspiration", "evapotranspiration", "CUserdataRECENT.json"⟩

/-- A chart that plots the evapotranspiration. -/
def lossOutput : Output where
  filename := "cumuluscharts.txt"
  charts := [{
    id := "A"
    title := "T"
    axes := Axis.evapotranspiration.set
    series := [{
      keyword := "EvapoTranspiration"
      field := "evapotranspiration"
      datafile := "CUserdataRECENT.json"
      axes := Axis.evapotranspiration.set
      axisId := "EVT"
      unit := "mm" }] }]

/-- A chart that plots its double only. -/
def doubledLossOutput : Output where
  filename := "cumuluscharts.txt"
  charts := [{
    id := "A"
    title := "T"
    axes := Axis.free.set
    series := [{
      keyword := "Twice"
      axes := Axis.free.set
      axisId := "Free"
      equation := some "EvapoTranspiration*2" }] }]

/-- The data of a chart that plots the evapotranspiration are there, without any logs. -/
theorem plotted_loss_has_data :
    HasEntry (update plainSettings twoDirectories ([lossOutput].flatMap Output.charts) "data" "out"
      summerNoon true).files "out" "CUserdataRECENT.json" "evapotranspiration" := by
  have parsed : (parse ⟨plainSettings, .build plainUnits []⟩
      "Chart A Title T Plot EvapoTranspiration EndChart").outcome = .ok (some [lossOutput]) := by
    decide
  have ended : (update plainSettings twoDirectories ([lossOutput].flatMap Output.charts) "data" "out"
      summerNoon true).outcome = .ok summerNoon := by
    decide +kernel
  have resolved : (variablesOf (.build plainUnits []) lossOutput.charts).outcome =
      .ok (some [lossVariable]) := by
    decide
  have own : Text.startsWith lossVariable.datafile ownStart = true := by decide
  rcases plotted_variables_have_data plainSettings plainUnits [] parsed twoDirectories "data" "out"
    summerNoon ended List.mem_cons_self resolved List.mem_cons_self own with found | ⟨_, unplotted⟩
  · exact found
  · exact absurd ⟨rfl, rfl⟩ (unplotted _ List.mem_cons_self)

/-- The page of a chart that only computes with the evapotranspiration loads its data file, but a
full run that ends well has not written it. -/
theorem equation_loads_unwritten_file :
    (parse ⟨plainSettings, .build plainUnits []⟩
      "Chart A Title T Plot Twice Eval [ EvapoTranspiration * 2 ] EndChart").outcome =
        .ok (some [doubledLossOutput]) ∧
    (variablesOf (.build plainUnits []) doubledLossOutput.charts).outcome =
      .ok (some [lossVariable]) ∧
    (update plainSettings twoDirectories doubledLossOutput.charts "data" "out" summerNoon
      true).outcome = .ok summerNoon ∧
    ¬ HasEntry (update plainSettings twoDirectories doubledLossOutput.charts "data" "out" summerNoon
      true).files "out" lossVariable.datafile lossVariable.field := by
  refine ⟨by decide +kernel, by decide +kernel, by decide +kernel, ?_⟩
  rintro ⟨fields, bytes, points, found, _⟩
  cases found

end Meteogram.Data
