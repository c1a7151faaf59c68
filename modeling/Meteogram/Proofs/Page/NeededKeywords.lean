import Meteogram.Proofs.Data.LoadedFiles
import Meteogram.Proofs.Page.LoadedVariables

/-!
# The keywords behind the variables of a page

Each variable that a page loads comes from a keyword, or is a bound of a range of columns
(`keyword_of_needed`). A page puts the keywords of all ranges together and tells them apart by
their names in any letter case. The keywords that every station has are made for this: those of
different names are different in any letter case, and those of one name have the same field of
the same data file (`ofKeyword_eq_of_sameWord`). Nothing says so about the sensors that only the
configuration knows of.
-/

set_option autoImplicit false

namespace Meteogram.Page

open Text Definition
open Station (Settings Units)

/-! ## The variables of keywords -/

/-- The variables of the keywords of the last days and of daily values. -/
def commonVariables : List Variable :=
  (Keyword.recentOf plainUnits ++ Keyword.dailyOf plainUnits).map ofKeyword

/-- The names of the extra sensors. -/
def sensorNames (units : Units) (external : List String) : List String :=
  (Keyword.extraOf units external).map Keyword.name

/-- The name of the field of an extra sensor is the name of the sensor. -/
theorem field_of_extra {units : Units} {external : List String} :
    ∀ entry ∈ Keyword.extraOf units external, entry.field = entry.name := by
  simp only [Keyword.extraOf, Keyword.numbered, Keyword.soilMoistureOf, Keyword.externalOf,
    List.forall_mem_append, List.forall_mem_map, List.forall_mem_cons]
  simp [Keyword.sensor]

section

variable {units : Units} {external : List String} {range : DataRange} {entry : Keyword}

/-- A keyword is one that every station has, or it is that of an extra sensor. -/
theorem ofKeyword_cases (isEntry : IsEntry (.build units external) range entry) :
    (range ≠ .extra ∧ ofKeyword entry ∈ commonVariables) ∨
    (range = .extra ∧ entry ∈ Keyword.extraOf units external ∧
      ofKeyword entry = ⟨entry.name, entry.name, Keyword.extraDatafile⟩) := by
  have recent : ∀ entry ∈ Keyword.recentOf units, ofKeyword entry ∈ commonVariables := by
    have same :
        (Keyword.recentOf units).map ofKeyword = (Keyword.recentOf plainUnits).map ofKeyword :=
      rfl
    intro entry member
    rw [commonVariables, List.map_append, ← same]
    exact List.mem_append_left _ (List.mem_map_of_mem member)
  have daily : ∀ entry ∈ Keyword.dailyOf units, ofKeyword entry ∈ commonVariables := by
    have same :
        (Keyword.dailyOf units).map ofKeyword = (Keyword.dailyOf plainUnits).map ofKeyword :=
      rfl
    intro entry member
    rw [commonVariables, List.map_append, ← same]
    exact List.mem_append_right _ (List.mem_map_of_mem member)
  obtain ⟨table, found, member⟩ := isEntry
  cases range with
  | recent =>
    cases found
    exact .inl ⟨nofun, recent entry member⟩
  | extra =>
    cases found
    refine .inr ⟨rfl, member, ?_⟩
    rw [ofKeyword, field_of_extra entry member, Data.datafile_of_extra entry member]
  | daily | all =>
    cases found
    exact .inl ⟨nofun, daily entry member⟩
  | unlisted number => cases found

end

/-! ## Data files -/

/-- The data files that keywords come from. -/
def knownFiles : List String :=
  ["tempdata.json", "winddata.json", "wdirdata.json", "solardata.json", "raindata.json",
    "pressdata.json", "humdata.json", "alldailytempdata.json", "alldailywinddata.json",
    "alldailysolardata.json", "alldailyraindata.json", "alldailypressdata.json",
    "alldailyhumdata.json", "CUserdataRECENT.json", "CUserdataALL.json", Keyword.extraDatafile]

theorem datafile_of_common : ∀ item ∈ commonVariables,
    item.datafile ∈ knownFiles ∧ item.datafile ≠ Keyword.extraDatafile := by
  decide

theorem datafile_of_isEntry {units : Units} {external : List String} {range : DataRange}
    {entry : Keyword} (isEntry : IsEntry (.build units external) range entry) :
    entry.datafile ∈ knownFiles := by
  rcases ofKeyword_cases isEntry with ⟨_, common⟩ | ⟨_, _, same⟩
  · exact (datafile_of_common _ common).1
  · have file : entry.datafile = Keyword.extraDatafile := congrArg Variable.datafile same
    rw [file]
    decide

theorem ne_of_knownFiles {datafile : String} (known : datafile ∈ knownFiles) : datafile ≠ "" := by
  rintro rfl
  exact absurd known (by decide)

/-! ## Names -/

/-- The names of the keywords of the last days and of daily values. -/
def commonNames : List String :=
  commonVariables.map Variable.name

theorem nodup_commonNames : commonNames.Nodup := by
  decide

/-- The keywords of the last days and of daily values can be told apart. -/
theorem searchable_commonNames : Searchable commonNames :=
  searchable_of_check (by decide)

/-- A name in lower case. -/
def lowered (name : String) : List Char :=
  name.toList.map Char.toLower

/-- The extra sensors of every station that are not numbered. -/
def namedSensors : List String :=
  ["CO2", "CO2_24h", "CO2_pm2p5", "CO2_pm2p5_24h", "CO2_pm10", "CO2_pm10_24h", "CO2_temp",
    "CO2_hum", "Lightning"]

/-- No keyword of the last days or of daily values is named like an extra sensor. -/
theorem lowered_commonNames : ∀ name ∈ commonNames,
    (lowered name).getLast?.any Char.isDigit = false ∧
      ∀ other ∈ namedSensors, lowered name ≠ lowered other := by
  decide

/-- The name of a numbered sensor ends in a digit. -/
theorem last_numberedNames {stem : String} {count : Nat} : ∀ name ∈ numberedNames stem count,
    (lowered name).getLast?.any Char.isDigit = true := by
  intro name member
  obtain ⟨i, _, rfl⟩ := List.mem_map.1 member
  obtain ⟨front, digit, split, isDigit⟩ := exists_last_digit (i + 1)
  have bounds := (isDigit_iff digit).1 isDigit
  have notUpper : ¬digit.isUpper = true := by
    rw [isUpper_iff]
    omega
  rw [lowered, String.toList_append, split, ← List.append_assoc, List.map_append,
    List.map_singleton, List.getLast?_concat, Char.toLower_eq_of_not_isUpper notUpper]
  exact isDigit

theorem last_sensorNames (units : Units) : ∀ name ∈ sensorNames units [],
    name ∈ namedSensors ∨ (lowered name).getLast?.any Char.isDigit = true := by
  intro name member
  have others : (Keyword.externalOf []).map Keyword.name = [] := rfl
  simp only [sensorNames, Keyword.extraOf, List.map_append, map_name_numbered,
    map_name_soilMoisture, others, List.mem_append, List.append_nil] at member
  rcases member with numbered | named
  · right
    rcases numbered with ((((((((h | h) | h) | h) | h) | h) | h) | h) | h) | h <;>
      exact last_numberedNames name h
  · exact .inl named

/-- No two keywords that every station has differ in the letter case only. -/
theorem searchable_allNames (units : Units) :
    Searchable (commonNames ++ sensorNames units []) := by
  have common := searchable_commonNames
  have extra : Searchable (sensorNames units []) := searchable_extraOf_nil units
  refine common.append extra fun name member other member' same => ?_
  rw [keysOf_of_ascii (isIdentifier_ascii (common.each name member).findable.identifier),
    keysOf_of_ascii (isIdentifier_ascii (extra.each other member').findable.identifier)] at same
  -- The name of a sensor is a fixed one or ends in a digit, whatever the numbers of sensors are.
  obtain ⟨noDigit, noSensor⟩ := lowered_commonNames name member
  rcases last_sensorNames units other member' with named | digit
  · exact noSensor other named same
  · rw [lowered, ← same] at digit
    exact Bool.false_ne_true (noDigit.symm.trans digit)

section

variable {units : Units} {range : DataRange} {entry : Keyword}

theorem mem_allNames (isEntry : IsEntry (.build units []) range entry) :
    entry.name ∈ commonNames ++ sensorNames units [] := by
  rw [List.mem_append]
  rcases ofKeyword_cases isEntry with ⟨_, common⟩ | ⟨_, member, _⟩
  · exact .inl (List.mem_map_of_mem common)
  · exact .inr (List.mem_map_of_mem member)

theorem noPoint_of_isEntry (isEntry : IsEntry (.build units []) range entry) :
    '.' ∉ entry.name.toList := by
  intro member
  have searchable := (searchable_allNames units).each _ (mem_allNames isEntry)
  have plain := List.all_eq_true.1 (isIdentifier_all searchable.findable.identifier) _ member
  exact absurd plain (by decide)

/-- Keywords of any ranges that agree in some letter case stand for the same variable. -/
theorem ofKeyword_eq_of_sameWord (isEntry : IsEntry (.build units []) range entry)
    {range' : DataRange} {other : Keyword} (isEntry' : IsEntry (.build units []) range' other)
    (same : sameWord entry.name other.name = true) : ofKeyword entry = ofKeyword other := by
  have searchable := searchable_allNames units
  have ascii := isIdentifier_ascii (searchable.each _ (mem_allNames isEntry')).findable.identifier
  have sameName : entry.name = other.name :=
    searchable.different _ (mem_allNames isEntry) _ (mem_allNames isEntry')
      (keysOf_eq_of_sameWord ascii same)
  have apart : entry.name ∈ commonNames → entry.name ∉ sensorNames units [] := by
    intro common sensor
    obtain ⟨noDigit, noSensor⟩ := lowered_commonNames _ common
    rcases last_sensorNames units _ sensor with named | digit
    · exact noSensor _ named rfl
    · exact Bool.false_ne_true (noDigit.symm.trans digit)
  rcases ofKeyword_cases isEntry with ⟨_, common⟩ | ⟨_, sensor, written⟩ <;>
    rcases ofKeyword_cases isEntry' with ⟨_, common'⟩ | ⟨_, sensor', written'⟩
  · exact List.inj_on_of_nodup_map nodup_commonNames common common' sameName
  · exact absurd (sameName ▸ List.mem_map_of_mem sensor') (apart (List.mem_map_of_mem common))
  · exact absurd (List.mem_map_of_mem sensor) (apart (sameName ▸ List.mem_map_of_mem common'))
  · rw [written, written', sameName]

end

/-! ## Why a variable is loaded -/

section

variable {charts : List Chart}

theorem exists_firstPlotted? {series : Series} (member : series ∈ allSeries charts)
    {item : Variable} (plotted : plottedVariable? series = some item) :
    ∃ first, firstPlotted? charts item.name = some first := by
  rw [← Option.isSome_iff_exists, firstPlotted?, findVariable?, List.find?_isSome]
  exact ⟨item, List.mem_filterMap.2 ⟨series, member, plotted⟩, sameWord_refl _⟩

theorem plotted_of_firstPlotted? {name : String} {first : Variable}
    (found : firstPlotted? charts name = some first) : sameWord first.name name = true ∧
      ∃ series ∈ allSeries charts, plottedVariable? series = some first := by
  rw [firstPlotted?, findVariable?] at found
  have same := List.find?_some found
  exact ⟨same, List.mem_filterMap.1 (List.mem_of_find?_eq_some found)⟩

/-- The first variable of a name that is plotted is found by this name. -/
theorem findVariable?_of_firstPlotted? {tables : Tables} {loaded : List Variable}
    (resolved : (variablesOf tables charts).outcome = .ok (some loaded))
    {name : String} {first : Variable} (found : firstPlotted? charts name = some first) :
    findVariable? loaded name = some first :=
  findVariable?_mono (prefix_foldlM (foldlM_of_variablesOf resolved))
    ((findVariable?_plottedVariables charts name).trans found)

end

section

variable {settings : Settings} {units : Units} {external : List String} {text : String}
  {outputs : List Output}
  (parsed : (parse ⟨settings, .build units external⟩ text).outcome = .ok (some outputs))
  {output : Output} (inOutputs : output ∈ outputs)

include parsed inOutputs

/-- A range of columns is drawn from daily values of a keyword. -/
theorem entry_of_columns {chart : Chart} (inOutput : chart ∈ output.charts) {series : Series}
    (member : series ∈ chart.series) (drawn : series.graphType = "columnrange") :
    series.equation = none ∧ series.range ≠ .extra ∧
      ∃ entry, IsEntry (.build units external) series.range entry ∧ HasDataOf series entry := by
  have inCharts := List.mem_flatMap.2 ⟨output, inOutputs, inOutput⟩
  have noFlaw := flaws_of_chartFlaw? (plotted_of_parse parsed).2 inCharts
  have byDay := isByDay_of_columnRangeFlaw? noFlaw.1 member drawn
  have noSensor : series.range ≠ .extra := by
    intro extra
    rw [extra] at byDay
    cases byDay
  obtain ⟨_, _, _, fits⟩ := Data.fits_of_parse parsed inCharts member
  obtain ⟨plain, column⟩ := fits.columns drawn
  obtain ⟨kind, isOfKind⟩ := fits.kind
  cases kind with
  | table => exact ⟨isOfKind.1, noSensor, isOfKind.2.2⟩
  | equation =>
    obtain ⟨_, _, _, different, _⟩ := isOfKind
    obtain ⟨entry, isEntry, same⟩ := isEntry_of_columnRangeKeywords byDay column
    exact absurd ((different entry isEntry).symm.trans same) Bool.false_ne_true
  | statistic => exact absurd (plain.symm.trans isOfKind.1) Bool.false_ne_true

/-- A series that is neither an equation nor a statistic is plotted from a data file. -/
theorem plottedVariable?_of_plain {series : Series} (member : series ∈ allSeries output.charts)
    (noEquation : series.equation = none) (plain : series.isStatistic = false) :
    plottedVariable? series = some ⟨series.keyword, series.field, series.datafile⟩ := by
  obtain ⟨chart, inOutput, inChart⟩ := List.mem_flatMap.1 member
  have inCharts := List.mem_flatMap.2 ⟨output, inOutputs, inOutput⟩
  obtain ⟨_, _, _, fits⟩ := Data.fits_of_parse parsed inCharts inChart
  obtain ⟨kind, isOfKind⟩ := fits.kind
  cases kind with
  | table =>
    obtain ⟨_, _, entry, isEntry, data⟩ := isOfKind
    have named := ne_of_knownFiles (datafile_of_isEntry isEntry)
    rw [← data.datafile] at named
    rw [plottedVariable?, noEquation, if_neg]
    simpa using named
  | equation =>
    obtain ⟨_, _, _, _, equation, computed, _⟩ := isOfKind
    cases noEquation.symm.trans computed
  | statistic => exact absurd (plain.symm.trans isOfKind.1) Bool.false_ne_true

/-- What is plotted from a data file is the variable of a keyword. -/
theorem entry_of_plottedVariable? {series : Series} (member : series ∈ allSeries output.charts)
    {item : Variable} (plotted : plottedVariable? series = some item) :
    item = ⟨series.keyword, series.field, series.datafile⟩ ∧
      ∃ entry, IsEntry (.build units external) series.range entry ∧ item = ofKeyword entry := by
  obtain ⟨chart, inOutput, inChart⟩ := List.mem_flatMap.1 member
  have inCharts := List.mem_flatMap.2 ⟨output, inOutputs, inOutput⟩
  rw [plottedVariable?, Option.ite_none_left_eq_some, Bool.or_eq_true, decide_eq_true_eq,
    not_or] at plotted
  obtain ⟨⟨_, named⟩, same⟩ := plotted
  obtain ⟨entry, isEntry, data⟩ := Data.entry_of_datafile parsed inCharts inChart named
  refine ⟨(Option.some.inj same).symm, entry, isEntry, ?_⟩
  rw [← Option.some.inj same, data.keyword, data.field, data.datafile]
  rfl

/-- A bound of a range of columns is named after the field of a keyword that every station has. -/
theorem columns_of_isBound {item : Variable} (bound : IsBound output.charts item) :
    ∃ columns ∈ commonVariables, ∃ front ∈ ["min", "max"],
      item = ⟨front ++ fieldStem columns.field, front ++ fieldStem columns.field,
        columns.datafile⟩ := by
  obtain ⟨series, member, _, drawn, isBound⟩ := bound
  obtain ⟨chart, inOutput, inChart⟩ := List.mem_flatMap.1 member
  obtain ⟨_, noSensor, entry, isEntry, data⟩ :=
    entry_of_columns parsed inOutputs inOutput inChart drawn
  obtain ⟨front, listed, rfl⟩ := List.mem_map.1 isBound
  rcases ofKeyword_cases isEntry with ⟨_, common⟩ | ⟨sensor, _⟩
  · refine ⟨_, common, front, listed, ?_⟩
    rw [data.field, data.datafile]
    rfl
  · exact absurd sensor noSensor

/-- A variable that is loaded is that of a keyword, or a bound of a range of columns. -/
theorem keyword_of_needed {item : Variable}
    (needed : IsNeeded (.build units external) output.charts item) :
    (∃ range entry, IsEntry (.build units external) range entry ∧ item = ofKeyword entry) ∨
    ∃ columns ∈ commonVariables, ∃ front ∈ ["min", "max"],
      item = ⟨front ++ fieldStem columns.field, front ++ fieldStem columns.field,
        columns.datafile⟩ := by
  rcases needed with plotted | bound | used
  · obtain ⟨_, series, member, found⟩ := plotted_of_firstPlotted? plotted
    exact .inl ⟨_, (entry_of_plottedVariable? parsed inOutputs member found).2⟩
  · exact .inr (columns_of_isBound parsed inOutputs bound)
  · obtain ⟨series, _, equation, table, _, found, keyword, isUsed, rfl⟩ := used
    exact .inl ⟨series.range, keyword, ⟨table, found, List.mem_of_mem_filter isUsed⟩, rfl⟩

end

end Meteogram.Page
