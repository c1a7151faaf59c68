import Meteogram.Proofs.Page.DataArrays

/-!
# The data that a plotted variable shows

The series of a plotted variable reads the array of its keyword. A page loads one variable for all
plotted variables whose names agree in some letter case, and this is the first of them. So a
plotted variable shows its own data exactly if it is the first one of its name
(`plotted_variables_show_own_data`). The names of the keywords that every station has are made so
that this makes no difference. But a sensor of the configuration may have the name of a keyword
of another range. In another spelling its array is not even declared, and in the same spelling it
shows the data of the keyword (`sensors_lose_their_data`).
-/

set_option autoImplicit false

namespace Meteogram.Page

open Text Definition Equation
open Station (Settings Units)

/-- The variable of the keyword, the field and the data file of a series. -/
def ownVariable (series : Series) : Variable :=
  ⟨series.keyword, series.field, series.datafile⟩

/-- The array of the keyword of a series is declared in this spelling, and it is filled with the
field of the series from its data file, and with nothing else that the page loads. -/
structure ShowsOwnData (generator : Generator) (charts : List Chart) (contents : Contents)
    (series : Series) : Prop where
  declared : declarationLine series.keyword ∈
    declarationLines contents.loaded (equationArrays contents.loaded charts)
  loaded : ownVariable series ∈ contents.loaded
  loader : ∃ function,
    loaderLines generator.options contents.loaded series.datafile = .ok function ∧
    function <:+: contents.loaders ∧ LoadsData generator.options (ownVariable series) function
  alone : ∀ item ∈ contents.loaded, item.name = series.keyword → item = ownVariable series
  noBarbs : ¬(charts.any Chart.hasWindBarbs = true ∧ series.keyword = "WindBarbData")

/-- The series shows a sensor that only the configuration knows of. -/
def IsExternal (external : List String) (series : Series) : Prop :=
  series.range = .extra ∧ ∃ sensor ∈ Keyword.externalOf external, series.keyword = sensor.name

section

variable {settings : Settings} {units : Units} {external : List String} {text : String}
  {outputs : List Output}
  (parsed : (parse ⟨settings, .build units external⟩ text).outcome = .ok (some outputs))
  {output : Output} (inOutputs : output ∈ outputs)

/-- The keyword of a series that shows no sensor of the configuration is one that every station
has. -/
theorem isEntry_of_not_isExternal {series : Series} {entry : Keyword}
    (isEntry : IsEntry (.build units external) series.range entry)
    (named : series.keyword = entry.name) (noSensor : ¬IsExternal external series) :
    IsEntry (.build units []) series.range entry := by
  obtain ⟨table, found, member⟩ := isEntry
  cases range : series.range with
  | recent | daily | all =>
    rw [range] at found
    exact ⟨table, by simpa only [Tables.ofRange?, Tables.build] using found, member⟩
  | extra =>
    rw [range] at found
    obtain rfl := Option.some.inj found
    have inExtra : entry ∈ Keyword.extraOf units external := member
    rw [extraOf_eq_append] at inExtra
    exact ⟨Keyword.extraOf units [], rfl, (List.mem_append.1 inExtra).resolve_right fun sensor =>
      noSensor ⟨range, entry, sensor, named⟩⟩
  | unlisted number =>
    rw [range] at found
    cases found

include parsed inOutputs

/-- What is plotted is no bound of a range of columns. -/
theorem not_isBound_of_plotted {series : Series} (member : series ∈ allSeries output.charts)
    {item : Variable} (plotted : plottedVariable? series = some item) :
    ¬IsBound output.charts item := by
  have named : ∀ item ∈ commonVariables, item.name = item.field → item.name = "UV" := by
    decide
  intro bound
  obtain ⟨columns, common, front, listed, rfl⟩ := columns_of_isBound parsed inOutputs bound
  obtain ⟨_, entry, isEntry, same⟩ := entry_of_plottedVariable? parsed inOutputs member plotted
  rcases ofKeyword_cases isEntry with ⟨_, common'⟩ | ⟨_, _, sensor⟩
  · rw [← same] at common'
    have name := named _ common' rfl
    have length := congrArg String.length name
    have long : ∀ front ∈ ["min", "max"], front.length = 3 := by
      decide
    have short : "UV".length = 2 := by
      decide
    rw [String.length_append, long front listed, short] at length
    omega
  · rw [← same] at sensor
    exact (datafile_of_common columns common).2 (congrArg Variable.datafile sensor)

section

variable {generator : Generator} {number : String} {contents : Contents}
  (made : IsMade generator output.charts number contents)
  (tables : generator.site.tables = .build units external)

include made tables

/-- A plotted variable shows its own data if it is the first one of its name, and the wind barbs do
not have the name. -/
theorem showsOwnData_iff {series : Series} (member : series ∈ allSeries output.charts)
    (noEquation : series.equation = none) (plain : series.isStatistic = false) :
    ShowsOwnData generator output.charts contents series ↔
      firstPlotted? output.charts series.keyword = some (ownVariable series) ∧
        ¬(output.charts.any Chart.hasWindBarbs = true ∧ series.keyword = "WindBarbData") := by
  have plotted : plottedVariable? series = some (ownVariable series) :=
    plottedVariable?_of_plain parsed inOutputs member noEquation plain
  have resolved := made.loaded
  rw [tables] at resolved
  have grown := isGrown_of_variablesOf resolved
  constructor
  · intro shows
    refine ⟨?_, shows.noBarbs⟩
    obtain ⟨first, found⟩ := exists_firstPlotted? member plotted
    have isFirst := findVariable?_of_firstPlotted? resolved found
    by_cases itself : ownVariable series = first
    · exact itself ▸ found
    -- What is loaded behind a variable of its name can only be a bound.
    · exact absurd (later_of_findVariable? grown isFirst shows.loaded (sameWord_refl _) itself)
        (not_isBound_of_plotted parsed inOutputs member plotted)
  · rintro ⟨found, noBarbs⟩
    have isFirst := findVariable?_of_firstPlotted? resolved found
    have inLoaded : ownVariable series ∈ contents.loaded := List.mem_of_find?_eq_some isFirst
    have named : (ownVariable series).datafile ≠ "" := by
      obtain ⟨_, entry, isEntry, same⟩ := entry_of_plottedVariable? parsed inOutputs member plotted
      rw [same]
      exact ne_of_knownFiles (datafile_of_isEntry isEntry)
    obtain ⟨function, written, inside⟩ := exists_loader made.loaders inLoaded named
    exact {
      declared := mem_declarationLines.2 (.inr (.inl ⟨_, inLoaded, rfl⟩))
      loaded := inLoaded
      loader := ⟨function, written, inside, loadsData_of_mem inLoaded written⟩
      alone := fun item inItems same =>
        List.inj_on_of_nodup_map grown.distinct inItems inLoaded same
      noBarbs := noBarbs }

/-- It does so if no sensor of the configuration is plotted by its name. -/
theorem showsOwnData_of_not_isExternal {series : Series}
    (member : series ∈ allSeries output.charts) (noEquation : series.equation = none)
    (plain : series.isStatistic = false)
    (noSensor : ∀ other ∈ allSeries output.charts,
      sameWord other.keyword series.keyword = true → ¬IsExternal external other) :
    ShowsOwnData generator output.charts contents series := by
  have plotted : plottedVariable? series = some (ownVariable series) :=
    plottedVariable?_of_plain parsed inOutputs member noEquation plain
  obtain ⟨first, found⟩ := exists_firstPlotted? member plotted
  obtain ⟨same, other, member', plotted'⟩ := plotted_of_firstPlotted? found
  obtain ⟨_, entry, isEntry, own⟩ := entry_of_plottedVariable? parsed inOutputs member plotted
  obtain ⟨rfl, entry', isEntry', first⟩ :=
    entry_of_plottedVariable? parsed inOutputs member' plotted'
  have common := isEntry_of_not_isExternal isEntry (congrArg Variable.name own)
    (noSensor series member (sameWord_refl _))
  have common' := isEntry_of_not_isExternal isEntry' (congrArg Variable.name first)
    (noSensor other member' same)
  -- Without sensors, the first variable of the name can only be this one.
  rw [own, first] at same
  have agree := ofKeyword_eq_of_sameWord common' common same
  rw [showsOwnData_iff parsed inOutputs made tables member noEquation plain]
  refine ⟨?_, fun ⟨_, named⟩ => ?_⟩
  · rw [own, ← agree, ← first]
    exact found
  · have apart := (isProper_ofKeyword common).apart "WindBarbData" List.mem_cons_self
    rw [← own] at apart
    have same' : sameWord (ownVariable series).name "WindBarbData" = true := by
      rw [ownVariable, named]
      exact sameWord_refl _
    exact Bool.false_ne_true (apart.symm.trans same')

end

end

/-- Whatever sensors the configuration knows of: a plotted variable of a page shows its own data
exactly if it is the first one of its name, in any letter case, that is plotted, and the wind
barbs do not have the name; and this is so for each one by whose name no sensor of the
configuration is plotted. -/
theorem plotted_variables_show_own_data (settings : Settings) (units : Units)
    (external : List String) {text : String} {outputs : List Output}
    (parsed : (parse ⟨settings, .build units external⟩ text).outcome = .ok (some outputs))
    {output : Output} (inOutputs : output ∈ outputs) {generator : Generator}
    (site : generator.site = ⟨settings, .build units external⟩) {filename page : String} {id : Int}
    (generated : (generate generator output.charts filename id).outcome = .ok (some page)) :
    ∃ contents, IsMade generator output.charts (toString id) contents ∧
      page = textOfLines (contents.lines generator.options output.charts filename (toString id)) ∧
      ∀ series ∈ allSeries output.charts, series.equation = none → series.isStatistic = false →
        (ShowsOwnData generator output.charts contents series ↔
          firstPlotted? output.charts series.keyword = some (ownVariable series) ∧
          ¬(output.charts.any Chart.hasWindBarbs = true ∧ series.keyword = "WindBarbData")) ∧
        ((∀ other ∈ allSeries output.charts,
            sameWord other.keyword series.keyword = true → ¬IsExternal external other) →
          ShowsOwnData generator output.charts contents series) := by
  obtain ⟨contents, made, written⟩ := exists_contents_of_generate generated
  have tables : generator.site.tables = .build units external := by
    rw [site]
  exact ⟨contents, made, written, fun series member noEquation plain =>
    ⟨showsOwnData_iff parsed inOutputs made tables member noEquation plain,
      showsOwnData_of_not_isExternal parsed inOutputs made tables member noEquation plain⟩⟩

/-- A chart of the temperature and of a sensor of the configuration. -/
def sensorText (name : String) : String :=
  "Chart A Title T Plot Temperature Plot Extra " ++ name ++ " EndChart"

/-- The series of the temperature. -/
def temperatureSeries : Series where
  keyword := "Temperature"
  field := "temp"
  datafile := "tempdata.json"
  axes := Axis.temp.set
  axisId := "Temp"
  unit := "°C"

/-- The series of the sensor. -/
def sensorSeries (name : String) : Series where
  keyword := name
  field := name
  datafile := Keyword.extraDatafile
  axes := Axis.free.set
  axisId := "Free"
  range := .extra

/-- The chart that the text is read as. -/
def sensorChart (name : String) : Chart where
  id := "A"
  title := "T"
  axes := .unionAll [Axis.temp.set, Axis.free.set]
  range := .extra
  series := [temperatureSeries, sensorSeries name]

/-- A generator of pages of a station whose configuration knows of the sensor. -/
def sensorGenerator (name : String) : Generator :=
  { plainGenerator with site := ⟨plainSettings, .build plainUnits [name]⟩ }

/-- The text with this sensor is read, and these are the parts of its page. -/
structure IsSensorPage (name : String) (contents : Contents) (page : String) : Prop where
  parsed : (parse ⟨plainSettings, .build plainUnits [name]⟩ (sensorText name)).outcome =
    .ok (some [{ filename := "cumuluscharts.txt", charts := [sensorChart name] }])
  generated : (generate (sensorGenerator name) [sensorChart name] "cumuluscharts.txt" 0).outcome =
    .ok (some page)
  made : IsMade (sensorGenerator name) [sensorChart name] (toString (0 : Int)) contents

theorem exists_isSensorPage (name : String)
    (parsed : (parse ⟨plainSettings, .build plainUnits [name]⟩ (sensorText name)).outcome =
      .ok (some [{ filename := "cumuluscharts.txt", charts := [sensorChart name] }]))
    (written : ((generate (sensorGenerator name) [sensorChart name] "cumuluscharts.txt"
      0).outcome.toOption.bind id).isSome = true) :
    ∃ contents page, IsSensorPage name contents page := by
  obtain ⟨page, generated⟩ := exists_ok_of_isSome written
  obtain ⟨contents, made, _⟩ := exists_contents_of_generate generated
  exact ⟨contents, page, parsed, generated, made⟩

/-- A sensor and a keyword of different names both show their own data. -/
theorem soil_and_temperature_show_own_data :
    ∃ contents page, IsSensorPage "Soil" contents page ∧
      ShowsOwnData (sensorGenerator "Soil") [sensorChart "Soil"] contents temperatureSeries ∧
      ShowsOwnData (sensorGenerator "Soil") [sensorChart "Soil"] contents
        (sensorSeries "Soil") := by
  obtain ⟨_, page, isPage⟩ := exists_isSensorPage "Soil" (by decide) (by decide)
  obtain ⟨contents, made, _, shows⟩ := plotted_variables_show_own_data plainSettings plainUnits
    ["Soil"] isPage.parsed List.mem_cons_self rfl isPage.generated
  have temperature := shows temperatureSeries List.mem_cons_self rfl rfl
  have soil := shows (sensorSeries "Soil") (List.mem_cons_of_mem _ List.mem_cons_self) rfl rfl
  have noSensor : ∀ other ∈ allSeries [sensorChart "Soil"],
      sameWord other.keyword "Temperature" = true → ¬IsExternal ["Soil"] other := by
    intro other member same isSensor
    rcases List.mem_cons.1 member with rfl | behind
    · exact absurd isSensor.1 (by decide)
    · rw [List.mem_singleton.1 behind] at same
      exact absurd same (by decide)
  exact ⟨contents, page, ⟨isPage.parsed, isPage.generated, made⟩, temperature.2 noSensor,
    soil.1.2 ⟨by decide, by decide⟩⟩

/-- A sensor of the configuration may have the name of a keyword. In another spelling its array is
not declared, and in the same spelling it shows the data of the keyword. -/
theorem sensors_lose_their_data :
    (∃ contents page, IsSensorPage "temperature" contents page ∧
      declarationLine "temperature" ∉ declarationLines contents.loaded
        (equationArrays contents.loaded [sensorChart "temperature"])) ∧
    ∃ contents page, IsSensorPage "Temperature" contents page ∧
      ownVariable temperatureSeries ∈ contents.loaded ∧
      ¬ShowsOwnData (sensorGenerator "Temperature") [sensorChart "Temperature"] contents
        (sensorSeries "Temperature") := by
  constructor
  · obtain ⟨contents, page, isPage⟩ := exists_isSensorPage "temperature"
      (by decide) (by decide)
    refine ⟨contents, page, isPage, ?_⟩
    have resolved : (variablesOf (.build plainUnits ["temperature"])
        [sensorChart "temperature"]).outcome = .ok (some [ownVariable temperatureSeries]) := by
      decide
    rw [Option.some.inj (Except.ok.inj (isPage.made.loaded.symm.trans resolved))]
    decide
  · obtain ⟨contents, page, isPage⟩ := exists_isSensorPage "Temperature"
      (by decide) (by decide)
    have resolved : (variablesOf (.build plainUnits ["Temperature"])
        [sensorChart "Temperature"]).outcome = .ok (some [ownVariable temperatureSeries]) := by
      decide
    have loaded := Option.some.inj (Except.ok.inj (isPage.made.loaded.symm.trans resolved))
    refine ⟨contents, page, isPage, ?_, fun shows => ?_⟩
    · rw [loaded]
      exact List.mem_singleton_self _
    · have lost := shows.loaded
      rw [loaded, List.mem_singleton] at lost
      exact absurd lost (by decide)

end Meteogram.Page
