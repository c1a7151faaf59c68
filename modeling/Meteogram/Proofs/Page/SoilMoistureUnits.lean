import Meteogram.Proofs.Chart.Keywords
import Meteogram.Proofs.Ini.Setting
import Meteogram.Proofs.Page.ChartAxes
import Meteogram.Proofs.Text.Identifier

/-!
# The units of soil moisture

The settings of a site list the units of the soil moisture sensors, with commas between them. A blank
part of the list is left out, and does not keep a place: each sensor has the unit of the part that has
its number among the parts that are not blank (`sensorUnit`). So a unit stands in its own place unless
there is a blank part in front of it (`sensorUnit_of_filled`, `sensorUnit_eq_placedUnit`).

What the list gives to a sensor is what its keyword stands for (`lookup?_sensorName`), and two sensors
in a chart share an axis exactly if they have the same unit (`soil_moisture_units_leave_no_gaps`).
-/

set_option autoImplicit false

namespace Meteogram

open Station (Settings Units allSoilMoisture percent soilMoistureSensors)
open Text (isIdentifier_ascii keysOf_eq_of_sameWord sameWord_refl)

/-! ## Parts of the list -/

/-- The parts of a list of units, without the blanks around them. -/
def unitParts (list : String) : List String :=
  (Text.splitFields ',' list).map Text.trimmed

/-- The part is not blank. -/
def isFilled (part : String) : Bool :=
  part != ""

/-- The unit of a sensor, the sensors being counted from zero: that of the part that has its number
among the parts that are not blank. -/
def sensorUnit (list : String) (i : Nat) : String :=
  ((unitParts list).filter isFilled).getD i percent

/-- The unit in the place of a sensor. -/
def placedUnit (list : String) (i : Nat) : String :=
  match (unitParts list)[i]? with
  | none => percent
  | some part => if isFilled part then part else percent

/-- All blank parts are behind those that are not. -/
def HasNoGaps (list : String) : Prop :=
  ∀ (i j : Nat) (part other : String), i < j → (unitParts list)[i]? = some part →
    (unitParts list)[j]? = some other → isFilled other = true → isFilled part = true

/-- An element that is kept has as many in front of it then as were kept of those before it. -/
theorem getElem?_filter_countP {α : Type} {keeps : α → Bool} {list : List α} {i : Nat} {a : α}
    (standing : list[i]? = some a) (kept : keeps a = true) :
    (list.filter keeps)[(list.take i).countP keeps]? = some a := by
  obtain ⟨inside, rfl⟩ := List.getElem?_eq_some_iff.1 standing
  have behind : (list.drop i).filter keeps = list[i] :: (list.drop (i + 1)).filter keeps := by
    rw [← List.getElem_cons_drop inside, List.filter_cons_of_pos kept]
  have parts : list.filter keeps = (list.take i).filter keeps ++ (list.drop i).filter keeps := by
    rw [← List.filter_append, List.take_append_drop]
  rw [parts, behind, List.countP_eq_length_filter, List.getElem?_append_right (Nat.le_refl _),
    Nat.sub_self, List.getElem?_cons_zero]

section

variable {list : String} {i : Nat}

/-- A part that is not blank is the unit of the sensor with its number among such parts. -/
theorem sensorUnit_of_filled {part : String} (standing : (unitParts list)[i]? = some part)
    (filled : isFilled part = true) :
    sensorUnit list (((unitParts list).take i).countP isFilled) = part := by
  rw [sensorUnit, List.getD_eq_getElem?_getD, getElem?_filter_countP standing filled]
  rfl

/-- A sensor beyond the parts that are not blank has percentages. -/
theorem sensorUnit_of_length_le (beyond : ((unitParts list).filter isFilled).length ≤ i) :
    sensorUnit list i = percent :=
  List.getD_eq_default _ _ beyond

/-- Without a blank part in front of another one, all units stand in their own places. -/
theorem sensorUnit_eq_placedUnit (noGaps : HasNoGaps list) (i : Nat) :
    sensorUnit list i = placedUnit list i := by
  rw [placedUnit]
  cases standing : (unitParts list)[i]? with
  | none =>
    refine sensorUnit_of_length_le (Nat.le_trans (List.length_filter_le _ _) ?_)
    exact List.getElem?_eq_none_iff.1 standing
  | some part =>
    obtain ⟨inside, _⟩ := List.getElem?_eq_some_iff.1 standing
    dsimp only
    split
    · next filled =>
      have all : ((unitParts list).take i).countP isFilled = i := by
        have each : ∀ other ∈ (unitParts list).take i, isFilled other = true := by
          intro other member
          obtain ⟨j, before, found⟩ := List.mem_take_iff_getElem.1 member
          have before' := Nat.lt_of_lt_of_le before (Nat.min_le_left _ _)
          exact noGaps j i other part before' (List.getElem?_eq_some_iff.2 ⟨_, found⟩) standing filled
        rw [List.countP_eq_length.2 each, List.length_take, Nat.min_eq_left (Nat.le_of_lt inside)]
      have unit := sensorUnit_of_filled standing filled
      rwa [all] at unit
    · next blank =>
      -- No part that is not blank stands here or behind.
      have none : ((unitParts list).drop i).filter isFilled = [] := by
        rw [List.filter_eq_nil_iff]
        intro other member filled
        obtain ⟨j, found⟩ := List.mem_iff_getElem?.1 member
        rw [List.getElem?_drop] at found
        rcases Nat.eq_zero_or_pos j with rfl | later
        · rw [Nat.add_zero, standing] at found
          exact blank (Option.some.inj found ▸ filled)
        · exact blank (noGaps i (i + j) part other (Nat.lt_add_of_pos_right later) standing found
            filled)
      refine sensorUnit_of_length_le ?_
      rw [← List.take_append_drop i (unitParts list), List.filter_append, none, List.append_nil]
      exact Nat.le_trans (List.length_filter_le _ _) (List.length_take_le _ _)

/-- The unit of a sensor is never blank. -/
theorem sensorUnit_ne_empty (list : String) (i : Nat) : sensorUnit list i ≠ "" := by
  rw [sensorUnit, List.getD_eq_getElem?_getD]
  cases found : ((unitParts list).filter isFilled)[i]? with
  | none =>
    change percent ≠ ""
    decide
  | some part => exact bne_iff_ne.1 (List.mem_filter.1 (List.mem_of_getElem? found)).2

/-- Parts that are not blank have no effect behind as many of them as there are sensors. -/
theorem sensorUnit_congr {other : String} {count : Nat} (inside : i < count)
    (same : ((unitParts other).filter isFilled).take count =
      ((unitParts list).filter isFilled).take count) : sensorUnit other i = sensorUnit list i := by
  rw [sensorUnit, sensorUnit, List.getD_eq_getElem?_getD, List.getD_eq_getElem?_getD,
    ← List.getElem?_take_of_lt inside, same, List.getElem?_take_of_lt inside]

end

/-! ## The units of the sensors -/

/-- The name of a sensor. -/
def sensorName (i : Nat) : String :=
  "SoilMoisture" ++ toString (i + 1)

theorem allSoilMoisture_eq (given : List String) : allSoilMoisture given =
    (List.range soilMoistureSensors).map fun i => given.getD i percent := by
  refine List.ext_getElem? fun i => ?_
  rw [allSoilMoisture, List.getElem?_map]
  by_cases inside : i < soilMoistureSensors
  · rw [List.getElem?_take_of_lt inside, List.getElem?_range inside, Option.map_some,
      List.getD_eq_getElem?_getD]
    by_cases known : i < given.length
    · rw [List.getElem?_append_left known, List.getElem?_eq_getElem known]
      rfl
    · have beyond := Nat.le_of_not_lt known
      rw [List.getElem?_append_right beyond, List.getElem?_eq_none beyond,
        List.getElem?_replicate_of_lt (by omega)]
      rfl
  · have beyond := Nat.le_of_not_lt inside
    rw [List.getElem?_eq_none (Nat.le_trans (List.length_take_le _ _) beyond),
      List.getElem?_eq_none (by rwa [List.length_range])]
    rfl

theorem soilMoisture_of_build {choice : Station.UnitChoice} {units : Units}
    (built : (Units.build choice).outcome = .ok units) :
    units.soilMoisture = allSoilMoisture choice.soilMoisture := by
  obtain ⟨_, _, built⟩ := Report.outcome_bind_eq_ok_iff.1 built
  obtain ⟨_, _, built⟩ := Report.outcome_bind_eq_ok_iff.1 built
  obtain ⟨_, _, built⟩ := Report.outcome_bind_eq_ok_iff.1 built
  obtain ⟨_, _, built⟩ := Report.outcome_bind_eq_ok_iff.1 built
  obtain ⟨_, _, built⟩ := Report.outcome_bind_eq_ok_iff.1 built
  obtain ⟨_, _, built⟩ := Report.outcome_bind_eq_ok_iff.1 built
  obtain ⟨_, _, built⟩ := Report.outcome_bind_eq_ok_iff.1 built
  rw [← Except.ok.inj built]

/-- The settings of a site have the units of its list, one for each sensor. -/
theorem exists_unitList {site station records : Ini.Document} {settings : Settings}
    (built : (Settings.build site station records).outcome = .ok settings) : ∃ list,
    ({ site with file := .site } : Ini.Document).get "Compiler" "SoilMoistureUnits" (.text "") =
      .ok (.text list) ∧
    ∀ i unit, settings.units.soilMoisture[i]? = some unit ↔
      i < soilMoistureSensors ∧ sensorUnit list i = unit := by
  obtain ⟨_, list, choice, found, chosen, units⟩ := Settings.steps_of_build built
  refine ⟨list, found, fun i unit => ?_⟩
  rw [soilMoisture_of_build units, chosen, allSoilMoisture_eq, List.getElem?_eq_some_iff]
  simp only [List.getElem_map, List.getElem_range, List.length_map, List.length_range, exists_prop]
  rfl

/-! ## The keywords of the sensors -/

theorem sensorName_injective {i j : Nat} (same : sensorName i = sensorName j) : i = j := by
  have digits := (String.append_right_inj _).1 same
  have ended : (toString (i + 1)).toList ++ ':' :: [] = (toString (j + 1)).toList ++ ':' :: [] := by
    rw [digits]
  exact Nat.succ.inj (number_eq_of_digits (by decide) ended)

section

variable {units : Units} {external : List String} {i : Nat}

/-- Only external sensors may have the name of one of soil moisture, too. -/
theorem mem_extraOf_sensorName {entry : Keyword} (member : entry ∈ Keyword.extraOf units external)
    (named : entry.name = sensorName i) :
    (∃ unit, units.soilMoisture[i]? = some unit ∧
      entry = Keyword.sensor (sensorName i) .soilMoisture unit) ∨
      entry ∈ Keyword.externalOf external := by
  rw [extraOf_eq_append, List.mem_append] at member
  refine member.imp_left fun member => ?_
  rcases mem_extraOf_nil member with soil | common
  · obtain ⟨⟨unit, j⟩, inUnits, rfl⟩ := List.mem_map.1 soil
    obtain rfl : j = i := sensorName_injective named
    exact ⟨unit, List.mk_mem_zipIdx_iff_getElem?.1 inUnits, rfl⟩
  · have inNames : entry.name ∈ numberedNames "SoilMoisture" (i + 1) :=
      List.mem_map.2 ⟨i, List.mem_range.2 (Nat.lt_succ_self i), named.symm⟩
    exact absurd rfl (soilMoisture_apart _ _ common _ inNames)

/-- A word that is the name of a sensor stands for the sensor. -/
theorem lookup?_sensorName {unit : String} (standing : units.soilMoisture[i]? = some unit) :
    (Tables.build units external).lookup? .extra (sensorName i) =
      some (Keyword.sensor (sensorName i) .soilMoisture unit) := by
  have inTable : Keyword.sensor (sensorName i) .soilMoisture unit ∈ Keyword.extraOf units [] := by
    have inSensors : Keyword.sensor (sensorName i) .soilMoisture unit ∈
        Keyword.soilMoistureOf units.soilMoisture :=
      List.mem_map.2 ⟨(unit, i), List.mk_mem_zipIdx_iff_getElem?.2 standing, rfl⟩
    simp only [Keyword.extraOf, List.mem_append, inSensors, true_or, or_true]
  have written : (Keyword.sensor (sensorName i) .soilMoisture unit).isWrittenAs (sensorName i) =
      true := sameWord_refl _
  obtain ⟨found, search⟩ := Option.isSome_iff_exists.1
    (List.find?_isSome (p := fun keyword : Keyword => keyword.isWrittenAs (sensorName i)).2
      ⟨_, inTable, written⟩)
  have table : (Tables.build units external).lookup? .extra (sensorName i) = some found := by
    change (Keyword.extraOf units external).find? _ = _
    rw [extraOf_eq_append, List.find?_append, search]
    rfl
  rw [table]
  -- Names of the table that are the same in lower case are the same.
  have searchable := searchable_extraOf_nil units
  have member := List.mem_of_find?_eq_some search
  have name := List.mem_map_of_mem (f := Keyword.name) inTable
  have ascii := isIdentifier_ascii (searchable.each _ name).findable.identifier
  have named : found.name = sensorName i := searchable.different _ (List.mem_map_of_mem member) _ name
    (keysOf_eq_of_sameWord ascii (Equation.sameWord_of_lookup? table))
  rcases mem_extraOf_sensorName member named with ⟨unit', standing', same⟩ | none
  · obtain rfl := Option.some.inj (standing'.symm.trans standing)
    rw [same]
  · cases none

end

/-! ## Charts -/

/-- The series plots the sensor. -/
structure PlotsSensor (i : Nat) (series : Series) : Prop where
  range : series.range = .extra
  keyword : series.keyword = sensorName i
  /-- An external sensor of the same name is on another axis. -/
  axes : series.axes = Axis.soilMoisture.set
  equation : series.equation = none
  statistic : series.isStatistic = false

/-- A series that plots a sensor has the unit of the sensor, and an axis that is told by it. -/
theorem PlotsSensor.unit {units : Units} {external words : List String} {chart : Chart}
    (consistent : Definition.Consistent (.build units external) words chart) {series : Series}
    (member : series ∈ chart.series) {i : Nat} (plots : PlotsSensor i series) :
    units.soilMoisture[i]? = some series.unit ∧
      series.axisId = Definition.soilMoistureAxisId series.unit := by
  obtain ⟨before, after, split⟩ := List.append_of_mem member
  have fits := consistent.each before series after split
  obtain ⟨axis, on⟩ := fits.onAxis
  obtain rfl := Axis.set_injective (on.axes.symm.trans plots.axes)
  refine ⟨?_, by rw [on.axisId, if_pos rfl]⟩
  obtain ⟨kind, isOfKind⟩ := fits.kind
  cases kind with
  | table =>
    obtain ⟨_, _, entry, ⟨table, found, inTable⟩, data⟩ := isOfKind
    rw [plots.range] at found
    obtain rfl := Option.some.inj found
    have named := data.keyword.symm.trans plots.keyword
    rcases mem_extraOf_sensorName inTable named with ⟨unit, standing, rfl⟩ | inExternal
    · rw [data.unit]
      exact standing
    · obtain ⟨name, _, rfl⟩ := List.mem_map.1 inExternal
      have free := Axis.set_injective (data.axes.symm.trans plots.axes)
      cases free
  | equation =>
    obtain ⟨_, _, _, _, equation, computed, _⟩ := isOfKind
    cases plots.equation.symm.trans computed
  | statistic => cases plots.statistic.symm.trans isOfKind.1

/-- The settings list the units of the soil moisture sensors. Each sensor has the unit of the part of
the list that has its number among those that are not blank, and percentages beyond them; more such
parts than there are sensors have no effect. The units stand in their own places if no part stands
behind a blank one. Two sensors in a chart have the same axis exactly if their units are the same, and
each axis is drawn once. -/
theorem soil_moisture_units_leave_no_gaps {site station records : Ini.Document} {settings : Settings}
    (built : (Settings.build site station records).outcome = .ok settings) (external : List String) :
    ∃ list, ({ site with file := .site } : Ini.Document).get "Compiler" "SoilMoistureUnits" (.text "") =
        .ok (.text list) ∧
      (∀ i < soilMoistureSensors,
        (Tables.build settings.units external).lookup? .extra (sensorName i) =
          some (Keyword.sensor (sensorName i) .soilMoisture (sensorUnit list i))) ∧
      (∀ i part, (unitParts list)[i]? = some part → isFilled part = true →
        sensorUnit list (((unitParts list).take i).countP isFilled) = part) ∧
      (∀ i, ((unitParts list).filter isFilled).length ≤ i → sensorUnit list i = percent) ∧
      (∀ other, ((unitParts other).filter isFilled).take soilMoistureSensors =
          ((unitParts list).filter isFilled).take soilMoistureSensors →
        ∀ i < soilMoistureSensors, sensorUnit other i = sensorUnit list i) ∧
      (HasNoGaps list → ∀ i, sensorUnit list i = placedUnit list i) ∧
      ∀ (text : String) (outputs : List Output),
        (Definition.parse ⟨settings, .build settings.units external⟩ text).outcome =
          .ok (some outputs) →
        ∀ output ∈ outputs, ∀ chart ∈ output.charts,
          (∀ series ∈ chart.series, ∀ other ∈ chart.series, ∀ i j,
            PlotsSensor i series → PlotsSensor j other →
              (series.axisId = other.axisId ↔ sensorUnit list i = sensorUnit list j)) ∧
          ∀ day context, Page.CanDraw settings day chart → ∃ drawn,
            (Page.drawnAxes settings day chart context).outcome = .ok drawn ∧
              Page.IsDrawn chart.series drawn := by
  obtain ⟨list, found, units⟩ := exists_unitList built
  refine ⟨list, found, fun i inside => lookup?_sensorName ((units i _).2 ⟨inside, rfl⟩),
    fun i part => sensorUnit_of_filled, fun i => sensorUnit_of_length_le,
    fun other same i inside => sensorUnit_congr inside same, sensorUnit_eq_placedUnit,
    fun text outputs parsed output inOutputs chart inCharts => ?_⟩
  have consistent := ((Definition.plotted_of_parse parsed).1 chart
    (List.mem_flatMap.2 ⟨output, inOutputs, inCharts⟩)).consistent
  have axisIds : ∀ series ∈ chart.series, ∀ i, PlotsSensor i series →
      series.axisId = Definition.soilMoistureAxisId (sensorUnit list i) := by
    intro series member i plots
    obtain ⟨standing, axisId⟩ := plots.unit consistent member
    rw [axisId, ((units i _).1 standing).2]
  constructor
  · intro series member other member' i j plots plots'
    rw [axisIds series member i plots, axisIds other member' j plots', Page.soilMoistureAxisId_inj,
      Page.soilMoistureUnit, Page.soilMoistureUnit, if_neg (sensorUnit_ne_empty list i),
      if_neg (sensorUnit_ne_empty list j)]
  · intro day context can
    obtain ⟨drawn, yields, isDrawn⟩ := Page.exists_drawnAxes can consistent.onAxis context
    exact ⟨drawn, yields.outcome, isDrawn⟩

/-- The settings of a site that lists units of soil moisture. -/
def listSite (list : String) : Ini.Document where
  body := { children := [("Compiler", {}, .group {
    settings := [{ key := "SoilMoistureUnits", text := list }] })] }

/-- The unit of the third part is that of the second sensor. -/
theorem third_part_is_second_unit :
    ∃ settings, (Settings.build (listSite "cb, ,kPa") {} {}).outcome = .ok settings ∧
      (Tables.build settings.units []).lookup? .extra "SoilMoisture2" =
        some (Keyword.sensor "SoilMoisture2" .soilMoisture "kPa") := by
  obtain ⟨settings, built⟩ : ∃ settings,
      (Settings.build (listSite "cb, ,kPa") {} {}).outcome = .ok settings := ⟨_, rfl⟩
  obtain ⟨list, found, keywords, filled, _⟩ := soil_moisture_units_leave_no_gaps built []
  obtain rfl : "cb, ,kPa" = list := by
    have reads : ({ listSite "cb, ,kPa" with file := .site } : Ini.Document).get "Compiler"
        "SoilMoistureUnits" (.text "") = .ok (.text "cb, ,kPa") := rfl
    cases reads.symm.trans found
    rfl
  have unit : sensorUnit "cb, ,kPa" 1 = "kPa" := filled 2 "kPa" (by decide) (by decide)
  have entry := keywords 1 (by decide)
  rw [unit] at entry
  exact ⟨settings, built, entry⟩

/-- A blank first part leaves its unit to the second one: the first sensor has the unit that stands in
the place of the second sensor, and the second sensor has none of its own. -/
theorem blank_part_shifts_units :
    placedUnit ",cb" 0 = "%" ∧ placedUnit ",cb" 1 = "cb" ∧
    (Settings.build (listSite ",cb") {} {}).outcome.map (fun settings =>
      ["SoilMoisture1", "SoilMoisture2"].map fun name =>
        ((Tables.build settings.units []).lookup? .extra name).map Keyword.unit) =
      .ok [some "cb", some "%"] := by
  refine ⟨by decide, by decide, by decide⟩

end Meteogram
