import Mathlib.Data.List.Dedup
import Meteogram.Page.Axes
import Meteogram.Proofs.Chart.AxisSets
import Meteogram.Proofs.Definition.Consistency
import Meteogram.Proofs.Text.FirstUse

/-!
# The axes of a chart

A chart that was read gets one axis for each identity that its series have, in the
order in which these identities are used first, and the axes stand on the two sides by
turns (`every_series_has_its_axis_once`). Three things decide together whether a series
has its axis already: the categories so far, the unit of soil moisture that was used
last, and the identities so far. What makes them agree is the tie between the axis of a
series and its identity (`IsOnAxis`): outside soil moisture the identity is the category,
and in soil moisture it is the unit.
-/

set_option autoImplicit false

namespace Meteogram.Page

open Definition Station

/-! ## Identities -/

/-- The identity of an axis is the name of its category, which for soil moisture is
followed by a unit. -/
theorem soilMoistureAxisId_eq (unit : String) :
    soilMoistureAxisId unit = if soilMoistureUnit unit = percent then Axis.soilMoisture.name
      else Axis.soilMoisture.name ++ soilMoistureUnit unit := by
  rw [soilMoistureAxisId, soilMoistureUnit]
  by_cases empty : unit = ""
  · rw [if_pos empty, if_pos rfl, if_pos (by rw [empty]; rfl)]
  · rw [if_neg empty]
    simp [empty]

/-- The identities of two soil moisture axes are the same exactly if the units are. -/
theorem soilMoistureAxisId_inj {unit other : String} :
    soilMoistureAxisId unit = soilMoistureAxisId other ↔
      soilMoistureUnit unit = soilMoistureUnit other := by
  have notEmpty : ∀ unit, soilMoistureUnit unit ≠ "" := by
    intro unit
    rw [soilMoistureUnit]
    split
    · decide
    · assumption
  have longer : ∀ text, text ≠ "" → Axis.soilMoisture.name ≠ Axis.soilMoisture.name ++ text := by
    intro text more same
    exact more (String.append_right_inj _ |>.1 (same.symm.trans (String.append_empty).symm))
  constructor
  · intro same
    rw [soilMoistureAxisId_eq, soilMoistureAxisId_eq] at same
    split_ifs at same with here there there
    · exact here.trans there.symm
    · exact absurd same (longer _ (notEmpty other))
    · exact absurd same.symm (longer _ (notEmpty unit))
    · exact (String.append_right_inj _).1 same
  · intro same
    rw [soilMoistureAxisId_eq, soilMoistureAxisId_eq, same]

/-- No other axis has the identity of one of soil moisture. -/
theorem name_ne_soilMoistureAxisId {axis : Axis} (other : axis ≠ .soilMoisture) (unit : String) :
    axis.name ≠ soilMoistureAxisId unit := by
  have short : axis.name.length < Axis.soilMoisture.name.length := by
    cases axis <;> first | decide | exact absurd rfl other
  have long : Axis.soilMoisture.name.length ≤ (soilMoistureAxisId unit).length := by
    rw [soilMoistureAxisId]
    split
    · exact Nat.le_refl _
    · rw [String.length_append]
      exact Nat.le_add_right _ _
  intro same
  rw [same] at short
  omega

theorem name_injective {axis other : Axis} (same : axis.name = other.name) : axis = other := by
  have found : ∀ axis : Axis, Axis.all.find? (fun other => other.name == axis.name) = some axis := by
    intro axis
    cases axis <;> rfl
  have both := found axis
  rw [same, found other] at both
  exact (Option.some.inj both).symm

/-! ## Runs without complaints -/

/-- What is logged if the records cannot be converted. -/
def recordsMessage : Message :=
  ⟨.error, "Unable to convert the pressure records"⟩

section

variable {α β : Type}

/-- The computation ends with this value, and logs nothing but that the records cannot
be converted. -/
structure Yields (run : Run α) (value : α) : Prop where
  outcome : run.outcome = .ok value
  log : ∀ message ∈ run.log, message = recordsMessage

theorem Yields.pure (value : α) : Yields (Pure.pure value) value :=
  ⟨rfl, fun _ member => absurd member List.not_mem_nil⟩

theorem Yields.ofExcept {outcome : Except Fault α} {value : α} (found : outcome = .ok value) :
    Yields (Report.ofExcept outcome) value :=
  ⟨found, fun _ member => absurd member List.not_mem_nil⟩

theorem Yields.bind {run : Run α} {value : α} {next : α → Run β} {value' : β}
    (first : Yields run value) (second : Yields (next value) value') :
    Yields (run >>= next) value' := by
  have both : run >>= next = ⟨(next value).outcome, run.log ++ (next value).log⟩ := by
    change Report.andThen run next = _
    rw [Report.andThen, first.outcome]
  rw [both]
  exact ⟨second.outcome, List.forall_mem_append.2 ⟨first.log, second.log⟩⟩

end

/-! ## One axis -/

section

variable {settings : Settings} {day : Int} {chart : Chart}

/-- What the axes of a chart need from elsewhere: their labels can be shown, the records
can be read if there is an axis for pressures, and there is a greatest radiation if there
is a solar axis. -/
structure CanDraw (settings : Settings) (day : Int) (chart : Chart) : Prop where
  labels : ∀ series ∈ chart.series, ∀ axis : Axis, series.axes = axis.set →
    ∃ label, axisLabel settings chart axis = .ok label
  records : ∀ series ∈ chart.series, series.axes = Axis.pressure.set →
    ∃ records, settings.pressureRecords.outcome = .ok records
  sun : ∀ series ∈ chart.series, series.axes = Axis.solar.set →
    ∃ maximum, solarBound settings day .solar = .ok maximum

/-- The line adds the axis with this identity, on this side. -/
def IsAxisLine (id : String) (opposite : Bool) (line : String) : Prop :=
  ∃ title options, line = "  chart.addAxis(\x7bid: '" ++ id ++ "',title:\x7btext:'" ++ title ++
    "'\x7d,opposite: " ++ switchText opposite ++ "," ++ options ++ axisEnd

/-- Records that can be read are used, or it is logged that they cannot be converted. -/
theorem exists_pressureBounds {records : Option (Number.Binary64 × Number.Binary64)}
    (found : settings.pressureRecords.outcome = .ok records) :
    ∃ bounds, Yields (pressureBounds settings) bounds := by
  have log : ∀ message ∈ settings.pressureRecords.log, message = recordsMessage := by
    rw [Settings.pressureRecords]
    intro message member
    split at member
    · exact absurd member List.not_mem_nil
    · exact List.mem_singleton.1 member
    · exact absurd member List.not_mem_nil
  rw [pressureBounds]
  cases records with
  | none => exact ⟨_, Yields.bind ⟨found, log⟩ (.pure _)⟩
  | some both => exact ⟨_, Yields.bind ⟨found, log⟩ (.pure _)⟩

theorem exists_axisOptions (can : CanDraw settings day chart) {series : Series}
    (member : series ∈ chart.series) {axis : Axis} (axes : series.axes = axis.set) (sun : Int)
    (side : String) : ∃ options, Yields (axisOptions settings sun side axis) options := by
  cases axis with
  | pressure =>
    obtain ⟨records, found⟩ := can.records series member axes
    obtain ⟨bounds, yields⟩ := exists_pressureBounds found
    exact ⟨_, yields.bind (.pure _)⟩
  | _ => exact ⟨_, .pure _⟩

/-- The line that adds an axis can be written if the axis has what it needs. -/
theorem exists_axisLine (can : CanDraw settings day chart) {series : Series}
    (member : series ∈ chart.series) {axis : Axis} (axes : series.axes = axis.set)
    (opposite : Bool) : ∃ line, Yields (axisLine settings day chart series axis opposite) line ∧
      IsAxisLine series.axisId opposite line := by
  obtain ⟨sun, bounded⟩ : ∃ sun, solarBound settings day axis = .ok sun := by
    cases axis with
    | solar => exact can.sun series member axes
    | _ => exact ⟨0, rfl⟩
  obtain ⟨label, shown⟩ := can.labels series member axis axes
  obtain ⟨title, titled⟩ : ∃ title, axisTitle settings chart series axis = .ok title := by
    rw [axisTitle, shown]
    cases axisUnit settings series axis with
    | none => exact ⟨_, rfl⟩
    | some unit => exact ⟨_, rfl⟩
  obtain ⟨options, yields⟩ := exists_axisOptions can member axes sun (labelSide opposite)
  refine ⟨_, ?_, title, options, rfl⟩
  exact (Yields.ofExcept bounded).bind ((Yields.ofExcept titled).bind (yields.bind (.pure _)))

/-! ## One axis after the other -/

/-- The axes that are drawn are those of the series so far. -/
structure IsDrawn (done : List Series) (drawn : Drawn) : Prop where
  ids : drawn.ids = (done.map Series.axisId).eraseDups
  axes : ∀ axis, drawn.axes.Has axis ↔ ∃ series ∈ done, series.axes = axis.set
  /-- The unit of soil moisture that was used last has its axis. -/
  latch : ∀ unit, drawn.soilMoistureUnit = some (soilMoistureUnit unit) →
    soilMoistureAxisId unit ∈ drawn.ids
  lines : List.Forall₂ (fun entry line => IsAxisLine entry.1 (decide (entry.2 % 2 = 1)) line)
    drawn.ids.zipIdx drawn.lines
  count : drawn.count = drawn.ids.length
  opposite : drawn.opposite = decide (drawn.ids.length % 2 = 1)

theorem isDrawn_nil : IsDrawn [] {} where
  ids := rfl
  axes axis := by
    refine iff_of_false (AxisSet.not_has_empty axis) ?_
    rintro ⟨_, member, _⟩
    exact absurd member List.not_mem_nil
  latch _ same := by cases same
  lines := .nil
  count := rfl
  opposite := rfl

/-- A series is served exactly if its identity has an axis. -/
theorem IsDrawn.serves_iff {done : List Series} {drawn : Drawn} (isDrawn : IsDrawn done drawn)
    (each : ∀ other ∈ done, ∃ axis, IsOnAxis other axis) {series : Series} {axis : Axis}
    (on : IsOnAxis series axis) :
    drawn.serves series = true ↔ series.axisId ∈ done.map Series.axisId := by
  have known : ∀ {id}, id ∈ drawn.ids ↔ id ∈ done.map Series.axisId := by
    intro id
    rw [isDrawn.ids, List.mem_eraseDups]
  have sameAxis : series.axisId ∈ done.map Series.axisId → drawn.axes.Has axis := by
    intro member
    obtain ⟨other, inDone, same⟩ := List.mem_map.1 member
    obtain ⟨axis', on'⟩ := each other inDone
    have ids := on'.axisId.symm.trans (same.trans on.axisId)
    refine (isDrawn.axes axis).2 ⟨other, inDone, on'.axes.trans (congrArg Axis.set ?_)⟩
    split_ifs at ids with there here here
    · exact there.trans here.symm
    · exact absurd ids.symm (name_ne_soilMoistureAxisId here _)
    · exact absurd ids (name_ne_soilMoistureAxisId there _)
    · exact name_injective ids
  rw [Drawn.serves, on.axes, Bool.and_eq_true, AxisSet.includes_set_iff, Bool.or_eq_true,
    Bool.or_eq_true, bne_iff_ne, beq_iff_eq, List.contains_iff_mem, known]
  have alone : drawn.axes.Has axis → axis ≠ .soilMoisture →
      series.axisId ∈ done.map Series.axisId := by
    intro has apart
    obtain ⟨earlier, inDone, axes⟩ := (isDrawn.axes axis).1 has
    obtain ⟨axis', on'⟩ := each earlier inDone
    obtain rfl := Axis.set_injective (on'.axes.symm.trans axes)
    refine List.mem_map.2 ⟨earlier, inDone, ?_⟩
    rw [on'.axisId, on.axisId, if_neg apart, if_neg apart]
  constructor
  · rintro ⟨has, (other | latched) | there⟩
    · exact alone has fun soil => other (by rw [soil])
    · by_cases soil : axis = .soilMoisture
      · rw [on.axisId, if_pos soil]
        exact known.1 (isDrawn.latch _ latched)
      · exact alone has soil
    · exact there
  · exact fun there => ⟨sameAxis there, .inr there⟩

/-- After a series, its identity has an axis and the others keep theirs. -/
theorem IsDrawn.add {done : List Series} {drawn : Drawn} (isDrawn : IsDrawn done drawn)
    (each : ∀ other ∈ done, ∃ axis, IsOnAxis other axis) (can : CanDraw settings day chart)
    {series : Series} (member : series ∈ chart.series) {axis : Axis} (on : IsOnAxis series axis) :
    ∃ next, Yields (Drawn.add settings day chart drawn series) next ∧
      IsDrawn (done ++ [series]) next := by
  have serves := isDrawn.serves_iff each on
  have ids : ((done ++ [series]).map Series.axisId).eraseDups =
      if series.axisId ∈ done.map Series.axisId then drawn.ids
      else drawn.ids ++ [series.axisId] := by
    rw [List.map_append, List.map_singleton, Text.eraseDups_concat, isDrawn.ids]
  have inDone : ∀ other : Axis, (∃ one ∈ done ++ [series], one.axes = other.set) ↔
      (∃ one ∈ done, one.axes = other.set) ∨ axis = other := by
    intro other
    simp only [List.mem_append, List.mem_singleton, or_and_right, exists_or, exists_eq_left, on.axes]
    exact or_congr_right ⟨Axis.set_injective, congrArg Axis.set⟩
  rw [Drawn.add]
  by_cases there : series.axisId ∈ done.map Series.axisId
  · rw [if_pos (serves.2 there)]
    have has : drawn.axes.Has axis := by
      have both := serves.2 there
      rw [Drawn.serves, on.axes, Bool.and_eq_true, AxisSet.includes_set_iff] at both
      exact both.1
    refine ⟨drawn, .pure drawn, ?_, fun other => ?_, isDrawn.latch, isDrawn.lines, isDrawn.count,
      isDrawn.opposite⟩
    · rw [ids, if_pos there]
    · rw [inDone, ← isDrawn.axes other]
      exact ⟨.inl, fun either => either.elim id fun same => same ▸ has⟩
  · obtain ⟨line, yields, isLine⟩ := exists_axisLine can member on.axes drawn.opposite
    rw [if_neg fun served => there (serves.1 served), on.axes, Axis.single?_set]
    refine ⟨_, yields.bind (.pure _), ?_⟩
    refine ⟨?_, fun other => ?_, fun unit used => ?_, ?_, ?_, ?_⟩
    · rw [ids, if_neg there]
    · rw [inDone, ← isDrawn.axes other]
      exact AxisSet.has_union_iff.trans (or_congr_right AxisSet.has_set_iff)
    · dsimp only at used ⊢
      split_ifs at used with soil
      · have sameUnit := soilMoistureAxisId_inj.2 (Option.some.inj used)
        rw [← sameUnit, on.axisId, if_pos soil]
        exact List.mem_append_right _ (List.mem_singleton_self _)
      · exact List.mem_append_left _ (isDrawn.latch unit used)
    · dsimp only
      rw [List.zipIdx_append]
      refine List.rel_append isDrawn.lines (.cons ?_ .nil)
      rw [isDrawn.opposite] at isLine
      rwa [Nat.zero_add]
    · dsimp only
      rw [List.length_append, isDrawn.count, List.length_singleton]
    · dsimp only
      rw [isDrawn.opposite, List.length_append, List.length_singleton, ← decide_not]
      exact decide_eq_decide.2 (by omega)

/-- All axes of a chart are drawn. -/
theorem exists_drawnAxes (can : CanDraw settings day chart)
    (each : ∀ series ∈ chart.series, ∃ axis, IsOnAxis series axis) (context : AxisContext) :
    ∃ drawn, Yields (drawnAxes settings day chart context) drawn ∧ IsDrawn chart.series drawn := by
  have behind : ∀ rest done drawn, done ++ rest = chart.series → IsDrawn done drawn →
      ∃ last, Yields (rest.foldlM (Drawn.add settings day chart) drawn) last ∧
        IsDrawn chart.series last := by
    intro rest
    induction rest with
    | nil =>
      intro done drawn split isDrawn
      rw [List.append_nil] at split
      exact ⟨drawn, .pure drawn, split ▸ isDrawn⟩
    | cons series rest ih =>
      intro done drawn split isDrawn
      have inChart : ∀ other ∈ done ++ [series], other ∈ chart.series := by
        intro other member
        rw [← split, List.append_cons]
        exact List.mem_append_left rest member
      have member := inChart series (List.mem_append_right done (List.mem_singleton_self series))
      obtain ⟨axis, on⟩ := each series member
      obtain ⟨next, yields, isDrawn'⟩ := isDrawn.add
        (fun other inDone => each other (inChart other (List.mem_append_left _ inDone))) can member on
      obtain ⟨last, yields', isLast⟩ := ih (done ++ [series]) next (by rw [← split]; simp) isDrawn'
      exact ⟨last, yields.bind yields', isLast⟩
  exact behind chart.series [] {} rfl isDrawn_nil

end

/-! ## All axes -/

/-- Whatever the definitions say and whatever earlier charts left, a chart that was read
gets one axis for each identity that its series have, in the order in which these are
used first, and by turns on both sides; in soil moisture each unit has an identity of its
own. The copy of an axis follows exactly if all series are on a single axis. The axes are
counted, and nothing is logged but that the records cannot be converted. -/
theorem every_series_has_its_axis_once (settings : Settings) (units : Units) (external : List String)
    {text : String} {outputs : List Output}
    (parsed : (parse ⟨settings, .build units external⟩ text).outcome = .ok (some outputs))
    {output : Output} (inOutputs : output ∈ outputs) {chart : Chart}
    (inCharts : chart ∈ output.charts) {day : Int} (can : CanDraw settings day chart)
    (context : AxisContext) (buffer : List String) :
    ∃ axes copies left,
      (createAxes settings day chart context buffer).outcome =
        .ok ((axes ++ copies).length, left, buffer ++ (axes ++ copies)) ∧
      List.Forall₂ (fun entry line => IsAxisLine entry.1 (decide (entry.2 % 2 = 1)) line)
        (chart.series.map Series.axisId).eraseDups.zipIdx axes ∧
      copies = (if (AxisSet.unionAll (chart.series.map Series.axes)).count = 1 then
        [oppositeCopyLine chart] else []) ∧
      ((AxisSet.unionAll (chart.series.map Series.axes)).count = 1 ↔
        ∃ axis : Axis, ∀ series ∈ chart.series, series.axes = axis.set) ∧
      (∀ series ∈ chart.series, ∀ other ∈ chart.series,
        series.axes = Axis.soilMoisture.set → other.axes = Axis.soilMoisture.set →
        (series.axisId = other.axisId ↔
          soilMoistureUnit series.unit = soilMoistureUnit other.unit)) ∧
      ∀ message ∈ (createAxes settings day chart context buffer).log, message = recordsMessage := by
  obtain ⟨consistent, notEmpty⟩ :=
    (plotted_of_parse parsed).1 chart (List.mem_flatMap.2 ⟨output, inOutputs, inCharts⟩)
  obtain ⟨drawn, yields, isDrawn⟩ := exists_drawnAxes can consistent.onAxis context
  have created : Yields (createAxes settings day chart context buffer)
      (drawn.total chart, { context with soilMoistureUnit := drawn.soilMoistureUnit },
        buffer ++ drawn.allLines chart) := yields.bind (.pure _)
  have count : drawn.count = drawn.lines.length := by
    have lengths := isDrawn.lines.length_eq
    rw [List.length_zipIdx] at lengths
    rw [isDrawn.count, lengths]
  have lines : drawn.allLines chart = drawn.lines ++
      (if chart.axes.count = 1 then [oppositeCopyLine chart] else []) := by
    rw [Drawn.allLines]
    split
    · rfl
    · exact (List.append_nil _).symm
  have total : drawn.total chart = (drawn.allLines chart).length := by
    rw [Drawn.total, Drawn.allLines, count]
    split
    · rw [List.length_append, List.length_singleton]
    · rfl
  rw [total, lines] at created
  rw [← consistent.axes]
  refine ⟨drawn.lines, _, _, created.outcome, isDrawn.ids ▸ isDrawn.lines, rfl, ?_, ?_, created.log⟩
  · have single : ∀ set ∈ chart.series.map Series.axes, ∃ axis : Axis, set = axis.set :=
      List.forall_mem_map.2 fun series member => by
        obtain ⟨axis, on⟩ := consistent.onAxis series member
        exact ⟨axis, on.axes⟩
    have notEmpty' : chart.series.map Series.axes ≠ [] := fun none =>
      notEmpty (List.map_eq_nil_iff.1 none)
    rw [consistent.axes, AxisSet.count_unionAll_eq_one_iff notEmpty' single]
    exact exists_congr fun axis => List.forall_mem_map
  · have soilId : ∀ series ∈ chart.series, series.axes = Axis.soilMoisture.set →
        series.axisId = soilMoistureAxisId series.unit := by
      intro series member soil
      obtain ⟨axis, on⟩ := consistent.onAxis series member
      rw [on.axisId, if_pos (Axis.set_injective (on.axes.symm.trans soil))]
    intro series member other member' soil soil'
    rw [soilId series member soil, soilId other member' soil']
    exact soilMoistureAxisId_inj

/-- Two sensors of soil moisture with different units, and the first one again. -/
def soilText : String :=
  "Chart A Title T Plot Extra SoilMoisture1 Plot Extra SoilMoisture2
    Plot Extra SoilMoisture1 As Column EndChart"

/-- Units of which the first sensor of soil moisture has its own one. -/
def soilUnits : Units :=
  { plainUnits with soilMoisture := ["cb", percent] }

/-- The series of a sensor of soil moisture. -/
def soilSeries (name unit : String) : Series where
  keyword := name
  field := name
  datafile := "extrasensorsdata.json"
  axes := Axis.soilMoisture.set
  axisId := soilMoistureAxisId unit
  unit
  range := .extra

/-- The chart that the text is read as. -/
def soilChart : Chart :=
  { id := "A", title := "T", axes := Axis.soilMoisture.set, range := .extra,
    series := [soilSeries "SoilMoisture1" "cb", soilSeries "SoilMoisture2" percent,
      { soilSeries "SoilMoisture1" "cb" with graphType := "column" }] }

/-- Without labels and records, a chart without a solar axis can be drawn. -/
theorem canDraw_soilChart (day : Int) : CanDraw plainSettings day soilChart where
  labels _ _ axis _ := by
    cases axis <;> exact ⟨_, rfl⟩
  records _ _ _ := ⟨none, rfl⟩
  sun series member solar := by
    have apart : ∀ series ∈ soilChart.series, series.axes ≠ Axis.solar.set := by decide
    exact absurd solar (apart series member)

/-- The axis of each unit is drawn once, although the units alternate. -/
theorem units_of_soil_moisture_have_their_axes :
    (parse ⟨plainSettings, .build soilUnits []⟩ soilText).outcome =
      .ok (some [{ filename := "cumuluscharts.txt", charts := [soilChart] }]) ∧
    ∃ axes copies left,
      (createAxes plainSettings 1 soilChart ⟨some "kPa"⟩ ["// axes"]).outcome =
        .ok ((axes ++ copies).length, left, ["// axes"] ++ (axes ++ copies)) ∧
      List.Forall₂ (fun entry line => IsAxisLine entry.1 (decide (entry.2 % 2 = 1)) line)
        [("SoilMoisturecb", 0), ("SoilMoisture", 1)] axes := by
  have parsed : (parse ⟨plainSettings, .build soilUnits []⟩ soilText).outcome =
      .ok (some [{ filename := "cumuluscharts.txt", charts := [soilChart] }]) := by
    decide +kernel
  obtain ⟨axes, copies, left, outcome, lines, _⟩ :=
    every_series_has_its_axis_once plainSettings soilUnits [] parsed List.mem_cons_self
      List.mem_cons_self (canDraw_soilChart 1) ⟨some "kPa"⟩ ["// axes"]
  have ids : (soilChart.series.map Series.axisId).eraseDups.zipIdx =
      [("SoilMoisturecb", 0), ("SoilMoisture", 1)] := by
    decide
  exact ⟨parsed, axes, copies, left, outcome, ids ▸ lines⟩

/-! ## Records that cannot be read -/

/-- Settings whose lowest pressure refers to a setting that is not there. -/
def brokenSettings : Settings :=
  { plainSettings with records := {
      file := .records
      body := { children := [("Pressure", {},
        .group { settings := [{ key := "lowpressurevalue", text := "%(x)s" }] })] } } }

/-- The chart of the pressure. -/
def pressureChart : Chart :=
  { id := "A", title := "T", axes := Axis.pressure.set, series := [{
      keyword := "Pressure", field := "press", datafile := "pressdata.json"
      axes := Axis.pressure.set, axisId := "Pressure", unit := "hPa" }] }

/-- A chart of the pressure is read, but gets no axes if the records cannot be read. -/
theorem unreadable_records_stop_axes :
    (parse ⟨brokenSettings, .build plainUnits []⟩ "Chart A Title T Plot Pressure EndChart").outcome =
      .ok (some [{ filename := "cumuluscharts.txt", charts := [pressureChart] }]) ∧
    (createAxes brokenSettings 172 pressureChart {} []).outcome = .error .missingReference := by
  refine ⟨by decide, rfl⟩

end Meteogram.Page
