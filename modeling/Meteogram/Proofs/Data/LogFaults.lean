import Meteogram.Proofs.Data.FileText
import Meteogram.Proofs.Data.Planning
import Meteogram.Proofs.Data.WrittenSeries
import Meteogram.Proofs.Log.ReadableLogs
import Meteogram.Proofs.Number.OneDecimal

/-!
# Logs that stop a run or spoil its files

Whatever stands in the logs, three kinds of numbers alone do harm. A time of day that is huge and a
number that cannot be given with one decimal stop a run (`exists_pointsFor_iff`), and a number that
is none ends up in a data file that is no JSON text (`AreContents.isJson_iff`). All other lines are
read or left out: without such numbers a run returns and writes JSON texts
(`log_numbers_alone_do_harm`).
-/

set_option autoImplicit false

namespace Meteogram.Data

open Page (allSeries)
open Station (Settings Units Window wholeInterval)
open Time (Moment)
open Log (Entry HasHugeTime IsNoDirectory dayLogName filledLines monthFile monthNumber readMonth)
open Number (Binary64)

/-! ## Numbers that have points -/

/-- A computation over a list has values exactly if each step has one. -/
theorem exists_mapM_iff {α β : Type} {step : α → Except Fault β} {list : List α} :
    (∃ values, list.mapM step = .ok values) ↔ ∀ a ∈ list, ∃ value, step a = .ok value := by
  induction list with
  | nil => exact ⟨fun _ _ member => (by cases member), fun _ => ⟨[], rfl⟩⟩
  | cons a list ih =>
    rw [List.forall_mem_cons, ← ih]
    simp only [List.mapM_cons, bind_eq_ok]
    constructor
    · rintro ⟨_, value, first, values, rest, _⟩
      exact ⟨⟨value, first⟩, values, rest⟩
    · rintro ⟨⟨value, first⟩, values, rest⟩
      exact ⟨_, value, first, values, rest, rfl⟩

section

variable {entries : List Entry} {field : String} {points : List Point}

theorem exists_pointOf_iff {entry : Entry} : (∃ point?, pointOf field entry = .ok point?) ↔
    ∀ number, entry.value? field = some number → number.IsRoundable := by
  rw [pointOf]
  cases has : entry.value? field with
  | none => exact ⟨fun _ _ none => (by cases none), fun _ => ⟨none, rfl⟩⟩
  | some number =>
    simp only [Option.some.injEq, forall_eq', ← Binary64.exists_oneDecimal_iff, bind_eq_ok]
    constructor
    · rintro ⟨_, rounded, rounds, _⟩
      exact ⟨rounded, rounds⟩
    · rintro ⟨rounded, rounds⟩
      exact ⟨_, rounded, rounds, rfl⟩

/-- Entries have points exactly if all their numbers in the field can be given with one decimal. -/
theorem exists_arePoints_iff : (∃ points, ArePoints entries field points) ↔
    ∀ entry ∈ entries, ∀ number, entry.value? field = some number → number.IsRoundable := by
  simp only [← exists_pointOf_iff, ← exists_mapM_iff, ← pointsOf_eq_ok_iff, pointsOf, bind_eq_ok]
  constructor
  · rintro ⟨_, values, found, _⟩
    exact ⟨values, found⟩
  · rintro ⟨values, found⟩
    exact ⟨_, values, found, rfl⟩

/-- The value of a point is none or finite. -/
theorem IsPointOf.value_cases {entry : Entry} {point : Point} (isPoint : IsPointOf field entry point) :
    point.value = .nan ∨ point.value.IsFinite := by
  obtain ⟨number, _, rounds⟩ := isPoint.value
  rcases Binary64.oneDecimal_eq_ok rounds with ⟨_, isNan⟩ | ⟨_, finite⟩
  · exact .inl isNan
  · exact .inr finite

/-- The value of a point is none exactly if the number of the entry is. -/
theorem IsPointOf.value_eq_nan_iff {entry : Entry} {point : Point}
    (isPoint : IsPointOf field entry point) :
    point.value = .nan ↔ entry.value? field = some .nan := by
  obtain ⟨number, has, rounds⟩ := isPoint.value
  rw [has, Option.some.injEq]
  rcases Binary64.oneDecimal_eq_ok rounds with ⟨rfl, isNan⟩ | ⟨⟨_, _, rfl⟩, ⟨_, _, finite⟩⟩
  · exact iff_of_true isNan rfl
  · exact iff_of_false (fun isNan => by cases finite.symm.trans isNan) fun isNan => (by cases isNan)

/-- Each entry with a number has a point. -/
theorem ArePoints.exists_point (arePoints : ArePoints entries field points) {entry : Entry}
    (member : entry ∈ entries) {number : Binary64} (has : entry.value? field = some number) :
    ∃ point ∈ points, IsPointOf field entry point := by
  have inFilter : entry ∈ entries.filter fun entry => (entry.value? field).isSome :=
    List.mem_filter.2 ⟨member, by rw [has]; rfl⟩
  obtain ⟨i, inside, rfl⟩ := List.getElem_of_mem inFilter
  obtain ⟨length, each⟩ := List.forall₂_iff_get.1 arePoints
  exact ⟨_, List.getElem_mem (length ▸ inside), each i inside (length ▸ inside)⟩

/-- Among the points there is one without a number exactly if an entry has none. -/
theorem ArePoints.exists_nan_iff (arePoints : ArePoints entries field points) :
    (∃ point ∈ points, point.value = .nan) ↔ ∃ entry ∈ entries, entry.value? field = some .nan := by
  constructor
  · rintro ⟨point, member, isNan⟩
    obtain ⟨entry, inEntries, isPoint⟩ := arePoints.exists_entry member
    exact ⟨entry, inEntries, isPoint.value_eq_nan_iff.1 isNan⟩
  · rintro ⟨entry, inEntries, isNan⟩
    obtain ⟨point, member, isPoint⟩ := arePoints.exists_point inEntries isNan
    exact ⟨point, member, isPoint.value_eq_nan_iff.2 isNan⟩

end

/-! ## Series that have points -/

/-- The logs of the months of a window. -/
def Request.monthLogs (request : Request) : List String :=
  (List.range (monthNumber request.window.stop.date + 1 -
    monthNumber request.window.start.date)).map fun i =>
      monthFile (monthNumber request.window.start.date + i)

/-- The run can make the points of the series. -/
structure Request.CanMake (request : Request) (series : Series) : Prop where
  /-- No line of the months that it reads has a huge time. -/
  times : series.range.isShort = true → ∀ name ∈ request.monthLogs,
    ∀ line ∈ filledLines request.files (joinName request.directory name), ¬ HasHugeTime line
  /-- All numbers that it looks at can be given with one decimal. -/
  numbers : ∀ entries, request.LooksAt series entries → ∀ entry ∈ entries, ∀ number,
    entry.value? (logField series) = some number → number.IsRoundable

/-- The run meets an entry for the series whose number is none. -/
def Request.MeetsNan (request : Request) (series : Series) : Prop :=
  ∃ entries, request.LooksAt series entries ∧
    ∃ entry ∈ entries, entry.value? (logField series) = some .nan

/-- No directories stand in the places of the logs. -/
structure HasPlainLogs (files : Files) (directory : String) : Prop where
  days : IsNoDirectory files (joinName directory dayLogName)
  months : ∀ number, IsNoDirectory files (joinName directory (monthFile number))

section

variable {request : Request} {series : Series}

/-- A run looks at one list of entries for a series. -/
theorem Request.LooksAt.unique {entries entries' : List Entry}
    (looksAt : request.LooksAt series entries) (looksAt' : request.LooksAt series entries') :
    entries = entries' := by
  rw [LooksAt] at looksAt looksAt'
  split at looksAt
  · next short =>
    rw [if_pos short] at looksAt'
    obtain ⟨names, logs, named, read, rfl⟩ := looksAt
    obtain ⟨names', logs', named', read', rfl⟩ := looksAt'
    obtain rfl := Except.ok.inj (named.symm.trans named')
    obtain rfl := Except.ok.inj (read.symm.trans read')
    rfl
  · next long =>
    rw [if_neg long] at looksAt'
    exact Except.ok.inj (looksAt.symm.trans looksAt')

/-- A run finds the entries for a series exactly if no line of the months that it reads has a huge
time. -/
theorem exists_looksAt_iff (plain : HasPlainLogs request.files request.directory) :
    (∃ entries, request.LooksAt series entries) ↔
      (series.range.isShort = true → ∀ name ∈ request.monthLogs,
        ∀ line ∈ filledLines request.files (joinName request.directory name), ¬ HasHugeTime line) := by
  simp only [Request.LooksAt, ← isShort_iff]
  cases series.range.isShort with
  | false =>
    simp only [Bool.false_eq_true, if_false, false_imp_iff, iff_true]
    exact Log.exists_readDays plain.days
  | true =>
    have each : (∃ logs, request.monthLogs.mapM (fun name =>
        (readMonth request.files request.directory name).outcome) = .ok logs) ↔
        ∀ name ∈ request.monthLogs,
          ∀ line ∈ filledLines request.files (joinName request.directory name),
            ¬ HasHugeTime line := by
      rw [exists_mapM_iff, Request.monthLogs, List.forall_mem_map, List.forall_mem_map]
      exact forall₂_congr fun i _ => Log.exists_readMonth_iff (plain.months _)
    simp only [forall_true_left, if_true, ← each]
    constructor
    · rintro ⟨_, names, logs, named, read, _⟩
      obtain rfl := Except.ok.inj ((Log.monthLogNames_eq _ _).symm.trans named)
      exact ⟨logs, read⟩
    · rintro ⟨logs, read⟩
      exact ⟨_, _, logs, Log.monthLogNames_eq _ _, read, rfl⟩

/-- A run makes the points of a series exactly if it meets no huge time and no number that cannot be
given with one decimal. -/
theorem exists_pointsFor_iff (plain : HasPlainLogs request.files request.directory) :
    (∃ points, (request.pointsFor series).outcome = .ok points) ↔ request.CanMake series := by
  have made : (∃ points, (request.pointsFor series).outcome = .ok points) ↔
      ∃ entries, request.LooksAt series entries ∧
        ∃ points, ArePoints entries (logField series) points := by
    simp only [Request.pointsFor_eq_ok_iff]
    exact ⟨fun ⟨points, entries, looksAt, arePoints⟩ => ⟨entries, looksAt, points, arePoints⟩,
      fun ⟨entries, looksAt, points, arePoints⟩ => ⟨points, entries, looksAt, arePoints⟩⟩
  rw [made]
  simp only [exists_arePoints_iff]
  constructor
  · rintro ⟨entries, looksAt, roundable⟩
    refine ⟨(exists_looksAt_iff plain).1 ⟨entries, looksAt⟩, fun entries' looksAt' => ?_⟩
    rwa [looksAt'.unique looksAt]
  · rintro ⟨times, numbers⟩
    obtain ⟨entries, looksAt⟩ := (exists_looksAt_iff plain).2 times
    exact ⟨entries, looksAt, numbers entries looksAt⟩

end

/-! ## Data files that are JSON texts -/

section

variable {request : Request} {made : List Series} {contents : Contents} {name : String}
  {fields : Fields}

/-- A field of a data file has the points of a series that stands there. -/
theorem AreContents.points_of_mem (areContents : AreContents request made contents)
    (found : contents.lookup name = some fields) {field : String × List Point} (member : field ∈ fields) :
    ∃ series ∈ made, (series.datafile = name ∧ series.field = field.1) ∧
      ∃ entries, request.LooksAt series entries ∧ ArePoints entries (logField series) field.2 := by
  have distinct : (fields.map Prod.fst).Nodup :=
    areContents.fields name fields found ▸ Text.nodup_eraseDups _
  have there : pointsAt contents name field.1 = some field.2 := by
    rw [pointsAt, found, Option.bind_some, ← mem_iff_lookup distinct]
    exact member
  obtain ⟨series, last, points⟩ := areContents.points name field.1 field.2 there
  exact ⟨series, List.mem_reverse.1 (List.mem_of_find?_eq_some last),
    standsAt_iff.1 (List.find?_some last), points⟩

/-- All values in a data file are finite or none. -/
theorem AreContents.value_cases (areContents : AreContents request made contents)
    (found : contents.lookup name = some fields) {field : String × List Point} (member : field ∈ fields)
    {point : Point} (inside : point ∈ field.2) : point.value = .nan ∨ point.value.IsFinite := by
  obtain ⟨series, _, _, entries, _, arePoints⟩ := areContents.points_of_mem found member
  obtain ⟨entry, _, isPoint⟩ := arePoints.exists_entry inside
  exact isPoint.value_cases

/-- A data file is a JSON text exactly if the run meets no number that is none for its series. -/
theorem AreContents.isJson_iff (areContents : AreContents request made contents)
    (sameKind : ∀ one ∈ made, ∀ other ∈ made, one.datafile = other.datafile →
      one.range.isShort = other.range.isShort)
    (found : contents.lookup name = some fields) :
    Json.IsJson .element (fileText fields).toList ↔
      ∀ series ∈ made, series.datafile = name → ¬ request.MeetsNan series := by
  have noInfinity : ∀ field ∈ fields, ∀ point ∈ field.2, ∀ negative,
      point.value ≠ .infinite negative := by
    intro field member point inside negative infinite
    rcases areContents.value_cases found member inside with isNan | ⟨_, _, finite⟩
    · cases infinite.symm.trans isNan
    · cases infinite.symm.trans finite
  rw [Json.isJson_fileText_iff noInfinity]
  constructor
  · rintro numbers series member sameFile ⟨entries, looksAt, isNan⟩
    -- The points under the place of the series are those of the last series there.
    obtain ⟨points, there⟩ := Option.isSome_iff_exists.1 (areContents.isSome_pointsAt_iff.2
      ⟨series, member, standsAt_iff.2 ⟨sameFile, rfl⟩⟩)
    obtain ⟨other, last, entries', looksAt', arePoints⟩ := areContents.points _ _ _ there
    obtain ⟨otherFile, otherField⟩ := standsAt_iff.1 (List.find?_some last)
    have member' := List.mem_reverse.1 (List.mem_of_find?_eq_some last)
    have short := sameKind other member' series member (otherFile.trans sameFile.symm)
    rw [Request.looksAt_congr short] at looksAt'
    rw [logField_eq, short, otherField, ← logField_eq, looksAt'.unique looksAt] at arePoints
    obtain ⟨point, inside, isNan⟩ := arePoints.exists_nan_iff.2 isNan
    rw [pointsAt, found, Option.bind_some] at there
    have distinct : (fields.map Prod.fst).Nodup :=
      areContents.fields name fields found ▸ Text.nodup_eraseDups _
    exact numbers _ ((mem_iff_lookup distinct).2 there) point inside isNan
  · intro meets field member point inside isNan
    obtain ⟨series, inMade, ⟨sameFile, _⟩, entries, looksAt, arePoints⟩ :=
      areContents.points_of_mem found member
    exact meets series inMade sameFile
      ⟨entries, looksAt, arePoints.exists_nan_iff.1 ⟨point, inside, isNan⟩⟩

end

/-! ## Runs -/

/-- A run over charts that were read, with settings that can be read, returns exactly if its full
window lies in the calendar and no line has a huge time or a number that cannot be given with one
decimal. Then all values that it writes are finite or none, and each data file is a JSON text exactly
if no number of its series is none. -/
theorem log_numbers_alone_do_harm (turn : Turn) {settings : Settings} {interval : Nat} {hours : Int}
    (ready : IsReady settings interval hours) (valid : turn.now.IsValid)
    (plain : HasPlainLogs turn.files turn.logDirectory)
    (placed : ∀ range, (placeOf turn.files turn.directory (ownFile range)).isSome = true)
    {settings' : Settings} {units : Units} {external : List String} {text : String}
    {outputs : List Output}
    (parsed : (Definition.parse ⟨settings', .build units external⟩ text).outcome = .ok (some outputs))
    (within : turn.charts ⊆ outputs.flatMap Output.charts) :
    ((∃ stop, (turn.update settings).outcome = .ok stop) ↔ turn.charts = [] ∨
      (3600 * hours ≤ (wholeInterval turn.now interval).seconds ∧
        ∀ window due, (plan settings turn.now turn.full).outcome = .ok (window, due) →
          ∀ series ∈ allSeries turn.charts, (turn.request window due).makes series = true →
            (turn.request window due).CanMake series)) ∧
      ∀ stop, (turn.update settings).outcome = .ok stop → turn.charts ≠ [] →
        ∃ window due contents, turn.Writes settings window due contents ∧
          turn.Leaves settings contents ∧
          ∀ name fields, contents.lookup name = some fields →
            (∀ field ∈ fields, ∀ point ∈ field.2, point.value = .nan ∨ point.value.IsFinite) ∧
            (Json.IsJson .element (fileText fields).toList ↔
              ∀ series ∈ allSeries turn.charts, (turn.request window due).makes series = true →
                series.datafile = name → ¬ (turn.request window due).MeetsNan series) := by
  have within' : allSeries turn.charts ⊆ allSeries (outputs.flatMap Output.charts) := by
    intro series member
    obtain ⟨chart, inCharts, inChart⟩ := List.mem_flatMap.1 member
    exact List.mem_flatMap.2 ⟨chart, within inCharts, inChart⟩
  constructor
  · by_cases notEmpty : turn.charts = []
    · refine iff_of_true ⟨turn.now, ?_⟩ (.inl notEmpty)
      rw [Turn.update, update, notEmpty]
      rfl
    rw [or_iff_right notEmpty, ← exists_plan_iff ready valid turn.full]
    constructor
    · rintro ⟨stop, ended⟩
      obtain ⟨window, due, contents, planned, well⟩ := Turn.steps_of_update notEmpty ended
      refine ⟨⟨_, planned⟩, fun window' due' planned' series member makes => ?_⟩
      cases planned.symm.trans planned'
      exact (exists_pointsFor_iff plain).1 (exists_collect_iff.1 ⟨contents, well.collects⟩ series
        member makes)
    · rintro ⟨⟨⟨window, due⟩, planned⟩, canMake⟩
      obtain ⟨kept, marks⟩ := exists_markDone ready turn.now due
      obtain ⟨contents, collects⟩ : ∃ contents,
          (collect (turn.request window due) turn.charts).outcome = .ok contents :=
        exists_collect_iff.2 fun series member makes =>
          (exists_pointsFor_iff plain).2 (canMake window due planned series member makes)
      have writes : (writeAll turn.files turn.directory contents).1 = .ok () := by
        refine writeAll_eq_ok_iff.2 fun name inContents => ?_
        obtain ⟨series, member, makes, rfl⟩ := (isCollected_of_collect collects).named name inContents
        rw [Request.makes_eq, Bool.and_eq_true] at makes
        rw [(own_of_parse parsed (within' member) makes.1).1]
        exact placed series.range
      exact ⟨_, (Turn.endsWell_of_steps notEmpty planned marks collects writes).1.stops⟩
  · intro stop ended notEmpty
    obtain ⟨window, due, contents, planned, well⟩ := Turn.steps_of_update notEmpty ended
    have areContents := areContents_of_collect well.collects
    have writes := well.writes_of_plan planned
    refine ⟨window, due, contents, writes, writes.leaves_of_parse parsed within',
      fun name fields found => ⟨fun field member point inside =>
        areContents.value_cases found member inside, ?_⟩⟩
    rw [areContents.isJson_iff (sameKind_of_parse parsed within' _) found]
    simp only [List.mem_filter, and_imp]

/-- A line of the log of June with a time of day and an evapotranspiration. -/
def lossLine (time loss : String) : String :=
  "21/06/24," ++ time ++ ",20,50,10,1,2,180,0,0,1010,0,20,50,1,20,20,1,100," ++ loss ++ ",10"

/-- A full run over the chart of the evapotranspiration, with a log of one line. -/
def lineTurn (line : String) : Turn where
  files := { contents := [(["data", "Jun24log.txt"], line.toUTF8)], directories := [["out"]] }
  charts := lossOutput.charts
  logDirectory := "data"
  directory := "out"
  now := summerNoon
  full := true

theorem isReady_plainSettings : IsReady Definition.plainSettings 10 72 where
  rounds := by decide
  covers := by decide
  aDay := by decide
  switch := ⟨false, by decide⟩
  upload := ⟨"", by decide, fun last reads => by
    have none : Time.read? Time.slashMinute "" = none := by decide
    cases none.symm.trans reads⟩
  done := ⟨"", by decide⟩

theorem hasPlainLogs_lineTurn (line : String) :
    HasPlainLogs (lineTurn line).files (lineTurn line).logDirectory := by
  have short : ∀ path, (lineTurn line).files.isDirectory path = true →
      path.getLast? ∈ [none, some "out", some "data"] := by
    intro path found
    rw [Files.isDirectory, Bool.or_eq_true, Bool.or_eq_true] at found
    have inside : path <+: ["out"] ∨ path <+: ["data"] := by
      rcases found with (here | directory) | file
      · exact .inl ((List.isPrefixOf_iff_prefix.1 here).trans (List.nil_prefix))
      · exact .inl (by simpa [lineTurn] using directory)
      · exact .inr (by simpa [lineTurn] using file)
    rcases inside with inside | inside
    all_goals
      rcases List.prefix_cons_iff.1 inside with rfl | ⟨rest, rfl, none⟩
      · decide
      · obtain rfl := List.prefix_nil.1 none
        decide
  have long : ∀ name, 5 ≤ name.toList.length → some name ∉ [none, some "out", some "data"] := by
    intro name length member
    simp only [List.mem_cons, List.not_mem_nil, or_false, reduceCtorEq, false_or,
      Option.some.injEq] at member
    rcases member with rfl | rfl
    · exact absurd length (by decide)
    · exact absurd length (by decide)
  constructor
  · refine Log.isNoDirectory_of_plain ⟨by decide, by decide, by decide, by decide⟩ fun path found => ?_
    exact fun last => long _ (by decide) (last ▸ short path found)
  · intro number
    refine Log.isNoDirectory_of_plain (Log.isPlainName_monthFile number) fun path found last => ?_
    refine long _ ?_ (last ▸ short path found)
    obtain ⟨month, tens, ones, _, _, _, chars⟩ := Log.toList_monthFile number
    rw [chars, List.length_append]
    simp

/-- A line with a number makes the data file a JSON text. -/
theorem loss_line_makes_json : ∃ window due contents,
    (lineTurn (lossLine "11:00" "0.25")).Writes Definition.plainSettings window due contents ∧
      ∃ fields, contents.lookup "CUserdataRECENT.json" = some fields ∧
        Json.IsJson .element (fileText fields).toList := by
  have parsed : (Definition.parse ⟨Definition.plainSettings, .build Definition.plainUnits []⟩
      "Chart A Title T Plot EvapoTranspiration EndChart").outcome = .ok (some [lossOutput]) := by
    decide
  have placed : ∀ range, (placeOf (lineTurn (lossLine "11:00" "0.25")).files "out"
      (ownFile range)).isSome = true := by
    intro range
    rw [ownFile]
    split <;> decide
  have ended : ((lineTurn (lossLine "11:00" "0.25")).update Definition.plainSettings).outcome =
      .ok summerNoon := by
    decide +kernel
  obtain ⟨_, writes⟩ := log_numbers_alone_do_harm (lineTurn (lossLine "11:00" "0.25"))
    isReady_plainSettings (by decide) (hasPlainLogs_lineTurn _) placed parsed (List.Subset.refl _)
  obtain ⟨window, due, contents, written, _, json⟩ := writes summerNoon ended
    (List.cons_ne_nil _ _)
  have names : contents.map Prod.fst = ["CUserdataRECENT.json"] := written.made.names
  obtain ⟨⟨name, fields⟩, member, rfl⟩ := List.mem_map.1 (names ▸ List.mem_singleton_self _)
  have found := (mem_iff_lookup (names ▸ List.nodup_singleton _)).1 member
  refine ⟨window, due, contents, written, fields, found, (json _ _ found).2.2 ?_⟩
  rintro series inCharts _ _ ⟨entries, looksAt, isNan⟩
  have planned : (plan Definition.plainSettings summerNoon true).outcome =
      .ok (⟨⟨⟨2024, 6, 18⟩, 12, 0, 0, 0⟩, summerNoon⟩, true) := by
    decide +kernel
  cases planned.symm.trans written.plans
  have points : ∀ series ∈ allSeries lossOutput.charts,
      (((lineTurn (lossLine "11:00" "0.25")).request ⟨⟨⟨2024, 6, 18⟩, 12, 0, 0, 0⟩, summerNoon⟩
        true).pointsFor series).outcome = .ok [⟨1718967600000, .finite false 4599075939470750515⟩] := by
    decide +kernel
  obtain ⟨entries', looksAt', arePoints⟩ := Request.pointsFor_eq_ok_iff.1 (points series inCharts)
  rw [looksAt'.unique looksAt] at arePoints
  obtain ⟨point, inPoints, isNan⟩ := arePoints.exists_nan_iff.2 isNan
  rw [List.mem_singleton.1 inPoints] at isNan
  cases isNan

/-- A huge hour stops a run, and so does a number that is infinite. A number that is none is written
into a data file that is no JSON text then. -/
theorem loss_lines_do_harm :
    (Definition.parse ⟨Definition.plainSettings, .build Definition.plainUnits []⟩
      "Chart A Title T Plot EvapoTranspiration EndChart").outcome = .ok (some [lossOutput]) ∧
    ((lineTurn (lossLine "99999999999:00" "0.25")).update Definition.plainSettings).outcome =
      .error .outOfRange ∧
    ((lineTurn (lossLine "11:00" "inf")).update Definition.plainSettings).outcome =
      .error .notRoundable ∧
    ((lineTurn (lossLine "11:00" "nan")).update Definition.plainSettings).outcome = .ok summerNoon ∧
    ((lineTurn (lossLine "11:00" "nan")).update Definition.plainSettings).files.read
      "out/CUserdataRECENT.json" =
        .ok "\x7b\"evapotranspiration\":[[1718967600000,NaN]]\x7d".toUTF8 ∧
    ¬ Json.IsJson .element "\x7b\"evapotranspiration\":[[1718967600000,NaN]]\x7d".toList := by
  refine ⟨by decide +kernel, by decide +kernel, by decide +kernel, by decide +kernel,
    by decide +kernel, fun isJson => ?_⟩
  have marked := Json.marks_of_isJson isJson []
  exact absurd marked (by decide)

end Meteogram.Data
