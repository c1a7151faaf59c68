import Meteogram.Proofs.Data.LoadedFiles
import Meteogram.Proofs.Log.MonthLogs
import Meteogram.Proofs.Text.FirstUse

/-!
# What a run writes

A run that ends well writes the data files of the series that it makes, and no others: each
file has its fields in the order of their first use, and each field the points of the last
series that stands under it (`AreContents`). The points of a series are those of the log
entries that it looks at (`Request.LooksAt`, `ArePoints`). What the text of a data file says of its
fields is `IsDataFile`.

Under the same place all series of charts that were read have the same points. So their order
has an effect on the order of files and fields only (`runs_write_what_charts_plot`).
-/

set_option autoImplicit false

namespace Meteogram.Data

open Page (allSeries)
open Station (Settings Units Window)
open Time (Moment)
open Log (Entry readMonth)

/-! ## The points of series -/

/-- The field of a log that the points of a series come from. The logs of the months have another
name for the evapotranspiration. -/
def logField (series : Series) : String :=
  if (series.range = .recent ∨ series.range = .extra) ∧ series.field = "evapotranspiration" then "EVT"
  else series.field

theorem logField_eq (series : Series) : logField series =
    if series.range.isShort then monthlyField series.field else series.field := by
  simp only [logField, monthlyField, isShort_iff, ite_and]

/-- The log entries that a run looks at for a series. For the last days these are the entries
from the start of the window to its end, in the logs of all months from the first one to the last
one; otherwise all days. -/
def Request.LooksAt (request : Request) (series : Series) (entries : List Entry) : Prop :=
  if series.range = .recent ∨ series.range = .extra then
    ∃ names logs,
      Log.monthLogNames [] request.window.start.date request.window.stop.date = .ok names ∧
      names.mapM (fun name => (readMonth request.files request.directory name).outcome) = .ok logs ∧
      entries = logs.flatten.filter fun entry =>
        request.window.start.atMost entry.time && entry.time.atMost request.window.stop
  else (Log.readDays request.files request.directory).outcome = .ok entries

section

variable {request : Request} {series : Series}

/-- Series that both are of the last days, or both by day, look at the same entries. -/
theorem Request.looksAt_congr {other : Series} (sameKind : series.range.isShort = other.range.isShort)
    (entries : List Entry) : request.LooksAt series entries ↔ request.LooksAt other entries := by
  simp only [LooksAt, ← isShort_iff, sameKind]

theorem Request.looksAt_of_isShort (short : series.range.isShort = true) {entries : List Entry} :
    request.LooksAt series entries ↔ request.windowEntries.outcome = .ok entries := by
  rw [LooksAt, if_pos ((isShort_iff _).1 short)]
  simp only [windowEntries, Log.readMonths, Report.outcome_bind_eq_ok_iff, Report.outcome_mapM]
  constructor
  · rintro ⟨names, logs, named, read, rfl⟩
    exact ⟨names, named, logs, read, rfl⟩
  · rintro ⟨names, named, logs, read, same⟩
    exact ⟨names, logs, named, read, (Except.ok.inj same).symm⟩

theorem Request.looksAt_of_not_isShort (long : ¬series.range.isShort = true) {entries : List Entry} :
    request.LooksAt series entries ↔
      (Log.readDays request.files request.directory).outcome = .ok entries := by
  rw [LooksAt, if_neg (mt (isShort_iff _).2 long)]

theorem Request.pointsFor_eq_ok_iff {points : List Point} :
    (request.pointsFor series).outcome = .ok points ↔
      ∃ entries, request.LooksAt series entries ∧ ArePoints entries (logField series) points := by
  rw [pointsFor]
  simp only [logField_eq, ← pointsOf_eq_ok_iff]
  split
  · next short =>
    simp only [looksAt_of_isShort short]
    exact Report.outcome_bind_eq_ok_iff
  · next long =>
    simp only [looksAt_of_not_isShort long]
    exact Report.outcome_bind_eq_ok_iff

end

/-! ## The contents of the data files -/

/-- The series stands under a field of a data file. -/
def standsAt (datafile field : String) (series : Series) : Bool :=
  series.datafile == datafile && series.field == field

theorem standsAt_iff {datafile field : String} {series : Series} :
    standsAt datafile field series = true ↔ series.datafile = datafile ∧ series.field = field := by
  simp [standsAt]

/-- The contents are those of the series that were made. -/
structure AreContents (request : Request) (made : List Series) (contents : Contents) : Prop where
  /-- The data files are those of the series, in the order of their first use. -/
  names : contents.map Prod.fst = (made.map Series.datafile).eraseDups
  /-- The fields of a data file are those of its series, in the order of their first use. -/
  fields : ∀ name fields, contents.lookup name = some fields →
    fields.map Prod.fst = ((made.filter fun series => series.datafile == name).map
      Series.field).eraseDups
  /-- The points of a field are those of the last series that stands under it. -/
  points : ∀ name field points, pointsAt contents name field = some points →
    ∃ series, made.reverse.find? (standsAt name field) = some series ∧
      ∃ entries, request.LooksAt series entries ∧ ArePoints entries (logField series) points

section

variable {request : Request} {made : List Series} {contents : Contents}

theorem areContents_nil (request : Request) : AreContents request [] [] where
  names := rfl
  fields _ _ found := by cases found
  points _ _ _ found := by cases found

theorem AreContents.mem_names (areContents : AreContents request made contents) {name : String} :
    name ∈ contents.map Prod.fst ↔ name ∈ made.map Series.datafile := by
  rw [areContents.names, List.mem_eraseDups]

/-- The fields that a data file has already, if it has any. -/
theorem AreContents.map_fst_getD (areContents : AreContents request made contents)
    (name : String) : ((contents.lookup name).getD []).map Prod.fst =
      ((made.filter fun other => other.datafile == name).map Series.field).eraseDups := by
  cases known : contents.lookup name with
  | some fields => exact areContents.fields _ _ known
  | none =>
    have absent : made.filter (fun other => other.datafile == name) = [] := by
      rw [List.filter_eq_nil_iff]
      intro other member same
      have inContents : name ∈ contents.map Prod.fst :=
        areContents.mem_names.2 (List.mem_map.2 ⟨other, member, eq_of_beq same⟩)
      obtain ⟨entry, inContents, isName⟩ := List.mem_map.1 inContents
      have apart := List.lookup_eq_none_iff.1 known entry inContents
      simp [isName] at apart
    rw [absent]
    rfl

/-- The points of another series are set under its field. -/
theorem AreContents.set (areContents : AreContents request made contents) {series : Series}
    {points : List Point} (found : (request.pointsFor series).outcome = .ok points) :
    AreContents request (made ++ [series])
      (setPoints contents series.datafile series.field points) where
  names := by
    rw [setPoints, keys_setEntry, List.map_append, List.map_singleton, Text.eraseDups_concat,
      areContents.names]
    simp only [List.mem_eraseDups]
  fields name fields there := by
    rw [setPoints, lookup_setEntry] at there
    rw [List.filter_append, List.map_append]
    split at there
    · next same =>
      subst same
      obtain rfl := Option.some.inj there
      have own : ([series].filter fun other => other.datafile == series.datafile).map Series.field =
          [series.field] := by
        simp
      rw [keys_setEntry, own, Text.eraseDups_concat, areContents.map_fst_getD]
      simp only [List.mem_eraseDups]
    · next apart =>
      have none : [series].filter (fun other => other.datafile == name) = [] := by
        simpa using Ne.symm apart
      rw [none, List.map_nil, List.append_nil]
      exact areContents.fields name fields there
  points name field points' there := by
    rw [pointsAt_setPoints] at there
    rw [List.reverse_append, List.reverse_singleton, List.singleton_append, List.find?_cons]
    split at there
    · next same =>
      obtain rfl := Option.some.inj there
      rw [standsAt_iff.2 ⟨same.1.symm, same.2.symm⟩]
      exact ⟨series, rfl, Request.pointsFor_eq_ok_iff.1 found⟩
    · next apart =>
      have notHere : standsAt name field series = false :=
        Bool.eq_false_iff.2 fun here => apart
          ⟨(standsAt_iff.1 here).1.symm, (standsAt_iff.1 here).2.symm⟩
      rw [notHere]
      exact areContents.points name field points' there

/-- The contents stay those of the series that were made over the series that a run still comes
to. -/
theorem AreContents.foldlM {done rest : List Series} {collected last : Collected}
    (areContents : AreContents request (done.filter request.makes) collected.contents)
    (isRead : IsRead request collected)
    (went : (rest.foldlM (collectSeries request) collected).outcome = .ok last) :
    AreContents request ((done ++ rest).filter request.makes) last.contents := by
  induction rest generalizing done collected with
  | nil =>
    obtain rfl := Except.ok.inj went
    rwa [List.append_nil]
  | cons series rest ih =>
    rw [List.foldlM_cons] at went
    obtain ⟨next, step, went⟩ := Report.outcome_bind_eq_ok_iff.1 went
    rw [List.append_cons]
    obtain ⟨isRead', ⟨passed, same⟩ | ⟨makes, points, found, same⟩⟩ := isRead.collectSeries step
    · refine ih ?_ isRead' went
      rw [List.filter_append, List.filter_singleton, passed, same]
      exact (List.append_nil _).symm ▸ areContents
    · refine ih ?_ isRead' went
      rw [List.filter_append, List.filter_singleton, makes, same]
      exact areContents.set found

/-- What a run collects are the contents of the series that it makes. -/
theorem areContents_of_collect {charts : List Chart}
    (found : (collect request charts).outcome = .ok contents) :
    AreContents request ((allSeries charts).filter request.makes) contents := by
  obtain ⟨last, went, same⟩ := Report.outcome_bind_eq_ok_iff.1 found
  obtain rfl := Except.ok.inj same
  have start : IsRead request {} :=
    ⟨fun _ kept => (by cases kept), fun _ kept => (by cases kept)⟩
  have none : AreContents request (([] : List Series).filter request.makes) [] := areContents_nil request
  exact none.foldlM start went

end

/-! ## Another order of the series -/

section

variable {request : Request} {made made' : List Series} {contents contents' : Contents}

/-- There are points under a field of a data file exactly if a series stands there. -/
theorem AreContents.isSome_pointsAt_iff (areContents : AreContents request made contents)
    {name field : String} : (pointsAt contents name field).isSome = true ↔
      ∃ series ∈ made, standsAt name field series = true := by
  simp only [standsAt_iff]
  rw [pointsAt]
  cases known : contents.lookup name with
  | some fields =>
    rw [Option.bind_some, isSome_lookup_iff, areContents.fields name fields known, List.mem_eraseDups]
    simp [and_assoc]
  | none =>
    have absent : name ∉ made.map Series.datafile := by
      rw [← areContents.mem_names, ← isSome_lookup_iff, known]
      exact Bool.false_ne_true
    refine ⟨fun none => (by cases none), ?_⟩
    rintro ⟨series, member, sameFile, _⟩
    exact absurd (List.mem_map.2 ⟨series, member, sameFile⟩) absent

/-- The order of the series and their number make no difference for the points, if all series of
a data file are of the same kind. -/
theorem AreContents.pointsAt_congr (areContents : AreContents request made contents)
    (areContents' : AreContents request made' contents')
    (members : ∀ series, series ∈ made' ↔ series ∈ made)
    (sameKind : ∀ series ∈ made, ∀ other ∈ made, series.datafile = other.datafile →
      series.range.isShort = other.range.isShort) (name field : String) :
    pointsAt contents' name field = pointsAt contents name field := by
  have there : (pointsAt contents' name field).isSome = (pointsAt contents name field).isSome := by
    rw [Bool.eq_iff_iff, areContents.isSome_pointsAt_iff, areContents'.isSome_pointsAt_iff]
    simp only [members]
  cases found : pointsAt contents name field with
  | none => rwa [found, Option.isSome_none, Option.isSome_eq_false_iff, Option.isNone_iff_eq_none]
      at there
  | some points =>
    rw [found] at there
    obtain ⟨points', found'⟩ := Option.isSome_iff_exists.1 there
    obtain ⟨series, last, made⟩ := areContents.points name field points found
    obtain ⟨other, last', made'⟩ := areContents'.points name field points' found'
    have member := List.mem_reverse.1 (List.mem_of_find?_eq_some last)
    have member' := (members other).1 (List.mem_reverse.1 (List.mem_of_find?_eq_some last'))
    obtain ⟨sameFile, sameField⟩ := standsAt_iff.1 (List.find?_some last)
    obtain ⟨sameFile', sameField'⟩ := standsAt_iff.1 (List.find?_some last')
    have short := sameKind series member other member' (sameFile.trans sameFile'.symm)
    have same : request.pointsFor other = request.pointsFor series := by
      rw [Request.pointsFor, Request.pointsFor, short, sameField, sameField']
    rw [← Request.pointsFor_eq_ok_iff] at made made'
    rw [same, made] at made'
    rw [found', Except.ok.inj made']

/-- Contents of the same series in another order have the same data files with the same fields. -/
theorem AreContents.perm (areContents : AreContents request made contents)
    (areContents' : AreContents request made' contents')
    (members : ∀ series, series ∈ made' ↔ series ∈ made)
    (sameKind : ∀ series ∈ made, ∀ other ∈ made, series.datafile = other.datafile →
      series.range.isShort = other.range.isShort) :
    (contents'.map Prod.fst).Perm (contents.map Prod.fst) ∧
      ∀ name fields fields', contents.lookup name = some fields →
        contents'.lookup name = some fields' → fields'.Perm fields := by
  constructor
  · rw [areContents.names, areContents'.names,
      List.perm_ext_iff_of_nodup (Text.nodup_eraseDups _) (Text.nodup_eraseDups _)]
    intro name
    simp only [List.mem_eraseDups, List.mem_map, members]
  · intro name fields fields' found found'
    refine perm_of_lookup ?_ ?_ fun field => ?_
    · exact areContents'.fields name fields' found' ▸ Text.nodup_eraseDups _
    · exact areContents.fields name fields found ▸ Text.nodup_eraseDups _
    · have same := areContents.pointsAt_congr areContents' members sameKind name field
      rwa [pointsAt, pointsAt, found, found'] at same

end

/-! ## Runs that collect everything -/

section

variable {request : Request} {collected : Collected}

/-- A series is no obstacle if its points can be made. -/
theorem IsRead.exists_collectSeries (isRead : IsRead request collected) {series : Series}
    (found : request.makes series = true →
      ∃ points, (request.pointsFor series).outcome = .ok points) :
    ∃ next, (Data.collectSeries request collected series).outcome = .ok next := by
  rw [Request.makes_eq] at found
  rw [Data.collectSeries]
  cases own : isOwn series with
  | false => exact ⟨collected, rfl⟩
  | true =>
    rw [own, Bool.true_and] at found
    simp only [Bool.not_true, Bool.false_eq_true, if_false]
    cases short : series.range.isShort with
    | true =>
      obtain ⟨points, made⟩ := found (by rw [short]; rfl)
      rw [Request.pointsFor, short] at made
      simp only [if_true, Report.outcome_bind_eq_ok_iff] at made ⊢
      obtain ⟨entries, read, made⟩ := made
      exact ⟨_, entries, isRead.outcome_monthEntries.trans read, points, made, rfl⟩
    | false =>
      simp only [Bool.false_eq_true, if_false]
      cases byDay : series.range.isByDay with
      | false => exact ⟨_, Report.outcome_bind_eq_ok_iff.2 ⟨(), rfl, rfl⟩⟩
      | true =>
        cases due : request.due with
        | false => exact ⟨collected, rfl⟩
        | true =>
          obtain ⟨points, made⟩ := found (by rw [short, byDay, due]; rfl)
          rw [Request.pointsFor, short] at made
          simp only [if_true, Bool.not_true, Bool.false_eq_true, if_false,
            Report.outcome_bind_eq_ok_iff] at made ⊢
          obtain ⟨entries, read, made⟩ := made
          exact ⟨_, entries, isRead.outcome_dayEntries.trans read, points, made, rfl⟩

theorem IsRead.exists_foldlM (isRead : IsRead request collected) {rest : List Series}
    (found : ∀ series ∈ rest, request.makes series = true →
      ∃ points, (request.pointsFor series).outcome = .ok points) :
    ∃ last, (rest.foldlM (Data.collectSeries request) collected).outcome = .ok last := by
  induction rest generalizing collected with
  | nil => exact ⟨collected, rfl⟩
  | cons series rest ih =>
    rw [List.forall_mem_cons] at found
    obtain ⟨next, step⟩ := isRead.exists_collectSeries found.1
    obtain ⟨last, went⟩ := ih (isRead.collectSeries step).1 found.2
    refine ⟨last, ?_⟩
    rw [List.foldlM_cons]
    exact Report.outcome_bind_eq_ok_iff.2 ⟨next, step, went⟩

/-- A run can collect everything exactly if it can make the points of each series that it makes. -/
theorem exists_collect_iff {charts : List Chart} :
    (∃ contents, (collect request charts).outcome = .ok contents) ↔
      ∀ series ∈ allSeries charts, request.makes series = true →
        ∃ points, (request.pointsFor series).outcome = .ok points := by
  constructor
  · rintro ⟨contents, found⟩ series member makes
    exact ((isCollected_of_collect found).complete series member makes).1
  · intro found
    have start : IsRead request {} :=
      ⟨fun _ kept => (by cases kept), fun _ kept => (by cases kept)⟩
    obtain ⟨last, went⟩ := start.exists_foldlM found
    exact ⟨last.contents, Report.outcome_bind_eq_ok_iff.2 ⟨last, went, rfl⟩⟩

end

/-! ## What a run leaves on the disk -/

namespace Turn

/-- The run has this window and writes these contents. -/
structure Writes (turn : Turn) (settings : Settings) (window : Window) (due : Bool)
    (contents : Contents) : Prop where
  plans : (plan settings turn.now turn.full).outcome = .ok (window, due)
  /-- The series by day are due in a full run, or once a day. -/
  isDue : due = true ↔ turn.full = true ∨ settings.dailyDue turn.now = .ok true
  /-- The run gives back the end of its window. -/
  stops : (turn.update settings).outcome = .ok window.stop
  /-- The contents are those of the series that the run makes. -/
  made : AreContents (turn.request window due)
    ((allSeries turn.charts).filter (turn.request window due).makes) contents
  /-- There is a place for each data file. -/
  placed : ∀ name ∈ contents.map Prod.fst,
    (placeOf turn.files turn.directory name).isSome = true
  /-- A path has the last data file whose place it is. All other files are as they were. -/
  stored : ∀ path,
    match contents.reverse.find? fun entry =>
      placeOf turn.files turn.directory entry.1 == some path with
    | some entry => ∃ bytes, (turn.update settings).files.file? path = some bytes ∧
      IsDataFile entry.2 bytes
    | none => (turn.update settings).files.file? path = turn.files.file? path
  /-- A data file is there after the run, unless it shares its place with another one. -/
  readable : ∀ name fields, contents.lookup name = some fields →
    IsAlone turn.files turn.directory contents name → ∃ bytes,
      (turn.update settings).files.read (joinName turn.directory name) = .ok bytes ∧
        IsDataFile fields bytes

/-- All data files of the contents are there after the run. -/
def Leaves (turn : Turn) (settings : Settings) (contents : Contents) : Prop :=
  ∀ name fields, contents.lookup name = some fields → ∃ bytes,
    (turn.update settings).files.read (joinName turn.directory name) = .ok bytes ∧
      IsDataFile fields bytes

section

variable {turn : Turn} {settings : Settings} {window : Window} {due : Bool}

theorem isDue_of_plan (planned : (plan settings turn.now turn.full).outcome = .ok (window, due)) :
    due = true ↔ turn.full = true ∨ settings.dailyDue turn.now = .ok true := by
  obtain ⟨window', _, more⟩ := Report.outcome_bind_eq_ok_iff.1 planned
  cases full : turn.full with
  | true =>
    rw [full] at more
    cases Except.ok.inj more
    exact ⟨fun _ => .inl rfl, fun _ => rfl⟩
  | false =>
    rw [full] at more
    obtain ⟨due', reads, same⟩ := Report.outcome_bind_eq_ok_iff.1 more
    cases Except.ok.inj same
    change settings.dailyDue turn.now = .ok due at reads
    rw [reads]
    simp

/-- A run that ends well as it was planned writes what it has collected. -/
theorem EndsWell.writes_of_plan {contents : Contents}
    (well : turn.EndsWell settings window due contents)
    (planned : (plan settings turn.now turn.full).outcome = .ok (window, due)) :
    turn.Writes settings window due contents where
  plans := planned
  isDue := isDue_of_plan planned
  stops := well.stops
  made := areContents_of_collect well.collects
  placed := writeAll_eq_ok_iff.1 well.writes
  stored path := by
    have collected := isCollected_of_collect well.collects
    have there := file?_writeAll well.writes path
    rw [← well.leaves] at there
    cases last : contents.reverse.find? fun entry =>
      placeOf turn.files turn.directory entry.1 == some path with
    | some entry =>
      rw [last] at there
      have found := (mem_iff_lookup collected.distinct).1
        (List.mem_reverse.1 (List.mem_of_find?_eq_some last))
      exact ⟨_, there, isDataFile_fileText (collected.isWellFormed found)⟩
    | none =>
      rw [last] at there
      exact there
  readable name fields found alone := by
    have collected := isCollected_of_collect well.collects
    refine ⟨_, ?_, isDataFile_fileText (collected.isWellFormed found)⟩
    rw [well.leaves]
    exact read_writeAll collected.distinct well.writes found alone

variable {contents : Contents} (writes : turn.Writes settings window due contents)

include writes

/-- Data files whose names have no slash are all there. -/
theorem Writes.leaves_of_plain (plain : ∀ name ∈ contents.map Prod.fst, '/' ∉ name.toList) :
    turn.Leaves settings contents := by
  have isPlain : ∀ name ∈ contents.map Prod.fst, IsPlainName name := by
    intro name listed
    obtain ⟨series, made, rfl⟩ := List.mem_map.1 (writes.made.mem_names.1 listed)
    have makes := (List.mem_filter.1 made).2
    rw [Request.makes_eq, Bool.and_eq_true, isOwn, Text.startsWith_iff] at makes
    have notShort : ∀ short ∈ ["", ".", ".."], ¬ownStart.toList <+: short.toList := by decide
    refine ⟨?_, ?_, ?_, plain _ listed⟩
    all_goals exact fun same => notShort _ (by simp) (same ▸ makes.1)
  exact fun name fields found => writes.readable name fields found
    (isAlone_of_plain isPlain writes.placed
      ((isSome_lookup_iff _ _).1 (Option.isSome_of_eq_some found)))

/-- The data files of charts that were read have names without a slash. -/
theorem Writes.leaves_of_parse {settings' : Settings} {units : Units} {external : List String}
    {text : String} {outputs : List Output}
    (parsed : (Definition.parse ⟨settings', .build units external⟩ text).outcome = .ok (some outputs))
    (within : allSeries turn.charts ⊆ allSeries (outputs.flatMap Output.charts)) :
    turn.Leaves settings contents := by
  refine writes.leaves_of_plain fun name listed => ?_
  obtain ⟨series, made, rfl⟩ := List.mem_map.1 (writes.made.mem_names.1 listed)
  obtain ⟨member, makes⟩ := List.mem_filter.1 made
  rw [Request.makes_eq, Bool.and_eq_true] at makes
  rw [(own_of_parse parsed (within member) makes.1).1]
  exact (isPlainName_ownFile series.range).noSlash

end

end Turn

theorem ownFile_eq_iff {range range' : DataRange} :
    ownFile range = ownFile range' ↔ range.isByDay = range'.isByDay := by
  rw [ownFile, ownFile]
  cases range.isByDay <;> cases range'.isByDay <;> decide

/-- The series of charts that were read that have the same own data file are all of the last days, or
all by day. -/
theorem sameKind_of_parse {settings : Settings} {units : Units} {external : List String}
    {text : String} {outputs : List Output}
    (parsed : (Definition.parse ⟨settings, .build units external⟩ text).outcome = .ok (some outputs))
    {series : List Series} (within : series ⊆ allSeries (outputs.flatMap Output.charts))
    (request : Request) : ∀ one ∈ series.filter request.makes, ∀ other ∈ series.filter request.makes,
      one.datafile = other.datafile → one.range.isShort = other.range.isShort := by
  have byDay : ∀ one ∈ series.filter request.makes, one.datafile = ownFile one.range ∧
      one.range.isShort = !one.range.isByDay := by
    intro one member
    rw [List.mem_filter, Request.makes_eq, Bool.and_eq_true] at member
    obtain ⟨file, isListed⟩ := own_of_parse parsed (within member.1) member.2.1
    refine ⟨file, ?_⟩
    cases range : one.range with
    | recent | extra | daily | all => rfl
    | unlisted number =>
      rw [range] at isListed
      rcases isListed with short | byDay
      · cases short
      · cases byDay
  intro one member other member' sameFile
  obtain ⟨file, short⟩ := byDay one member
  obtain ⟨file', short'⟩ := byDay other member'
  rw [file, file', ownFile_eq_iff] at sameFile
  rw [short, short', sameFile]

/-- A run that ends well over some charts writes what they plot from the logs of its window. A
data file is there after the run unless its name leads to the place of another one, which only
names with a slash do. If the charts were read from a definition, no name has one, and the order
and the repetition of charts and series make no difference but for the order of data files and of
the fields in them. -/
theorem runs_write_what_charts_plot (turn : Turn) (settings : Settings) {stop : Moment}
    (notEmpty : turn.charts ≠ []) (ended : (turn.update settings).outcome = .ok stop) :
    ∃ window due contents, turn.Writes settings window due contents ∧
      ((∀ name ∈ contents.map Prod.fst, '/' ∉ name.toList) → turn.Leaves settings contents) ∧
      ∀ (settings' : Settings) (units : Units) (external : List String) (text : String)
        (outputs : List Output),
        (Definition.parse ⟨settings', .build units external⟩ text).outcome = .ok (some outputs) →
        turn.charts ⊆ outputs.flatMap Output.charts →
        turn.Leaves settings contents ∧
        ∀ charts : List Chart, charts ≠ [] →
          (∀ series, series ∈ allSeries charts ↔ series ∈ allSeries turn.charts) →
          ∃ contents', { turn with charts }.Writes settings window due contents' ∧
            { turn with charts }.Leaves settings contents' ∧
            (contents'.map Prod.fst).Perm (contents.map Prod.fst) ∧
            ∀ name fields fields', contents.lookup name = some fields →
              contents'.lookup name = some fields' → fields'.Perm fields := by
  obtain ⟨window, due, contents, planned, well⟩ := Turn.steps_of_update notEmpty ended
  have writes := well.writes_of_plan planned
  refine ⟨window, due, contents, writes, writes.leaves_of_plain, ?_⟩
  intro settings' units external text outputs parsed within
  have within' : allSeries turn.charts ⊆ allSeries (outputs.flatMap Output.charts) := by
    intro series member
    obtain ⟨chart, inCharts, inChart⟩ := List.mem_flatMap.1 member
    exact List.mem_flatMap.2 ⟨chart, within inCharts, inChart⟩
  refine ⟨writes.leaves_of_parse parsed within', fun charts notEmpty' members => ?_⟩
  have readable := exists_collect_iff.1 ⟨contents, well.collects⟩
  obtain ⟨contents', collects'⟩ : ∃ contents', (collect (turn.request window due) charts).outcome =
      .ok contents' :=
    exists_collect_iff.2 fun series member => readable series ((members series).1 member)
  have perm := (areContents_of_collect well.collects).perm (areContents_of_collect collects')
    (fun series => by rw [List.mem_filter, List.mem_filter, members])
    (sameKind_of_parse parsed within' _)
  have written : (writeAll turn.files turn.directory contents').1 = .ok () :=
    writeAll_eq_ok_iff.2 fun name member => writes.placed name (perm.1.mem_iff.1 member)
  have someCharts : { turn with charts }.charts ≠ [] := notEmpty'
  have well' := (Turn.endsWell_of_steps someCharts planned well.marks collects' written).1
  have writes' := well'.writes_of_plan planned
  refine ⟨contents', writes', writes'.leaves_of_parse parsed ?_, perm⟩
  exact fun series member => within' ((members series).1 member)

/-- A full run over the chart of the evapotranspiration. -/
def lossRun : Turn := ⟨twoDirectories, lossOutput.charts, "data", "out", summerNoon, true⟩

/-- The run writes one data file, with and without a repetition of its chart. -/
theorem loss_run_writes_one_file : ∃ window due contents,
    lossRun.Writes Definition.plainSettings window due contents ∧
    contents.map Prod.fst = ["CUserdataRECENT.json"] ∧
    lossRun.Leaves Definition.plainSettings contents ∧
    ∃ contents', { lossRun with charts := lossOutput.charts ++ lossOutput.charts }.Writes
        Definition.plainSettings window due contents' ∧
      (contents'.map Prod.fst).Perm (contents.map Prod.fst) := by
  have parsed : (Definition.parse ⟨Definition.plainSettings, .build Definition.plainUnits []⟩
      "Chart A Title T Plot EvapoTranspiration EndChart").outcome = .ok (some [lossOutput]) := by
    decide
  have ended : (lossRun.update Definition.plainSettings).outcome = .ok summerNoon := by
    decide +kernel
  obtain ⟨window, due, contents, writes, _, more⟩ :=
    runs_write_what_charts_plot lossRun Definition.plainSettings (List.cons_ne_nil _ _) ended
  obtain ⟨leaves, reorders⟩ := more _ _ _ _ _ parsed (List.Subset.refl _)
  have repeated : ∀ series, series ∈ allSeries (lossOutput.charts ++ lossOutput.charts) ↔
      series ∈ allSeries lossRun.charts := by
    intro series
    rw [allSeries, List.flatMap_append, List.mem_append, or_self]
    rfl
  obtain ⟨contents', writes', _, perm, _⟩ := reorders _ (List.cons_ne_nil _ _) repeated
  exact ⟨window, due, contents, writes, writes.made.names, leaves, contents', writes', perm⟩

end Meteogram.Data
