import Mathlib.Data.List.Forall2
import Meteogram.Data.Update
import Meteogram.Proofs.Files.Writing
import Meteogram.Proofs.Number.OneDecimal

/-!
# What a run collects is what it writes

The points of a series are those of the log entries that have a number for it, one by one and in
the order of the log (`ArePoints`). A run goes through the series of the charts and puts the points
of each series that it makes under the data file and the field of the series. What holds on the way is
`IsCollected`: there are points for all series it came to, and no others. Each data file
stands there once, so that what is written in the end is all read back
(`read_writeAll`).
-/

set_option autoImplicit false

namespace Meteogram.Data

open Station (Settings Window)
open Time (Moment)
open Log (Entry)

/-! ## Entries under keys -/

section

variable {α : Type} (entries : List (String × α)) (key : String) (value : α)

theorem any_key_eq_isSome_lookup :
    (entries.any fun entry => entry.1 == key) = (entries.lookup key).isSome := by
  induction entries with
  | nil => rfl
  | cons entry rest ih =>
    rw [List.any_cons, ih, List.lookup_cons, BEq.comm]
    cases key == entry.1 <;> rfl

theorem isSome_lookup_iff :
    (entries.lookup key).isSome = true ↔ key ∈ entries.map Prod.fst := by
  rw [← any_key_eq_isSome_lookup]
  simp

/-- Only the entry of the key is another one. -/
theorem lookup_setEntry (other : String) :
    (setEntry entries key value).lookup other =
      if other = key then some value else entries.lookup other := by
  rw [setEntry, any_key_eq_isSome_lookup]
  cases found : entries.lookup key with
  | some before =>
    rw [if_pos Option.isSome_some, lookup_replace, found]
    simp only [beq_iff_eq]
    rfl
  | none =>
    rw [if_neg (by simp), lookup_concat]
    by_cases here : other = key
    · subst here
      rw [found, if_pos rfl, if_pos (beq_self_eq_true other)]
      rfl
    · rw [if_neg here, if_neg (by simpa using here), Option.or_none]

theorem keys_setEntry :
    (setEntry entries key value).map Prod.fst =
      if key ∈ entries.map Prod.fst then entries.map Prod.fst
      else entries.map Prod.fst ++ [key] := by
  have there := isSome_lookup_iff entries key
  rw [setEntry, any_key_eq_isSome_lookup]
  by_cases member : key ∈ entries.map Prod.fst
  · rw [if_pos (there.2 member), if_pos member, List.map_map]
    refine List.map_congr_left fun entry _ => ?_
    simp only [Function.comp]
    split
    · next same => exact (eq_of_beq same).symm
    · rfl
  · rw [if_neg (mt there.1 member), if_neg member, List.map_append]
    rfl

/-- A key that is set stands there once. -/
theorem nodup_keys_setEntry {entries : List (String × α)} (distinct : (entries.map Prod.fst).Nodup) :
    ((setEntry entries key value).map Prod.fst).Nodup := by
  rw [keys_setEntry]
  split
  · exact distinct
  · next absent =>
    exact List.nodup_append.2 ⟨distinct, List.pairwise_singleton _ key,
      fun other member _ isKey same => absent (List.mem_singleton.1 isKey ▸ same ▸ member)⟩

/-- A key that stands there once leads to its only entry. -/
theorem mem_iff_lookup {entries : List (String × α)} (distinct : (entries.map Prod.fst).Nodup)
    {key : String} {value : α} : (key, value) ∈ entries ↔ entries.lookup key = some value := by
  induction entries with
  | nil => simp
  | cons entry rest ih =>
    obtain ⟨other, first⟩ := entry
    rw [List.map_cons, List.nodup_cons] at distinct
    rw [List.mem_cons, List.lookup_cons, ih distinct.2]
    by_cases here : key = other
    · subst here
      have absent : rest.lookup key ≠ some value := fun found =>
        distinct.1 (List.mem_map.2 ⟨_, (ih distinct.2).2 found, rfl⟩)
      simp [absent, eq_comm]
    · rw [beq_eq_false_iff_ne.2 here]
      simp [here]

/-- Entries with the same values under the same keys are the same up to their order. -/
theorem perm_of_lookup {entries others : List (String × α)}
    (distinct : (entries.map Prod.fst).Nodup) (distinct' : (others.map Prod.fst).Nodup)
    (same : ∀ key, entries.lookup key = others.lookup key) : entries.Perm others := by
  have nodup : ∀ {list : List (String × α)}, (list.map Prod.fst).Nodup → list.Nodup :=
    fun distinct => List.Pairwise.of_map _ (fun _ _ apart same => apart (congrArg Prod.fst same)) distinct
  rw [List.perm_ext_iff_of_nodup (nodup distinct) (nodup distinct')]
  intro entry
  rw [mem_iff_lookup distinct, mem_iff_lookup distinct', same]

end

/-- The points of a field of a data file. -/
def pointsAt (contents : Contents) (datafile field : String) : Option (List Point) :=
  (contents.lookup datafile).bind fun fields => fields.lookup field

theorem pointsAt_setPoints (contents : Contents) (datafile field : String) (points : List Point)
    (datafile' field' : String) :
    pointsAt (setPoints contents datafile field points) datafile' field' =
      if datafile' = datafile ∧ field' = field then some points
      else pointsAt contents datafile' field' := by
  rw [pointsAt, setPoints, lookup_setEntry]
  by_cases sameFile : datafile' = datafile
  · subst sameFile
    rw [if_pos rfl, Option.bind_some, lookup_setEntry]
    by_cases sameField : field' = field
    · rw [if_pos sameField, if_pos ⟨rfl, sameField⟩]
    · rw [if_neg sameField, if_neg fun both => sameField both.2, pointsAt]
      cases contents.lookup datafile' <;> rfl
  · rw [if_neg sameFile, if_neg fun both => sameFile both.1]
    rfl

/-! ## The points of entries -/

/-- The point is that of an entry: it has its time, and its number in the field with one
decimal. -/
structure IsPointOf (field : String) (entry : Entry) (point : Point) : Prop where
  time : point.time = entry.time.milliseconds
  value : ∃ number, entry.value? field = some number ∧ number.oneDecimal = .ok point.value

/-- The points are those of the entries that have a number in the field, in the same order. -/
def ArePoints (entries : List Entry) (field : String) (points : List Point) : Prop :=
  List.Forall₂ (IsPointOf field)
    (entries.filter fun entry => (entry.value? field).isSome) points

section

variable {entries : List Entry} {field : String} {points : List Point}

theorem pointOf_eq_ok_iff {entry : Entry} {point? : Option Point} :
    pointOf field entry = .ok point? ↔
      (entry.value? field = none ∧ point? = none) ∨
        ∃ point, IsPointOf field entry point ∧ point? = some point := by
  rw [pointOf]
  cases has : entry.value? field with
  | none =>
    constructor
    · exact fun made => .inl ⟨rfl, (Except.ok.inj made).symm⟩
    · rintro (⟨_, rfl⟩ | ⟨point, ⟨_, number, has', _⟩, _⟩)
      · rfl
      · cases has.symm.trans has'
  | some number =>
    constructor
    · intro made
      obtain ⟨rounded, rounds, same⟩ := bind_eq_ok.1 made
      exact .inr ⟨⟨entry.time.milliseconds, rounded⟩, ⟨rfl, number, has, rounds⟩,
        (Except.ok.inj same).symm⟩
    · rintro (⟨none, _⟩ | ⟨⟨time, rounded⟩, ⟨sameTime, number', has', rounds⟩, rfl⟩)
      · cases none
      · obtain rfl : number = number' := Option.some.inj (has.symm.trans has')
        obtain rfl : time = entry.time.milliseconds := sameTime
        exact bind_eq_ok.2 ⟨rounded, rounds, rfl⟩

/-- The points of a log are there exactly if all its numbers in the field can be given with one
decimal. -/
theorem pointsOf_eq_ok_iff : pointsOf entries field = .ok points ↔ ArePoints entries field points := by
  induction entries generalizing points with
  | nil =>
    constructor
    · intro made
      obtain rfl := Except.ok.inj made
      exact .nil
    · intro none
      cases none
      rfl
  | cons entry entries ih =>
    have step : pointsOf (entry :: entries) field = .ok points ↔ ∃ point? rest,
        pointOf field entry = .ok point? ∧ pointsOf entries field = .ok rest ∧
          points = point?.toList ++ rest := by
      simp only [pointsOf, List.mapM_cons, bind_eq_ok]
      constructor
      · rintro ⟨_, ⟨point?, first, found, behind, same⟩, same'⟩
        obtain rfl := Except.ok.inj same
        refine ⟨point?, _, first, ⟨found, behind, rfl⟩, ?_⟩
        rw [← Except.ok.inj same']
        cases point? <;> rfl
      · rintro ⟨point?, _, first, ⟨found, behind, same⟩, rfl⟩
        obtain rfl := Except.ok.inj same
        refine ⟨_, ⟨point?, first, found, behind, rfl⟩, ?_⟩
        cases point? <;> rfl
    rw [step, ArePoints, List.filter_cons]
    simp only [ih, pointOf_eq_ok_iff]
    constructor
    · rintro ⟨_, rest, ⟨none, rfl⟩ | ⟨point, isPoint, rfl⟩, made, rfl⟩
      · rw [none]
        exact made
      · obtain ⟨_, number, has, _⟩ := id isPoint
        rw [has]
        exact .cons isPoint made
    · intro made
      cases has : entry.value? field with
      | none =>
        rw [has] at made
        exact ⟨none, points, .inl ⟨rfl, rfl⟩, made, rfl⟩
      | some number =>
        rw [has, if_pos Option.isSome_some] at made
        cases made with
        | cons isPoint rest => exact ⟨_, _, .inr ⟨_, isPoint, rfl⟩, rest, rfl⟩

/-- Each point is that of an entry. -/
theorem ArePoints.exists_entry (arePoints : ArePoints entries field points) {point : Point}
    (member : point ∈ points) : ∃ entry ∈ entries, IsPointOf field entry point := by
  obtain ⟨i, inside, rfl⟩ := List.getElem_of_mem member
  obtain ⟨length, each⟩ := List.forall₂_iff_get.1 arePoints
  have inside' := length ▸ inside
  exact ⟨_, List.mem_of_mem_filter (List.getElem_mem inside'), each i inside' inside⟩

/-- The values of points are well-formed. -/
theorem ArePoints.isWellFormed (arePoints : ArePoints entries field points) :
    ∀ point ∈ points, point.value.IsWellFormed := by
  intro point member
  obtain ⟨_, _, isPoint⟩ := arePoints.exists_entry member
  obtain ⟨_, _, rounds⟩ := isPoint.value
  exact Number.Binary64.isWellFormed_of_oneDecimal rounds

end

/-! ## The points of a series -/

/-- The entries of the months in the window of a run. -/
def Request.windowEntries (request : Request) : Run (List Entry) :=
  Log.readMonths request.files request.directory [] request.window.start request.window.stop

/-- The points that a run makes of a series. -/
def Request.pointsFor (request : Request) (series : Series) : Run (List Point) :=
  if series.range.isShort then do
    Report.ofExcept (pointsOf (← request.windowEntries) (monthlyField series.field))
  else do
    Report.ofExcept (pointsOf (← Log.readDays request.files request.directory) series.field)

theorem exists_pointsOf {request : Request} {series : Series} {points : List Point}
    (made : (request.pointsFor series).outcome = .ok points) :
    ∃ entries field, pointsOf entries field = .ok points := by
  rw [Request.pointsFor] at made
  split at made
  · obtain ⟨entries, _, made⟩ := Report.outcome_bind_eq_ok_iff.1 made
    exact ⟨entries, _, made⟩
  · obtain ⟨entries, _, made⟩ := Report.outcome_bind_eq_ok_iff.1 made
    exact ⟨entries, _, made⟩

/-- The run makes the points of the series: the name of its data file begins as those of own data
files do, and its range is one of the last days, or one by day and these are due. -/
def Request.makes (request : Request) (series : Series) : Bool :=
  "CUserdata".toList.isPrefixOf series.datafile.toList &&
    ([.recent, .extra].contains series.range || [.daily, .all].contains series.range && request.due)

theorem isShort_iff (range : DataRange) : range.isShort = true ↔ range = .recent ∨ range = .extra := by
  cases range <;> simp [DataRange.isShort]

theorem Request.makes_eq (request : Request) (series : Series) : request.makes series =
    (isOwn series && (series.range.isShort || series.range.isByDay && request.due)) := by
  have own : "CUserdata".toList.isPrefixOf series.datafile.toList = isOwn series := by
    rw [Bool.eq_iff_iff, List.isPrefixOf_iff_prefix, isOwn, Text.startsWith_iff]
    rfl
  rw [makes, own]
  cases series.range <;> rfl

/-- What is kept of the logs is what is in them. -/
structure IsRead (request : Request) (collected : Collected) : Prop where
  months : ∀ entries ∈ collected.months, request.windowEntries.outcome = .ok entries
  days : ∀ entries ∈ collected.days,
    (Log.readDays request.files request.directory).outcome = .ok entries

section

variable {request : Request} {collected next : Collected}

theorem IsRead.outcome_monthEntries (isRead : IsRead request collected) :
    (monthEntries request collected).outcome = request.windowEntries.outcome := by
  rw [monthEntries]
  cases kept : collected.months with
  | some before => exact (isRead.months before kept).symm
  | none => rfl

theorem IsRead.outcome_dayEntries (isRead : IsRead request collected) :
    (dayEntries request collected).outcome =
      (Log.readDays request.files request.directory).outcome := by
  rw [dayEntries]
  cases kept : collected.days with
  | some before => exact (isRead.days before kept).symm
  | none => rfl

/-- A run sets the points of a series that it makes, and passes over all others. -/
theorem IsRead.collectSeries (isRead : IsRead request collected) {series : Series}
    (went : (collectSeries request collected series).outcome = .ok next) :
    IsRead request next ∧
      ((request.makes series = false ∧ next.contents = collected.contents) ∨
        (request.makes series = true ∧ ∃ points,
          (request.pointsFor series).outcome = .ok points ∧
          next.contents = setPoints collected.contents series.datafile series.field points)) := by
  rw [Data.collectSeries] at went
  rw [Request.makes_eq]
  cases own : isOwn series with
  | false =>
    rw [own] at went
    obtain rfl := Except.ok.inj went
    exact ⟨isRead, .inl ⟨rfl, rfl⟩⟩
  | true =>
    rw [own] at went
    simp only [Bool.not_true, Bool.false_eq_true, if_false, Bool.true_and] at went ⊢
    cases short : series.range.isShort with
    | true =>
      rw [short] at went
      simp only [if_true, Report.outcome_bind_eq_ok_iff] at went
      obtain ⟨entries, read, points, made, same⟩ := went
      obtain rfl := Except.ok.inj same
      rw [isRead.outcome_monthEntries] at read
      refine ⟨⟨fun _ kept => Option.some.inj kept ▸ read, isRead.days⟩, .inr ⟨rfl, points, ?_, rfl⟩⟩
      rw [Request.pointsFor, short, if_pos rfl]
      exact Report.outcome_bind_eq_ok_iff.2 ⟨entries, read, made⟩
    | false =>
      rw [short] at went
      simp only [Bool.false_eq_true, if_false, Bool.false_or] at went ⊢
      cases byDay : series.range.isByDay with
      | false =>
        rw [byDay] at went
        obtain ⟨_, _, same⟩ := Report.outcome_bind_eq_ok_iff.1 went
        obtain rfl := Except.ok.inj same
        exact ⟨isRead, .inl ⟨rfl, rfl⟩⟩
      | true =>
        rw [byDay] at went
        cases due : request.due with
        | false =>
          rw [due] at went
          obtain rfl := Except.ok.inj went
          exact ⟨isRead, .inl ⟨rfl, rfl⟩⟩
        | true =>
          rw [due] at went
          simp only [if_true, Bool.not_true, Bool.false_eq_true, if_false,
            Report.outcome_bind_eq_ok_iff] at went
          obtain ⟨entries, read, points, made, same⟩ := went
          obtain rfl := Except.ok.inj same
          rw [isRead.outcome_dayEntries] at read
          refine ⟨⟨isRead.months, fun _ kept => Option.some.inj kept ▸ read⟩,
            .inr ⟨rfl, points, ?_, rfl⟩⟩
          rw [Request.pointsFor, short, if_neg Bool.false_ne_true]
          exact Report.outcome_bind_eq_ok_iff.2 ⟨entries, read, made⟩

end

/-! ## The contents of the data files -/

/-- The contents have the points of the series that the run came to and makes, and
nothing else. -/
structure IsCollected (request : Request) (done : List Series) (contents : Contents) : Prop where
  /-- Each data file stands there once. -/
  distinct : (contents.map Prod.fst).Nodup
  /-- So does each field of a data file. -/
  distinctFields : ∀ name fields, contents.lookup name = some fields →
    (fields.map Prod.fst).Nodup
  /-- Each data file is that of a series. -/
  named : ∀ name ∈ contents.map Prod.fst, ∃ series ∈ done,
    request.makes series = true ∧ series.datafile = name
  /-- All points are those of a series. -/
  made : ∀ datafile field points, pointsAt contents datafile field = some points →
    ∃ series ∈ done, request.makes series = true ∧
      series.datafile = datafile ∧ series.field = field ∧
      (request.pointsFor series).outcome = .ok points
  /-- The points of each series were made, and there are points in their place. -/
  complete : ∀ series ∈ done, request.makes series = true →
    (∃ points, (request.pointsFor series).outcome = .ok points) ∧
      (pointsAt contents series.datafile series.field).isSome = true

section

variable {request : Request} {done : List Series} {contents : Contents}

theorem isCollected_nil (request : Request) : IsCollected request [] [] where
  distinct := List.nodup_nil
  distinctFields _ _ found := by cases found
  named _ member := absurd member List.not_mem_nil
  made _ _ _ found := by cases found
  complete _ member := absurd member List.not_mem_nil

/-- A series that is passed over changes nothing. -/
theorem IsCollected.pass (isCollected : IsCollected request done contents) {series : Series}
    (passed : request.makes series = false) : IsCollected request (done ++ [series]) contents where
  distinct := isCollected.distinct
  distinctFields := isCollected.distinctFields
  named name member := by
    obtain ⟨other, inDone, made⟩ := isCollected.named name member
    exact ⟨other, List.mem_append_left _ inDone, made⟩
  made datafile field points found := by
    obtain ⟨other, inDone, made⟩ := isCollected.made datafile field points found
    exact ⟨other, List.mem_append_left _ inDone, made⟩
  complete other member made := by
    rcases List.mem_append.1 member with inDone | isLast
    · exact isCollected.complete other inDone made
    · rw [List.mem_singleton.1 isLast, passed] at made
      cases made

/-- The points of a series take the place of those that stand under its data file and its
field. -/
theorem IsCollected.set (isCollected : IsCollected request done contents) {series : Series}
    (makes : request.makes series = true) {points : List Point}
    (found : (request.pointsFor series).outcome = .ok points) :
    IsCollected request (done ++ [series])
      (setPoints contents series.datafile series.field points) where
  distinct := nodup_keys_setEntry _ _ isCollected.distinct
  distinctFields name fields at' := by
    rw [setPoints, lookup_setEntry] at at'
    split at at'
    · obtain rfl := Option.some.inj at'
      refine nodup_keys_setEntry _ _ ?_
      cases before : contents.lookup series.datafile with
      | none => exact List.nodup_nil
      | some fields => exact isCollected.distinctFields _ fields before
    · exact isCollected.distinctFields name fields at'
  named name member := by
    have inside : name ∈ contents.map Prod.fst ∨ name = series.datafile := by
      rw [setPoints, keys_setEntry] at member
      split at member
      · exact .inl member
      · rcases List.mem_append.1 member with before | isNew
        · exact .inl before
        · exact .inr (List.mem_singleton.1 isNew)
    rcases inside with before | rfl
    · obtain ⟨other, inDone, made⟩ := isCollected.named name before
      exact ⟨other, List.mem_append_left _ inDone, made⟩
    · exact ⟨series, List.mem_append_right _ (List.mem_singleton_self series), makes, rfl⟩
  made datafile field points' at' := by
    rw [pointsAt_setPoints] at at'
    split at at'
    · next same =>
      obtain rfl := Option.some.inj at'
      exact ⟨series, List.mem_append_right _ (List.mem_singleton_self series), makes, same.1.symm,
        same.2.symm, found⟩
    · obtain ⟨other, inDone, made⟩ := isCollected.made datafile field points' at'
      exact ⟨other, List.mem_append_left _ inDone, made⟩
  complete other member made := by
    rw [pointsAt_setPoints]
    rcases List.mem_append.1 member with inDone | isLast
    · obtain ⟨points', there⟩ := isCollected.complete other inDone made
      refine ⟨points', ?_⟩
      split
      · rfl
      · exact there
    · obtain rfl := List.mem_singleton.1 isLast
      exact ⟨⟨points, found⟩, by rw [if_pos ⟨rfl, rfl⟩]; rfl⟩

/-- The contents stay collected over the series that a run still comes to. -/
theorem IsCollected.foldlM {collected last : Collected} {rest : List Series}
    (isCollected : IsCollected request done collected.contents) (isRead : IsRead request collected)
    (went : (rest.foldlM (collectSeries request) collected).outcome = .ok last) :
    IsCollected request (done ++ rest) last.contents := by
  induction rest generalizing done collected with
  | nil =>
    obtain rfl := Except.ok.inj went
    rwa [List.append_nil]
  | cons series rest ih =>
    rw [List.foldlM_cons] at went
    obtain ⟨next, step, went⟩ := Report.outcome_bind_eq_ok_iff.1 went
    rw [List.append_cons]
    obtain ⟨isRead', passed | ⟨makes, points, made, same⟩⟩ := isRead.collectSeries step
    · exact ih (passed.2 ▸ isCollected.pass passed.1) isRead' went
    · exact ih (same ▸ isCollected.set makes made) isRead' went

/-- A run collects the points of all series that it makes. -/
theorem isCollected_of_collect {charts : List Chart}
    (found : (collect request charts).outcome = .ok contents) :
    IsCollected request (charts.flatMap Chart.series) contents := by
  obtain ⟨last, went, same⟩ := Report.outcome_bind_eq_ok_iff.1 found
  obtain rfl := Except.ok.inj same
  have start : IsRead request {} :=
    ⟨fun _ kept => (by cases kept), fun _ kept => (by cases kept)⟩
  exact (isCollected_nil request).foldlM start went

/-- All values that a run collects are well-formed. -/
theorem IsCollected.isWellFormed (isCollected : IsCollected request done contents) {name : String}
    {fields : Fields} (found : contents.lookup name = some fields) :
    ∀ field ∈ fields, ∀ point ∈ field.2, point.value.IsWellFormed := by
  intro field member point inside
  have there : pointsAt contents name field.1 = some field.2 := by
    rw [pointsAt, found, Option.bind_some, ← mem_iff_lookup (isCollected.distinctFields name _ found)]
    exact member
  obtain ⟨series, _, _, _, _, made⟩ := isCollected.made name field.1 field.2 there
  obtain ⟨entries, _, pointsOf⟩ := exists_pointsOf made
  exact (pointsOf_eq_ok_iff.1 pointsOf).isWellFormed point inside

end

/-! ## The written files -/

/-- Where a data file in a directory is or can be made. -/
def placeOf (files : Files) (directory name : String) : Option Path :=
  (files.locate (joinName directory name)).target?

/-- No other data file of the contents has the place of this one. -/
def IsAlone (files : Files) (directory : String) (contents : Contents) (name : String) : Prop :=
  ∀ other ∈ contents.map Prod.fst,
    placeOf files directory other = placeOf files directory name → other = name

section

variable {files : Files} {directory : String} {contents : Contents}

/-- All data files are written exactly if there is a place for each of them. -/
theorem writeAll_eq_ok_iff : (writeAll files directory contents).1 = .ok () ↔
    ∀ name ∈ contents.map Prod.fst, (placeOf files directory name).isSome = true := by
  induction contents generalizing files with
  | nil => exact ⟨fun _ _ member => (by cases member), fun _ => rfl⟩
  | cons entry rest ih =>
    obtain ⟨name, fields⟩ := entry
    have place : (∃ after, files.write (joinName directory name) (fileText fields).toUTF8 = .ok after) ↔
        _ := Files.exists_write_iff
    rw [List.map_cons, List.forall_mem_cons, writeAll, placeOf, ← place]
    cases wrote : files.write (joinName directory name) (fileText fields).toUTF8 with
    | error fault =>
      refine ⟨fun all => (by cases all), ?_⟩
      rintro ⟨⟨_, first⟩, _⟩
      cases first
    | ok after =>
      dsimp only
      rw [ih]
      simp only [placeOf, Files.target?_write wrote]
      exact ⟨fun rest => ⟨⟨after, rfl⟩, rest⟩, And.right⟩

/-- In the end a path has the text of the last data file whose place it is. -/
theorem file?_writeAll (written : (writeAll files directory contents).1 = .ok ()) (path : Path) :
    (writeAll files directory contents).2.file? path =
      match contents.reverse.find? fun entry => placeOf files directory entry.1 == some path with
      | some entry => some (fileText entry.2).toUTF8
      | none => files.file? path := by
  induction contents generalizing files with
  | nil => rfl
  | cons entry rest ih =>
    obtain ⟨name, fields⟩ := entry
    rw [writeAll] at written ⊢
    cases wrote : files.write (joinName directory name) (fileText fields).toUTF8 with
    | error fault =>
      rw [wrote] at written
      cases written
    | ok after =>
      rw [wrote] at written
      dsimp only at written ⊢
      have stays : placeOf after directory = placeOf files directory :=
        funext fun other => Files.target?_write wrote _
      rw [ih written, stays, List.reverse_cons, List.find?_append, List.find?_singleton,
        Files.file?_write wrote]
      cases rest.reverse.find? fun entry => placeOf files directory entry.1 == some path with
      | some entry => rfl
      | none =>
        rw [Option.none_or, placeOf]
        by_cases here : (files.locate (joinName directory name)).target? = some path
        · rw [if_pos here, here, beq_self_eq_true]
          rfl
        · rw [if_neg here, beq_eq_false_iff_ne.2 here]
          rfl

/-- A name leads where it led before the data files were written. -/
theorem target?_writeAll (name : String) :
    ((writeAll files directory contents).2.locate name).target? =
      (files.locate name).target? := by
  induction contents generalizing files with
  | nil => rfl
  | cons entry rest ih =>
    obtain ⟨first, fields⟩ := entry
    rw [writeAll]
    cases wrote : files.write (joinName directory first) (fileText fields).toUTF8 with
    | error fault => rfl
    | ok after => exact ih.trans (Files.target?_write wrote name)

/-- A data file that is alone at its place can be read back in the end. -/
theorem read_writeAll (distinct : (contents.map Prod.fst).Nodup)
    (written : (writeAll files directory contents).1 = .ok ()) {name : String} {fields : Fields}
    (found : contents.lookup name = some fields) (alone : IsAlone files directory contents name) :
    (writeAll files directory contents).2.read (joinName directory name) =
      .ok (fileText fields).toUTF8 := by
  have member : (name, fields) ∈ contents := (mem_iff_lookup distinct).2 found
  obtain ⟨path, place⟩ := Option.isSome_iff_exists.1
    (writeAll_eq_ok_iff.1 written name (List.mem_map_of_mem member))
  have itself : contents.reverse.find? (fun entry => placeOf files directory entry.1 == some path) =
      some (name, fields) := by
    have isThere : (contents.reverse.find? fun entry =>
        placeOf files directory entry.1 == some path).isSome = true :=
      List.find?_isSome.2 ⟨(name, fields), List.mem_reverse.2 member, beq_iff_eq.2 place⟩
    obtain ⟨⟨other, fields'⟩, last⟩ := Option.isSome_iff_exists.1 isThere
    have here : placeOf files directory other = some path := by
      simpa using List.find?_some last
    have inContents : (other, fields') ∈ contents :=
      List.mem_reverse.1 (List.mem_of_find?_eq_some last)
    obtain rfl := alone other (List.mem_map_of_mem inContents) (here.trans place.symm)
    rw [last, Option.some.inj (((mem_iff_lookup distinct).1 inContents).symm.trans found)]
  refine Files.read_of_target? ((target?_writeAll _).trans place) ?_
  rw [file?_writeAll written, itself]

/-- Data files with plain names are at different places. -/
theorem isAlone_of_plain (plain : ∀ name ∈ contents.map Prod.fst, IsPlainName name)
    (placed : ∀ name ∈ contents.map Prod.fst, (placeOf files directory name).isSome = true)
    {name : String} (listed : name ∈ contents.map Prod.fst) :
    IsAlone files directory contents name := by
  intro other listed' same
  obtain ⟨path, place⟩ := Option.isSome_iff_exists.1 (placed name listed)
  refine Classical.byContradiction fun different => ?_
  exact Files.target?_joinName_ne (plain name listed) (plain other listed') (Ne.symm different) place
    (same.trans place)

end

/-! ## Runs that succeed -/

/-- The plan of a run has its window, and a full run makes the series by day. -/
theorem plan_ok {settings : Settings} {now : Moment} {full due : Bool} {window : Window}
    (planned : (plan settings now full).outcome = .ok (window, due)) :
    (settings.window now full).outcome = .ok window ∧ (full = true → due = true) := by
  obtain ⟨window', opens, more⟩ := Report.outcome_bind_eq_ok_iff.1 planned
  cases full with
  | true =>
    cases Except.ok.inj more
    exact ⟨opens, fun _ => rfl⟩
  | false =>
    obtain ⟨due', _, same⟩ := Report.outcome_bind_eq_ok_iff.1 more
    cases Except.ok.inj same
    exact ⟨opens, fun full => absurd full Bool.false_ne_true⟩

/-- What a run is about. -/
structure Turn where
  files : Files
  charts : List Chart
  logDirectory : String
  directory : String
  now : Moment
  full : Bool

namespace Turn

/-- What the run leaves behind. -/
def update (turn : Turn) (settings : Settings) : Update :=
  Data.update settings turn.files turn.charts turn.logDirectory turn.directory turn.now turn.full

/-- What the run looks for in the logs. -/
def request (turn : Turn) (window : Window) (due : Bool) : Request :=
  { files := turn.files, directory := turn.logDirectory, window, due }

/-- The steps of a run over some charts that ends well. -/
structure EndsWell (turn : Turn) (settings : Settings) (window : Window) (due : Bool)
    (contents : Contents) : Prop where
  opens : (settings.window turn.now turn.full).outcome = .ok window
  isDue : turn.full = true → due = true
  marks : markDone settings turn.now due = .ok (turn.update settings).settings
  collects : (collect (turn.request window due) turn.charts).outcome = .ok contents
  writes : (writeAll turn.files turn.directory contents).1 = .ok ()
  leaves : (turn.update settings).files = (writeAll turn.files turn.directory contents).2
  stops : (turn.update settings).outcome = .ok window.stop

/-- A run over some charts that ends well has gone through all its steps, as it was planned. -/
theorem steps_of_update {turn : Turn} {settings : Settings} {stop : Moment}
    (notEmpty : turn.charts ≠ []) (ended : (turn.update settings).outcome = .ok stop) :
    ∃ window due contents, (plan settings turn.now turn.full).outcome = .ok (window, due) ∧
      turn.EndsWell settings window due contents := by
  have steps : turn.update settings = Data.update settings turn.files turn.charts
      turn.logDirectory turn.directory turn.now turn.full := rfl
  rw [Data.update, if_neg (by simpa using notEmpty)] at steps
  dsimp only at steps
  cases planned : (plan settings turn.now turn.full).outcome with
  | error fault =>
    rw [planned] at steps
    rw [steps] at ended
    cases ended
  | ok both =>
    obtain ⟨window, due⟩ := both
    rw [planned] at steps
    obtain ⟨opens, isDue⟩ := plan_ok planned
    dsimp only at steps
    cases marks : markDone settings turn.now due with
    | error fault =>
      rw [marks] at steps
      rw [steps] at ended
      cases ended
    | ok kept =>
      rw [marks] at steps
      dsimp only at steps
      cases collects : (collect (turn.request window due) turn.charts).outcome with
      | error fault =>
        rw [← request, collects] at steps
        rw [steps] at ended
        cases ended
      | ok contents =>
        rw [← request, collects] at steps
        dsimp only at steps
        cases writes : (writeAll turn.files turn.directory contents).1 with
        | error fault =>
          rw [writes] at steps
          rw [steps] at ended
          cases ended
        | ok done =>
          rw [writes] at steps
          refine ⟨window, due, contents, rfl, opens, isDue, ?_, collects, writes, ?_, ?_⟩
          · rw [steps, marks]
          · rw [steps]
          · rw [steps]
            rfl

/-- A run over some charts that ends well has gone through all its steps. -/
theorem endsWell_of_update {turn : Turn} {settings : Settings} {stop : Moment}
    (notEmpty : turn.charts ≠ []) (ended : (turn.update settings).outcome = .ok stop) :
    ∃ window due contents, turn.EndsWell settings window due contents := by
  obtain ⟨window, due, contents, _, well⟩ := steps_of_update notEmpty ended
  exact ⟨window, due, contents, well⟩

/-- A run whose steps all succeed ends well, with the settings that they leave. -/
theorem endsWell_of_steps {turn : Turn} {settings kept : Settings} {window : Window} {due : Bool}
    {contents : Contents} (notEmpty : turn.charts ≠ [])
    (planned : (plan settings turn.now turn.full).outcome = .ok (window, due))
    (marks : markDone settings turn.now due = .ok kept)
    (collects : (collect (turn.request window due) turn.charts).outcome = .ok contents)
    (writes : (writeAll turn.files turn.directory contents).1 = .ok ()) :
    turn.EndsWell settings window due contents ∧ (turn.update settings).settings = kept := by
  have steps : turn.update settings =
      ⟨.ok window.stop, (turn.update settings).log, kept,
        (writeAll turn.files turn.directory contents).2⟩ := by
    have collects' := collects
    rw [request] at collects'
    rw [update, Data.update, if_neg (by simpa using notEmpty)]
    dsimp only
    rw [planned]
    dsimp only
    rw [marks]
    dsimp only
    rw [collects']
    dsimp only
    rw [writes]
    rfl
  obtain ⟨opens, isDue⟩ := plan_ok planned
  exact ⟨⟨opens, isDue, steps ▸ marks, collects, writes, by rw [steps], by rw [steps]⟩,
    by rw [steps]⟩

end Turn

end Meteogram.Data
