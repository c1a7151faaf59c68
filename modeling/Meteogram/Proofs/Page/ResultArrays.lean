import Meteogram.Page.Assembly
import Meteogram.Proofs.Log.MonthLogs
import Meteogram.Proofs.Page.NeededKeywords

/-!
# The arrays of equations

The script of a page fills an array for each equation. It should be declared, and no
function that loads data should fill it as well. Which names are still free is asked twice.
The name of an equation may be no keyword of its own range, in any letter case; and an
equation gets an array of its own if nothing that the page loads has its name, in any letter
case. But the script distinguishes letter cases, and a page loads variables of all ranges.
So an equation may have the name of a variable of another range: in the same spelling it
overwrites what was loaded, and in another one its array is not declared
(`result_arrays_are_declared_and_own`, `equations_share_names_with_variables`).
-/

set_option autoImplicit false

namespace Meteogram.Page

open Text Definition Equation
open Station (Settings Units)

/-! ## Lines about arrays -/

/-- The line that empties an array before data are loaded into it. -/
def resetLine (name : String) : String :=
  "  " ++ name ++ ".length = 0;"

theorem resetLine_injective {first second : String} (same : resetLine first = resetLine second) :
    first = second := by
  rw [resetLine, resetLine, ← String.toList_inj] at same
  simp only [String.toList_append, List.append_cancel_left_eq, List.append_cancel_right_eq] at same
  exact String.toList_inj.1 same

theorem declarationLine_injective {first second : String}
    (same : declarationLine first = declarationLine second) : first = second := by
  rw [declarationLine, declarationLine, ← String.toList_inj] at same
  simp only [String.toList_append, List.append_cancel_left_eq, List.append_cancel_right_eq] at same
  exact String.toList_inj.1 same

/-- The last two characters of a line, the last one first. -/
def lastTwo (line : String) : List Char :=
  line.toList.reverse.take 2

theorem lastTwo_append (front : String) {back : String} (long : 2 ≤ back.toList.length) :
    lastTwo (front ++ back) = lastTwo back := by
  rw [← List.length_reverse] at long
  rw [lastTwo, String.toList_append, List.reverse_append, List.take_append_of_le_length long, lastTwo]

theorem lastTwo_resetLine (name : String) : lastTwo (resetLine name) = [';', '0'] :=
  lastTwo_append _ (by decide)

/-- Lines that end in another way empty no array. -/
theorem resetLine_not_mem {lines : List String} (ends : ∀ line ∈ lines, lastTwo line ≠ [';', '0'])
    (name : String) : resetLine name ∉ lines :=
  fun member => ends _ member (lastTwo_resetLine name)

/-! ## Lists made of parts -/

theorem infix_flatMap {α β : Type} {list : List α} {a : α} (member : a ∈ list) (lines : α → List β) :
    lines a <:+: list.flatMap lines := by
  rw [List.flatMap_def]
  exact List.infix_of_mem_flatten (List.mem_map_of_mem member)

/-- What a list has in the end, if each step may add something new. -/
theorem mem_foldl_iff {α β : Type} {step : List β → α → List β} {Adds : α → β → Prop}
    (grows : ∀ sofar a b, b ∈ step sofar a ↔ b ∈ sofar ∨ Adds a b) {list : List α}
    {start : List β} {b : β} : b ∈ list.foldl step start ↔ b ∈ start ∨ ∃ a ∈ list, Adds a b := by
  induction list generalizing start with
  | nil => simp
  | cons a list ih => rw [List.foldl_cons, ih, grows, List.exists_mem_cons_iff, or_assoc]

section

variable {loaded : List Variable} {charts : List Chart}

theorem mem_datafilesOf {datafile : String} : datafile ∈ datafilesOf loaded ↔
    ∃ item ∈ loaded, item.datafile ≠ "" ∧ datafile = item.datafile := by
  have grows : ∀ (sofar : List String) (item : Variable) (datafile : String),
      (datafile ∈ if item.datafile = "" || sofar.contains item.datafile then sofar
        else sofar ++ [item.datafile]) ↔
      datafile ∈ sofar ∨ (item.datafile ≠ "" ∧ datafile = item.datafile) := by
    intro sofar item datafile
    split
    · next old =>
      rw [Bool.or_eq_true, decide_eq_true_eq, List.contains_iff_mem] at old
      constructor
      · exact .inl
      · rintro (member | ⟨named, rfl⟩)
        · exact member
        · exact old.resolve_left named
    · next new =>
      rw [Bool.or_eq_true, decide_eq_true_eq, not_or] at new
      rw [List.mem_append, List.mem_singleton]
      exact or_congr_right (iff_and_self.2 fun _ => new.1)
  rw [datafilesOf, mem_foldl_iff grows]
  exact or_iff_right List.not_mem_nil

/-- An equation needs an array of its own if nothing that is loaded has its name, in any
letter case. -/
theorem mem_equationArrays {name : String} : name ∈ equationArrays loaded charts ↔
    findVariable? loaded name = none ∧
      ∃ series ∈ allSeries charts, series.equation.isSome = true ∧ series.keyword = name := by
  have grows : ∀ (sofar : List String) (other name : String),
      (name ∈ if sofar.contains other then sofar else sofar ++ [other]) ↔
        name ∈ sofar ∨ name = other := by
    intro sofar other name
    split
    · next old =>
      refine (or_iff_left_of_imp ?_).symm
      rintro rfl
      exact List.contains_iff_mem.1 old
    · rw [List.mem_append, List.mem_singleton]
  rw [equationArrays, mem_foldl_iff grows, or_iff_right List.not_mem_nil]
  simp only [exists_eq_right', List.mem_filterMap, Option.ite_none_right_eq_some,
    Option.some.injEq, Bool.and_eq_true, Option.isNone_iff_eq_none]
  constructor
  · rintro ⟨series, member, ⟨computed, fresh⟩, rfl⟩
    exact ⟨fresh, series, member, computed, rfl⟩
  · rintro ⟨fresh, series, member, computed, rfl⟩
    exact ⟨series, member, ⟨computed, fresh⟩, rfl⟩

/-! ## Declared arrays -/

/-- The arrays that every page declares. -/
def standardArrays : List String := ["WindBarbData", "sumResult"]

theorem mem_declarationLines {name : String} {equations : List String} :
    declarationLine name ∈ declarationLines loaded equations ↔
      name ∈ standardArrays ∨ HasName loaded name ∨ name ∈ equations := by
  have notEmpty : declarationLine name ≠ "" := by
    intro empty
    have length := congrArg String.length empty
    rw [declarationLine, String.length_append] at length
    exact absurd length (Nat.ne_of_gt (Nat.add_pos_right _ (by decide)))
  rw [declarationLines, List.mem_append, List.mem_singleton, or_iff_left notEmpty,
    List.mem_map_of_injective fun _ _ => declarationLine_injective, List.mem_append,
    List.mem_append, List.mem_map, or_assoc]
  rfl

/-! ## Arrays with data -/

/-- The function of a data file empties the arrays of the variables from this file. -/
theorem mem_loaderLines {options : Options} {datafile : String} {lines : List String}
    (written : loaderLines options loaded datafile = .ok lines) {name : String} :
    resetLine name ∈ lines ↔ ∃ item ∈ loaded, item.datafile = datafile ∧ item.name = name := by
  obtain ⟨location, _, same⟩ := bind_eq_ok.1 written
  obtain rfl := Except.ok.inj same
  have opens : resetLine name ∉ ["function " ++ loaderName datafile ++ "()\x7b"] := by
    refine resetLine_not_mem (List.forall_mem_singleton.2 ?_) name
    rw [lastTwo_append _ (by decide)]
    decide
  have requests : resetLine name ∉ ["  return $.ajax(\x7b",
      "    url: '" ++ location ++ "',",
      "    cache: false, datatype: 'json'",
      "    \x7d)",
      "    .fail( function (xhr, textStatus, errorThrown) \x7b console.log( '" ++ datafile ++
        " ' + textStatus + ' : ' + errorThrown ); \x7d)",
      "    .done( function(resp) \x7b"] := by
    refine resetLine_not_mem ?_ name
    simp only [List.forall_mem_cons]
    rw [lastTwo_append _ (by decide), lastTwo_append _ (by decide)]
    decide
  have fills : resetLine name ∉ (loaded.filter fun item => item.datafile == datafile).flatMap fillLines := by
    refine resetLine_not_mem ?_ name
    simp only [List.forall_mem_flatMap, fillLines, List.forall_mem_cons]
    intro item _
    rw [lastTwo_append _ (by decide), lastTwo_append _ (by decide)]
    decide
  have closes : resetLine name ∉ ["    \x7d)", "  \x7d"] :=
    resetLine_not_mem (by decide) name
  simp only [List.mem_append, opens, requests, fills, closes, false_or, or_false]
  constructor
  · intro member
    obtain ⟨item, own, empties⟩ := List.mem_map.1 member
    obtain ⟨inLoaded, file⟩ := List.mem_filter.1 own
    exact ⟨item, inLoaded, eq_of_beq file, resetLine_injective empties⟩
  · rintro ⟨item, inLoaded, file, rfl⟩
    exact List.mem_map.2 ⟨item, List.mem_filter.2 ⟨inLoaded, beq_iff_eq.2 file⟩, rfl⟩

/-- It fills them as well. -/
theorem infix_loaderLines {options : Options} {datafile : String} {lines : List String}
    (written : loaderLines options loaded datafile = .ok lines) {item : Variable}
    (inLoaded : item ∈ loaded) (file : item.datafile = datafile) : fillLines item <:+: lines := by
  obtain ⟨location, _, same⟩ := bind_eq_ok.1 written
  obtain rfl := Except.ok.inj same
  have own : item ∈ loaded.filter fun item => item.datafile == datafile :=
    List.mem_filter.2 ⟨inLoaded, beq_iff_eq.2 file⟩
  exact (infix_flatMap own fillLines).trans (List.infix_append _ _ _)

/-- The function of the wind barbs empties their array. -/
theorem mem_windBarbLoaderLines {location name : String} :
    resetLine name ∈ windBarbLoaderLines location ↔ name = "WindBarbData" := by
  have others : resetLine name ∉ (windBarbLoaderLines location).drop 2 := by
    refine resetLine_not_mem ?_ name
    simp only [windBarbLoaderLines, List.drop_succ_cons, List.drop_zero, List.forall_mem_cons]
    rw [lastTwo_append _ (by decide), lastTwo_append _ (by decide), lastTwo_append _ (by decide)]
    decide
  have opens : resetLine name ∉ ["function WindBarbsAjax() \x7b"] :=
    resetLine_not_mem (by decide) name
  constructor
  · intro member
    rcases List.mem_cons.1 member with first | behind
    · exact absurd (List.mem_singleton.2 first) opens
    · rcases List.mem_cons.1 behind with same | rest
      · exact resetLine_injective same
      · exact absurd rest others
  · rintro rfl
    exact List.mem_cons_of_mem _ List.mem_cons_self

section

variable {options : Options} {windBarbs : Bool} {lines : List String}
  (written : loadersLines options loaded windBarbs = .ok lines)

include written

/-- There is a function for each data file, and perhaps one for the wind barbs. -/
theorem exists_loaders : ∃ loaders barbs, lines = loaders.flatten ++ barbs ∧
    (datafilesOf loaded).mapM (loaderLines options loaded) = .ok loaders ∧
    ∀ name, resetLine name ∈ barbs ↔ windBarbs = true ∧ name = "WindBarbData" := by
  obtain ⟨loaders, each, written⟩ := bind_eq_ok.1 written
  cases windBarbs with
  | true =>
    obtain ⟨location, _, same⟩ := bind_eq_ok.1 written
    refine ⟨loaders, _, (Except.ok.inj same).symm, each, fun name => ?_⟩
    rw [mem_windBarbLoaderLines, eq_self, true_and]
  | false =>
    refine ⟨loaders, _, (Except.ok.inj written).symm, each, fun name => ?_⟩
    exact iff_of_false List.not_mem_nil fun drawn => Bool.false_ne_true drawn.1

/-- Each variable from a data file has a function that loads it. -/
theorem exists_loader {item : Variable} (inLoaded : item ∈ loaded) (named : item.datafile ≠ "") :
    ∃ function, loaderLines options loaded item.datafile = .ok function ∧ function <:+: lines := by
  obtain ⟨loaders, barbs, rfl, each, -⟩ := exists_loaders written
  obtain ⟨function, inLoaders, written⟩ :=
    (Log.values_of_mapM each).1 item.datafile (mem_datafilesOf.2 ⟨item, inLoaded, named, rfl⟩)
  exact ⟨function, written,
    (List.infix_of_mem_flatten inLoaders).trans (List.prefix_append _ _).isInfix⟩

/-- The functions that load data empty the arrays of all variables from data files, and the one
of the wind barbs. -/
theorem mem_loadersLines {name : String} : resetLine name ∈ lines ↔
    (∃ item ∈ loaded, item.datafile ≠ "" ∧ item.name = name) ∨
      (windBarbs = true ∧ name = "WindBarbData") := by
  obtain ⟨loaders, barbs, same, each, inBarbs⟩ := exists_loaders written
  constructor
  · intro member
    rw [same, List.mem_append, inBarbs, List.mem_flatten] at member
    refine member.imp_left fun ⟨function, inLoaders, member⟩ => ?_
    obtain ⟨datafile, listed, written⟩ := (Log.values_of_mapM each).2 function inLoaders
    obtain ⟨item, inLoaded, file, named⟩ := (mem_loaderLines written).1 member
    obtain ⟨_, _, notEmpty, rfl⟩ := mem_datafilesOf.1 listed
    exact ⟨item, inLoaded, file ▸ notEmpty, named⟩
  · rintro (⟨item, inLoaded, notEmpty, named⟩ | drawn)
    · obtain ⟨function, written, inside⟩ := exists_loader written inLoaded notEmpty
      exact inside.subset ((mem_loaderLines written).2 ⟨item, inLoaded, rfl, named⟩)
    · rw [same]
      exact List.mem_append_right _ ((inBarbs name).2 drawn)

/-- The functions fill the arrays that they empty. -/
theorem infix_loadersLines {item : Variable} (inLoaded : item ∈ loaded)
    (named : item.datafile ≠ "") : fillLines item <:+: lines := by
  obtain ⟨function, written, inside⟩ := exists_loader written inLoaded named
  exact (infix_loaderLines written inLoaded rfl).trans inside

end

end

/-! ## The variables of charts that were read -/

/-- The keys at the start of a text. -/
def startOf (n : Nat) (text : String) : List Char :=
  (keysOf text.toList).take n

/-- A name starts as its stem does. -/
theorem startOf_append {n : Nat} {stem : String} (long : n ≤ stem.toList.length) (rest : String) :
    startOf n (stem ++ rest) = startOf n stem := by
  rw [← List.length_map (f := caselessKey), ← keysOf] at long
  rw [startOf, String.toList_append, keysOf_append, List.take_append_of_le_length long, startOf]

/-- No array that every page declares starts like the name, in any letter case. -/
def StartsApart (n : Nat) (name : String) : Prop :=
  ∀ array ∈ standardArrays, startOf n name ≠ startOf n array

instance (n : Nat) (name : String) : Decidable (StartsApart n name) :=
  inferInstanceAs (Decidable (∀ array ∈ standardArrays, startOf n name ≠ startOf n array))

theorem StartsApart.append {n : Nat} {stem : String} (apart : StartsApart n stem)
    (long : n ≤ stem.toList.length) (rest : String) : StartsApart n (stem ++ rest) := by
  intro array standard
  rw [startOf_append long]
  exact apart array standard

/-- The variable comes from a data file, and no array that every page declares has its name,
in any letter case. -/
structure IsProper (item : Variable) : Prop where
  datafile : item.datafile ≠ ""
  apart : ∀ array ∈ standardArrays, sameWord item.name array = false

theorem isProper_of_start {item : Variable} {n : Nat} (datafile : item.datafile ≠ "")
    (apart : StartsApart n item.name) : IsProper item := by
  refine ⟨datafile, fun array standard => ?_⟩
  have identifiers : standardArrays.all (fun array => isIdentifier array.toList) = true := by decide
  have ascii := isIdentifier_ascii (List.all_eq_true.1 identifiers array standard)
  rw [← Bool.not_eq_true]
  intro same
  refine apart array standard ?_
  rw [startOf, startOf, keysOf_eq_of_sameWord ascii same]

/-- No extra sensor starts like an array that every page declares. -/
theorem startsApart_of_extra (units : Units) :
    ∀ entry ∈ Keyword.extraOf units [], StartsApart 2 entry.name := by
  have numbered : ∀ stem : String, StartsApart 2 stem → 2 ≤ stem.toList.length →
      ∀ count axis unit, ∀ entry ∈ Keyword.numbered stem count axis unit,
        StartsApart 2 entry.name := by
    intro stem apart long count axis unit entry member
    obtain ⟨i, _, rfl⟩ := List.mem_map.1 member
    exact apart.append long _
  have soilMoisture : ∀ entry ∈ Keyword.soilMoistureOf units.soilMoisture,
      StartsApart 2 entry.name := by
    intro entry member
    obtain ⟨_, _, rfl⟩ := List.mem_map.1 member
    have apart : StartsApart 2 "SoilMoisture" := by decide
    exact apart.append (by decide) _
  simp only [Keyword.extraOf, List.forall_mem_append, and_assoc]
  refine ⟨numbered "Temp" (by decide) (by decide) _ _ _,
    numbered "Humidity" (by decide) (by decide) _ _ _,
    numbered "Dewpoint" (by decide) (by decide) _ _ _,
    numbered "SoilTemp" (by decide) (by decide) _ _ _,
    soilMoisture,
    numbered "AirQuality" (by decide) (by decide) _ _ _,
    numbered "AirQualityAvg" (by decide) (by decide) _ _ _,
    numbered "UserTemp" (by decide) (by decide) _ _ _,
    numbered "LeafTemp" (by decide) (by decide) _ _ _,
    numbered "LeafWetness" (by decide) (by decide) _ _ _, ?_, ?_⟩
  · simp only [List.forall_mem_cons, Keyword.sensor]
    decide
  · exact fun entry member => absurd member List.not_mem_nil

/-- The check of the variable of a keyword. -/
def isProperKeyword (name datafile : String) : Bool :=
  datafile != "" && decide (StartsApart 5 name)

theorem isProper_of_check {entry : Keyword}
    (checked : isProperKeyword entry.name entry.datafile = true) : IsProper (ofKeyword entry) := by
  rw [isProperKeyword, Bool.and_eq_true, decide_eq_true_eq] at checked
  exact isProper_of_start (bne_iff_ne.1 checked.1) checked.2

/-- No keyword is named like an array that every page declares. -/
theorem isProper_ofKeyword {units : Units} {range : DataRange} {entry : Keyword}
    (isEntry : IsEntry (.build units []) range entry) : IsProper (ofKeyword entry) := by
  have recent : ((Keyword.recentOf units).map fun entry =>
      isProperKeyword entry.name entry.datafile).all id = true := by
    change ((Keyword.recentOf plainUnits).map fun entry =>
      isProperKeyword entry.name entry.datafile).all id = true
    decide
  have daily : ((Keyword.dailyOf units).map fun entry =>
      isProperKeyword entry.name entry.datafile).all id = true := by
    change ((Keyword.dailyOf plainUnits).map fun entry =>
      isProperKeyword entry.name entry.datafile).all id = true
    decide
  rw [List.all_map, List.all_eq_true] at recent daily
  obtain ⟨table, found, member⟩ := isEntry
  cases range with
  | recent =>
    cases found
    exact isProper_of_check (recent entry member)
  | extra =>
    cases found
    have sameFile : (ofKeyword entry).datafile = Keyword.extraDatafile :=
      Data.datafile_of_extra entry member
    exact isProper_of_start (sameFile ▸ by decide) (startsApart_of_extra units entry member)
  | daily | all =>
    cases found
    exact isProper_of_check (daily entry member)
  | unlisted number => cases found

section

variable {settings : Settings} {units : Units} {text : String} {outputs : List Output}
  (parsed : (parse ⟨settings, .build units []⟩ text).outcome = .ok (some outputs))
  {output : Output} (inOutputs : output ∈ outputs)

include parsed inOutputs

theorem isProper_of_needed {item : Variable}
    (needed : IsNeeded (.build units []) output.charts item) : IsProper item := by
  rcases keyword_of_needed parsed inOutputs needed with
    ⟨range, entry, isEntry, rfl⟩ | ⟨columns, common, front, listed, rfl⟩
  · exact isProper_ofKeyword isEntry
  · have apart : ∀ front ∈ ["min", "max"], StartsApart 2 front ∧ 2 ≤ front.toList.length := by
      decide
    exact isProper_of_start (ne_of_knownFiles (datafile_of_common columns common).1)
      ((apart front listed).1.append (apart front listed).2 _)

end

/-! ## Declared and its own -/

/-- The array is declared, and no function that loads data empties it, exactly if no variable
has the name in any letter case and the wind barbs do not have it. -/
theorem declared_and_own_iff {loaded : List Variable} (proper : ∀ item ∈ loaded, IsProper item)
    {charts : List Chart} {options : Options} {windBarbs : Bool} {loaders : List String}
    (written : loadersLines options loaded windBarbs = .ok loaders) {series : Series}
    (member : series ∈ allSeries charts) (computed : series.equation.isSome = true) :
    (declarationLine series.keyword ∈ declarationLines loaded (equationArrays loaded charts) ∧
        resetLine series.keyword ∉ loaders) ↔
      findVariable? loaded series.keyword = none ∧
        ¬(windBarbs = true ∧ series.keyword = "WindBarbData") := by
  rw [mem_declarationLines, mem_equationArrays, mem_loadersLines written, not_or]
  constructor
  · rintro ⟨declared, notLoaded, notBarbs⟩
    refine ⟨?_, notBarbs⟩
    rcases declared with standard | ⟨item, inLoaded, named⟩ | ⟨fresh, _⟩
    · rw [findVariable?, List.find?_eq_none]
      intro item inLoaded same
      exact Bool.false_ne_true (((proper item inLoaded).apart _ standard).symm.trans same)
    · exact absurd ⟨item, inLoaded, (proper item inLoaded).datafile, named⟩ notLoaded
    · exact fresh
  · rintro ⟨fresh, notBarbs⟩
    refine ⟨.inr (.inr ⟨fresh, series, member, computed, rfl⟩), ?_, notBarbs⟩
    rintro ⟨item, inLoaded, _, named⟩
    rw [findVariable?, List.find?_eq_none] at fresh
    exact fresh item inLoaded (named ▸ sameWord_refl _)

/-! ## The script of a page -/

/-- The code of an equation ends with the lines that fill the array of its name. -/
theorem arrayLines_of_computed {tables : Tables} {loaded : List Variable} {chart : Chart}
    {series : Series} {added : Added}
    (emitted : (computed tables loaded chart series).outcome = .ok (some added))
    (isEquation : series.equation.isSome = true) (noColumns : series.graphType ≠ "columnrange") :
    ∃ sum first expression, added.lines = sum ++ arrayLines series.keyword first expression := by
  obtain ⟨equation, found⟩ := Option.isSome_iff_exists.1 isEquation
  rw [computed, if_neg noColumns, found] at emitted
  obtain ⟨lines?, scripted, emitted⟩ := Report.outcome_bind_eq_ok_iff.1 emitted
  cases lines? with
  | none =>
    obtain ⟨_, _, impossible⟩ := Report.outcome_bind_eq_ok_iff.1 emitted
    cases impossible
  | some lines =>
    cases emitted
    generalize (equationVariables tables loaded series).map Variable.name = names at scripted
    cases names with
    | nil => cases scripted
    | cons first names =>
      rw [Equation.scriptLines] at scripted
      dsimp only at scripted
      split at scripted
      · cases scripted
      · next code _ =>
        obtain rfl := Option.some.inj (Except.ok.inj scripted)
        exact ⟨_, first, String.ofList code.expression, rfl⟩

/-- Each part of a script is in it. -/
theorem infix_scriptLines {parts : List (List String)} {part : List String} (member : part ∈ parts) :
    part <:+: scriptLines parts :=
  calc
    part <:+: part ++ [""] := List.infix_append [] part [""]
    _ <:+: parts.flatMap (· ++ [""]) := infix_flatMap member fun part => part ++ [""]
    _ <:+: scriptLines parts := List.infix_append _ _ _

/-- What the lines of a page have of its script: they declare the arrays; the functions that load
data empty and fill the arrays of all variables from data files; and they have the code of each
series. -/
structure HasScript (generator : Generator) (loaded : List Variable) (charts : List Chart)
    (lines loaders : List String) : Prop where
  declares : declarationLines loaded (equationArrays loaded charts) <:+: lines
  loads : loadersLines generator.options loaded (charts.any Chart.hasWindBarbs) = .ok loaders
  loadersInside : loaders <:+: lines
  fills : ∀ item ∈ loaded, item.datafile ≠ "" →
    resetLine item.name ∈ loaders ∧ fillLines item <:+: loaders
  computes : ∀ chart ∈ charts, ∀ series ∈ chart.series, ∀ added,
    (computed generator.site.tables loaded chart series).outcome = .ok (some added) →
      added.lines <:+: lines

section

variable {generator : Generator} {loaded : List Variable} {charts : List Chart} {number page : String}

/-- The code of a series is in the function that adds it. -/
theorem infix_addingLines {site : Site} {chart : Chart} {adding : Added}
    (written : (addingLines site loaded chart).outcome = .ok adding) {series : Series}
    (member : series ∈ chart.series) {added : Added}
    (emitted : (computed site.tables loaded chart series).outcome = .ok (some added)) :
    added.lines <:+: adding.lines := by
  obtain ⟨parts, each, written⟩ := Report.outcome_bind_eq_ok_iff.1 written
  obtain ⟨barbs, _, same⟩ := Report.outcome_bind_eq_ok_iff.1 written
  obtain rfl := Except.ok.inj same
  rw [Report.outcome_mapM] at each
  obtain ⟨part, inParts, here⟩ := (Log.values_of_mapM each).1 series member
  obtain ⟨found, emitted', here⟩ := Report.outcome_bind_eq_ok_iff.1 here
  obtain rfl := Except.ok.inj (emitted'.symm.trans emitted)
  obtain ⟨lines, _, same⟩ := Report.outcome_bind_eq_ok_iff.1 here
  obtain rfl := Except.ok.inj same
  have inside : added.lines <:+: parts.flatMap Added.lines :=
    (List.infix_append [] added.lines lines).trans (infix_flatMap inParts Added.lines)
  exact inside.trans ((List.infix_append _ _ barbs).trans (List.prefix_append _ _).isInfix)

theorem declares_of_startPart {first : Chart} {start : List String}
    (written : startPart generator loaded first charts number = .ok start) :
    declarationLines loaded (equationArrays loaded charts) <:+: start := by
  have behind : ∀ {windBarbs factor}, (do
      let location ← generator.options.dataLocation.shown
      return declarationLines loaded (equationArrays loaded charts) ++
        startLines first.id generator.panels (datafilesOf loaded) windBarbs number ++ factor ++
        stationLines location) = Except.ok start →
      declarationLines loaded (equationArrays loaded charts) <:+: start := by
    intro windBarbs factor written
    obtain ⟨location, _, same⟩ := bind_eq_ok.1 written
    obtain rfl := Except.ok.inj same
    rw [List.append_assoc, List.append_assoc]
    exact (List.prefix_append _ _).isInfix
  rw [startPart] at written
  split at written
  · obtain ⟨_, _, written⟩ := bind_eq_ok.1 written
    obtain ⟨_, _, written⟩ := bind_eq_ok.1 written
    exact behind written
  · obtain ⟨_, _, written⟩ := bind_eq_ok.1 written
    exact behind written

/-- The text of a page has its script. -/
theorem hasScript_of_pageOfVariables {first : Chart} {filename : String}
    (written : (pageOfVariables generator loaded first charts filename number).outcome = .ok page) :
    ∃ lines loaders, page = textOfLines lines ∧ HasScript generator loaded charts lines loaders := by
  obtain ⟨start, started, written⟩ := Report.outcome_bind_eq_ok_iff.1 written
  obtain ⟨loaders, loads, written⟩ := Report.outcome_bind_eq_ok_iff.1 written
  obtain ⟨parts, each, written⟩ := Report.outcome_bind_eq_ok_iff.1 written
  obtain ⟨height, _, written⟩ := Report.outcome_bind_eq_ok_iff.1 written
  obtain ⟨infos, _, written⟩ := Report.outcome_bind_eq_ok_iff.1 written
  obtain rfl := Except.ok.inj written
  rw [Report.outcome_mapM] at each
  have inScript : ∀ {script front : List String}, script <:+: front ++ script ++ infos :=
    List.infix_append _ _ _
  refine ⟨_, loaders, rfl, ?_, loads, ?_, ?_, ?_⟩
  · refine (List.IsInfix.trans ?_ (infix_scriptLines
      (List.mem_cons_of_mem _ List.mem_cons_self))).trans inScript
    exact (declares_of_startPart started).trans (List.prefix_append start _).isInfix
  · exact (infix_scriptLines
      (List.mem_cons_of_mem _ (List.mem_cons_of_mem _ List.mem_cons_self))).trans inScript
  · intro item inLoaded named
    exact ⟨(mem_loadersLines loads).2 (.inl ⟨item, inLoaded, named, rfl⟩),
      infix_loadersLines loads inLoaded named⟩
  · intro chart inCharts series member added emitted
    obtain ⟨part, inParts, here⟩ := (Log.values_of_mapM each).1 chart inCharts
    obtain ⟨drawing, _, here⟩ := Report.outcome_bind_eq_ok_iff.1 here
    obtain ⟨adding, written, same⟩ := Report.outcome_bind_eq_ok_iff.1 here
    obtain rfl := Except.ok.inj same
    have inPart := (infix_addingLines written member emitted).trans
      (infix_flatMap inParts fun part => part.2.lines)
    refine (inPart.trans (infix_scriptLines ?_)).trans inScript
    exact List.mem_cons_of_mem _ (List.mem_cons_of_mem _ (List.mem_cons_of_mem _ List.mem_cons_self))

/-- A page that is generated has the script of its variables. -/
theorem hasScript_of_generate {filename : String} {id : Int}
    (generated : (generate generator charts filename id).outcome = .ok (some page)) :
    ∃ loaded lines loaders,
      (variablesOf generator.site.tables charts).outcome = .ok (some loaded) ∧
      page = textOfLines lines ∧ HasScript generator loaded charts lines loaders := by
  cases charts with
  | nil => cases generated
  | cons first rest =>
    rw [generate] at generated
    obtain ⟨found, resolved, written⟩ := Report.outcome_bind_eq_ok_iff.1 generated
    cases found with
    | none =>
      obtain ⟨_, _, impossible⟩ := Report.outcome_bind_eq_ok_iff.1 written
      cases impossible
    | some loaded =>
      obtain ⟨text, paged, same⟩ := Report.outcome_bind_eq_ok_iff.1 written
      obtain rfl := Option.some.inj (Except.ok.inj same)
      obtain ⟨lines, loaders, split, script⟩ := hasScript_of_pageOfVariables paged
      exact ⟨loaded, lines, loaders, resolved, split, script⟩

end

/-! ## The arrays of equations -/

/-- Without sensors that only the configuration knows of, the page of each output that was read
has the code of each equation that it can compute, and this code fills the array of the name of
the equation. The array is declared in this spelling, and no function of the page that loads
data empties it, exactly if no variable that the page loads has the name, in any letter case,
and the wind barbs of the page do not have it. -/
theorem result_arrays_are_declared_and_own (settings : Settings) (units : Units)
    {external : List String} (noSensors : Keyword.externalOf external = []) {text : String}
    {outputs : List Output}
    (parsed : (parse ⟨settings, .build units external⟩ text).outcome = .ok (some outputs))
    {output : Output} (inOutputs : output ∈ outputs) {generator : Generator}
    (site : generator.site = ⟨settings, .build units external⟩) {filename page : String} {id : Int}
    (generated : (generate generator output.charts filename id).outcome = .ok (some page)) :
    ∃ loaded lines loaders,
      (variablesOf (.build units external) output.charts).outcome = .ok (some loaded) ∧
      page = textOfLines lines ∧ HasScript generator loaded output.charts lines loaders ∧
      ∀ chart ∈ output.charts, ∀ series ∈ chart.series, series.equation.isSome = true → ∀ added,
        (computed (.build units external) loaded chart series).outcome = .ok (some added) →
        added.lines <:+: lines ∧
        (∃ sum first expression,
          added.lines = sum ++ arrayLines series.keyword first expression) ∧
        ((declarationLine series.keyword ∈
              declarationLines loaded (equationArrays loaded output.charts) ∧
            resetLine series.keyword ∉ loaders) ↔
          findVariable? loaded series.keyword = none ∧
            ¬(output.charts.any Chart.hasWindBarbs = true ∧ series.keyword = "WindBarbData")) := by
  have sameTables : Tables.build units external = .build units [] := by
    rw [Tables.build, Tables.build, extraOf_eq_append, noSensors, List.append_nil]
  rw [sameTables] at parsed site ⊢
  obtain ⟨loaded, lines, loaders, resolved, split, script⟩ := hasScript_of_generate generated
  have tables : generator.site.tables = .build units [] := by rw [site]
  rw [tables] at resolved
  refine ⟨loaded, lines, loaders, resolved, split, script, ?_⟩
  intro chart inOutput series member isEquation added emitted
  have noColumns : series.graphType ≠ "columnrange" := by
    intro drawn
    rw [(entry_of_columns parsed inOutputs inOutput member drawn).1] at isEquation
    cases isEquation
  have proper : ∀ item ∈ loaded, IsProper item := by
    rw [variablesOf, outcome_addAllNeeded] at resolved
    have grown := (isGrown_plottedVariables (.build units []) output.charts).foldlM
      (List.Subset.refl _) (Except.ok.inj resolved)
    exact fun item inLoaded => isProper_of_needed parsed inOutputs (grown.each item inLoaded)
  refine ⟨script.computes chart inOutput series member added (tables ▸ emitted),
    arrayLines_of_computed emitted isEquation noColumns, ?_⟩
  exact declared_and_own_iff proper script.loads (List.mem_flatMap.2 ⟨chart, inOutput, member⟩)
    isEquation

/-- A generator of pages with the plain settings. -/
def plainGenerator : Generator where
  site := ⟨plainSettings, .build plainUnits []⟩
  options := {
    dataLocation := .text ""
    ownLocation := .text ""
    loadsCharts := false
    loadsQueries := false
    boost := true
    connectNulls := false
    height := some 650 }
  panels := noPanels
  dayOfYear := 172

/-- A chart of the temperature and of the value of an extra sensor under another name. -/
def renamedText (name : String) : String :=
  "Chart A Title T Plot Temperature Plot Extra " ++ name ++ " Eval [ Temp1 ] EndChart"

/-- The series of the other name. -/
def renamedSeries (name : String) : Series where
  keyword := name
  axes := Axis.free.set
  axisId := "Free"
  equation := some "Temp1"
  range := .extra

/-- The chart that the text is read as. -/
def renamedChart (name : String) : Chart where
  id := "A"
  title := "T"
  axes := .unionAll [Axis.temp.set, Axis.free.set]
  range := .extra
  series := [{
    keyword := "Temperature"
    field := "temp"
    datafile := "tempdata.json"
    axes := Axis.temp.set
    axisId := "Temp"
    unit := "°C" }, renamedSeries name]

/-- The variables of the chart. -/
def renamedVariables : List Variable :=
  [⟨"Temperature", "temp", "tempdata.json"⟩, ⟨"Temp1", "Temp1", "extrasensorsdata.json"⟩]

/-- The text with this name is read, and its page has code that fills the array of the name. -/
structure IsGenerated (name : String) (lines loaders : List String) : Prop where
  parsed : (parse ⟨plainSettings, .build plainUnits []⟩ (renamedText name)).outcome =
    .ok (some [{ filename := "cumuluscharts.txt", charts := [renamedChart name] }])
  resolved : (variablesOf (.build plainUnits []) [renamedChart name]).outcome =
    .ok (some renamedVariables)
  generated : (generate plainGenerator [renamedChart name] "cumuluscharts.txt" 0).outcome =
    .ok (some (textOfLines lines))
  script : HasScript plainGenerator renamedVariables [renamedChart name] lines loaders
  fills : ∃ sum first expression, sum ++ arrayLines name first expression <:+: lines

theorem eq_ok_of_bind {α : Type} {outcome : Except Fault (Option α)} {a : α}
    (found : outcome.toOption.bind id = some a) : outcome = .ok (some a) := by
  cases outcome with
  | error fault => cases found
  | ok value => exact congrArg Except.ok found

theorem exists_ok_of_isSome {α : Type} {outcome : Except Fault (Option α)}
    (found : (outcome.toOption.bind id).isSome = true) : ∃ a, outcome = .ok (some a) := by
  obtain ⟨a, found⟩ := Option.isSome_iff_exists.1 found
  exact ⟨a, eq_ok_of_bind found⟩

theorem exists_isGenerated (name : String)
    (parsed : (parse ⟨plainSettings, .build plainUnits []⟩ (renamedText name)).outcome =
      .ok (some [{ filename := "cumuluscharts.txt", charts := [renamedChart name] }]))
    (resolved : (variablesOf (.build plainUnits []) [renamedChart name]).outcome =
      .ok (some renamedVariables))
    (written : ((generate plainGenerator [renamedChart name] "cumuluscharts.txt"
      0).outcome.toOption.bind id).isSome = true) : ∃ lines loaders, IsGenerated name lines loaders := by
  obtain ⟨page, generated⟩ := exists_ok_of_isSome written
  obtain ⟨loaded, lines, loaders, resolved', rfl, script⟩ := hasScript_of_generate generated
  obtain rfl : renamedVariables = loaded :=
    Option.some.inj (Except.ok.inj (resolved.symm.trans resolved'))
  have emitted : ∃ added, (computed (.build plainUnits []) renamedVariables (renamedChart name)
      (renamedSeries name)).outcome = .ok (some added) := ⟨_, rfl⟩
  obtain ⟨added, emitted⟩ := emitted
  have inside := script.computes _ List.mem_cons_self _
    (List.mem_cons_of_mem _ List.mem_cons_self) added emitted
  have noColumns : (renamedSeries name).graphType ≠ "columnrange" := by
    change "spline" ≠ "columnrange"
    decide
  obtain ⟨sum, first, expression, fills⟩ := arrayLines_of_computed emitted rfl noColumns
  exact ⟨lines, loaders, parsed, resolved, generated, script, sum, first, expression, fills ▸ inside⟩

/-- An equation whose name is free fills a declared array that no data are loaded into. -/
theorem warmth_is_declared_and_own :
    ∃ lines loaders, IsGenerated "Warmth" lines loaders ∧
      declarationLine "Warmth" ∈
        declarationLines renamedVariables (equationArrays renamedVariables [renamedChart "Warmth"]) ∧
      resetLine "Warmth" ∉ loaders := by
  obtain ⟨lines, loaders, isGenerated⟩ := exists_isGenerated "Warmth"
    (by decide +kernel) (by decide +kernel) (by decide +kernel)
  have noSensors : Keyword.externalOf [] = [] := rfl
  have site : plainGenerator.site = ⟨plainSettings, .build plainUnits []⟩ := rfl
  obtain ⟨loaded, _, loaders', resolved, _, script, each⟩ :=
    result_arrays_are_declared_and_own plainSettings plainUnits noSensors isGenerated.parsed
      List.mem_cons_self site isGenerated.generated
  obtain rfl : renamedVariables = loaded :=
    Option.some.inj (Except.ok.inj (isGenerated.resolved.symm.trans resolved))
  obtain rfl : loaders = loaders' :=
    Except.ok.inj (isGenerated.script.loads.symm.trans script.loads)
  obtain ⟨_, _, declared⟩ := each (renamedChart "Warmth") List.mem_cons_self (renamedSeries "Warmth")
    (List.mem_cons_of_mem _ List.mem_cons_self) rfl _ rfl
  exact ⟨lines, loaders, isGenerated, declared.2 ⟨by decide, by decide⟩⟩

/-- Nothing forbids an equation over the extra sensors to have the name of a variable of the
last days. In another spelling its code fills an array that the page does not declare, and in
the same spelling one that data are loaded into. -/
theorem equations_share_names_with_variables :
    (∃ lines loaders, IsGenerated "temperature" lines loaders ∧
      declarationLine "temperature" ∉ declarationLines renamedVariables
        (equationArrays renamedVariables [renamedChart "temperature"])) ∧
    ∃ lines loaders, IsGenerated "Temperature" lines loaders ∧
      resetLine "Temperature" ∈ loaders := by
  constructor
  · obtain ⟨lines, loaders, isGenerated⟩ := exists_isGenerated "temperature"
      (by decide +kernel) (by decide +kernel) (by decide +kernel)
    exact ⟨lines, loaders, isGenerated, by decide⟩
  · obtain ⟨lines, loaders, isGenerated⟩ := exists_isGenerated "Temperature"
      (by decide +kernel) (by decide +kernel) (by decide +kernel)
    refine ⟨lines, loaders, isGenerated, (mem_loadersLines isGenerated.script.loads).2 (.inl ?_)⟩
    exact ⟨_, List.mem_cons_self, by decide, rfl⟩

end Meteogram.Page
