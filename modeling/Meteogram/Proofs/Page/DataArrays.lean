import Meteogram.Proofs.Page.FunctionCalls

/-!
# The arrays that data are loaded into

The code that adds series reads arrays that other parts of the script declare and fill: the
array of a keyword, those of the two bounds of a range of columns, and those of the variables of
an equation. For charts that were read on a station without sensors of its own, each such array is
declared by one line, it is emptied and filled by one function, and this function is defined
once and called once at the start of the page (`data_arrays_are_loaded_once`).

Two things make this work. The names are identifiers, so the lines about one array can be told from
those about another one, also if one name starts with the other one: the first point of such a line
is right behind the name. And the names of the keywords of all ranges are different in any
letter case, so nothing is found under the name of something else.
-/

set_option autoImplicit false

namespace Meteogram.Page

open Text Definition Equation
open Station (Settings Units)

/-! ## Lines that concern an array -/

/-- The line that fills the array of a variable. -/
def pushLine (item : Variable) : String :=
  "        " ++ item.name ++ ".push([resp." ++ item.field ++ "[i][0], resp." ++ item.field ++
    "[i][1] ]);"

/-- What the lines that fill arrays start with. -/
def indent : List Char := List.replicate 8 ' '

/-- The end of a line that empties an array. -/
def resetEnd : List Char := ['0', ';']

/-- The line empties the array before data are loaded, or puts something into it. -/
def concerns (name line : String) : Bool :=
  line == resetLine name || hasStart ("        " ++ name ++ ".push(").toList line

/-- Texts in front of their first points. -/
theorem eq_of_prefix_point {first second before after : List Char} (left : '.' ∉ first)
    (right : '.' ∉ second) (starts : first ++ '.' :: before <+: second ++ '.' :: after) :
    first = second ∧ before <+: after := by
  induction first generalizing second with
  | nil =>
    cases second with
    | nil => exact ⟨rfl, (List.cons_prefix_cons.1 starts).2⟩
    | cons c cs =>
      obtain ⟨same, _⟩ := List.cons_prefix_cons.1 starts
      exact absurd (same ▸ List.mem_cons_self) right
  | cons c cs ih =>
    cases second with
    | nil =>
      obtain ⟨same, _⟩ := List.cons_prefix_cons.1 starts
      exact absurd (same ▸ List.mem_cons_self) left
    | cons d ds =>
      obtain ⟨rfl, behind⟩ := List.cons_prefix_cons.1 starts
      obtain ⟨rfl, rest⟩ := ih (fun member => left (List.mem_cons_of_mem _ member))
        (fun member => right (List.mem_cons_of_mem _ member)) behind
      exact ⟨rfl, rest⟩

/-- A line that starts and ends otherwise concerns no array. -/
theorem concerns_eq_false {name line : String} (starts : hasStart indent line = false)
    (ends : hasEnd resetEnd line = false) : concerns name line = false := by
  rw [← Bool.not_eq_true, concerns, Bool.or_eq_true, beq_iff_eq]
  rintro (rfl | fills)
  · have resets : hasEnd resetEnd (resetLine name) = true := hasEnd_append (by decide) _
    exact Bool.false_ne_true (ends.symm.trans resets)
  · rw [← Bool.not_eq_true, hasStart, List.isPrefixOf_iff_prefix] at starts
    rw [hasStart, List.isPrefixOf_iff_prefix, String.toList_append, String.toList_append,
      List.append_assoc] at fills
    exact starts ((List.prefix_append indent _).trans fills)

section

variable {name : String} (noPoint : '.' ∉ name.toList)

include noPoint

theorem noPoint_indented (front : List Char) (plain : '.' ∉ front) : '.' ∉ front ++ name.toList :=
  fun member => (List.mem_append.1 member).elim plain noPoint

theorem concerns_resetLine {other : String} (noPoint' : '.' ∉ other.toList) :
    concerns name (resetLine other) = (other == name) := by
  have noPush : hasStart ("        " ++ name ++ ".push(").toList (resetLine other) = false := by
    have push : ".push(".toList = '.' :: "push(".toList := by
      decide
    have length : ".length = 0;".toList = '.' :: "length = 0;".toList := by
      decide
    rw [← Bool.not_eq_true, hasStart, List.isPrefixOf_iff_prefix]
    intro starts
    rw [resetLine, String.toList_append, String.toList_append, String.toList_append,
      String.toList_append, push, length] at starts
    have rest := (eq_of_prefix_point (noPoint_indented noPoint _ (by decide))
      (noPoint_indented noPoint' _ (by decide)) starts).2
    exact absurd (List.isPrefixOf_iff_prefix.2 rest) (by decide)
  rw [concerns, noPush, Bool.or_false, Bool.eq_iff_iff, beq_iff_eq, beq_iff_eq]
  exact ⟨resetLine_injective, congrArg resetLine⟩

theorem concerns_pushLine {item : Variable} (noPoint' : '.' ∉ item.name.toList) :
    concerns name (pushLine item) = (item.name == name) := by
  have noReset : (pushLine item == resetLine name) = false := by
    rw [beq_eq_false_iff_ne]
    intro same
    have resets : hasEnd resetEnd (resetLine name) = true := hasEnd_append (by decide) _
    rw [← same] at resets
    exact Bool.false_ne_true ((hasEnd_append_of_apart (by decide) _).symm.trans resets)
  have push : ".push(".toList = '.' :: "push(".toList := by
    decide
  have push' : ".push([resp.".toList = '.' :: "push([resp.".toList := by
    decide
  rw [concerns, noReset, Bool.false_or, Bool.eq_iff_iff, beq_iff_eq, hasStart,
    List.isPrefixOf_iff_prefix, pushLine]
  simp only [String.toList_append, List.append_assoc]
  rw [List.prefix_append_right_inj]
  constructor
  · intro starts
    rw [push, push'] at starts
    exact (String.toList_inj.1 (eq_of_prefix_point noPoint noPoint' starts).1).symm
  · rintro rfl
    have front : ".push(".toList <+: ".push([resp.".toList :=
      List.isPrefixOf_iff_prefix.1 (by decide)
    exact (List.prefix_append_right_inj _).2 (front.trans (List.prefix_append _ _))

end

/-! ## Functions that fill an array -/

/-- Lines with a fixed start and a fixed end of another kind. -/
theorem concerns_append_of_apart {name front back : String}
    (starts : startsApart indent front = true) (ends : endsApart resetEnd back = true)
    (middle : String) : concerns name (front ++ middle ++ back) = false := by
  refine concerns_eq_false ?_ (hasEnd_append_of_apart ends _)
  rw [String.append_assoc]
  exact hasStart_append_of_apart starts _

theorem concerns_ofList {name : String} {cs : List Char}
    (starts : indent.isPrefixOf cs = false)
    (ends : resetEnd.reverse.isPrefixOf cs.reverse = false) :
    concerns name (String.ofList cs) = false :=
  concerns_eq_false (hasStart_ofList starts) (hasEnd_ofList ends)

theorem filter_fillLines {name : String} (plain : '.' ∉ name.toList) {own : List Variable}
    (noPoint : ∀ item ∈ own, '.' ∉ item.name.toList) :
    (own.flatMap fillLines).filter (concerns name) =
      (own.filter fun item => item.name == name).map pushLine := by
  induction own with
  | nil => rfl
  | cons item rest ih =>
    obtain ⟨noPoint', others⟩ := List.forall_mem_cons.1 noPoint
    have loops : concerns name
        ("      for (var i = 0; i < resp." ++ item.field ++ ".length; i++)") = false :=
      concerns_append_of_apart (startsApart_ofList rfl) (endsApart_ofList rfl) item.field
    have fills := concerns_pushLine plain noPoint'
    have here : (fillLines item).filter (concerns name) =
        if item.name == name then [pushLine item] else [] := by
      rw [← fills]
      exact (List.filter_cons_of_neg (Bool.not_eq_true _ ▸ loops)).trans List.filter_cons
    rw [List.flatMap_cons, List.filter_append, here, ih others, List.filter_cons]
    split <;> rfl

/-- The function of a data file empties and fills the arrays of the variables from this file. -/
theorem filter_loaderLines {options : Options} {loaded : List Variable} {datafile : String}
    {lines : List String} (written : loaderLines options loaded datafile = .ok lines)
    (noPoint : ∀ item ∈ loaded, '.' ∉ item.name.toList) {name : String}
    (plain : '.' ∉ name.toList) :
    lines.filter (concerns name) =
      (loaded.filter fun item => item.name == name && item.datafile == datafile).map
        (fun item => resetLine item.name) ++
      (loaded.filter fun item => item.name == name && item.datafile == datafile).map pushLine := by
  obtain ⟨location, _, same⟩ := bind_eq_ok.1 written
  obtain rfl := Except.ok.inj same
  rw [← List.filter_filter]
  have noPoint' : ∀ item ∈ loaded.filter (fun item => item.datafile == datafile),
      '.' ∉ item.name.toList :=
    fun item member => noPoint item (List.mem_of_mem_filter member)
  generalize loaded.filter (fun item => item.datafile == datafile) = own at noPoint'
  have empties : (own.map fun item => resetLine item.name).filter (concerns name) =
      (own.filter fun item => item.name == name).map fun item => resetLine item.name := by
    rw [List.filter_map]
    refine congrArg _ (List.filter_congr fun item member => ?_)
    exact concerns_resetLine plain (noPoint' item member)
  have opens : Lacks (concerns name) ["function " ++ loaderName datafile ++ "()\x7b"] :=
    lacks_cons.2
      ⟨concerns_append_of_apart (startsApart_ofList rfl) (endsApart_ofList rfl) _, lacks_nil⟩
  refine (filter_append_of_lacks_back ?_).trans ?_
  · exact lacks_cons.2 ⟨concerns_ofList rfl rfl, lacks_cons.2 ⟨concerns_ofList rfl rfl, lacks_nil⟩⟩
  rw [List.filter_append, filter_fillLines plain noPoint']
  refine congrArg (· ++ _) ?_
  refine (filter_append_of_lacks_back ?_).trans ((filter_append_of_lacks_front opens).trans empties)
  simp (disch := first | exact startsApart_ofList rfl | exact endsApart_ofList rfl) only
    [lacks_cons, lacks_nil, concerns_append_of_apart, true_and, and_true]
  and_intros <;> exact concerns_ofList rfl rfl

/-- One element of a list without repetitions gives all that the list gives. -/
theorem flatMap_of_nodup {α β : Type} {list : List α} (nodup : list.Nodup) {a : α}
    (member : a ∈ list) {f : α → List β} (others : ∀ b ∈ list, b ≠ a → f b = []) :
    list.flatMap f = f a := by
  induction list with
  | nil => cases member
  | cons b rest ih =>
    obtain ⟨fresh, nodup⟩ := List.nodup_cons.1 nodup
    rw [List.flatMap_cons]
    rcases List.mem_cons.1 member with rfl | later
    · rw [List.flatMap_eq_nil_iff.2, List.append_nil]
      intro c behind
      exact others c (List.mem_cons_of_mem _ behind) fun same => fresh (same ▸ behind)
    · rw [others b List.mem_cons_self fun same => fresh (same ▸ later), List.nil_append]
      exact ih nodup later fun c behind => others c (List.mem_cons_of_mem _ behind)

/-- Only one variable has its name. -/
theorem filter_name {loaded : List Variable} (distinct : (loaded.map Variable.name).Nodup)
    {item : Variable} (inLoaded : item ∈ loaded) :
    loaded.filter (fun other => other.name == item.name) = [item] := by
  obtain ⟨before, after, rfl⟩ := List.append_of_mem inLoaded
  rw [List.map_append, List.map_cons, List.nodup_middle, List.nodup_cons, List.mem_append,
    not_or] at distinct
  obtain ⟨⟨notBefore, notAfter⟩, _⟩ := distinct
  have none : ∀ {items : List Variable}, item.name ∉ items.map Variable.name →
      items.filter (fun other => other.name == item.name) = [] := by
    intro items fresh
    rw [List.filter_eq_nil_iff]
    intro other member same
    exact fresh (beq_iff_eq.1 same ▸ List.mem_map_of_mem member)
  rw [List.filter_append, none notBefore, List.filter_cons, if_pos (beq_self_eq_true item.name),
    none notAfter, List.nil_append]

theorem nodup_datafilesOf (loaded : List Variable) : (datafilesOf loaded).Nodup := by
  have step : ∀ (items : List Variable) (sofar : List String), sofar.Nodup →
      (items.foldl (fun sofar item =>
        if item.datafile = "" || sofar.contains item.datafile then sofar
        else sofar ++ [item.datafile]) sofar).Nodup := by
    intro items
    induction items with
    | nil => exact fun _ nodup => nodup
    | cons item items ih =>
      intro sofar nodup
      rw [List.foldl_cons]
      refine ih _ ?_
      split
      · exact nodup
      · next new =>
        rw [Bool.or_eq_true, not_or, List.contains_iff_mem] at new
        exact List.nodup_append.2 ⟨nodup, List.nodup_singleton _, fun a inSofar b inNew same =>
          new.2 (List.mem_singleton.1 inNew ▸ same ▸ inSofar)⟩
  exact step loaded [] List.nodup_nil

theorem lacks_windBarbLoaderLines {name location : String} (other : name ≠ "WindBarbData")
    (noPoint : '.' ∉ name.toList) : Lacks (concerns name) (windBarbLoaderLines location) := by
  have empties : concerns name "  WindBarbData.length = 0;" = false := by
    have line : resetLine "WindBarbData" = "  WindBarbData.length = 0;" := by
      decide
    rw [← line, concerns_resetLine noPoint (by decide), beq_eq_false_iff_ne]
    exact other.symm
  unfold windBarbLoaderLines
  generalize "    WindBarbData.push([ resp1[0].wspeed[ i ][ 0 ], resp1[0].wspeed[ i ][ 1 ], resp2[0].avgbearing[ i ][ 1 ] ]); " = fills
  simp (disch := first | exact startsApart_ofList rfl | exact endsApart_ofList rfl) only
    [lacks_cons, lacks_nil, concerns_append_of_apart, empties, true_and, and_true]
  have converts : concerns name ("    function( resp1, resp2 ) \x7b " ++
      "  for ( var i = 0; i < resp1[0].wspeed.length; i++ ) " ++ fills ++
      "  convertToMs( WindBarbData );" ++ "\x7d,") = false := by
    refine concerns_eq_false ?_ (hasEnd_append_of_apart (endsApart_ofList rfl) _)
    rw [String.append_assoc, String.append_assoc, String.append_assoc]
    exact hasStart_append_of_apart (startsApart_ofList rfl) _
  rw [converts]
  and_intros <;> first | rfl | exact concerns_ofList rfl rfl

section

variable {options : Options} {loaded : List Variable}
  (distinct : (loaded.map Variable.name).Nodup) (noPoint : ∀ item ∈ loaded, '.' ∉ item.name.toList)
  {item : Variable} (inLoaded : item ∈ loaded)

include distinct noPoint inLoaded

/-- The function of the data file of a variable empties and fills its array, and those of other
data files do neither. -/
theorem filter_loaderLines_of_mem {datafile : String} {lines : List String}
    (written : loaderLines options loaded datafile = .ok lines) :
    lines.filter (concerns item.name) =
      if item.datafile = datafile then [resetLine item.name, pushLine item] else [] := by
  have own : (loaded.filter fun other => other.name == item.name && other.datafile == datafile) =
      if item.datafile = datafile then [item] else [] := by
    rw [List.filter_congr fun other _ => Bool.and_comm _ _, ← List.filter_filter,
      filter_name distinct inLoaded, List.filter_cons]
    simp only [beq_iff_eq, List.filter_nil]
  rw [filter_loaderLines written noPoint (noPoint item inLoaded), own]
  split <;> rfl

/-- Among all functions that load data only one empties and fills the array of a variable. -/
theorem filter_loadersLines {windBarbs : Bool} {lines : List String}
    (written : loadersLines options loaded windBarbs = .ok lines) (named : item.datafile ≠ "")
    (other : item.name ≠ "WindBarbData") :
    lines.filter (concerns item.name) = [resetLine item.name, pushLine item] := by
  obtain ⟨loaders, each, written⟩ := bind_eq_ok.1 written
  have files : loaders.flatten.filter (concerns item.name) =
      [resetLine item.name, pushLine item] := by
    rw [← List.flatMap_id']
    refine (filter_flatMap_of_mapM (fun _ _ => filter_loaderLines_of_mem distinct noPoint inLoaded)
      each).trans ?_
    have listed := mem_datafilesOf.2 ⟨item, inLoaded, named, rfl⟩
    -- Each data file has one function, and those of other files lack the array.
    rw [flatMap_of_nodup (nodup_datafilesOf loaded) listed fun file _ different =>
      if_neg fun same => different same.symm]
    exact if_pos rfl
  cases windBarbs with
  | true =>
    obtain ⟨location, _, same⟩ := bind_eq_ok.1 written
    obtain rfl := Except.ok.inj same
    rw [filter_append_of_lacks_back (lacks_windBarbLoaderLines other (noPoint item inLoaded)),
      files]
  | false =>
    obtain rfl := Except.ok.inj written
    exact (filter_append_of_lacks_back lacks_nil).trans files

end

/-! ## What is loaded for charts that were read -/

/-- The functions of two data files have different names, and none is named like the functions
that load something else. -/
theorem loaderName_knownFiles : ∀ file ∈ knownFiles,
    loaderName file ≠ "GraphconfigAjax" ∧ loaderName file ≠ "WindBarbsAjax" ∧
      ∀ other ∈ knownFiles, loaderName file = loaderName other → file = other := by
  decide

/-- No field that bounds can be named after has a point in its name. -/
theorem noPoint_fields : ∀ item ∈ commonVariables, '.' ∉ item.field.toList := by
  decide

/-- The variable comes from a known data file, and its name has no point. -/
structure IsLoadable (item : Variable) : Prop where
  datafile : item.datafile ∈ knownFiles
  noPoint : '.' ∉ item.name.toList

section

variable {settings : Settings} {units : Units} {text : String} {outputs : List Output}
  (parsed : (parse ⟨settings, .build units []⟩ text).outcome = .ok (some outputs))
  {output : Output} (inOutputs : output ∈ outputs)

include parsed inOutputs

theorem isLoadable_of_needed {item : Variable}
    (needed : IsNeeded (.build units []) output.charts item) : IsLoadable item := by
  rcases keyword_of_needed parsed inOutputs needed with
    ⟨range, entry, isEntry, rfl⟩ | ⟨columns, common, front, listed, rfl⟩
  · exact ⟨datafile_of_isEntry isEntry, noPoint_of_isEntry isEntry⟩
  · have plain : ∀ front ∈ ["min", "max"], '.' ∉ front.toList := by
      decide
    refine ⟨(datafile_of_common columns common).1, fun point => ?_⟩
    rw [String.toList_append, List.mem_append, fieldStem, String.toList_ofList] at point
    exact point.elim (plain front listed) fun inStem =>
      noPoint_fields columns common (List.mem_of_mem_drop inStem)

/-- What is plotted from a data file is loaded, as it is plotted. -/
theorem mem_of_plottedVariable? {loaded : List Variable}
    (resolved : (variablesOf (.build units []) output.charts).outcome = .ok (some loaded))
    {series : Series} (member : series ∈ allSeries output.charts) {item : Variable}
    (plotted : plottedVariable? series = some item) : item ∈ loaded := by
  obtain ⟨first, found⟩ := exists_firstPlotted? member plotted
  obtain ⟨same, other, member', plotted'⟩ := plotted_of_firstPlotted? found
  obtain ⟨_, _, isEntry, rfl⟩ := entry_of_plottedVariable? parsed inOutputs member plotted
  obtain ⟨_, _, isEntry', rfl⟩ := entry_of_plottedVariable? parsed inOutputs member' plotted'
  rw [← ofKeyword_eq_of_sameWord isEntry' isEntry same]
  exact List.mem_of_find?_eq_some (findVariable?_of_firstPlotted? resolved found)

end

/-! ## Arrays that are read -/

/-- The code of a series reads loaded data from the array of this name. -/
inductive ReadsArray (tables : Tables) (loaded : List Variable) (series : Series) : String → Prop
  /-- A series from a data file is drawn from the array of its keyword, or its range of columns is
  computed from it. -/
  | keyword : series.equation = none → series.isStatistic = false →
    ReadsArray tables loaded series series.keyword
  /-- A range of columns is computed from the arrays of both bounds, which are named after the field
  without its first three letters. -/
  | bound {front : String} : series.equation = none → series.graphType = "columnrange" →
    front ∈ ["min", "max"] →
    ReadsArray tables loaded series (front ++ String.ofList (series.field.toList.drop 3))
  /-- An equation is computed from the arrays of its variables. -/
  | used {item : Variable} : item ∈ equationVariables tables loaded series →
    ReadsArray tables loaded series item.name

theorem mem_of_equationVariables {tables : Tables} {loaded : List Variable} {series : Series}
    {item : Variable} (uses : item ∈ equationVariables tables loaded series) : item ∈ loaded := by
  rw [equationVariables] at uses
  split at uses
  · obtain ⟨keyword, _, found⟩ := List.mem_filterMap.1 uses
    exact List.mem_of_find?_eq_some found
  · cases uses

/-- Where a page looks for the data file. This program's own files are in one place, and those of
the station are in another one. -/
def locationFor (options : Options) (datafile : String) : Ini.Value :=
  if ∃ start ∈ ["CUserdata", "extrasensors", "customlogs"], start.toList <+: datafile.toList then
    options.ownLocation
  else options.dataLocation

/-- The line has the address of a file that is loaded. -/
def isAddress (line : String) : Bool :=
  hasStart "    url: '".toList line && hasEnd "',".toList line

/-- The function loads the data file of the variable and no other file. It empties the array of the
variable, and then fills it with the points of the field. -/
structure LoadsData (options : Options) (item : Variable) (function : List String) : Prop where
  address : ∃ location, locationFor options item.datafile = .text location ∧
    function.filter isAddress = ["    url: '" ++ location ++ item.datafile ++ "',"]
  fills : ∃ before between behind, function = before ++ ["  " ++ item.name ++ ".length = 0;"] ++
    between ++ ["      for (var i = 0; i < resp." ++ item.field ++ ".length; i++)",
      "        " ++ item.name ++ ".push([resp." ++ item.field ++ "[i][0], resp." ++ item.field ++
        "[i][1] ]);"] ++ behind

/-- The page declares the array of the variable once and loads it once. -/
structure IsLoadedOnce (generator : Generator) (charts : List Chart) (contents : Contents)
    (number : String) (lines : List String) (item : Variable) : Prop where
  /-- The start of the script declares the arrays and then calls what loads them. -/
  started : declarationLines contents.loaded (equationArrays contents.loaded charts) ++
    startLines contents.first.id generator.panels (datafilesOf contents.loaded)
      (charts.any Chart.hasWindBarbs) number <+: contents.start
  declared : (declarationLines contents.loaded (equationArrays contents.loaded charts)).count
    ("var " ++ item.name ++ " = [];") = 1
  /-- The function of the data file empties the array and fills it with the field. -/
  loader : ∃ function,
    loaderLines generator.options contents.loaded item.datafile = .ok function ∧
    function.head? = some ("function " ++ loaderName item.datafile ++ "()\x7b") ∧
    function <:+: contents.loaders ∧ LoadsData generator.options item function ∧
    function.filter (concerns item.name) = [resetLine item.name, pushLine item]
  /-- No other function that loads data empties the array or puts something into it. -/
  alone : contents.loaders.filter (concerns item.name) = [resetLine item.name, pushLine item]
  defined : lines.count ("function " ++ loaderName item.datafile ++ "()\x7b") = 1
  called : (startLines contents.first.id generator.panels (datafilesOf contents.loaded)
    (charts.any Chart.hasWindBarbs) number).count (", " ++ loaderName item.datafile ++ "()") = 1

/-- A data file is loaded from its place. -/
theorem datafileLocation_eq_ok {options : Options} {datafile address : String}
    (located : datafileLocation options datafile = .ok address) :
    ∃ location, locationFor options datafile = .text location ∧ address = location ++ datafile := by
  obtain ⟨location, isText, same⟩ := bind_eq_ok.1 located
  refine ⟨location, ?_, (Except.ok.inj same).symm⟩
  have own : (ownStarts.any (startsWith datafile) = true) =
      ∃ start ∈ ["CUserdata", "extrasensors", "customlogs"],
        start.toList <+: datafile.toList := by
    simp only [List.any_eq_true, startsWith_iff]
    rfl
  simp only [own] at isText
  rw [locationFor]
  split at isText
  · next isOwn => rw [if_pos isOwn]; exact Ini.Value.toText_eq_ok_iff.1 isText
  · next isOwn => rw [if_neg isOwn]; exact Ini.Value.toText_eq_ok_iff.1 isText

/-- A line that ends otherwise has no address. -/
theorem isAddress_append {back : String} (ends : endsApart "',".toList back = true)
    (front : String) : isAddress (front ++ back) = false := by
  rw [isAddress, hasEnd_append_of_apart ends, Bool.and_false]

theorem isAddress_ofList {cs : List Char} (ends : "',".toList.reverse.isPrefixOf cs.reverse = false) :
    isAddress (String.ofList cs) = false := by
  rw [isAddress, hasEnd_ofList ends, Bool.and_false]

/-- The function of a data file loads it for each of its variables. -/
theorem loadsData_of_mem {options : Options} {loaded : List Variable} {item : Variable}
    (inLoaded : item ∈ loaded) {function : List String}
    (written : loaderLines options loaded item.datafile = .ok function) :
    LoadsData options item function := by
  obtain ⟨address, located, same⟩ := bind_eq_ok.1 written
  obtain ⟨location, place, rfl⟩ := datafileLocation_eq_ok located
  obtain rfl := Except.ok.inj same
  have own : item ∈ loaded.filter fun other => other.datafile == item.datafile :=
    List.mem_filter.2 ⟨inLoaded, beq_self_eq_true _⟩
  generalize loaded.filter (fun other => other.datafile == item.datafile) = items at own
  refine ⟨⟨location, place, ?_⟩, ?_⟩
  · have opens : Lacks isAddress ["function " ++ loaderName item.datafile ++ "()\x7b"] :=
      lacks_cons.2 ⟨isAddress_append (endsApart_ofList rfl) _, lacks_nil⟩
    have resets : Lacks isAddress (items.map fun item => "  " ++ item.name ++ ".length = 0;") :=
      List.forall_mem_map.2 fun other _ => isAddress_append (endsApart_ofList rfl) _
    have fills : Lacks isAddress (items.flatMap fillLines) :=
      lacks_flatMap.2 fun other _ => lacks_cons.2 ⟨isAddress_append (endsApart_ofList rfl) _,
        lacks_cons.2 ⟨isAddress_append (endsApart_ofList rfl) _, lacks_nil⟩⟩
    have closes : Lacks isAddress ["    \x7d)", "  \x7d"] :=
      lacks_cons.2 ⟨isAddress_ofList rfl, lacks_cons.2 ⟨isAddress_ofList rfl, lacks_nil⟩⟩
    have passes : isAddress ("    url: '" ++ location ++ item.datafile ++ "',") = true := by
      have starts : hasStart "    url: '".toList
          ("    url: '" ++ location ++ item.datafile ++ "',") = true :=
        hasStart_append (hasStart_append (hasStart_append (hasStart_ofList rfl) _) _) _
      rw [isAddress, starts, hasEnd_append (hasEnd_ofList rfl), Bool.and_true]
    rw [filter_append_of_lacks_back closes, filter_append_of_lacks_back fills,
      filter_append_of_lacks_front (lacks_append.2 ⟨opens, resets⟩), ← String.append_assoc]
    refine (List.filter_cons_of_neg (Bool.not_eq_true _ ▸ isAddress_ofList rfl)).trans ?_
    refine filter_cons_of_lacks passes ?_
    refine lacks_cons.2 ⟨isAddress_ofList rfl, lacks_cons.2 ⟨isAddress_ofList rfl, ?_⟩⟩
    refine lacks_cons.2 ⟨isAddress_append (endsApart_ofList rfl) _, ?_⟩
    exact lacks_cons.2 ⟨isAddress_ofList rfl, lacks_nil⟩
  · obtain ⟨first, last, rfl⟩ := List.append_of_mem own
    have regroup : ∀ (a b c d e f g h : List String) (line : String),
        a ++ (b ++ line :: c) ++ d ++ (e ++ (f ++ g)) ++ h =
          a ++ b ++ [line] ++ (c ++ d ++ e) ++ f ++ (g ++ h) := by
      simp
    rw [List.map_append, List.map_cons, List.flatMap_append, List.flatMap_cons]
    exact ⟨_, _, _, regroup _ _ _ _ _ _ _ _ _⟩

/-- An element that is there once is there once among the values of an injective function. -/
theorem count_map_eq_one {f : String → String} (injective : ∀ a b, f a = f b → a = b)
    {list : List String} {a : String} (once : list.count a = 1) : (list.map f).count (f a) = 1 :=
  (List.count_map_of_injective list f injective a).trans once

/-- The line that opens the function of this name that loads something. -/
def loadingHead (name : String) : String :=
  "function " ++ name ++ "()\x7b"

/-- The end of the line that opens a function that loads data. -/
def loaderEnd : List Char := ['(', ')', '\x7b']

section

variable {generator : Generator} {charts : List Chart} {number : String} {contents : Contents}

/-- The functions that a page opens like those that load data files. -/
theorem filter_opened (made : IsMade generator charts number contents) (filename : String) :
    (opened (contents.lines generator.options charts filename number)).filter (hasEnd loaderEnd) =
      ("GraphconfigAjax" :: (datafilesOf contents.loaded).map loaderName).map loadingHead := by
  obtain ⟨factors, _, heads⟩ := opened_lines made filename
  have ends : ∀ name, hasEnd loaderEnd (loadingHead name) = true :=
    fun name => hasEnd_append (hasEnd_ofList rfl) _
  have config : configHead = loadingHead "GraphconfigAjax" := by
    decide
  have atStart : Lacks (hasEnd loaderEnd) ([menuHead number, startHead generator.panels number] ++
      factors.map windFactorLine) := by
    refine lacks_append.2 ⟨?_, List.forall_mem_map.2 fun factor _ => ?_⟩
    · exact lacks_cons.2 ⟨hasEnd_append_of_apart (endsApart_ofList rfl) _,
        lacks_cons.2 ⟨hasEnd_append_of_apart (endsApart_ofList rfl) _, lacks_nil⟩⟩
    · exact hasEnd_append_of_apart (endsApart_ofList rfl) _
  have sum : Lacks (hasEnd loaderEnd) (if contents.callsSum then [sumHead] else []) := by
    split
    · exact lacks_cons.2 ⟨hasEnd_ofList rfl, lacks_nil⟩
    · exact lacks_nil
  have barbs :
      Lacks (hasEnd loaderEnd) (if charts.any Chart.hasWindBarbs then [barbsHead] else []) := by
    split
    · exact lacks_cons.2 ⟨hasEnd_ofList rfl, lacks_nil⟩
    · exact lacks_nil
  have adding : Lacks (hasEnd loaderEnd) (charts.map addingHead) :=
    List.forall_mem_map.2 fun chart _ => hasEnd_append_of_apart (endsApart_ofList rfl) _
  have drawing : Lacks (hasEnd loaderEnd) (charts.map drawingHead) :=
    List.forall_mem_map.2 fun chart _ => hasEnd_append_of_apart (endsApart_ofList rfl) _
  have loaders : ((datafilesOf contents.loaded).map loaderHead).filter (hasEnd loaderEnd) =
      (datafilesOf contents.loaded).map loaderHead :=
    List.filter_eq_self.2 (List.forall_mem_map.2 fun file _ => ends (loaderName file))
  rw [heads, filter_append_of_lacks_back drawing, filter_append_of_lacks_back adding,
    filter_append_of_lacks_back barbs, List.filter_append, filter_append_of_lacks_back sum,
    filter_append_of_lacks_front atStart, loaders, config,
    filter_cons_of_lacks (ends "GraphconfigAjax") lacks_nil, List.map_cons, List.map_map]
  rfl

variable {item : Variable} (inLoaded : item ∈ contents.loaded)

include inLoaded

theorem count_declarationLine (proper : IsProper item)
    (distinct : (contents.loaded.map Variable.name).Nodup) :
    (declarationLines contents.loaded (equationArrays contents.loaded charts)).count
      (declarationLine item.name) = 1 := by
  have notStandard : item.name ∉ standardArrays := fun standard =>
    Bool.false_ne_true ((proper.apart _ standard).symm.trans (sameWord_refl _))
  have notComputed : item.name ∉ equationArrays contents.loaded charts := by
    intro computed
    have fresh := (mem_equationArrays.1 computed).1
    rw [findVariable?, List.find?_eq_none] at fresh
    exact fresh item inLoaded (sameWord_refl _)
  have notEmpty : declarationLine item.name ∉ [""] := by
    rw [List.mem_singleton]
    intro empty
    have opens : hasStart ['v'] (declarationLine item.name) = true :=
      hasStart_append (hasStart_append (hasStart_ofList rfl) _) _
    rw [empty] at opens
    cases opens
  rw [declarationLines, List.count_append, List.count_eq_zero.2 notEmpty]
  refine count_map_eq_one (fun _ _ => declarationLine_injective) ?_
  rw [List.count_append, List.count_append, List.count_eq_zero.2 notComputed,
    List.count_eq_one_of_mem distinct (List.mem_map_of_mem inLoaded)]
  exact congrArg (· + 1 + 0) (List.count_eq_zero.2 notStandard)

variable (known : ∀ other ∈ contents.loaded, other.datafile ∈ knownFiles)

include known

/-- Among the functions that load data files only one has the name of this file's. -/
theorem count_loaderName :
    ((datafilesOf contents.loaded).map loaderName).count (loaderName item.datafile) = 1 := by
  have files : ∀ file ∈ datafilesOf contents.loaded, file ∈ knownFiles := by
    intro file listed
    obtain ⟨other, inLoaded, _, rfl⟩ := mem_datafilesOf.1 listed
    exact known other inLoaded
  have listed := mem_datafilesOf.2 ⟨item, inLoaded, ne_of_knownFiles (known item inLoaded), rfl⟩
  have nodup : ((datafilesOf contents.loaded).map loaderName).Nodup := by
    refine (List.nodup_map_iff_inj_on (nodup_datafilesOf contents.loaded)).2 ?_
    intro file listed other listed' same
    exact (loaderName_knownFiles file (files file listed)).2.2 other (files other listed') same
  exact List.count_eq_one_of_mem nodup (List.mem_map_of_mem listed)

theorem count_loaderHead (made : IsMade generator charts number contents) (filename : String) :
    (contents.lines generator.options charts filename number).count (loaderHead item.datafile) =
      1 := by
  have opens : opensFunction (loaderHead item.datafile) = true :=
    opensFunction_append (hasStart_append (hasStart_ofList rfl) _) (endsApart_ofList rfl)
  have ends : hasEnd loaderEnd (loaderHead item.datafile) = true :=
    hasEnd_append (hasEnd_ofList rfl) _
  have apart := (loaderName_knownFiles item.datafile (known item inLoaded)).1
  rw [← List.count_filter opens, ← opened, ← List.count_filter ends, filter_opened made filename]
  refine count_map_eq_one (fun _ _ => eq_of_around) ?_
  rw [List.count_cons_of_ne apart.symm, count_loaderName inLoaded known]

theorem count_loadingCall (first : String) (panels : List String) (windBarbs : Bool)
    (number : String) :
    (startLines first panels (datafilesOf contents.loaded) windBarbs number).count
      (loadingCall (loaderName item.datafile)) = 1 := by
  have ends := hasEnd_loadingCall (loaderName item.datafile)
  have apart := (loaderName_knownFiles item.datafile (known item inLoaded)).2.1
  have noBarbs : loadingCall (loaderName item.datafile) ∉
      if windBarbs then [loadingCall "WindBarbsAjax"] else [] := by
    split
    · rw [List.mem_singleton]
      exact fun same => apart (eq_of_around same)
    · exact List.not_mem_nil
  have files : (datafilesOf contents.loaded).map (fun file => loadingCall (loaderName file)) =
      ((datafilesOf contents.loaded).map loaderName).map loadingCall := by
    rw [List.map_map]
    rfl
  rw [← List.count_filter ends, filter_startLines,
    List.count_cons_of_ne (loadingStart_ne_loadingCall _ _), List.count_append,
    List.count_eq_zero.2 noBarbs, files]
  exact count_map_eq_one (fun _ _ => eq_of_around) (count_loaderName inLoaded known)

end

/-- Each variable that is loaded is loaded once. -/
theorem isLoadedOnce_of_mem {generator : Generator} {charts : List Chart} {number : String}
    {contents : Contents} (made : IsMade generator charts number contents) (filename : String)
    (distinct : (contents.loaded.map Variable.name).Nodup)
    (proper : ∀ item ∈ contents.loaded, IsProper item)
    (loadable : ∀ item ∈ contents.loaded, IsLoadable item) {item : Variable}
    (inLoaded : item ∈ contents.loaded) :
    IsLoadedOnce generator charts contents number
      (contents.lines generator.options charts filename number) item := by
  have known : ∀ other ∈ contents.loaded, other.datafile ∈ knownFiles :=
    fun other inLoaded => (loadable other inLoaded).datafile
  have noPoint : ∀ other ∈ contents.loaded, '.' ∉ other.name.toList :=
    fun other inLoaded => (loadable other inLoaded).noPoint
  have named := (proper item inLoaded).datafile
  have noBarbs : item.name ≠ "WindBarbData" := by
    intro same
    have apart := (proper item inLoaded).apart "WindBarbData" List.mem_cons_self
    rw [same, sameWord_refl] at apart
    cases apart
  obtain ⟨function, written, inside⟩ := exists_loader made.loaders inLoaded named
  obtain ⟨factors, _, _, start⟩ := exists_startPart made.start
  refine {
    started := by
      rw [start, List.append_assoc]
      exact List.prefix_append _ _
    declared := count_declarationLine inLoaded (proper item inLoaded) distinct
    loader := ?_
    alone := filter_loadersLines distinct noPoint inLoaded made.loaders named noBarbs
    defined := count_loaderHead inLoaded known made filename
    called := count_loadingCall inLoaded known _ _ _ _ }
  have filtered := filter_loaderLines_of_mem distinct noPoint inLoaded written
  rw [if_pos rfl] at filtered
  have opens : function.head? = some (loaderHead item.datafile) := by
    obtain ⟨_, _, same⟩ := bind_eq_ok.1 written
    obtain rfl := Except.ok.inj same
    rfl
  exact ⟨function, written, opens, inside, loadsData_of_mem inLoaded written, filtered⟩

/-- On a station without sensors that only the configuration knows of, whatever the charts are:
each array that the code of a series reads loaded data from has a variable of exactly its name,
and the page declares and loads the array of this variable once. -/
theorem data_arrays_are_loaded_once (settings : Settings) (units : Units) {external : List String}
    (noSensors : Keyword.externalOf external = []) {text : String} {outputs : List Output}
    (parsed : (parse ⟨settings, .build units external⟩ text).outcome = .ok (some outputs))
    {output : Output} (inOutputs : output ∈ outputs) {generator : Generator}
    (site : generator.site = ⟨settings, .build units external⟩) {filename page : String} {id : Int}
    (generated : (generate generator output.charts filename id).outcome = .ok (some page)) :
    ∃ contents, IsMade generator output.charts (toString id) contents ∧
      page = textOfLines (contents.lines generator.options output.charts filename (toString id)) ∧
      ∀ series ∈ allSeries output.charts, ∀ name,
        ReadsArray (.build units external) contents.loaded series name →
        ∃ item ∈ contents.loaded, item.name = name ∧
          IsLoadedOnce generator output.charts contents (toString id)
            (contents.lines generator.options output.charts filename (toString id)) item := by
  have sameTables : Tables.build units external = .build units [] := by
    rw [Tables.build, Tables.build, extraOf_eq_append, noSensors, List.append_nil]
  rw [sameTables] at parsed site ⊢
  obtain ⟨contents, made, written⟩ := exists_contents_of_generate generated
  have resolved := made.loaded
  rw [site] at resolved
  have grown := isGrown_of_variablesOf resolved
  have once := fun item (inLoaded : item ∈ contents.loaded) =>
    isLoadedOnce_of_mem made filename grown.distinct
      (fun item inLoaded => isProper_of_needed parsed inOutputs (grown.each item inLoaded))
      (fun item inLoaded => isLoadable_of_needed parsed inOutputs (grown.each item inLoaded))
      inLoaded
  refine ⟨contents, made, written, fun series member name reads => ?_⟩
  suffices found : ∃ item ∈ contents.loaded, item.name = name by
    obtain ⟨item, inLoaded, same⟩ := found
    exact ⟨item, inLoaded, same, once item inLoaded⟩
  cases reads with
  | keyword noEquation plain =>
    have plotted := plottedVariable?_of_plain parsed inOutputs member noEquation plain
    exact ⟨_, mem_of_plottedVariable? parsed inOutputs resolved member plotted, rfl⟩
  | bound noEquation columns listed =>
    have isBound := List.mem_map_of_mem (f := fun bound =>
      (⟨bound ++ fieldStem series.field, bound ++ fieldStem series.field, series.datafile⟩ :
        Variable)) listed
    exact hasName_of_foldlM (foldlM_of_variablesOf resolved) member noEquation columns isBound
  | used uses => exact ⟨_, mem_of_equationVariables uses, rfl⟩

/-- A chart of a range of columns and of an equation over one of its bounds. -/
def spanText : String :=
  "Chart A Title T Plot Daily MinTemp As ColumnRange
    Plot Daily Span Eval [ MaxTemp - MinTemp ] EndChart"

/-- The range of columns. -/
def columnsSeries : Series where
  keyword := "MinTemp"
  field := "minTemp"
  datafile := "alldailytempdata.json"
  graphType := "columnrange"
  axes := Axis.temp.set
  axisId := "Temp"
  unit := "°C"
  range := .daily

/-- The equation. -/
def spanSeries : Series where
  keyword := "Span"
  axes := Axis.free.set
  axisId := "Free"
  equation := some "MaxTemp-MinTemp"
  range := .daily

/-- The chart that the text is read as. -/
def spanChart : Chart where
  id := "A"
  title := "T"
  axes := .unionAll [Axis.temp.set, Axis.free.set]
  range := .daily
  series := [columnsSeries, spanSeries]

/-- The variables of the chart. -/
def spanVariables : List Variable :=
  [⟨"MinTemp", "minTemp", "alldailytempdata.json"⟩, ⟨"minTemp", "minTemp", "alldailytempdata.json"⟩,
    ⟨"maxTemp", "maxTemp", "alldailytempdata.json"⟩]

/-- The array of the keyword and those of both bounds are loaded once each. The equation reads the
array of a bound, whose name is that of a keyword in another letter case. -/
theorem span_arrays_are_loaded_once : ∃ contents,
    IsMade plainGenerator [spanChart] "0" contents ∧
    ReadsArray (.build plainUnits []) contents.loaded spanSeries "maxTemp" ∧
    ∀ name ∈ ["MinTemp", "minTemp", "maxTemp"], ∃ item ∈ contents.loaded, item.name = name ∧
      IsLoadedOnce plainGenerator [spanChart] contents "0"
        (contents.lines plainGenerator.options [spanChart] "cumuluscharts.txt" "0") item := by
  have parsed : (parse ⟨plainSettings, .build plainUnits []⟩ spanText).outcome =
      .ok (some [{ filename := "cumuluscharts.txt", charts := [spanChart] }]) := by
    decide +kernel
  have noSensors : Keyword.externalOf [] = [] := rfl
  have site : plainGenerator.site = ⟨plainSettings, .build plainUnits []⟩ := rfl
  have number : toString (0 : Int) = "0" := rfl
  have loaded : (variablesOf (.build plainUnits []) [spanChart]).outcome =
      .ok (some spanVariables) := by
    decide
  have written : ((generate plainGenerator [spanChart] "cumuluscharts.txt"
      0).outcome.toOption.bind id).isSome = true := by
    decide
  obtain ⟨page, generated⟩ := exists_ok_of_isSome written
  obtain ⟨contents, made, _, once⟩ := data_arrays_are_loaded_once plainSettings plainUnits noSensors
    parsed List.mem_cons_self site generated
  rw [number] at made once
  have columns : columnsSeries ∈ allSeries [spanChart] := List.mem_cons_self
  have span : spanSeries ∈ allSeries [spanChart] := List.mem_cons_of_mem _ List.mem_cons_self
  have bound : ReadsArray (.build plainUnits []) contents.loaded columnsSeries "minTemp" := by
    have name : "min" ++ String.ofList (columnsSeries.field.toList.drop 3) = "minTemp" := by
      decide
    exact name ▸ .bound rfl rfl (by decide)
  have used : ReadsArray (.build plainUnits []) contents.loaded spanSeries "maxTemp" := by
    rw [Option.some.inj (Except.ok.inj (made.loaded.symm.trans loaded))]
    have uses : ⟨"maxTemp", "maxTemp", "alldailytempdata.json"⟩ ∈
        equationVariables (.build plainUnits []) spanVariables spanSeries := by
      decide
    exact .used uses
  refine ⟨contents, made, used, ?_⟩
  simp only [List.forall_mem_cons]
  exact ⟨once _ columns _ (.keyword rfl rfl), once _ columns _ bound, once _ span _ used,
    List.forall_mem_nil _⟩

end Meteogram.Page
