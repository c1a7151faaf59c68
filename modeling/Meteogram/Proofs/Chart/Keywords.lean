import Meteogram.Chart.Keyword
import Meteogram.Proofs.Equation.PageText
import Meteogram.Proofs.Text.Decimals

/-!
# The keywords of a station can be told apart

The text of an equation is searched for keywords in any letter case. That finds the
right ones in a table whose keywords are identifiers with different keys, none of
them a word that a page uses itself, and none ending as the call of a running total
begins (`Searchable`). The tables of recent and of daily values are of this kind. The
table of extra sensors is, if the sensors that only the configuration knows of have
names that keep away from all others (`ProperSensors`).
-/

set_option autoImplicit false

namespace Meteogram

open Text Equation

/-- The words that the script of a page has a use for. -/
def reservedWords : List String :=
  ["i", "Math", "sumResult"] ++ Function.all.map Function.name

/-- The names that the configuration gives to further sensors are ASCII identifiers
that differ from each other, from all other extra sensors and from the reserved
words in any letter case, and do not end in `sum`. -/
structure ProperSensors (units : Station.Units) (external : List String) : Prop where
  identifiers : ∀ sensor ∈ Keyword.externalOf external, isIdentifier sensor.name.toList = true
  distinct : ((Keyword.externalOf external).map Keyword.name).Pairwise
    fun first second => sameWord first second = false
  apart : ∀ sensor ∈ Keyword.externalOf external, ∀ other ∈ Keyword.extraOf units [],
    sameWord other.name sensor.name = false
  free : ∀ sensor ∈ Keyword.externalOf external, ∀ word ∈ reservedWords,
    sameWord word sensor.name = false
  noSum : ∀ sensor ∈ Keyword.externalOf external, ¬ EndsInSum sensor.name.toList

/-- A name that can be searched for in an equation. -/
structure IsSearchable (name : String) : Prop where
  findable : IsFindable name
  free : ∀ word ∈ reservedWords, keysOf name.toList ≠ keysOf word.toList

/-- Names that can be searched for and told apart. -/
structure Searchable (names : List String) : Prop where
  each : ∀ name ∈ names, IsSearchable name
  different : ∀ first ∈ names, ∀ second ∈ names,
    keysOf first.toList = keysOf second.toList → first = second

theorem IsSearchable.isVariableName {name : String} (searchable : IsSearchable name) :
    IsVariableName name.toList where
  identifier := isIdentifier_keysOf searchable.findable.identifier
  noIndex := searchable.free "i" (by decide)
  noModule := searchable.free "Math" (by decide)
  noFunction function := searchable.free function.name (by cases function <;> decide)

/-! ## Names that are given -/

/-- The check of a name on its own. -/
def isSearchableName (name : String) : Bool :=
  isIdentifier name.toList && !"sum".toList.isSuffixOf name.toList &&
    reservedWords.all fun word => keysOf name.toList != keysOf word.toList

theorem isSearchable_of_check {name : String} (checked : isSearchableName name = true) :
    IsSearchable name := by
  rw [isSearchableName, Bool.and_eq_true, Bool.and_eq_true, Bool.not_eq_true'] at checked
  obtain ⟨⟨identifier, noSum⟩, free⟩ := checked
  refine ⟨⟨identifier, fun ends => ?_⟩, fun word member => ?_⟩
  · rw [← Bool.not_eq_true, List.isSuffixOf_iff_suffix] at noSum
    exact noSum ends
  · exact bne_iff_ne.1 (List.all_eq_true.1 free word member)

/-- The check of names that are written out. -/
def areSearchable (names : List String) : Bool :=
  names.all isSearchableName && decide (names.map fun name => keysOf name.toList).Nodup

theorem searchable_of_check {names : List String} (checked : areSearchable names = true) :
    Searchable names := by
  rw [areSearchable, Bool.and_eq_true, decide_eq_true_eq] at checked
  obtain ⟨each, different⟩ := checked
  refine ⟨fun name member => isSearchable_of_check (List.all_eq_true.1 each name member), ?_⟩
  exact fun first member second member' same =>
    List.inj_on_of_nodup_map different member member' same

/-- Names of two sources can be told apart if those of each can, and no two of
different sources have the same keys. -/
theorem Searchable.append {first second : List String} (left : Searchable first)
    (right : Searchable second)
    (apart : ∀ name ∈ first, ∀ other ∈ second, keysOf name.toList ≠ keysOf other.toList) :
    Searchable (first ++ second) where
  each := List.forall_mem_append.2 ⟨left.each, right.each⟩
  different := by
    intro name member other member' same
    rcases List.mem_append.1 member with inFirst | inSecond
    · rcases List.mem_append.1 member' with inFirst' | inSecond'
      · exact left.different name inFirst other inFirst' same
      · exact absurd same (apart name inFirst other inSecond')
    · rcases List.mem_append.1 member' with inFirst' | inSecond'
      · exact absurd same.symm (apart other inFirst' name inSecond)
      · exact right.different name inSecond other inSecond' same

theorem searchable_recent (units : Station.Units) :
    Searchable ((Keyword.recentOf units).map Keyword.name) := by
  refine searchable_of_check ?_
  change areSearchable ["InsideTemp", "Dewpoint", "ApparentTemp", "FeelsLike", "WindChill",
    "HeatIndex", "Temperature", "Humidex", "WindGust", "WindSpeed", "Bearing", "AverageBearing",
    "UV", "CurrentSolarRad", "TheoreticalSolarMax", "RainFall", "RainRate", "Pressure", "Humidity",
    "InsideHumidity", "EvapoTranspiration"] = true
  decide

theorem searchable_daily (units : Station.Units) :
    Searchable ((Keyword.dailyOf units).map Keyword.name) := by
  refine searchable_of_check ?_
  change areSearchable ["MinTemp", "MaxTemp", "AverageTemp", "AvgWindChill", "MaxDewpoint",
    "MinDewpoint", "MaxFeelsLike", "MinFeelsLike", "MaxGust", "WindRun", "HighAvgWindSpeed",
    "SunHours", "SolarRadiation", "UVIndex", "DayRain", "MaxRainRate", "MinBarometer",
    "MaxBarometer", "MinHumidity", "MaxHumidity", "HeatingDegreeDays", "CoolingDegreeDays",
    "DayEVT"] = true
  decide

/-! ## The extra sensors -/

/-- The names of numbered sensors. -/
def numberedNames (stem : String) (count : Nat) : List String :=
  (List.range count).map fun i => stem ++ toString (i + 1)

theorem map_name_numbered (stem : String) (count : Nat) (axis : Axis) (unit : String) :
    (Keyword.numbered stem count axis unit).map Keyword.name = numberedNames stem count := by
  rw [Keyword.numbered, List.map_map]
  rfl

theorem map_name_soilMoisture (given : List String) :
    (Keyword.soilMoistureOf given).map Keyword.name =
      numberedNames "SoilMoisture" given.length := by
  rw [Keyword.soilMoistureOf, List.map_map, numberedNames, List.range_eq_range',
    ← List.zipIdx_map_snd 0 given, List.map_map]
  rfl

/-- The names of the extra sensors of every station, but for the soil moisture. -/
def commonSensors : List String :=
  numberedNames "Temp" 10 ++ numberedNames "Humidity" 10 ++ numberedNames "Dewpoint" 10 ++
    numberedNames "SoilTemp" 16 ++ (numberedNames "AirQuality" 4 ++
    numberedNames "AirQualityAvg" 4 ++ numberedNames "UserTemp" 8 ++ numberedNames "LeafTemp" 4 ++
    numberedNames "LeafWetness" 8 ++ ["CO2", "CO2_24h", "CO2_pm2p5", "CO2_pm2p5_24h", "CO2_pm10",
      "CO2_pm10_24h", "CO2_temp", "CO2_hum", "Lightning"])

theorem searchable_commonSensors : Searchable commonSensors :=
  searchable_of_check (by decide)

/-- No common sensor is named like the soil moisture. -/
theorem commonSensors_apart : commonSensors.all (fun name =>
    !(keysOf "SoilMoisture".toList).isPrefixOf (keysOf name.toList)) = true := by
  decide

/-- A number ends in a digit. -/
theorem exists_last_digit (n : Nat) :
    ∃ front digit, (toString n).toList = front ++ [digit] ∧ digit.isDigit = true := by
  have nonempty : (toString n).toList ≠ [] := by
    rw [Nat.toString_eq_repr, Nat.toList_repr]
    exact Nat.toDigits_ne_nil
  have split := List.dropLast_append_getLast nonempty
  exact ⟨_, _, split.symm, digits_toString n _ (List.getLast_mem nonempty)⟩

theorem keysOf_append (first second : List Char) :
    keysOf (first ++ second) = keysOf first ++ keysOf second :=
  List.map_append

/-- Digits are their own keys. -/
theorem keysOf_digits {digits : List Char} (each : ∀ c ∈ digits, c.isDigit = true) :
    keysOf digits = digits := by
  have same : ∀ c ∈ digits, caselessKey c = id c := by
    intro c member
    have bounds := (isDigit_iff c).1 (each c member)
    have notUpper : ¬ c.isUpper = true := by
      rw [isUpper_iff]
      omega
    rw [caselessKey_of_ascii (by omega), Char.toLower_eq_of_not_isUpper notUpper]
    rfl
  rw [keysOf, List.map_congr_left same, List.map_id]

/-- The soil moisture sensors can be told apart, however many there are. -/
theorem searchable_soilMoisture (count : Nat) :
    Searchable (numberedNames "SoilMoisture" count) := by
  refine ⟨fun name member => ?_, fun first member second member' same => ?_⟩
  · obtain ⟨i, _, rfl⟩ := List.mem_map.1 member
    refine ⟨⟨?_, ?_⟩, fun word reserved same => ?_⟩
    · have names : (toString (i + 1)).toList.all isNameChar = true :=
        List.all_eq_true.2 fun c inDigits => by
          rw [isNameChar, Char.isAlphanum, digits_toString (i + 1) c inDigits, Bool.or_true,
            Bool.true_or]
      have rest : ("oilMoisture".toList ++ (toString (i + 1)).toList).all isNameChar = true := by
        rw [List.all_append, names]
        decide
      rw [String.toList_append]
      exact rest
    · rintro ⟨front, ends⟩
      obtain ⟨more, digit, split, isDigit⟩ := exists_last_digit (i + 1)
      have last := congrArg List.getLast? ends
      rw [String.toList_append, split, ← List.append_assoc, List.getLast?_concat,
        List.getLast?_append] at last
      obtain rfl : 'm' = digit := Option.some.inj last
      exact absurd isDigit (by decide)
    · have short : reservedWords.all (fun word => Nat.ble word.length 9) = true := by decide
      have length := congrArg List.length same
      have bound := List.all_eq_true.1 short word reserved
      rw [Nat.ble_eq, ← String.length_toList] at bound
      rw [keysOf, keysOf, List.length_map, List.length_map, String.toList_append,
        List.length_append] at length
      have long : "SoilMoisture".toList.length = 12 := rfl
      omega
  · obtain ⟨i, _, rfl⟩ := List.mem_map.1 member
    obtain ⟨j, _, rfl⟩ := List.mem_map.1 member'
    rw [String.toList_append, String.toList_append, keysOf_append, keysOf_append,
      List.append_cancel_left_eq, keysOf_digits (digits_toString _),
      keysOf_digits (digits_toString _), String.toList_inj] at same
    rw [same]

/-- Fewer names can be told apart as well. -/
theorem Searchable.of_subset {names fewer : List String} (searchable : Searchable names)
    (subset : ∀ name ∈ fewer, name ∈ names) : Searchable fewer where
  each name member := searchable.each name (subset name member)
  different first member second member' :=
    searchable.different first (subset first member) second (subset second member')

theorem soilMoisture_apart (count : Nat) : ∀ name ∈ commonSensors,
    ∀ other ∈ numberedNames "SoilMoisture" count, keysOf name.toList ≠ keysOf other.toList := by
  intro name member other member' same
  obtain ⟨i, _, rfl⟩ := List.mem_map.1 member'
  have noStem := List.all_eq_true.1 commonSensors_apart name member
  rw [same, String.toList_append, keysOf_append, Bool.not_eq_true', ← Bool.not_eq_true,
    List.isPrefixOf_iff_prefix] at noStem
  exact noStem (List.prefix_append _ _)

/-- The sensors of every station are those of soil moisture and the common ones. -/
theorem mem_extraOf_nil {units : Station.Units} {entry : Keyword}
    (member : entry ∈ Keyword.extraOf units []) :
    entry ∈ Keyword.soilMoistureOf units.soilMoisture ∨ entry.name ∈ commonSensors := by
  have others : Keyword.externalOf [] = [] := rfl
  have named : ∀ {part : List Keyword}, entry ∈ part → entry.name ∈ part.map Keyword.name :=
    List.mem_map_of_mem
  simp only [Keyword.extraOf, others, List.append_nil, List.mem_append] at member
  simp only [commonSensors, List.mem_append]
  rcases member with (((((((((inPart | inPart) | inPart) | inPart) | inPart) | inPart) | inPart) |
    inPart) | inPart) | inPart) | inPart
  case inl.inl.inl.inl.inl.inl.inr => exact .inl inPart
  all_goals
    have inNames := named inPart
    try rw [map_name_numbered] at inNames
    tauto

/-- The sensors that every station has can be told apart. -/
theorem searchable_extraOf_nil (units : Station.Units) :
    Searchable ((Keyword.extraOf units []).map Keyword.name) := by
  have all := searchable_commonSensors.append (searchable_soilMoisture units.soilMoisture.length)
    (soilMoisture_apart _)
  refine all.of_subset fun name member => ?_
  obtain ⟨entry, inTable, rfl⟩ := List.mem_map.1 member
  rcases mem_extraOf_nil inTable with soil | common
  · rw [← map_name_soilMoisture]
    exact List.mem_append_right _ (List.mem_map_of_mem soil)
  · exact List.mem_append_left _ common

theorem extraOf_eq_append (units : Station.Units) (external : List String) :
    Keyword.extraOf units external = Keyword.extraOf units [] ++ Keyword.externalOf external := by
  have nothing : Keyword.externalOf [] = [] := rfl
  simp only [Keyword.extraOf, nothing, List.append_nil]

section

variable {units : Station.Units} {external : List String}

/-- Words with the same keys agree in lower case, if they are identifiers. -/
theorem sameWord_of_identifiers {first second : String}
    (left : isIdentifier first.toList = true) (right : isIdentifier second.toList = true)
    (same : keysOf first.toList = keysOf second.toList) : sameWord first second = true :=
  sameWord_of_keysOf (isIdentifier_ascii left) (isIdentifier_ascii right) same

theorem searchable_externalOf (proper : ProperSensors units external) :
    Searchable ((Keyword.externalOf external).map Keyword.name) where
  each := by
    intro name member
    obtain ⟨sensor, inSensors, rfl⟩ := List.mem_map.1 member
    have identifier := proper.identifiers sensor inSensors
    refine ⟨⟨identifier, proper.noSum sensor inSensors⟩, fun word reserved same => ?_⟩
    have identifiers : reservedWords.all (fun word => isIdentifier word.toList) = true := by decide
    have agree := sameWord_of_identifiers (List.all_eq_true.1 identifiers word reserved) identifier
      same.symm
    rw [proper.free sensor inSensors word reserved] at agree
    cases agree
  different := by
    intro first member second member' same
    by_contra different
    obtain ⟨sensor, inSensors, rfl⟩ := List.mem_map.1 member
    obtain ⟨other, inSensors', rfl⟩ := List.mem_map.1 member'
    have symmetric : Std.Symm fun first second : String => sameWord first second = false :=
      ⟨fun first second apart => (sameWord_comm second first).trans apart⟩
    have agree := sameWord_of_identifiers (proper.identifiers sensor inSensors)
      (proper.identifiers other inSensors') same
    rw [proper.distinct.forall member member' different] at agree
    cases agree

theorem searchable_extraOf (proper : ProperSensors units external) :
    Searchable ((Keyword.extraOf units external).map Keyword.name) := by
  have fixed := searchable_extraOf_nil units
  rw [extraOf_eq_append, List.map_append]
  refine fixed.append (searchable_externalOf proper) fun name member other member' same => ?_
  have identifier := (fixed.each name member).findable.identifier
  obtain ⟨sensor, inSensors, rfl⟩ := List.mem_map.1 member'
  obtain ⟨entry, inTable, rfl⟩ := List.mem_map.1 member
  have agree := sameWord_of_identifiers identifier (proper.identifiers sensor inSensors) same
  rw [proper.apart sensor inSensors entry inTable] at agree
  cases agree

/-- The keywords of every range can be searched for and told apart. -/
theorem searchable_build (proper : ProperSensors units external) {range : DataRange}
    {table : List Keyword} (found : (Tables.build units external).ofRange? range = some table) :
    Searchable (table.map Keyword.name) := by
  cases range with
  | recent =>
    rw [← Option.some.inj found]
    exact searchable_recent units
  | extra =>
    rw [← Option.some.inj found]
    exact searchable_extraOf proper
  | daily | all =>
    rw [← Option.some.inj found]
    exact searchable_daily units
  | unlisted number => cases found

end

end Meteogram
