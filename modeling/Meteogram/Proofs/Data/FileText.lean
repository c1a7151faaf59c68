import Mathlib.Data.List.Forall2
import Meteogram.Data.Update
import Meteogram.Proofs.Data.JsonText

/-!
# What a data file says

A data file is the text of one object. It has one member for each field, in the order of the
fields; the name of a member is that of its field, and its value is the list of the points of the
field, each point the list of its time and its value (`IsFileText`). It is said from the texts
alone which characters of a string stand for which character of a name, and which text stands for
which value. What is written for fields says these fields (`isFileText_fileText`).

The text follows the grammar of JSON texts exactly if all values are finite
(`isJson_fileText_iff`).
-/

set_option autoImplicit false

namespace Meteogram.Data

namespace Json

open Number (Binary64)

/-! ## Strings -/

/-- The digits of base sixteen, by their values. -/
def hexadecimal : List Char := "0123456789abcdef".toList

/-- The four digits are those of a unit of sixteen bits. -/
structure IsUnit (digits : List Char) (unit : Nat) : Prop where
  four : digits.length = 4
  isHex : ∀ c ∈ digits, c ∈ hexadecimal
  value : digits.foldl (fun value digit => 16 * value + hexadecimal.idxOf digit) 0 = unit

/-- The letters behind a backslash, with the characters that they stand for. -/
def escapes : List (Char × Char) :=
  [('"', '"'), ('\\', '\\'), ('/', '/'), ('b', Char.ofNat 8), ('f', Char.ofNat 12), ('n', '\n'),
    ('r', '\r'), ('t', '\t')]

/-- The characters stand for a character of a string. A character beyond sixteen bits is made of
two units. -/
inductive StandsFor : List Char → Char → Prop
  | plain {c : Char} (printable : 32 ≤ c.toNat) (noQuote : c ≠ '"') (noSlash : c ≠ '\\') :
      StandsFor [c] c
  | escape {mark c : Char} (isEscape : (mark, c) ∈ escapes) : StandsFor ['\\', mark] c
  | unit {digits : List Char} {c : Char} (isUnit : IsUnit digits c.toNat) :
      StandsFor ('\\' :: 'u' :: digits) c
  | units {digits digits' : List Char} {high low : Nat} {c : Char} (small : high < 0x400)
      (small' : low < 0x400) (isHigh : IsUnit digits (0xD800 + high))
      (isLow : IsUnit digits' (0xDC00 + low))
      (value : c.toNat = 0x10000 + 0x400 * high + low) :
      StandsFor ('\\' :: 'u' :: digits ++ '\\' :: 'u' :: digits') c

/-- A string for a text. -/
inductive IsStringText (text : String) : List Char → Prop
  | characters {list : List (List Char)} (each : List.Forall₂ StandsFor list text.toList) :
      IsStringText text ('"' :: (list.flatten ++ ['"']))

/-! ## Points -/

/-- The text of the value of a point. A finite value has its shortest text, which is a number of
the grammar and is read as this value. A value that is no number, or infinite, has a word. -/
inductive IsValueText : Binary64 → List Char → Prop
  | number {negative : Bool} {bits : Nat} {cs : List Char} (isNumber : IsNumber cs)
      (written : String.ofList cs = Binary64.text (.finite negative bits))
      (reads : Binary64.read? (String.ofList cs) = some (.finite negative bits)) :
      IsValueText (.finite negative bits) cs
  | none : IsValueText .nan "NaN".toList
  | infinite : IsValueText (.infinite false) "Infinity".toList
  | negative : IsValueText (.infinite true) "-Infinity".toList

/-- The list of the time and the value of a point. -/
inductive IsPointText (point : Point) : List Char → Prop
  | pair {value : List Char} (isValue : IsValueText point.value value) :
      IsPointText point ('[' :: ((toString point.time).toList ++ ',' :: (value ++ [']'])))

/-! ## Fields -/

/-- A member for a field: its name, and the list of its points. -/
inductive IsFieldText (field : String × List Point) : List Char → Prop
  | points {name : List Char} {list : List (List Char)} (isName : IsStringText field.1 name)
      (each : List.Forall₂ IsPointText field.2 list) :
      IsFieldText field (name ++ ':' :: '[' :: (joined list ++ [']']))

/-- An object with a member for each field, in the order of the fields. -/
inductive IsFileText (fields : Fields) : List Char → Prop
  | members {list : List (List Char)} (each : List.Forall₂ IsFieldText fields list) :
      IsFileText fields ('\x7b' :: (joined list ++ ['\x7d']))

/-! ## Strings as they are written -/

theorem value_hexDigits (count n : Nat) :
    (Text.hexDigits count n).foldl (fun value digit => 16 * value + hexadecimal.idxOf digit) 0 =
      n % 16 ^ count := by
  have digit : ∀ n < 16, hexadecimal.idxOf (Text.hexDigit n) = n := by decide
  induction count generalizing n with
  | zero => exact (Nat.mod_one n).symm
  | succ count ih =>
    rw [Text.hexDigits, List.foldl_concat, ih, digit _ (Nat.mod_lt n (by decide)), Nat.pow_succ',
      Nat.mod_mul, Nat.add_comm]

theorem isUnit_hexDigits {n : Nat} (small : n < 0x10000) : IsUnit (Text.hexDigits 4 n) n where
  four := Text.length_hexDigits 4 n
  isHex := by
    have digit : ∀ n < 16, Text.hexDigit n ∈ hexadecimal := by decide
    have digits : ∀ count n, ∀ c ∈ Text.hexDigits count n, c ∈ hexadecimal := by
      intro count
      induction count with
      | zero => exact fun _ _ member => (by cases member)
      | succ count ih =>
        intro n c member
        rcases List.mem_append.1 member with before | isLast
        · exact ih _ c before
        · exact List.mem_singleton.1 isLast ▸ digit _ (Nat.mod_lt n (by decide))
    exact digits 4 n
  value := (value_hexDigits 4 n).trans (Nat.mod_eq_of_lt small)

/-- A character is written as characters that stand for it. -/
theorem standsFor_charText (c : Char) : StandsFor (charText c) c := by
  have escape : ∀ {mark c' : Char}, c = c' → (mark, c') ∈ escapes → StandsFor ['\\', mark] c :=
    fun same isEscape => .escape (same ▸ isEscape)
  have named : ∀ {n : Nat}, c.toNat = n → c = Char.ofNat n :=
    fun same => same ▸ (Char.ofNat_toNat c).symm
  rw [charText]
  split
  · next same => exact escape same (by decide)
  · next noQuote =>
    split
    · next same => exact escape same (by decide)
    · next noSlash =>
      split
      · next same => exact escape same (by decide)
      · split
        · next same => exact escape same (by decide)
        · split
          · next same => exact escape same (by decide)
          · split
            · next same => exact escape (named same) (by decide)
            · split
              · next same => exact escape (named same) (by decide)
              · split
                · next printable =>
                  rw [Bool.and_eq_true, decide_eq_true_eq, decide_eq_true_eq] at printable
                  exact .plain printable.1 noQuote noSlash
                · split
                  · next small => exact .unit (isUnit_hexDigits small)
                  · next large =>
                    have bound : c.toNat < 0x110000 := by
                      have valid := c.valid
                      simp only [UInt32.isValidChar, Nat.isValidChar] at valid
                      simp only [Char.toNat]
                      omega
                    exact .units (by omega) (by omega) (isUnit_hexDigits (by omega))
                      (isUnit_hexDigits (by omega)) (by omega)

theorem isStringText_stringText (text : String) : IsStringText text (stringText text).toList := by
  have each : ∀ cs : List Char, List.Forall₂ StandsFor (cs.map charText) cs := by
    intro cs
    rw [List.forall₂_map_left_iff, List.forall₂_same]
    exact fun c _ => standsFor_charText c
  rw [stringText, String.toList_ofList, List.flatMap_def]
  exact .characters (each text.toList)

/-- The characters stand for those of a string. -/
def IsInside (cs : List Char) : Prop :=
  ∃ list : List (List Char), (∀ one ∈ list, IsCharacter one) ∧ cs = list.flatten

theorem isInside_nil : IsInside [] := ⟨[], fun _ member => (by cases member), rfl⟩

theorem IsInside.append {cs cs' : List Char} (first : IsInside cs) (second : IsInside cs') :
    IsInside (cs ++ cs') := by
  obtain ⟨list, each, rfl⟩ := first
  obtain ⟨list', each', rfl⟩ := second
  exact ⟨list ++ list', List.forall_mem_append.2 ⟨each, each'⟩, List.flatten_append.symm⟩

theorem IsCharacter.isInside {one : List Char} (isCharacter : IsCharacter one) : IsInside one :=
  ⟨[one], List.forall_mem_singleton.2 isCharacter, (List.append_nil one).symm⟩

theorem IsUnit.isCharacter {digits : List Char} {unit : Nat} (isUnit : IsUnit digits unit) :
    IsCharacter ('\\' :: 'u' :: digits) := by
  have among : hexadecimal ⊆ "0123456789abcdefABCDEF".toList := by decide
  exact .unit isUnit.four fun c member => among (isUnit.isHex c member)

/-- What stands for a character is made of characters of the grammar. -/
theorem StandsFor.isInside {cs : List Char} {c : Char} (standsFor : StandsFor cs c) :
    IsInside cs := by
  cases standsFor with
  | plain printable noQuote noSlash => exact (IsCharacter.plain printable noQuote noSlash).isInside
  | escape isEscape =>
    have marks : ∀ pair ∈ escapes, pair.1 ∈ ['"', '\\', '/', 'b', 'f', 'n', 'r', 't'] := by decide
    exact (IsCharacter.escape (marks _ isEscape)).isInside
  | unit isUnit => exact isUnit.isCharacter.isInside
  | units _ _ isHigh isLow _ => exact isHigh.isCharacter.isInside.append isLow.isCharacter.isInside

/-- A string for a text is a string of the grammar. -/
theorem IsStringText.isString {text : String} {cs : List Char} (isStringText : IsStringText text cs) :
    IsString cs := by
  obtain ⟨each⟩ := isStringText
  rename_i list
  have inside : IsInside list.flatten := by
    generalize text.toList = characters at each
    induction each with
    | nil => exact isInside_nil
    | cons standsFor _ ih => exact standsFor.isInside.append ih
  obtain ⟨pieces, characters, same⟩ := inside
  rw [same]
  exact .characters characters

theorem isString_stringText (text : String) : IsString (stringText text).toList :=
  (isStringText_stringText text).isString

/-! ## Data files as they are written -/

theorem isValueText_valueText {number : Binary64} (wellFormed : number.IsWellFormed) :
    IsValueText number (valueText number).toList := by
  cases number with
  | nan => exact .none
  | infinite negative => cases negative with
    | false => exact .infinite
    | true => exact .negative
  | finite negative bits =>
    refine .number (isNumber_text ⟨negative, bits, rfl⟩) String.ofList_toList ?_
    rw [String.ofList_toList]
    exact Binary64.read?_text wellFormed

/-- A point as it is written. -/
theorem toList_pointText (point : Point) : (pointText point).toList =
    '[' :: (joined [(toString point.time).toList, (valueText point.value).toList] ++ [']']) := by
  simp [pointText, joined_cons_cons, joined_singleton]

theorem toList_fieldText (field : String × List Point) : (fieldText field).toList =
    (stringText field.1).toList ++
      ':' :: '[' :: (joined (field.2.map fun point => (pointText point).toList) ++ [']']) := by
  simp [fieldText, joined, String.toList_intercalate, List.map_map, Function.comp_def]

theorem toList_fileText (fields : Fields) : (fileText fields).toList =
    '\x7b' :: (joined (fields.map fun field => (fieldText field).toList) ++ ['\x7d']) := by
  simp [fileText, joined, String.toList_intercalate, List.map_map, Function.comp_def]

theorem isPointText_pointText {point : Point} (wellFormed : point.value.IsWellFormed) :
    IsPointText point (pointText point).toList := by
  rw [toList_pointText, joined_cons_cons, joined_singleton, List.append_assoc]
  exact .pair (isValueText_valueText wellFormed)

theorem isFieldText_fieldText {field : String × List Point}
    (wellFormed : ∀ point ∈ field.2, point.value.IsWellFormed) :
    IsFieldText field (fieldText field).toList := by
  rw [toList_fieldText]
  refine .points (isStringText_stringText field.1) ?_
  rw [List.forall₂_map_right_iff, List.forall₂_same]
  exact fun point member => isPointText_pointText (wellFormed point member)

/-- What is written for fields says these fields. -/
theorem isFileText_fileText {fields : Fields}
    (wellFormed : ∀ field ∈ fields, ∀ point ∈ field.2, point.value.IsWellFormed) :
    IsFileText fields (fileText fields).toList := by
  rw [toList_fileText]
  refine .members ?_
  rw [List.forall₂_map_right_iff, List.forall₂_same]
  exact fun field member => isFieldText_fieldText (wellFormed field member)

/-! ## Data files as JSON texts -/

/-- The value is no number. -/
def isNan (point : Point) : Bool := point.value == .nan

section

variable {point : Point} (noInfinity : ∀ negative, point.value ≠ .infinite negative)

include noInfinity

theorem marks_pointText : Marks (isNan point) (pointText point).toList := by
  have value : Marks (isNan point) (valueText point.value).toList := by
    rw [isNan]
    cases same : point.value with
    | nan => exact fun rest => rfl
    | infinite negative => exact absurd same (noInfinity negative)
    | finite negative bits => exact marks_of_isNumber (isNumber_text ⟨negative, bits, rfl⟩)
  rw [toList_pointText, joined_cons_cons, joined_singleton, List.append_assoc]
  have close : Marks false [']'] := marks_of_plain (by simp)
  have behind := value.append close
  rw [Bool.or_false] at behind
  exact marks_cons (by decide) (by decide)
    ((marks_of_isNumber (isNumber_toString _)).append (marks_cons (by decide) (by decide) behind))

theorem isJson_pointText (isNumber : point.value ≠ .nan) : IsJson .value (pointText point).toList := by
  rw [toList_pointText]
  refine isJson_array ?_
  rw [List.forall_mem_cons, List.forall_mem_singleton]
  refine ⟨.number (isNumber_toString _), .number ?_⟩
  cases same : point.value with
  | nan => exact absurd same isNumber
  | infinite negative => exact absurd same (noInfinity negative)
  | finite negative bits => exact isNumber_text ⟨negative, bits, rfl⟩

end

section

variable {field : String × List Point}
  (noInfinity : ∀ point ∈ field.2, ∀ negative, point.value ≠ .infinite negative)

include noInfinity

theorem marks_fieldText : Marks (field.2.any isNan) (fieldText field).toList := by
  have close : Marks false [']'] := marks_of_plain (by simp)
  have points := (marks_joined fun point member => marks_pointText (noInfinity point member)).append
    close
  rw [Bool.or_false] at points
  rw [toList_fieldText]
  exact (marks_of_isString (isString_stringText field.1)).append
    (marks_cons (by decide) (by decide) (marks_cons (by decide) (by decide) points))

theorem isJson_points (numbers : ∀ point ∈ field.2, point.value ≠ .nan) :
    IsJson .value
      ('[' :: (joined (field.2.map fun point => (pointText point).toList) ++ [']'])) := by
  refine isJson_array ?_
  rw [List.forall_mem_map]
  exact fun point member => isJson_pointText (noInfinity point member) (numbers point member)

end

/-- A data file without infinite values is a JSON text exactly if all its values are numbers. -/
theorem isJson_fileText_iff {fields : Fields}
    (noInfinity : ∀ field ∈ fields, ∀ point ∈ field.2, ∀ negative, point.value ≠ .infinite negative) :
    IsJson .element (fileText fields).toList ↔
      ∀ field ∈ fields, ∀ point ∈ field.2, point.value ≠ .nan := by
  constructor
  · intro isJson
    have close : Marks false ['\x7d'] := marks_of_plain (by simp)
    have marks := (marks_joined fun field member => marks_fieldText (noInfinity field member)).append
      close
    have brace : '\x7b' ≠ '"' ∧ '\x7b' ≠ 'N' := by decide
    have whole := marks_cons brace.1 brace.2 marks []
    have atEnd : hasMark .outside [] = false := rfl
    rw [Bool.or_false, ← toList_fileText, marks_of_isJson isJson, atEnd, Bool.or_false,
      Bool.or_false] at whole
    have none : (fields.any fun field => field.2.any isNan) = false := whole.symm
    intro field member point inside isNumber
    rw [List.any_eq_false] at none
    refine none field member (List.any_eq_true.2 ⟨point, inside, ?_⟩)
    rw [isNan, isNumber]
    rfl
  · intro numbers
    have each : ∀ pair ∈ fields.map fun field => ((stringText field.1).toList,
        '[' :: (joined (field.2.map fun point => (pointText point).toList) ++ [']'])),
        IsString pair.1 ∧ IsJson .value pair.2 := by
      rw [List.forall_mem_map]
      exact fun field member => ⟨isString_stringText field.1,
        isJson_points (noInfinity field member) (numbers field member)⟩
    have members := isJson_object each
    rw [List.map_map] at members
    rw [toList_fileText]
    simp only [toList_fieldText]
    exact isElement_of_value members

end Json

/-- The bytes of a data file that says the fields. -/
def IsDataFile (fields : Fields) (bytes : ByteArray) : Prop :=
  bytes = (fileText fields).toUTF8 ∧ Json.IsFileText fields (fileText fields).toList

theorem isDataFile_fileText {fields : Fields}
    (wellFormed : ∀ field ∈ fields, ∀ point ∈ field.2, point.value.IsWellFormed) :
    IsDataFile fields (fileText fields).toUTF8 :=
  ⟨rfl, Json.isFileText_fileText wellFormed⟩

end Meteogram.Data
