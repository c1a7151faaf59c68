import Meteogram.Proofs.Data.Collecting
import Meteogram.Proofs.Ini.WrittenLines
import Meteogram.Proofs.Log.ReadableLogs

/-!
# Lines in both notations

A line of a log has its fields between commas, or between semicolons with a comma for each
point in them. Either way there may be blanks around the fields, and the fields are read back
as they were (`splitLine_of_writes`). A line with a date of the years from 1969 to 2068 is
read as this day or moment, and as the numbers that its fields are (`readLine_of_writes`).
-/

set_option autoImplicit false

namespace Meteogram.Log

open Text Time
open Number (Binary64)

/-! ## Blanks around fields -/

section

variable {separator : Char} {cs blanks : List Char}

theorem trim_cons_of_blank {c : Char} (blank : isBlank c = true) (cs : List Char) :
    trim (c :: cs) = trim cs := by
  rw [trim, trim, Ini.trimStart_cons_of_blank blank]

theorem trim_append_of_blank (areBlank : ∀ c ∈ blanks, isBlank c = true) (cs : List Char) :
    trim (cs ++ blanks) = trim cs := by
  induction cs with
  | nil =>
    have none : trimStart blanks = [] := List.dropWhile_eq_nil_iff.2 areBlank
    rw [List.nil_append, trim, none]
    rfl
  | cons c cs ih =>
    by_cases blank : isBlank c = true
    · rw [List.cons_append, trim_cons_of_blank blank, trim_cons_of_blank blank, ih]
    · have notBlank := Bool.eq_false_iff.2 blank
      rw [List.cons_append, trim, trim, Ini.trimStart_cons_of_not_blank notBlank,
        Ini.trimStart_cons_of_not_blank notBlank, ← List.cons_append,
        Ini.trimEnd_append_of_blank areBlank]

theorem trim_append_of_blank_left (areBlank : ∀ c ∈ blanks, isBlank c = true) (cs : List Char) :
    trim (blanks ++ cs) = trim cs := by
  rw [trim, trim, Ini.trimStart_append_of_blank areBlank]

/-- A text without blanks is not trimmed. -/
theorem trim_of_noBlanks (noBlanks : ∀ c ∈ cs, isBlank c = false) : trim cs = cs := by
  have start : trimStart cs = cs := by
    cases cs with
    | nil => rfl
    | cons c cs => exact Ini.trimStart_cons_of_not_blank (noBlanks c List.mem_cons_self) cs
  rw [trim, start]
  exact Ini.trimEnd_of_getLast? fun c last => noBlanks c (List.mem_of_getLast? last)

/-- Blanks in front of a line make no difference to its trimmed fields. -/
theorem map_trim_fieldsOf_trimStart (notBlank : isBlank separator = false) (cs : List Char) :
    (fieldsOf separator (trimStart cs)).map trim = (fieldsOf separator cs).map trim := by
  induction cs with
  | nil => rfl
  | cons c cs ih =>
    by_cases blank : isBlank c = true
    · have apart : c ≠ separator := by
        rintro rfl
        rw [notBlank] at blank
        cases blank
      rw [Ini.trimStart_cons_of_blank blank, ih, fieldsOf, if_neg apart]
      cases fields : fieldsOf separator cs with
      | nil => exact absurd fields (fieldsOf_ne_nil separator cs)
      | cons field fields =>
        rw [attach, List.map_cons, List.map_cons, trim_cons_of_blank blank]
    · rw [Ini.trimStart_cons_of_not_blank (Bool.eq_false_iff.2 blank)]

/-- Blanks behind a line stand behind its last field. -/
theorem fieldsOf_append_of_blank (free : separator ∉ blanks) (cs : List Char) :
    ∃ before field, fieldsOf separator cs = before ++ [field] ∧
      fieldsOf separator (cs ++ blanks) = before ++ [field ++ blanks] := by
  induction cs with
  | nil => exact ⟨[], [], rfl, fieldsOf_of_not_mem free⟩
  | cons c cs ih =>
    obtain ⟨before, field, fields, fields'⟩ := ih
    rw [List.cons_append, fieldsOf, fieldsOf, fields, fields']
    by_cases same : c = separator
    · rw [if_pos same, if_pos same]
      exact ⟨[] :: before, field, rfl, rfl⟩
    · rw [if_neg same, if_neg same]
      cases before with
      | nil => exact ⟨[], c :: field, rfl, rfl⟩
      | cons first before => exact ⟨(c :: first) :: before, field, rfl, rfl⟩

/-- Whether the line is trimmed makes no difference to its trimmed fields. -/
theorem map_trim_fieldsOf_trim (notBlank : isBlank separator = false) (line : List Char) :
    (fieldsOf separator (trim line)).map trim = (fieldsOf separator line).map trim := by
  rw [← map_trim_fieldsOf_trimStart notBlank line, trim]
  generalize trimStart line = cs
  have split : cs = trimEnd cs ++ (cs.reverse.takeWhile isBlank).reverse := by
    rw [trimEnd, ← List.reverse_append, List.takeWhile_append_dropWhile, List.reverse_reverse]
  have areBlank : ∀ c ∈ (cs.reverse.takeWhile isBlank).reverse, isBlank c = true :=
    fun c member => List.mem_takeWhile_imp (List.mem_reverse.1 member)
  have free : separator ∉ (cs.reverse.takeWhile isBlank).reverse := fun member => by
    rw [areBlank separator member] at notBlank
    cases notBlank
  obtain ⟨before, field, fields, fields'⟩ := fieldsOf_append_of_blank free (trimEnd cs)
  rw [← split] at fields'
  rw [fields, fields', List.map_append, List.map_append, List.map_singleton, List.map_singleton,
    trim_append_of_blank areBlank]

/-- Cells without separators are the fields of the line that they make up. -/
theorem fieldsOf_intercalate {cells : List (List Char)} (some : cells ≠ [])
    (free : ∀ cell ∈ cells, separator ∉ cell) :
    fieldsOf separator ([separator].intercalate cells) = cells := by
  induction cells with
  | nil => exact absurd rfl some
  | cons cell cells ih =>
    obtain ⟨here, behind⟩ := List.forall_mem_cons.1 free
    cases cells with
    | nil =>
      rw [List.intercalate_singleton]
      exact fieldsOf_of_not_mem here
    | cons next cells =>
      rw [List.intercalate_cons_cons, List.append_assoc, List.singleton_append, fieldsOf_append,
        fieldsOf_of_not_mem here, ih (List.cons_ne_nil _ _) behind]
      rfl

theorem not_mem_intercalate {cells : List (List Char)} {c : Char} (apart : c ≠ separator)
    (free : ∀ cell ∈ cells, c ∉ cell) : c ∉ [separator].intercalate cells := by
  induction cells with
  | nil => exact List.not_mem_nil
  | cons cell cells ih =>
    obtain ⟨here, behind⟩ := List.forall_mem_cons.1 free
    cases cells with
    | nil =>
      rw [List.intercalate_singleton]
      exact here
    | cons next cells =>
      rw [List.intercalate_cons_cons, List.mem_append, List.mem_append, List.mem_singleton, not_or,
        not_or]
      exact ⟨⟨here, apart⟩, ih behind⟩

theorem trim_subset (cs : List Char) : trim cs ⊆ cs := by
  intro c member
  have start := (List.dropWhile_sublist _).subset (List.mem_reverse.1 member)
  exact (List.dropWhile_sublist _).subset (List.mem_reverse.1 start)

end

/-! ## Notations -/

/-- The notations of lines: numbers with points and commas between the fields, or numbers with
commas and semicolons between the fields. -/
inductive Style where
  | points
  | commas
  deriving DecidableEq

namespace Style

/-- The character between the fields. -/
def separator : Style → Char
  | points => ','
  | commas => ';'

/-- How a character of a field is written. -/
def shown : Style → Char → Char
  | points, c => c
  | commas, c => if c = '.' then ',' else c

/-- The cell of a line has the field with any blanks around it. -/
def Pads (style : Style) (field : String) (cell : List Char) : Prop :=
  ∃ before behind : List Char, (∀ c ∈ before, isBlank c = true) ∧ (∀ c ∈ behind, isBlank c = true) ∧
    cell = before ++ (field.toList.map style.shown ++ behind)

/-- The line has the fields in this notation, each of them with any blanks around it. -/
def Writes (style : Style) (fields : List String) (line : String) : Prop :=
  ∃ cells, List.Forall₂ style.Pads fields cells ∧
    line.toList = [style.separator].intercalate cells

end Style

/-- Any fields can be written in either notation, with the same blanks around each of them. -/
theorem Style.writes_of_blanks (style : Style) (fields : List String) (before behind : List Char)
    (blanks : ∀ c ∈ before, isBlank c = true) (blanks' : ∀ c ∈ behind, isBlank c = true) :
    style.Writes fields (String.ofList ([style.separator].intercalate
      (fields.map fun field => before ++ (field.toList.map style.shown ++ behind)))) := by
  refine ⟨_, ?_, String.toList_ofList⟩
  refine List.forall₂_map_right_iff.2 (List.forall₂_same.2 fun field _ => ?_)
  exact ⟨before, behind, blanks, blanks', rfl⟩

/-- A field has no blanks in it and nothing that stands between fields. -/
def IsPlainField (field : String) : Prop :=
  ∀ c ∈ field.toList, isBlank c = false ∧ c ≠ ',' ∧ c ≠ ';'

instance (field : String) : Decidable (IsPlainField field) :=
  List.decidableBAll _ field.toList

section

variable {style : Style} {fields : List String} {line : String}

theorem isBlank_separator (style : Style) : isBlank style.separator = false := by
  cases style <;> decide

theorem shown_ne_separator {c : Char} (noComma : c ≠ ',') (noSemicolon : c ≠ ';') :
    style.shown c ≠ style.separator := by
  cases style with
  | points => exact noComma
  | commas =>
    rw [Style.shown]
    split
    · decide
    · exact noSemicolon

theorem isBlank_shown {c : Char} (notBlank : isBlank c = false) :
    isBlank (style.shown c) = false := by
  cases style with
  | points => exact notBlank
  | commas =>
    rw [Style.shown]
    split
    · decide
    · exact notBlank

/-- A character that is no blank and is not shown in the fields is in no cell. -/
theorem not_mem_of_pads {cells : List (List Char)} (padded : List.Forall₂ style.Pads fields cells)
    {c : Char} (notBlank : isBlank c = false)
    (apart : ∀ field ∈ fields, ∀ d ∈ field.toList, style.shown d ≠ c) :
    ∀ cell ∈ cells, c ∉ cell := by
  induction padded with
  | nil => exact fun _ member => absurd member List.not_mem_nil
  | cons here _ ih =>
    obtain ⟨first, rest⟩ := List.forall_mem_cons.1 apart
    refine List.forall_mem_cons.2 ⟨?_, ih rest⟩
    obtain ⟨before, behind, blanks, blanks', rfl⟩ := here
    have noBlank : ∀ {list : List Char}, (∀ d ∈ list, isBlank d = true) → c ∉ list := by
      intro list areBlank member
      rw [areBlank c member] at notBlank
      cases notBlank
    rw [List.mem_append, List.mem_append, not_or, not_or, List.mem_map]
    refine ⟨noBlank blanks, ?_, noBlank blanks'⟩
    rintro ⟨d, member, same⟩
    exact first d member same

theorem map_trim_of_pads {cells : List (List Char)} (padded : List.Forall₂ style.Pads fields cells)
    (plain : ∀ field ∈ fields, IsPlainField field) :
    cells.map trim = fields.map fun field => field.toList.map style.shown := by
  induction padded with
  | nil => rfl
  | @cons field cell fields cells here _ ih =>
    obtain ⟨isPlain, behind⟩ := List.forall_mem_cons.1 plain
    obtain ⟨before, after, blanks, blanks', rfl⟩ := here
    have noBlanks : ∀ c ∈ field.toList.map style.shown, isBlank c = false :=
      List.forall_mem_map.2 fun c member => isBlank_shown (isPlain c member).1
    rw [List.map_cons, List.map_cons, ih behind, trim_append_of_blank_left blanks,
      trim_append_of_blank blanks', trim_of_noBlanks noBlanks]

/-- The trimmed fields of a line are those that were written. -/
theorem map_trim_fieldsOf_of_writes (writes : style.Writes fields line)
    (plain : ∀ field ∈ fields, IsPlainField field) (some : fields ≠ []) :
    (fieldsOf style.separator (trim line.toList)).map trim =
      fields.map fun field => field.toList.map style.shown := by
  obtain ⟨cells, padded, chars⟩ := writes
  have free := not_mem_of_pads padded (isBlank_separator style) fun field member c inField =>
    shown_ne_separator (plain field member c inField).2.1 (plain field member c inField).2.2
  have someCells : cells ≠ [] := by
    rintro rfl
    cases padded
    exact some rfl
  rw [map_trim_fieldsOf_trim (isBlank_separator style), chars, fieldsOf_intercalate someCells free,
    map_trim_of_pads padded plain]

/-- The line has semicolons if they stand between its fields. -/
theorem contains_semicolon_of_writes (writes : style.Writes fields line)
    (plain : ∀ field ∈ fields, IsPlainField field) (several : 2 ≤ fields.length) :
    (trim line.toList).contains ';' = true ↔ style = .commas := by
  cases style with
  | points =>
    refine iff_of_false (fun semicolon => ?_) (by decide)
    obtain ⟨cells, padded, chars⟩ := writes
    have free := not_mem_of_pads padded (by decide : isBlank ';' = false)
      fun field member c inField => (plain field member c inField).2.2
    have noSemicolon : ';' ∉ [','].intercalate cells := not_mem_intercalate (by decide) free
    have inLine := trim_subset _ (List.contains_iff_mem.1 semicolon)
    rw [chars] at inLine
    exact noSemicolon inLine
  | commas =>
    refine iff_of_true ?_ rfl
    by_contra none
    have free : ';' ∉ trim line.toList := fun member => none (List.contains_iff_mem.2 member)
    have some : fields ≠ [] := List.ne_nil_of_length_pos (by omega)
    have lengths := congrArg List.length (map_trim_fieldsOf_of_writes writes plain some)
    rw [Style.separator, fieldsOf_of_not_mem free, List.length_map, List.length_map,
      List.length_singleton] at lengths
    omega

/-- In a line of two fields at least, the fields are read back. -/
theorem splitLine_of_writes (writes : style.Writes fields line)
    (plain : ∀ field ∈ fields, IsPlainField field) (several : 2 ≤ fields.length) :
    splitLine line = fields := by
  have trimmed := map_trim_fieldsOf_of_writes writes plain
    (List.ne_nil_of_length_pos (by omega))
  have semicolon := contains_semicolon_of_writes writes plain several
  rw [splitLine, fieldsOfLine]
  cases style with
  | points =>
    rw [Style.separator] at trimmed
    rw [if_neg fun has => absurd (semicolon.1 has) (by decide), trimmed, List.map_map]
    refine List.map_id'' (fun field => ?_) fields
    change String.ofList (field.toList.map fun c => c) = field
    rw [List.map_id', String.ofList_toList]
  | commas =>
    rw [Style.separator] at trimmed
    -- A point that was written as a comma is a point again.
    have back : ∀ field ∈ fields, (field.toList.map (Style.shown .commas)).map
        (fun c => if c = ',' then '.' else c) = field.toList := by
      intro field member
      rw [List.map_map]
      refine (List.map_congr_left fun c inField => ?_).trans (List.map_id _)
      obtain ⟨_, noComma, _⟩ := plain field member c inField
      by_cases point : c = '.'
      · subst point
        rfl
      · change (if (if c = '.' then ',' else c) = ',' then '.' else if c = '.' then ',' else c) = c
        rw [if_neg point, if_neg noComma]
    have each : (fieldsOf ';' (trim line.toList)).map
        (fun field => (trim field).map fun c => if c = ',' then '.' else c) =
          fields.map String.toList := by
      calc (fieldsOf ';' (trim line.toList)).map
            (fun field => (trim field).map fun c => if c = ',' then '.' else c)
          = ((fieldsOf ';' (trim line.toList)).map trim).map
              (List.map fun c => if c = ',' then '.' else c) := by rw [List.map_map]; rfl
        _ = fields.map String.toList := by
            rw [trimmed, List.map_map]
            exact List.map_congr_left back
    rw [if_pos (semicolon.2 rfl), each, List.map_map]
    exact List.map_id'' (fun field => String.ofList_toList) fields

end

/-! ## Dates and times of day -/

/-- The characters that may stand between the numbers of a date. -/
def dateMarks : List Char := ['/', '-', '.']

/-- The form of a date with this character between its numbers. -/
def dateForm (mark : Char) : List Part :=
  [.day, .mark mark, .month, .mark mark, .shortYear]

/-- The form of a time of day: hours and minutes with a colon between them. -/
def clockForm : List Part :=
  [.hour, .mark ':', .minute]

section

variable {moment : Moment} {mark : Char}

theorem toList_write_dateForm (valid : moment.date.isValid = true) (mark : Char) :
    (write (dateForm mark) moment).toList =
      [Nat.digitChar (moment.date.day / 10), Nat.digitChar (moment.date.day % 10), mark,
        Nat.digitChar (moment.date.month / 10), Nat.digitChar (moment.date.month % 10), mark,
        Nat.digitChar (moment.date.year % 100 / 10),
        Nat.digitChar (moment.date.year % 100 % 10)] := by
  obtain ⟨_, _, _, month, _, _⟩ := (Date.isValid_iff _).1 valid
  have day := day_le valid
  simp only [write, dateForm, List.map_cons, List.map_nil, Part.write, String.join, List.foldl_cons,
    List.foldl_nil, String.toList_append]
  rw [toList_twoDigits (by omega), toList_twoDigits (by omega), toList_twoDigits (by omega),
    Char.toString_eq_singleton, String.toList_singleton]
  rfl

theorem toList_write_clockForm (valid : moment.IsValid) :
    (write clockForm moment).toList =
      [Nat.digitChar (moment.hour / 10), Nat.digitChar (moment.hour % 10)] ++ ':' ::
        [Nat.digitChar (moment.minute / 10), Nat.digitChar (moment.minute % 10)] := by
  have hour := valid.hour
  have minute := valid.minute
  simp only [write, clockForm, List.map_cons, List.map_nil, Part.write, String.join,
    List.foldl_cons, List.foldl_nil, String.toList_append]
  rw [toList_twoDigits (by omega), toList_twoDigits (by omega)]
  rfl

/-- A date of the years with two digits is read back from its text. -/
theorem read?_slashDate (valid : moment.date.isValid = true)
    (first : firstShortYear ≤ moment.date.year) (last : moment.date.year ≤ lastShortYear)
    {text : String} (chars : text.toList = (write (dateForm '/') moment).toList) :
    read? slashDate text = some (.ofDate moment.date) := by
  obtain ⟨_, _, firstMonth, lastMonth, firstDay, _⟩ := (Date.isValid_iff _).1 valid
  have day := takes_dayForm firstDay (day_le valid)
  have month := takes_monthForm firstMonth lastMonth
  have digits := readDigits?_twoDigits (Nat.mod_lt moment.date.year (by decide : 100 > 0))
  have parts : readParts? slashDate (Moment.ofDate ⟨1900, 1, 1⟩) text.toList =
      some (.ofDate ⟨yearOfTwo (moment.date.year % 100), moment.date.month, moment.date.day⟩,
        []) := by
    rw [chars, toList_write_dateForm valid]
    refine (readParts?_cons (by rw [Part.read?, NumberForm.read?_twoDigits day]; rfl) _).trans ?_
    refine (readParts?_cons (by rw [Part.read?]; rfl) _).trans ?_
    refine (readParts?_cons (by rw [Part.read?, NumberForm.read?_twoDigits month]; rfl) _).trans ?_
    refine (readParts?_cons (by rw [Part.read?]; rfl) _).trans ?_
    refine (readParts?_cons (by rw [Part.read?, digits]; rfl) _).trans ?_
    rfl
  rw [yearOfTwo_mod first last] at parts
  have isValid : Date.isValid ⟨moment.date.year, moment.date.month, moment.date.day⟩ = true := valid
  rw [read?, parts]
  simp only [Option.bind_eq_bind, Option.bind_some, List.isEmpty_nil, Moment.ofDate, isValid]
  rfl

/-- A date is read back with any character between its numbers. -/
theorem readDate_write (valid : moment.date.isValid = true)
    (first : firstShortYear ≤ moment.date.year) (last : moment.date.year ≤ lastShortYear)
    (listed : mark ∈ dateMarks) :
    readDate (write (dateForm mark) moment) = .ok (.ofDate moment.date) := by
  have slashes : ((write (dateForm mark) moment).toList.map
      fun c => if c = '-' || c = '.' then '/' else c) = (write (dateForm '/') moment).toList := by
    obtain ⟨_, _, _, month, _, _⟩ := (Date.isValid_iff _).1 valid
    have day := day_le valid
    have digit : ∀ n < 10, (if Nat.digitChar n = '-' || Nat.digitChar n = '.' then '/'
        else Nat.digitChar n) = Nat.digitChar n := by decide
    have slash : ∀ mark ∈ dateMarks, (if mark = '-' || mark = '.' then '/' else mark) = '/' := by
      simp [dateMarks]
    rw [toList_write_dateForm valid, toList_write_dateForm valid]
    simp only [List.map_cons, List.map_nil]
    rw [slash mark listed, digit _ (by omega), digit _ (by omega), digit _ (by omega),
      digit _ (by omega), digit _ (by omega), digit _ (by omega)]
  rw [readDate, slashes, read?_slashDate valid first last (String.toList_ofList)]

/-- A time of day is read back from its text. -/
theorem atTime_write (valid : moment.IsValid) (day : Moment) :
    atTime day (write clockForm moment) =
      .ok { day with hour := moment.hour, minute := moment.minute } := by
  have number : ∀ n < 60, timeNumber (String.ofList
      [Nat.digitChar (n / 10), Nat.digitChar (n % 10)]) = .ok (n : Int) := by decide
  have hour := valid.hour
  have minute := valid.minute
  have parts : splitFields ':' (write clockForm moment) =
      [String.ofList [Nat.digitChar (moment.hour / 10), Nat.digitChar (moment.hour % 10)],
        String.ofList
          [Nat.digitChar (moment.minute / 10), Nat.digitChar (moment.minute % 10)]] := by
    have free : ∀ n < 100, ':' ∉ [Nat.digitChar (n / 10), Nat.digitChar (n % 10)] := by
      decide
    rw [splitFields, toList_write_clockForm valid, fieldsOf_append,
      fieldsOf_of_not_mem (free _ (by omega)), fieldsOf_of_not_mem (free _ (by omega))]
    rfl
  have fits : ∀ n : Nat, n < 60 → fitsTime (n : Int) = true := by decide
  have inDay : (0 ≤ (moment.hour : Int) && (moment.hour : Int) < 24 &&
      0 ≤ (moment.minute : Int) && (moment.minute : Int) < 60) = true := by
    simp only [Bool.and_eq_true, decide_eq_true_eq]
    omega
  rw [atTime, parts]
  refine bind_eq_ok.2 ⟨moment.hour, number _ (by omega), ?_⟩
  refine bind_eq_ok.2 ⟨moment.minute, number _ minute, ?_⟩
  rw [fits _ (by omega), fits _ minute, if_neg (by decide), if_pos inDay, Int.toNat_natCast,
    Int.toNat_natCast]

end

/-! ## Lines -/

/-- The number of fields that say the time of a line. -/
def Kind.timeFields : Kind → Nat
  | daily => 1
  | monthly => 2

/-- The least number of fields behind those that say the time. -/
def Kind.leastFurther : Kind → Nat
  | daily => 21
  | monthly => 13

/-- The fields that say the time of a line: the date, and in the logs of the months the time
of day. -/
def Kind.timeTexts (kind : Kind) (mark : Char) (moment : Moment) : List String :=
  match kind with
  | daily => [write (dateForm mark) moment]
  | monthly => [write (dateForm mark) moment, write clockForm moment]

/-- The time that the fields of a line say. -/
def Kind.timeSaid (kind : Kind) (moment : Moment) : Moment :=
  match kind with
  | daily => .ofDate moment.date
  | monthly => moment

/-- The values are the numbers in the fields behind those that say the time: one under each
name of a number that has a field, and fields without a name are left out. -/
structure AreNumbersOf (kind : Kind) (further : List String)
    (values : List (String × Option Binary64)) : Prop where
  names : values.map Prod.fst =
    (kind.fields.take (kind.timeFields + further.length)).filter isNumberField
  numbers : ∀ (i : Nat) (name text : String), kind.fields[kind.timeFields + i]? = some name →
    isNumberField name = true → further[i]? = some text →
      values.lookup name = some (Binary64.read? text)

section

variable {kind : Kind} {moment : Moment} {mark : Char} {further fields : List String}

theorem length_timeTexts (kind : Kind) (mark : Char) (moment : Moment) :
    (kind.timeTexts mark moment).length = kind.timeFields := by
  cases kind <;> rfl

theorem map_fst_numbersOf (kind : Kind) (fields : List String) :
    (numbersOf kind fields).map Prod.fst =
      (kind.fields.take fields.length).filter isNumberField := by
  have named : (kind.fields.zip fields).map Prod.fst = kind.fields.take fields.length := by
    rw [List.zip_eq_zip_take_min, List.map_fst_zip (by simp), Nat.min_comm, ← List.take_take,
      List.take_length]
  rw [numbersOf, List.map_map, ← named, List.filter_map]
  rfl

theorem nodup_fields (kind : Kind) : kind.fields.Nodup := by
  cases kind <;> decide

/-- The numbers of a line do not depend on how its time is written. -/
theorem numbersOf_timeTexts (kind : Kind) (mark : Char) (moment : Moment) (further : List String) :
    numbersOf kind (kind.timeTexts mark moment ++ further) =
      numbersOf kind (List.replicate kind.timeFields "" ++ further) := by
  cases kind <;> rfl

theorem areNumbersOf_numbersOf (kind : Kind) (further : List String) :
    AreNumbersOf kind further (numbersOf kind (List.replicate kind.timeFields "" ++ further)) := by
  have names := map_fst_numbersOf kind (List.replicate kind.timeFields "" ++ further)
  rw [List.length_append, List.length_replicate] at names
  refine ⟨names, fun i name text named isNumber here => ?_⟩
  have distinct : ((numbersOf kind (List.replicate kind.timeFields "" ++ further)).map
      Prod.fst).Nodup := by
    rw [names]
    exact ((List.take_sublist _ _).nodup (nodup_fields kind)).filter _
  refine (Data.mem_iff_lookup distinct).1 (List.mem_map.2 ⟨(name, text), ?_, rfl⟩)
  refine List.mem_filter.2 ⟨List.mem_of_getElem? (i := kind.timeFields + i) ?_, isNumber⟩
  refine List.getElem?_zip_eq_some.2 ⟨named, ?_⟩
  rw [List.getElem?_append_right (by simp), List.length_replicate, Nat.add_sub_cancel_left]
  exact here

theorem isPlainField_timeTexts (valid : moment.IsValid) (listed : mark ∈ dateMarks) :
    ∀ field ∈ kind.timeTexts mark moment, IsPlainField field := by
  have digit : ∀ n < 10, isBlank (Nat.digitChar n) = false ∧ Nat.digitChar n ≠ ',' ∧
      Nat.digitChar n ≠ ';' := by decide
  have marks : ∀ mark ∈ dateMarks, isBlank mark = false ∧ mark ≠ ',' ∧ mark ≠ ';' := by
    simp only [dateMarks, List.forall_mem_cons]
    exact ⟨by decide, by decide, by decide, fun _ member => absurd member List.not_mem_nil⟩
  have date : IsPlainField (write (dateForm mark) moment) := by
    obtain ⟨_, _, _, month, _, _⟩ := (Date.isValid_iff _).1 valid.date
    have day := day_le valid.date
    rw [IsPlainField, toList_write_dateForm valid.date]
    simp only [List.forall_mem_cons]
    exact ⟨digit _ (by omega), digit _ (by omega), marks mark listed, digit _ (by omega),
      digit _ (by omega), marks mark listed, digit _ (by omega), digit _ (by omega),
      fun _ member => absurd member List.not_mem_nil⟩
  have clock : IsPlainField (write clockForm moment) := by
    have hour := valid.hour
    have minute := valid.minute
    rw [IsPlainField, toList_write_clockForm valid]
    simp only [List.cons_append, List.nil_append, List.forall_mem_cons]
    exact ⟨digit _ (by omega), digit _ (by omega), by decide, digit _ (by omega),
      digit _ (by omega), fun _ member => absurd member List.not_mem_nil⟩
  cases kind with
  | daily => exact List.forall_mem_singleton.2 date
  | monthly => exact List.forall_mem_cons.2 ⟨date, List.forall_mem_singleton.2 clock⟩

/-- The time of a line is read back. -/
theorem timeOf_timeTexts (minute : moment.IsMinute) (first : firstShortYear ≤ moment.date.year)
    (last : moment.date.year ≤ lastShortYear) (listed : mark ∈ dateMarks) :
    timeOf kind (kind.timeTexts mark moment ++ further) = .ok (kind.timeSaid moment) := by
  have date := readDate_write minute.valid.date first last listed
  cases kind with
  | daily => exact bind_eq_ok.2 ⟨_, date, rfl⟩
  | monthly =>
    refine bind_eq_ok.2 ⟨_, date, (atTime_write minute.valid _).trans ?_⟩
    obtain ⟨_, second, micro⟩ := minute
    cases moment
    dsimp only at second micro
    subst second micro
    rfl

end

/-- A line in either notation is read as the time and the numbers that were written. -/
theorem readLine_of_writes (kind : Kind) {moment : Moment} (minute : moment.IsMinute)
    (first : firstShortYear ≤ moment.date.year) (last : moment.date.year ≤ lastShortYear)
    {further : List String} (long : kind.leastFurther ≤ further.length)
    (plain : ∀ field ∈ further, IsPlainField field) :
    ∃ entry : Entry, entry.time = kind.timeSaid moment ∧ AreNumbersOf kind further entry.values ∧
      ∀ mark ∈ dateMarks, ∀ (style : Style) (line : String),
        style.Writes (kind.timeTexts mark moment ++ further) line →
          readLine kind line = .ok entry := by
  refine ⟨⟨kind.timeSaid moment, _⟩, rfl, areNumbersOf_numbersOf kind further, ?_⟩
  intro mark listed style line writes
  have enough : kind.leastFields ≤ (kind.timeTexts mark moment ++ further).length := by
    rw [List.length_append, length_timeTexts]
    cases kind with
    | daily => exact Nat.add_le_add_left long 1
    | monthly => exact Nat.add_le_add_left long 2
  have several : 2 ≤ kind.leastFields := by cases kind <;> decide
  have fields := splitLine_of_writes writes
    (List.forall_mem_append.2 ⟨isPlainField_timeTexts minute.valid listed, plain⟩) (by omega)
  rw [readLine, fields, if_neg (Nat.not_lt_of_le enough)]
  refine bind_eq_ok.2 ⟨_, timeOf_timeTexts minute first last listed, ?_⟩
  rw [numbersOf_timeTexts]
  rfl

/-- The fields behind the time of a line. The second one is empty and the third one is no
number. -/
def sampleFields : List String :=
  ["5.1", "", "n/a", "2.3", "4.4", "270", "0.0", "1.2", "1013.2", "81.0", "21.0", "45", "3.9"]

/-- The first of March 2024, at ten past eight. -/
def sampleTime : Moment := { date := ⟨2024, 3, 1⟩, hour := 8, minute := 10 }

/-- A line with points and one with commas are read as the same time and the same numbers. -/
theorem readLine_sampleLines :
    (sampleTime.IsMinute ∧ firstShortYear ≤ sampleTime.date.year ∧
      sampleTime.date.year ≤ lastShortYear ∧ Kind.monthly.leastFurther ≤ sampleFields.length ∧
      ∀ field ∈ sampleFields, IsPlainField field) ∧
    ∃ entry : Entry, entry.time = sampleTime ∧
      entry.values.lookup "CurrTemp" = some (Binary64.read? "5.1") ∧
      entry.values.lookup "CurrRH" = some none ∧ entry.values.lookup "CurrDewpoint" = some none ∧
      readLine .monthly "01/03/24,08:10,5.1,,n/a,2.3,4.4,270,0.0,1.2,1013.2,81.0,21.0,45,3.9" =
        .ok entry ∧
      readLine .monthly ("01-03-24 ;08:10 ;5,1 ; ;n/a ;2,3 ;4,4 ;270 ;0,0 ;1,2 ;1013,2 ;81,0 ;" ++
        "21,0 ;45 ;3,9 ") = .ok entry := by
  have minute : sampleTime.IsMinute := by decide
  have plain : ∀ field ∈ sampleFields, IsPlainField field := by decide
  obtain ⟨entry, time, numbers, reads⟩ :=
    readLine_of_writes .monthly minute (by decide) (by decide) (by decide) plain
  have points := Style.points.writes_of_blanks
    (Kind.monthly.timeTexts '/' sampleTime ++ sampleFields) [] [] (List.forall_mem_nil _)
    (List.forall_mem_nil _)
  have commas := Style.commas.writes_of_blanks
    (Kind.monthly.timeTexts '-' sampleTime ++ sampleFields) [] [' '] (List.forall_mem_nil _)
    (List.forall_mem_singleton.2 (by decide))
  have value := fun i name text => numbers.numbers i name text
  refine ⟨⟨minute, by decide, by decide, by decide, plain⟩, entry, time, ?_, ?_, ?_, ?_, ?_⟩
  · exact value 0 "CurrTemp" "5.1" rfl (by decide) rfl
  · exact value 1 "CurrRH" "" rfl (by decide) rfl
  · exact (value 2 "CurrDewpoint" "n/a" rfl (by decide) rfl).trans (by decide)
  · refine reads '/' (by decide) .points _ ?_
    convert points using 1
    decide
  · refine reads '-' (by decide) .commas _ ?_
    convert commas using 1
    decide

end Meteogram.Log
