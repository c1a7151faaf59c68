import Meteogram.Proofs.Time.Calendar
import Meteogram.Time.Format

/-!
# Written times are read back

The last upload time is kept as a text with two digits for each number. All times of the
years from 1969 to 2068 are read back from it to the minute. The time of the last daily run is
kept with all digits of its year. It is read back to the second if there are four of them.
-/

set_option autoImplicit false

namespace Meteogram.Time

open Text

/-! ## Numbers of two digits -/

theorem toList_twoDigits {n : Nat} (small : n < 100) :
    (twoDigits n).toList = [Nat.digitChar (n / 10), Nat.digitChar (n % 10)] := by
  revert small
  revert n
  decide

/-- The form takes the digits of the number. -/
def NumberForm.Takes (form : NumberForm) (n : Nat) : Prop :=
  plainDigit? (Nat.digitChar (n / 10)) = some (n / 10) ∧
    form.second? (n / 10) (Nat.digitChar (n % 10)) = some (n % 10)

instance (form : NumberForm) (n : Nat) : Decidable (form.Takes n) :=
  inferInstanceAs (Decidable (_ ∧ _))

/-- A number that is written with two digits is read back, whatever follows. -/
theorem NumberForm.read?_twoDigits {form : NumberForm} {n : Nat} (takes : form.Takes n)
    (rest : List Char) :
    form.read? (Nat.digitChar (n / 10) :: Nat.digitChar (n % 10) :: rest) = some (n, rest) := by
  obtain ⟨first, second⟩ := takes
  simp only [read?, first, second, Option.bind_some, Option.map_some, Nat.div_add_mod]
  rfl

theorem takes_dayForm {n : Nat} (least : 1 ≤ n) (most : n ≤ 31) : dayForm.Takes n := by
  have check : ∀ n < 32, 1 ≤ n → dayForm.Takes n := by decide
  exact check n (by omega) least

theorem takes_monthForm {n : Nat} (least : 1 ≤ n) (most : n ≤ 12) : monthForm.Takes n := by
  have check : ∀ n < 13, 1 ≤ n → monthForm.Takes n := by decide
  exact check n (by omega) least

theorem takes_hourForm {n : Nat} (most : n < 24) : hourForm.Takes n := by
  have check : ∀ n < 24, hourForm.Takes n := by decide
  exact check n most

theorem takes_minuteForm {n : Nat} (most : n < 60) : minuteForm.Takes n := by
  have check : ∀ n < 60, minuteForm.Takes n := by decide
  exact check n most

theorem takes_secondForm {n : Nat} (most : n < 60) : secondForm.Takes n := by
  have check : ∀ n < 60, secondForm.Takes n := by decide
  exact check n most

theorem decimalValue?_digit {n : Nat} (digit : n < 10) : decimalValue? (Nat.digitChar n) = some n := by
  have check : ∀ n < 10, decimalValue? (Nat.digitChar n) = some n := by decide
  exact check n digit

theorem readDigits?_twoDigits {n : Nat} (small : n < 100) (rest : List Char) :
    readDigits? 2 0 (Nat.digitChar (n / 10) :: Nat.digitChar (n % 10) :: rest) = some (n, rest) := by
  have first := decimalValue?_digit (by omega : n / 10 < 10)
  have second := decimalValue?_digit (by omega : n % 10 < 10)
  have value : 10 * (n / 10) + n % 10 = n := by omega
  simp [readDigits?, first, second, value]

theorem isBlank_digit {n : Nat} (digit : n < 10) : isBlank (Nat.digitChar n) = false := by
  have check : ∀ n < 10, isBlank (Nat.digitChar n) = false := by decide
  exact check n digit

theorem monthLength_le (year month : Nat) : monthLength year month ≤ 31 := by
  have all : ∀ length ∈ monthLengths year, length ≤ 31 := by
    rw [monthLengths]
    cases isLeap year <;> decide
  rw [monthLength, List.getD_eq_getElem?_getD]
  cases found : (monthLengths year)[month - 1]? with
  | none => exact Nat.zero_le 31
  | some length => exact all length (List.mem_of_getElem? found)

theorem day_le {date : Date} (valid : date.isValid = true) : date.day ≤ 31 := by
  obtain ⟨_, _, _, _, _, last⟩ := (Date.isValid_iff date).1 valid
  exact Nat.le_trans last (monthLength_le _ _)

/-! ## The last upload time -/

/-- The first year that is written with two digits. -/
def firstShortYear : Nat := 1969

/-- The last year that is written with two digits. -/
def lastShortYear : Nat := 2068

/-- A time can be written with two digits for its year. -/
structure IsShort (moment : Moment) : Prop where
  valid : moment.IsValid
  first : firstShortYear ≤ moment.date.year
  last : moment.date.year ≤ lastShortYear

theorem isShort_iff {moment : Moment} : IsShort moment ↔
    moment.IsValid ∧ firstShortYear ≤ moment.date.year ∧ moment.date.year ≤ lastShortYear := by
  constructor
  · rintro ⟨valid, first, last⟩
    exact ⟨valid, first, last⟩
  · rintro ⟨valid, first, last⟩
    exact ⟨valid, first, last⟩

instance (moment : Moment) : Decidable (IsShort moment) := decidable_of_iff' _ isShort_iff

theorem yearOfTwo_mod {year : Nat} (first : firstShortYear ≤ year) (last : year ≤ lastShortYear) :
    yearOfTwo (year % 100) = year := by
  rw [firstShortYear] at first
  rw [lastShortYear] at last
  rw [yearOfTwo]
  split <;> omega

theorem toList_write_slashMinute {moment : Moment} (valid : moment.IsValid) :
    (write slashMinute moment).toList =
      [Nat.digitChar (moment.date.day / 10), Nat.digitChar (moment.date.day % 10), '/',
        Nat.digitChar (moment.date.month / 10), Nat.digitChar (moment.date.month % 10), '/',
        Nat.digitChar (moment.date.year % 100 / 10), Nat.digitChar (moment.date.year % 100 % 10), ' ',
        Nat.digitChar (moment.hour / 10), Nat.digitChar (moment.hour % 10), ':',
        Nat.digitChar (moment.minute / 10), Nat.digitChar (moment.minute % 10)] := by
  obtain ⟨date, hour, minute, _, _⟩ := valid
  obtain ⟨_, _, _, month, _, _⟩ := (Date.isValid_iff _).1 date
  have day := day_le date
  simp only [write, slashMinute, slashDate, List.cons_append, List.nil_append, List.map_cons,
    List.map_nil, Part.write, String.join, List.foldl_cons, List.foldl_nil, String.toList_append]
  rw [toList_twoDigits (by omega), toList_twoDigits (by omega), toList_twoDigits (by omega),
    toList_twoDigits (by omega), toList_twoDigits (by omega)]
  rfl

theorem write_slashMinute_ne {moment : Moment} (valid : moment.IsValid) :
    write slashMinute moment ≠ "" := by
  intro empty
  have text := toList_write_slashMinute valid
  rw [empty] at text
  cases text

theorem percent_notMem_slashMinute {moment : Moment} (valid : moment.IsValid) :
    '%' ∉ (write slashMinute moment).toList := by
  have noDigit : ∀ n < 10, '%' ≠ Nat.digitChar n := by decide
  have noDigit' : ∀ n, '%' ≠ Nat.digitChar (n % 10) := fun n => noDigit _ (Nat.mod_lt n (by decide))
  obtain ⟨_, _, _, month, _, _⟩ := (Date.isValid_iff _).1 valid.date
  have day := day_le valid.date
  have hour := valid.hour
  have minute := valid.minute
  rw [toList_write_slashMinute valid]
  simp only [List.mem_cons, List.not_mem_nil, or_false, not_or]
  refine ⟨noDigit _ (by omega), noDigit' _, by decide, noDigit _ (by omega), noDigit' _, by decide,
    noDigit _ (by omega), noDigit' _, by decide, noDigit _ (by omega), noDigit' _, by decide,
    noDigit _ (by omega), noDigit' _⟩

/-- A part that can be read leaves the other parts to be read behind it. -/
theorem readParts?_cons {part : Part} {sofar next : Moment} {cs rest : List Char}
    (found : part.read? sofar cs = some (next, rest)) (parts : List Part) :
    readParts? (part :: parts) sofar cs = readParts? parts next rest := by
  rw [readParts?, found]
  rfl

/-- A time is read back from its text to the minute. -/
theorem read?_write_slashMinute {moment : Moment} (short : IsShort moment) :
    read? slashMinute (write slashMinute moment) =
      some ⟨moment.date, moment.hour, moment.minute, 0, 0⟩ := by
  obtain ⟨date, hour, minute, _, _⟩ := short.valid
  obtain ⟨_, _, firstMonth, lastMonth, firstDay, _⟩ := (Date.isValid_iff _).1 date
  have day := takes_dayForm firstDay (day_le date)
  have month := takes_monthForm firstMonth lastMonth
  have digits := readDigits?_twoDigits (Nat.mod_lt moment.date.year (by decide : 100 > 0))
  have notBlank := isBlank_digit (by omega : moment.hour / 10 < 10)
  have parts : readParts? slashMinute (Moment.ofDate ⟨1900, 1, 1⟩)
      (write slashMinute moment).toList =
        some (⟨⟨yearOfTwo (moment.date.year % 100), moment.date.month, moment.date.day⟩,
          moment.hour, moment.minute, 0, 0⟩, []) := by
    rw [toList_write_slashMinute short.valid]
    refine (readParts?_cons (by rw [Part.read?, NumberForm.read?_twoDigits day]; rfl) _).trans ?_
    refine (readParts?_cons (by rw [Part.read?]; rfl) _).trans ?_
    refine (readParts?_cons (by rw [Part.read?, NumberForm.read?_twoDigits month]; rfl) _).trans ?_
    refine (readParts?_cons (by rw [Part.read?]; rfl) _).trans ?_
    refine (readParts?_cons (by rw [Part.read?, digits]; rfl) _).trans ?_
    refine (readParts?_cons
      (by rw [Part.read?, List.dropWhile_cons_of_neg (by simp [notBlank])]; rfl) _).trans ?_
    refine (readParts?_cons
      (by rw [Part.read?, NumberForm.read?_twoDigits (takes_hourForm hour)]; rfl) _).trans ?_
    refine (readParts?_cons (by rw [Part.read?]; rfl) _).trans ?_
    refine (readParts?_cons
      (by rw [Part.read?, NumberForm.read?_twoDigits (takes_minuteForm minute)]; rfl) _).trans ?_
    rfl
  rw [yearOfTwo_mod short.first short.last] at parts
  rw [read?, parts]
  have valid : Date.isValid ⟨moment.date.year, moment.date.month, moment.date.day⟩ = true := date
  simp only [Option.bind_eq_bind, Option.bind_some, List.isEmpty_nil, valid]
  rfl

/-! ## The last daily run -/

/-- The first year that is written with four digits. -/
def firstLongYear : Nat := 1000

theorem toList_fourDigits {n : Nat} (first : firstLongYear ≤ n) (last : n ≤ lastYear) :
    (toString n).toList = [Nat.digitChar (n / 1000), Nat.digitChar (n / 100 % 10),
      Nat.digitChar (n / 10 % 10), Nat.digitChar (n % 10)] := by
  rw [firstLongYear] at first
  rw [lastYear] at last
  have digits : (toString n).toList = Nat.toDigits 10 n := Nat.toList_repr
  rw [digits, Nat.toDigits_of_base_le (by decide) (by omega), Nat.toDigits_of_base_le (by decide) (by omega),
    Nat.toDigits_of_base_le (by decide) (by omega), Nat.toDigits_of_lt_base (by omega)]
  simp only [Nat.div_div_eq_div_mul, Nat.reduceMul, List.cons_append, List.nil_append]

theorem readDigits?_fourDigits {n : Nat} (last : n ≤ lastYear) (rest : List Char) :
    readDigits? 4 0 (Nat.digitChar (n / 1000) :: Nat.digitChar (n / 100 % 10) ::
      Nat.digitChar (n / 10 % 10) :: Nat.digitChar (n % 10) :: rest) = some (n, rest) := by
  rw [lastYear] at last
  have thousands := decimalValue?_digit (by omega : n / 1000 < 10)
  have hundreds := decimalValue?_digit (by omega : n / 100 % 10 < 10)
  have tens := decimalValue?_digit (by omega : n / 10 % 10 < 10)
  have ones := decimalValue?_digit (by omega : n % 10 < 10)
  have value : 10 * (10 * (10 * (n / 1000) + n / 100 % 10) + n / 10 % 10) + n % 10 = n := by omega
  simp [readDigits?, thousands, hundreds, tens, ones, value]

section

variable {moment : Moment} (valid : moment.IsValid) (long : firstLongYear ≤ moment.date.year)

include valid long

theorem toList_write_dashSecond :
    (write dashSecond moment).toList =
      [Nat.digitChar (moment.date.year / 1000), Nat.digitChar (moment.date.year / 100 % 10),
        Nat.digitChar (moment.date.year / 10 % 10), Nat.digitChar (moment.date.year % 10), '-',
        Nat.digitChar (moment.date.month / 10), Nat.digitChar (moment.date.month % 10), '-',
        Nat.digitChar (moment.date.day / 10), Nat.digitChar (moment.date.day % 10), 'T',
        Nat.digitChar (moment.hour / 10), Nat.digitChar (moment.hour % 10), ':',
        Nat.digitChar (moment.minute / 10), Nat.digitChar (moment.minute % 10), ':',
        Nat.digitChar (moment.second / 10), Nat.digitChar (moment.second % 10)] := by
  obtain ⟨date, hour, minute, second, _⟩ := valid
  obtain ⟨_, last, _, month, _, _⟩ := (Date.isValid_iff _).1 date
  have day := day_le date
  simp only [write, dashSecond, List.map_cons, List.map_nil, Part.write, String.join,
    List.foldl_cons, List.foldl_nil, String.toList_append]
  rw [toList_fourDigits long last, toList_twoDigits (by omega), toList_twoDigits (by omega),
    toList_twoDigits (by omega), toList_twoDigits (by omega), toList_twoDigits (by omega)]
  rfl

theorem write_dashSecond_ne : write dashSecond moment ≠ "" := by
  intro empty
  have text := toList_write_dashSecond valid long
  rw [empty] at text
  cases text

theorem percent_notMem_dashSecond : '%' ∉ (write dashSecond moment).toList := by
  have noDigit : ∀ n < 10, '%' ≠ Nat.digitChar n := by decide
  have noDigit' : ∀ n, '%' ≠ Nat.digitChar (n % 10) := fun n => noDigit _ (Nat.mod_lt n (by decide))
  obtain ⟨_, last, _, month, _, _⟩ := (Date.isValid_iff _).1 valid.date
  rw [lastYear] at last
  have day := day_le valid.date
  have hour := valid.hour
  have minute := valid.minute
  have second := valid.second
  rw [toList_write_dashSecond valid long]
  simp only [List.mem_cons, List.not_mem_nil, or_false, not_or]
  refine ⟨noDigit _ (by omega), noDigit' _, noDigit' _, noDigit' _, by decide,
    noDigit _ (by omega), noDigit' _, by decide, noDigit _ (by omega), noDigit' _, by decide,
    noDigit _ (by omega), noDigit' _, by decide, noDigit _ (by omega), noDigit' _, by decide,
    noDigit _ (by omega), noDigit' _⟩

/-- A time is read back from its text to the second. -/
theorem read?_write_dashSecond :
    read? dashSecond (write dashSecond moment) = some { moment with micro := 0 } := by
  obtain ⟨date, hour, minute, second, _⟩ := id valid
  obtain ⟨_, last, firstMonth, lastMonth, firstDay, _⟩ := (Date.isValid_iff _).1 date
  have day := takes_dayForm firstDay (day_le date)
  have month := takes_monthForm firstMonth lastMonth
  have parts : readParts? dashSecond (Moment.ofDate ⟨1900, 1, 1⟩)
      (write dashSecond moment).toList = some ({ moment with micro := 0 }, []) := by
    rw [toList_write_dashSecond valid long]
    refine (readParts?_cons (by rw [Part.read?, readDigits?_fourDigits last]; rfl) _).trans ?_
    refine (readParts?_cons (by rw [Part.read?]; rfl) _).trans ?_
    refine (readParts?_cons (by rw [Part.read?, NumberForm.read?_twoDigits month]; rfl) _).trans ?_
    refine (readParts?_cons (by rw [Part.read?]; rfl) _).trans ?_
    refine (readParts?_cons (by rw [Part.read?, NumberForm.read?_twoDigits day]; rfl) _).trans ?_
    refine (readParts?_cons (by rw [Part.read?]; rfl) _).trans ?_
    refine (readParts?_cons
      (by rw [Part.read?, NumberForm.read?_twoDigits (takes_hourForm hour)]; rfl) _).trans ?_
    refine (readParts?_cons (by rw [Part.read?]; rfl) _).trans ?_
    refine (readParts?_cons
      (by rw [Part.read?, NumberForm.read?_twoDigits (takes_minuteForm minute)]; rfl) _).trans ?_
    refine (readParts?_cons (by rw [Part.read?]; rfl) _).trans ?_
    refine (readParts?_cons
      (by rw [Part.read?, NumberForm.read?_twoDigits (takes_secondForm second)]; rfl) _).trans ?_
    rfl
  rw [read?, parts]
  simp [date, second]

end

end Meteogram.Time
