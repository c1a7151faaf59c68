import Mathlib.Data.List.Basic
import Mathlib.Data.List.TakeWhile
import Meteogram.Proofs.Number.WrittenNumbers

/-!
# JSON texts

The grammar of JSON texts (`IsJson`). The text of a finite number is a number of the grammar
(`isNumber_text`), and the letter N stands in no JSON text but in strings (`marks_of_isJson`), so
that what is written for a value that is no number can be told from JSON texts.
-/

set_option autoImplicit false

namespace Meteogram.Data.Json

open Number (Binary64)
open Number.Binary64 (positional scientific withoutZeros zeros digits_zeros powerDigits
  digits_powerDigits)

/-! ## The grammar -/

/-- Blanks between the parts of a text. -/
def IsGap (cs : List Char) : Prop := ∀ c ∈ cs, c ∈ [' ', '\n', '\r', '\t']

/-- A row of digits. -/
structure IsDigits (cs : List Char) : Prop where
  notEmpty : cs ≠ []
  digits : ∀ c ∈ cs, c.isDigit = true

/-- The whole part of a number: a single zero, or digits that do not begin with a zero. -/
inductive IsWhole : List Char → Prop
  | zero : IsWhole ['0']
  | digits {cs : List Char} (isDigits : IsDigits cs) (noZero : cs.head? ≠ some '0') : IsWhole cs

/-- The digits behind the point. -/
inductive IsFraction : List Char → Prop
  | none : IsFraction []
  | digits {cs : List Char} (isDigits : IsDigits cs) : IsFraction ('.' :: cs)

/-- The power of ten behind a number. -/
inductive IsPower : List Char → Prop
  | none : IsPower []
  | digits {mark : Char} {sign cs : List Char} (isMark : mark ∈ ['e', 'E'])
      (isSign : sign ∈ [[], ['+'], ['-']]) (isDigits : IsDigits cs) :
      IsPower (mark :: (sign ++ cs))

/-- A number. -/
inductive IsNumber : List Char → Prop
  | parts {sign whole fraction power : List Char} (isSign : sign ∈ [[], ['-']])
      (isWhole : IsWhole whole) (isFraction : IsFraction fraction) (isPower : IsPower power) :
      IsNumber (sign ++ (whole ++ (fraction ++ power)))

/-- A character of a string as it is written. -/
inductive IsCharacter : List Char → Prop
  | plain {c : Char} (printable : 32 ≤ c.toNat) (noQuote : c ≠ '"') (noSlash : c ≠ '\\') :
      IsCharacter [c]
  | escape {c : Char} (isMark : c ∈ ['"', '\\', '/', 'b', 'f', 'n', 'r', 't']) :
      IsCharacter ['\\', c]
  | unit {digits : List Char} (four : digits.length = 4)
      (isHex : ∀ c ∈ digits, c ∈ "0123456789abcdefABCDEF".toList) :
      IsCharacter ('\\' :: 'u' :: digits)

/-- A string. -/
inductive IsString : List Char → Prop
  | characters {list : List (List Char)} (each : ∀ one ∈ list, IsCharacter one) :
      IsString ('"' :: (list.flatten ++ ['"']))

/-- The kinds of phrases. -/
inductive Kind where
  | value
  /-- A value between blanks. -/
  | element
  /-- Elements with commas between them. -/
  | elements
  /-- Names with elements, and commas between them. -/
  | members

/-- A phrase of the grammar. A whole text is an element. -/
inductive IsJson : Kind → List Char → Prop
  | word {cs : List Char} (isWord : cs ∈ ["null".toList, "true".toList, "false".toList]) :
      IsJson .value cs
  | number {cs : List Char} (isNumber : IsNumber cs) : IsJson .value cs
  | string {cs : List Char} (isString : IsString cs) : IsJson .value cs
  | emptyArray {gap : List Char} (isGap : IsGap gap) : IsJson .value ('[' :: (gap ++ [']']))
  | array {cs : List Char} (inside : IsJson .elements cs) : IsJson .value ('[' :: (cs ++ [']']))
  | emptyObject {gap : List Char} (isGap : IsGap gap) :
      IsJson .value ('\x7b' :: (gap ++ ['\x7d']))
  | object {cs : List Char} (inside : IsJson .members cs) :
      IsJson .value ('\x7b' :: (cs ++ ['\x7d']))
  | element {before cs after : List Char} (isGap : IsGap before) (value : IsJson .value cs)
      (isGap' : IsGap after) : IsJson .element (before ++ (cs ++ after))
  | lastElement {cs : List Char} (element : IsJson .element cs) : IsJson .elements cs
  | elements {cs rest : List Char} (element : IsJson .element cs) (more : IsJson .elements rest) :
      IsJson .elements (cs ++ ',' :: rest)
  | lastMember {before name after cs : List Char} (isGap : IsGap before) (isName : IsString name)
      (isGap' : IsGap after) (element : IsJson .element cs) :
      IsJson .members (before ++ (name ++ (after ++ ':' :: cs)))
  | members {before name after cs rest : List Char} (isGap : IsGap before)
      (isName : IsString name) (isGap' : IsGap after) (element : IsJson .element cs)
      (more : IsJson .members rest) :
      IsJson .members (before ++ (name ++ (after ++ ':' :: (cs ++ ',' :: rest))))

/-! ## What stands outside of strings -/

/-- Where a reader of a text is. -/
inductive Mode where
  | outside
  /-- In a string. -/
  | inside
  /-- In a string, behind a backslash. -/
  | escaped

/-- The letter N stands outside of strings. -/
def hasMark : Mode → List Char → Bool
  | _, [] => false
  | .outside, c :: cs => c == 'N' || hasMark (if c = '"' then .inside else .outside) cs
  | .inside, c :: cs =>
    hasMark (if c = '"' then .outside else if c = '\\' then .escaped else .inside) cs
  | .escaped, _ :: cs => hasMark .inside cs

/-- The characters leave a reader outside of strings, and the letter N is among them or not. -/
def Marks (marked : Bool) (cs : List Char) : Prop :=
  ∀ rest, hasMark .outside (cs ++ rest) = (marked || hasMark .outside rest)

theorem marks_nil : Marks false [] := fun _ => rfl

theorem Marks.append {marked marked' : Bool} {cs cs' : List Char} (first : Marks marked cs)
    (second : Marks marked' cs') : Marks (marked || marked') (cs ++ cs') := by
  intro rest
  rw [List.append_assoc, first, second, Bool.or_assoc]

theorem marks_cons {marked : Bool} {c : Char} {cs : List Char} (noQuote : c ≠ '"') (noMark : c ≠ 'N')
    (behind : Marks marked cs) : Marks marked (c :: cs) := by
  intro rest
  rw [List.cons_append, hasMark, if_neg noQuote, beq_eq_false_iff_ne.2 noMark, Bool.false_or, behind]

/-- Characters that are neither the letter nor a quotation mark. -/
theorem marks_of_plain {cs : List Char} (plain : ∀ c ∈ cs, c ≠ '"' ∧ c ≠ 'N') : Marks false cs := by
  induction cs with
  | nil => exact marks_nil
  | cons c cs ih =>
    rw [List.forall_mem_cons] at plain
    exact marks_cons plain.1.1 plain.1.2 (ih plain.2)

theorem marks_of_isGap {cs : List Char} (isGap : IsGap cs) : Marks false cs := by
  have blanks : ∀ c ∈ [' ', '\n', '\r', '\t'], c ≠ '"' ∧ c ≠ 'N' := by simp
  exact marks_of_plain fun c member => blanks c (isGap c member)

theorem plain_of_isDigits {cs : List Char} (digits : ∀ c ∈ cs, c.isDigit = true) :
    ∀ c ∈ cs, c ≠ '"' ∧ c ≠ 'N' := by
  intro c member
  have digit := digits c member
  constructor <;> rintro rfl <;> exact absurd digit (by decide)

theorem marks_of_isNumber {cs : List Char} (isNumber : IsNumber cs) : Marks false cs := by
  obtain ⟨isSign, isWhole, isFraction, isPower⟩ := isNumber
  rename_i sign whole fraction power
  have signs : ∀ sign ∈ [[], ['+'], ['-']], ∀ c ∈ sign, c ≠ '"' ∧ c ≠ 'N' := by simp
  have signs' : ∀ sign ∈ [[], ['-']], ∀ c ∈ sign, c ≠ '"' ∧ c ≠ 'N' := by simp
  have letters : ∀ mark ∈ ['e', 'E'], mark ≠ '"' ∧ mark ≠ 'N' := by simp
  have marksWhole : Marks false whole := by
    cases isWhole with
    | zero => exact marks_of_plain (by simp)
    | digits isDigits _ => exact marks_of_plain (plain_of_isDigits isDigits.digits)
  have marksFraction : Marks false fraction := by
    cases isFraction with
    | none => exact marks_nil
    | digits isDigits =>
      exact marks_cons (by decide) (by decide) (marks_of_plain (plain_of_isDigits isDigits.digits))
  have marksPower : Marks false power := by
    cases isPower with
    | none => exact marks_nil
    | digits isMark isSign isDigits =>
      exact marks_cons (letters _ isMark).1 (letters _ isMark).2
        ((marks_of_plain (signs _ isSign)).append
          (marks_of_plain (plain_of_isDigits isDigits.digits)))
  exact (marks_of_plain (signs' _ isSign)).append
    (marksWhole.append (marksFraction.append marksPower))

/-- A character of a string leaves a reader in the string. -/
theorem hasMark_inside_of_isCharacter {one : List Char} (isCharacter : IsCharacter one)
    (rest : List Char) : hasMark .inside (one ++ rest) = hasMark .inside rest := by
  cases isCharacter with
  | plain printable noQuote noSlash =>
    rw [List.singleton_append, hasMark, if_neg noQuote, if_neg noSlash]
  | escape isMark => rfl
  | unit four isHex =>
    rename_i digits
    have inside : ∀ c ∈ "0123456789abcdefABCDEF".toList, c ≠ '"' ∧ c ≠ '\\' := by simp
    have digit : ∀ cs : List Char, (∀ c ∈ cs, c ∈ "0123456789abcdefABCDEF".toList) →
        hasMark .inside (cs ++ rest) = hasMark .inside rest := by
      intro cs isHex
      induction cs with
      | nil => rfl
      | cons c cs ih =>
        rw [List.forall_mem_cons] at isHex
        rw [List.cons_append, hasMark, if_neg (inside c isHex.1).1, if_neg (inside c isHex.1).2,
          ih isHex.2]
    exact digit digits isHex

theorem marks_of_isString {cs : List Char} (isString : IsString cs) : Marks false cs := by
  obtain ⟨each⟩ := isString
  rename_i list
  intro rest
  have inside : hasMark .inside (list.flatten ++ '"' :: rest) = hasMark .outside rest := by
    induction list with
    | nil => rfl
    | cons one list ih =>
      rw [List.forall_mem_cons] at each
      rw [List.flatten_cons, List.append_assoc, hasMark_inside_of_isCharacter each.1, ih each.2]
  rw [List.cons_append, List.append_assoc, Bool.false_or, ← inside]
  rfl

/-- The letter N stands in no JSON text but in strings. -/
theorem marks_of_isJson {kind : Kind} {cs : List Char} (isJson : IsJson kind cs) : Marks false cs := by
  induction isJson with
  | word isWord =>
    have words : ∀ word ∈ ["null".toList, "true".toList, "false".toList],
        ∀ c ∈ word, c ≠ '"' ∧ c ≠ 'N' := by simp
    exact marks_of_plain (words _ isWord)
  | number isNumber => exact marks_of_isNumber isNumber
  | string isString => exact marks_of_isString isString
  | emptyArray isGap | emptyObject isGap =>
    exact marks_cons (by decide) (by decide)
      ((marks_of_isGap isGap).append (marks_of_plain (by simp)))
  | array _ ih | object _ ih =>
    exact marks_cons (by simp) (by simp) (ih.append (marks_of_plain (by simp)))
  | element isGap _ isGap' ih => exact (marks_of_isGap isGap).append (ih.append (marks_of_isGap isGap'))
  | lastElement _ ih => exact ih
  | elements _ _ ih ih' => exact ih.append (marks_cons (by decide) (by decide) ih')
  | lastMember isGap isName isGap' _ ih =>
    exact (marks_of_isGap isGap).append ((marks_of_isString isName).append
      ((marks_of_isGap isGap').append (marks_cons (by decide) (by decide) ih)))
  | members isGap isName isGap' _ _ ih ih' =>
    exact (marks_of_isGap isGap).append ((marks_of_isString isName).append
      ((marks_of_isGap isGap').append (marks_cons (by decide) (by decide)
        (ih.append (marks_cons (by decide) (by decide) ih')))))

/-! ## Numbers as they are written -/

theorem isDigits_toDigits (n : Nat) : IsDigits (Nat.toDigits 10 n) :=
  ⟨Nat.toDigits_ne_nil, fun _ => Nat.isDigit_of_mem_toDigits (by decide) (by decide)⟩

/-- Only zero is written with a zero in front. -/
theorem head?_toDigits {n : Nat} (notZero : n ≠ 0) : (Nat.toDigits 10 n).head? ≠ some '0' := by
  induction n using Nat.strongRecOn with
  | ind n ih =>
    by_cases single : n < 10
    · rw [Nat.toDigits_of_lt_base single, List.head?_cons]
      simpa using notZero
    · rw [Nat.toDigits_of_base_le (by decide) (by omega),
        List.head?_append_of_ne_nil _ Nat.toDigits_ne_nil]
      exact ih (n / 10) (by omega) (by omega)

theorem isWhole_toDigits (n : Nat) : IsWhole (Nat.toDigits 10 n) := by
  by_cases zero : n = 0
  · subst zero
    exact .zero
  · exact .digits (isDigits_toDigits n) (head?_toDigits zero)

/-- A whole number is written as a number of the grammar. -/
theorem isNumber_toString (number : Int) : IsNumber (toString number).toList := by
  cases number with
  | ofNat n =>
    have text : (toString (Int.ofNat n)).toList = [] ++ (Nat.toDigits 10 n ++ ([] ++ [])) := by
      rw [List.nil_append, List.nil_append, List.append_nil]
      exact Nat.toList_repr
    rw [text]
    exact .parts (by decide) (isWhole_toDigits n) .none .none
  | negSucc n =>
    have text : (toString (Int.negSucc n)).toList =
        ['-'] ++ (Nat.toDigits 10 (n + 1) ++ ([] ++ [])) := by
      rw [List.nil_append, List.append_nil, ← Nat.toList_repr]
      exact String.toList_append
    rw [text]
    exact .parts (by decide) (isWhole_toDigits (n + 1)) .none .none

/-- A number that is the sum of a sign, its digits with a point and a power of ten. -/
inductive IsMagnitude : List Char → Prop
  | parts {whole fraction power : List Char} (isWhole : IsWhole whole)
      (isFraction : IsFraction fraction) (isPower : IsPower power) :
      IsMagnitude (whole ++ (fraction ++ power))

section

variable {digits : List Char} (isDigits : IsDigits digits) (noZero : digits.head? ≠ some '0')

include isDigits noZero

theorem isMagnitude_positional (point : Int) : IsMagnitude (positional digits point) := by
  rw [positional]
  split
  · have fraction : IsDigits (zeros (-point).toNat ++ digits) :=
      ⟨List.append_ne_nil_of_right_ne_nil _ isDigits.notEmpty,
        List.forall_mem_append.2 ⟨digits_zeros _, isDigits.digits⟩⟩
    have parts := IsMagnitude.parts .zero (.digits fraction) .none
    rw [List.append_nil] at parts
    exact parts
  · next positive =>
    split
    · have whole : IsWhole (digits ++ zeros (point.toNat - digits.length)) := by
        refine .digits ⟨List.append_ne_nil_of_left_ne_nil isDigits.notEmpty _,
          List.forall_mem_append.2 ⟨isDigits.digits, digits_zeros _⟩⟩ ?_
        rwa [List.head?_append_of_ne_nil _ isDigits.notEmpty]
      have fraction : IsFraction ['.', '0'] := .digits ⟨List.cons_ne_nil _ _, by simp⟩
      exact .parts whole fraction .none
    · next long =>
      have places : point.toNat ≠ 0 := by omega
      have whole : IsWhole (digits.take point.toNat) := by
        refine .digits ⟨fun none => ?_, fun c member => isDigits.digits c (List.mem_of_mem_take member)⟩
          ?_
        · rcases List.take_eq_nil_iff.1 none with zero | empty
          · exact places zero
          · exact isDigits.notEmpty empty
        · rwa [List.head?_take, if_neg places]
      have fraction : IsDigits (digits.drop point.toNat) :=
        ⟨fun none => long (List.drop_eq_nil_iff.1 none),
          fun c member => isDigits.digits c (List.mem_of_mem_drop member)⟩
      have parts := IsMagnitude.parts whole (.digits fraction) .none
      rw [List.append_nil] at parts
      exact parts

theorem isMagnitude_scientific (power : Int) : IsMagnitude (scientific digits power) := by
  have whole : IsWhole (digits.take 1) := by
    refine .digits ⟨fun none => ?_, fun c member => isDigits.digits c (List.mem_of_mem_take member)⟩ ?_
    · rcases List.take_eq_nil_iff.1 none with zero | empty
      · cases zero
      · exact isDigits.notEmpty empty
    · rwa [List.head?_take, if_neg (by decide)]
  obtain ⟨behind, fraction, same⟩ : ∃ behind, IsFraction behind ∧ scientific digits power =
      digits.take 1 ++ behind ++ ['e', if power < 0 then '-' else '+'] ++
        zeros (2 - (toString power.natAbs).toList.length) ++ (toString power.natAbs).toList := by
    refine ⟨_, ?_, rfl⟩
    split
    · exact .none
    · next notNone =>
      exact .digits ⟨notNone, fun c member => isDigits.digits c (List.mem_of_mem_drop member)⟩
  have text : (toString power.natAbs).toList = Nat.toDigits 10 power.natAbs := Nat.toList_repr
  have size : IsDigits (powerDigits power) :=
    ⟨List.append_ne_nil_of_right_ne_nil _ Nat.toDigits_ne_nil, digits_powerDigits power⟩
  have isPower : IsPower ('e' :: ([if power < 0 then '-' else '+'] ++ powerDigits power)) := by
    refine .digits (by decide) ?_ size
    split <;> decide
  have parts := IsMagnitude.parts whole fraction isPower
  rw [powerDigits] at parts
  rw [same, text]
  simp only [List.append_assoc, List.cons_append, List.nil_append] at parts ⊢
  exact parts

end

/-- Digits without the zeros at their end still begin as they did. -/
theorem withoutZeros_of_head? {digits : List Char} (isDigits : IsDigits digits)
    (noZero : digits.head? ≠ some '0') :
    IsDigits (withoutZeros digits) ∧ (withoutZeros digits).head? ≠ some '0' := by
  have isPrefix : withoutZeros digits <+: digits := by
    rw [withoutZeros, ← List.reverse_suffix, List.reverse_reverse]
    exact List.dropWhile_suffix _
  have notEmpty : withoutZeros digits ≠ [] := by
    intro none
    rw [withoutZeros, List.reverse_eq_nil_iff, List.dropWhile_eq_nil_iff] at none
    cases digits with
    | nil => exact isDigits.notEmpty rfl
    | cons c cs =>
      have isZero := none c (List.mem_reverse.2 List.mem_cons_self)
      rw [beq_iff_eq] at isZero
      exact noZero (congrArg some isZero)
  refine ⟨⟨notEmpty, fun c member => isDigits.digits c (isPrefix.subset member)⟩, ?_⟩
  obtain ⟨rest, same⟩ := isPrefix
  rwa [← same, List.head?_append_of_ne_nil _ notEmpty] at noZero

/-! ## The shortest text -/

/-- The text of a pattern is a number without its sign. -/
theorem isMagnitude_magnitudeText (bits : Nat) : IsMagnitude (Binary64.magnitudeText bits) := by
  have fraction : IsFraction ['.', '0'] := .digits ⟨List.cons_ne_nil _ _, by simp⟩
  have zero : IsMagnitude ['0', '.', '0'] := .parts .zero fraction .none
  rw [Binary64.magnitudeText]
  split
  · exact zero
  · next notZero =>
    have text : (toString (Binary64.shortest bits).significand).toList =
        Nat.toDigits 10 (Binary64.shortest bits).significand := Nat.toList_repr
    obtain ⟨isDigits, noZero⟩ := withoutZeros_of_head?
      (isDigits_toDigits (Binary64.shortest bits).significand)
      (head?_toDigits (Binary64.significand_shortest_ne_zero notZero))
    dsimp only
    rw [text]
    split
    · exact isMagnitude_positional isDigits noZero _
    · exact isMagnitude_scientific isDigits noZero _

/-- A finite number is written as a number of the grammar. -/
theorem isNumber_text {number : Binary64} (finite : number.IsFinite) :
    IsNumber number.text.toList := by
  obtain ⟨negative, bits, rfl⟩ := finite
  have magnitude := isMagnitude_magnitudeText bits
  rw [Binary64.text, String.toList_ofList]
  generalize Binary64.magnitudeText bits = cs at magnitude ⊢
  obtain ⟨isWhole, isFraction, isPower⟩ := magnitude
  have noSign : ([] : List Char) ∈ [[], ['-']] := by decide
  have minus : ['-'] ∈ [[], ['-']] := by decide
  cases negative with
  | true => exact .parts minus isWhole isFraction isPower
  | false => exact .parts noSign isWhole isFraction isPower

/-! ## Lists with commas -/

/-- The texts with commas between them. -/
def joined (list : List (List Char)) : List Char := [','].intercalate list

theorem joined_cons_cons (one other : List Char) (rest : List (List Char)) :
    joined (one :: other :: rest) = one ++ ',' :: joined (other :: rest) := by
  rw [joined, List.intercalate_cons_cons, List.append_assoc]
  rfl

theorem joined_singleton (one : List Char) : joined [one] = one := List.intercalate_singleton

theorem marks_joined {α : Type} {text : α → List Char} {marked : α → Bool} {list : List α}
    (each : ∀ a ∈ list, Marks (marked a) (text a)) :
    Marks (list.any marked) (joined (list.map text)) := by
  induction list with
  | nil => exact marks_nil
  | cons a list ih =>
    rw [List.forall_mem_cons] at each
    rw [List.any_cons]
    cases list with
    | nil =>
      rw [List.map_singleton, joined_singleton, List.any_nil, Bool.or_false]
      exact each.1
    | cons b list =>
      rw [List.map_cons, List.map_cons, joined_cons_cons]
      exact each.1.append (marks_cons (by decide) (by decide) (ih each.2))

theorem isElement_of_value {cs : List Char} (value : IsJson .value cs) : IsJson .element cs := by
  have none : IsGap [] := fun _ member => (by cases member)
  have element := IsJson.element none value none
  rwa [List.nil_append, List.append_nil] at element

/-- Values with commas between them are the inside of an array. -/
theorem isJson_array {list : List (List Char)} (each : ∀ one ∈ list, IsJson .value one) :
    IsJson .value ('[' :: (joined list ++ [']'])) := by
  have elements : ∀ (one : List Char) (rest : List (List Char)),
      (∀ item ∈ one :: rest, IsJson .value item) → IsJson .elements (joined (one :: rest)) := by
    intro one rest each
    induction rest generalizing one with
    | nil =>
      rw [joined_singleton]
      exact .lastElement (isElement_of_value (each one List.mem_cons_self))
    | cons other rest ih =>
      rw [List.forall_mem_cons] at each
      rw [joined_cons_cons]
      exact .elements (isElement_of_value each.1) (ih other each.2)
  cases list with
  | nil => exact .emptyArray fun _ member => (by cases member)
  | cons one rest => exact .array (elements one rest each)

/-- Names with values and commas between them are the inside of an object. -/
theorem isJson_object {list : List (List Char × List Char)}
    (each : ∀ pair ∈ list, IsString pair.1 ∧ IsJson .value pair.2) :
    IsJson .value ('\x7b' :: (joined (list.map fun pair => pair.1 ++ ':' :: pair.2) ++ ['\x7d'])) := by
  have none : IsGap [] := fun _ member => (by cases member)
  have members : ∀ (one : List Char × List Char) (rest : List (List Char × List Char)),
      (∀ pair ∈ one :: rest, IsString pair.1 ∧ IsJson .value pair.2) →
      IsJson .members (joined ((one :: rest).map fun pair => pair.1 ++ ':' :: pair.2)) := by
    intro one rest each
    induction rest generalizing one with
    | nil =>
      obtain ⟨isName, value⟩ := each one List.mem_cons_self
      rw [List.map_singleton, joined_singleton]
      exact .lastMember none isName none (isElement_of_value value)
    | cons other rest ih =>
      rw [List.forall_mem_cons] at each
      have more := IsJson.members none each.1.1 none (isElement_of_value each.1.2) (ih other each.2)
      rw [List.map_cons, List.map_cons, joined_cons_cons, List.append_assoc]
      exact more
  cases list with
  | nil => exact .emptyObject none
  | cons one rest => exact .object (members one rest each)

end Meteogram.Data.Json
