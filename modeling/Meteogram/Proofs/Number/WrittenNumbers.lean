import Meteogram.Proofs.Number.ShortestDecimal
import Meteogram.Proofs.Number.WholeNumbers

/-!
# Numbers read back from their texts

The text of a finite number is that of its shortest decimal, written with a point in its place or
with a power of ten. Both forms are read as this decimal (`Denotes`). So each finite number is read
back from its text (`read?_text`).
-/

set_option autoImplicit false

namespace Meteogram.Number.Binary64

open Text

variable {bits : Nat}

/-! ## Reading decimal numbers -/

theorem ofDigits_map (run : List Char) :
    ofDigits (run.map fun c => c.toNat - 48) = Nat.ofDigitChars 10 run 0 := by
  rw [ofDigits, List.foldl_map, Nat.ofDigitChars_eq_foldl]
  rfl

theorem run_append {p : Char → Bool} {run rest : List Char} (inRun : ∀ c ∈ run, p c = true)
    (apart : ∀ c ∈ rest.head?, p c = false) :
    (run ++ rest).takeWhile p = run ∧ (run ++ rest).dropWhile p = rest := by
  rw [List.takeWhile_append_of_pos inRun, List.dropWhile_append_of_pos inRun]
  cases rest with
  | nil => simp
  | cons c cs => simp [apart c rfl]

/-- The characters are the text of a decimal number without a sign. -/
structure Denotes (cs : List Char) (d : Decimal) : Prop where
  reads : ∀ negative, readUnsigned? negative cs = some (.decimal negative d.significand d.exponent)
  noBlanks : ∀ c ∈ cs, isBlank c = false
  first : ∀ c ∈ cs.head?, c.isDigit = true

theorem isBlank_of_isDigit {c : Char} (digit : c.isDigit = true) : isBlank c = false := by
  have bounds := (isDigit_iff c).1 digit
  simp only [isBlank, Bool.or_eq_false_iff, Bool.and_eq_false_iff, decide_eq_false_iff_not,
    beq_eq_false_iff_ne]
  omega

theorem optionalDigits?_of_digits {run : List Char} (digits : ∀ c ∈ run, c.isDigit = true) :
    optionalDigits? run = some (run.map fun c => c.toNat - 48) := by
  rw [optionalDigits?]
  cases run with
  | nil => rfl
  | cons c cs => exact digitsOfRun?_of_digits (List.cons_ne_nil c cs) digits

section

variable {whole point fraction tail : List Char} {power : Int} (notEmpty : whole ≠ [])
  (digits : ∀ c ∈ whole, c.isDigit = true) (digits' : ∀ c ∈ fraction, c.isDigit = true)
  (isPoint : point = '.' :: fraction ∨ point = [] ∧ fraction = [])
  (isMark : ∀ c ∈ tail.head?, c = 'e') (isPower : readExponent? tail = some power)

include notEmpty digits digits' isPoint isMark isPower

/-- Digits, a point with further digits, and a power of ten are read. -/
theorem readUnsigned?_of_parts (negative : Bool) :
    readUnsigned? negative (whole ++ (point ++ tail)) = some (.decimal negative
      (Nat.ofDigitChars 10 (whole ++ fraction) 0) (power - fraction.length)) := by
  have behind : ∀ c ∈ tail.head?, isDigitOrBar c = false := by
    intro c isHead
    rw [isMark c isHead]
    decide
  have apart : ∀ c ∈ (point ++ tail).head?, isDigitOrBar c = false := by
    rcases isPoint with rfl | ⟨rfl, -⟩
    · rintro _ ⟨⟩
      decide
    · exact behind
  obtain ⟨taken, dropped⟩ :=
    run_append (fun c member => isDigitOrBar_of_isDigit (digits c member)) apart
  have some : ((whole.map fun c => c.toNat - 48).isEmpty &&
      (fraction.map fun c => c.toNat - 48).isEmpty) = false := by
    simp [notEmpty]
  have value : ofDigits ((whole.map fun c => c.toNat - 48) ++ fraction.map fun c => c.toNat - 48) =
      Nat.ofDigitChars 10 (whole ++ fraction) 0 := by
    rw [← List.map_append, ofDigits_map]
  rw [readUnsigned?, taken, dropped, optionalDigits?_of_digits digits, Option.bind_eq_bind,
    Option.bind_some]
  rcases isPoint with rfl | ⟨rfl, rfl⟩
  · obtain ⟨taken, dropped⟩ :=
      run_append (fun c member => isDigitOrBar_of_isDigit (digits' c member)) behind
    simp only [List.cons_append, taken, dropped, optionalDigits?_of_digits digits', isPower, some,
      value, Option.bind_eq_bind, Option.bind_some, Option.pure_def, List.length_map,
      Bool.false_eq_true, if_false]
  · have noPoint : ∀ after, tail = '.' :: after → False := by
      rintro after rfl
      exact absurd (isMark '.' rfl) (by decide)
    simp only [List.nil_append, optionalDigits?_of_digits digits', isPower, some, value,
      Option.bind_eq_bind, Option.bind_some, Option.pure_def, List.length_map, Bool.false_eq_true,
      if_false]

theorem denotes_of_parts (noBlanks : ∀ c ∈ tail, isBlank c = false) :
    Denotes (whole ++ (point ++ tail))
      ⟨Nat.ofDigitChars 10 (whole ++ fraction) 0, power - fraction.length⟩ := by
  have inPoint : ∀ c ∈ point, isBlank c = false := by
    rcases isPoint with rfl | ⟨rfl, -⟩
    · exact List.forall_mem_cons.2
        ⟨by decide, fun c member => isBlank_of_isDigit (digits' c member)⟩
    · exact List.forall_mem_nil _
  refine ⟨readUnsigned?_of_parts notEmpty digits digits' isPoint isMark isPower,
    List.forall_mem_append.2 ⟨fun c member => isBlank_of_isDigit (digits c member),
      List.forall_mem_append.2 ⟨inPoint, noBlanks⟩⟩, fun c isHead => ?_⟩
  rw [List.head?_append_of_ne_nil _ notEmpty] at isHead
  exact digits c (List.mem_of_mem_head? isHead)

end

/-- Digits and a point with further digits are read. -/
theorem denotes_of_point {whole fraction : List Char} (notEmpty : whole ≠ [])
    (digits : ∀ c ∈ whole, c.isDigit = true) (digits' : ∀ c ∈ fraction, c.isDigit = true) :
    Denotes (whole ++ '.' :: fraction)
      ⟨Nat.ofDigitChars 10 (whole ++ fraction) 0, -(fraction.length : ℤ)⟩ := by
  have noTail : ∀ c ∈ ([] : List Char).head?, c = 'e' := fun _ isHead => by cases isHead
  have noBlanks : ∀ c ∈ ([] : List Char), isBlank c = false := fun _ member => by cases member
  have denotes := denotes_of_parts notEmpty digits digits' (.inl rfl) noTail rfl noBlanks
  rwa [List.append_nil, zero_sub] at denotes

/-! ## Decimal numbers as they are written -/

theorem digits_zeros (count : Nat) : ∀ c ∈ zeros count, c.isDigit = true := by
  intro c member
  rw [List.eq_of_mem_replicate member]
  rfl

theorem ofDigitChars_zeros (count init : Nat) :
    Nat.ofDigitChars 10 (zeros count) init = 10 ^ count * init :=
  Nat.ofDigitChars_replicate_zero

theorem readExponent?_of_digits {sign : Char} {run : List Char} {negative : Bool}
    (isSign : readSign (sign :: run) = (negative, run)) (notEmpty : run ≠ [])
    (digits : ∀ c ∈ run, c.isDigit = true) :
    readExponent? ('e' :: sign :: run) = some (if negative then
      -(Nat.ofDigitChars 10 run 0 : Int) else (Nat.ofDigitChars 10 run 0 : Int)) := by
  have inRun : run.all isDigitOrBar = true :=
    List.all_eq_true.2 fun c member => isDigitOrBar_of_isDigit (digits c member)
  rw [readExponent?, if_pos (by decide), isSign]
  dsimp only
  rw [if_pos inRun, digitsOfRun?_of_digits notEmpty digits, Option.map_some, ofDigits_map]

/-- The digits of a power of ten as they are written, at least two. -/
def powerDigits (power : Int) : List Char :=
  zeros (2 - (Nat.toDigits 10 power.natAbs).length) ++ Nat.toDigits 10 power.natAbs

theorem digits_powerDigits (power : Int) : ∀ c ∈ powerDigits power, c.isDigit = true :=
  List.forall_mem_append.2 ⟨digits_zeros _, fun _ member =>
    Nat.isDigit_of_mem_toDigits (by decide) (by decide) member⟩

/-- A power of ten is read back as it is written. -/
theorem readExponent?_powerDigits (power : Int) :
    readExponent? ('e' :: (if power < 0 then '-' else '+') :: powerDigits power) = some power := by
  have isSign : readSign ((if power < 0 then '-' else '+') :: powerDigits power) =
      (decide (power < 0), powerDigits power) := by
    by_cases below : power < 0
    · rw [if_pos below, decide_eq_true below]
      rfl
    · rw [if_neg below, decide_eq_false below]
      rfl
  have notEmpty : powerDigits power ≠ [] :=
    List.append_ne_nil_of_right_ne_nil _ Nat.toDigits_ne_nil
  rw [readExponent?_of_digits isSign notEmpty (digits_powerDigits power), powerDigits,
    Nat.ofDigitChars_append, ofDigitChars_zeros, Nat.mul_zero, Nat.ofDigitChars_ten_toDigits]
  congr 1
  split
  · next below =>
    rw [decide_eq_true_eq] at below
    omega
  · next notBelow =>
    rw [decide_eq_true_eq] at notBelow
    omega

section

variable {digits : List Char} (notEmpty : digits ≠ []) (areDigits : ∀ c ∈ digits, c.isDigit = true)

include notEmpty areDigits

theorem exists_denotes_positional (point : Int) : ∃ d, Denotes (positional digits point) d ∧
    d.value = Nat.ofDigitChars 10 digits 0 * 10 ^ (point - digits.length) := by
  rw [positional]
  split
  · next zero =>
    have fraction := List.forall_mem_append.2 ⟨digits_zeros (-point).toNat, areDigits⟩
    have written := denotes_of_point (List.cons_ne_nil '0' []) (by simp) fraction
    refine ⟨_, written, ?_⟩
    have same : -((zeros (-point).toNat ++ digits).length : ℤ) = point - digits.length := by
      rw [List.length_append, zeros, List.length_replicate]
      omega
    rw [Decimal.value, same, List.singleton_append, Nat.ofDigitChars_cons, Nat.ofDigitChars_append,
      ofDigitChars_zeros]
    simp
  · next positive =>
    split
    · next wide =>
      have whole :=
        List.forall_mem_append.2 ⟨areDigits, digits_zeros (point.toNat - digits.length)⟩
      refine ⟨_, denotes_of_point (List.append_ne_nil_of_left_ne_nil notEmpty _) whole
        (by simp : ∀ c ∈ ['0'], c.isDigit = true), ?_⟩
      have exponent : point - digits.length = ((point.toNat - digits.length : Nat) : ℤ) := by omega
      rw [Decimal.value, exponent, Nat.ofDigitChars_append, Nat.ofDigitChars_append,
        ofDigitChars_zeros, Nat.ofDigitChars_cons, Nat.ofDigitChars_nil, zpow_natCast]
      push_cast
      norm_num
      ring
    · next narrow =>
      have some : digits.take point.toNat ≠ [] := by
        intro none
        rcases List.take_eq_nil_iff.1 none with zero | empty
        · omega
        · exact notEmpty empty
      have front : ∀ c ∈ digits.take point.toNat, c.isDigit = true :=
        fun c member => areDigits c (List.mem_of_mem_take member)
      have behind : ∀ c ∈ digits.drop point.toNat, c.isDigit = true :=
        fun c member => areDigits c (List.mem_of_mem_drop member)
      refine ⟨_, denotes_of_point some front behind, ?_⟩
      rw [Decimal.value, List.take_append_drop, List.length_drop]
      dsimp only
      congr 2
      omega

theorem exists_denotes_scientific (power : Int) : ∃ d, Denotes (scientific digits power) d ∧
    d.value = Nat.ofDigitChars 10 digits 0 * 10 ^ (power + 1 - digits.length) := by
  obtain ⟨point, isPoint, same⟩ : ∃ point,
      (point = '.' :: digits.drop 1 ∨ point = [] ∧ digits.drop 1 = []) ∧
      scientific digits power = digits.take 1 ++ point ++ ['e', if power < 0 then '-' else '+'] ++
        zeros (2 - (toString power.natAbs).toList.length) ++ (toString power.natAbs).toList := by
    refine ⟨_, ?_, rfl⟩
    split
    · next none => exact .inr ⟨rfl, none⟩
    · exact .inl rfl
  have size : (toString power.natAbs).toList = Nat.toDigits 10 power.natAbs := Nat.toList_repr
  have some : digits.take 1 ≠ [] := by
    intro none
    rcases List.take_eq_nil_iff.1 none with zero | empty
    · cases zero
    · exact notEmpty empty
  have front : ∀ c ∈ digits.take 1, c.isDigit = true :=
    fun c member => areDigits c (List.mem_of_mem_take member)
  have back : ∀ c ∈ digits.drop 1, c.isDigit = true :=
    fun c member => areDigits c (List.mem_of_mem_drop member)
  have noBlanks : ∀ c ∈ 'e' :: (if power < 0 then '-' else '+') :: powerDigits power,
      isBlank c = false :=
    List.forall_mem_cons.2 ⟨by decide, List.forall_mem_cons.2 ⟨by split <;> decide,
      fun c member => isBlank_of_isDigit (digits_powerDigits power c member)⟩⟩
  have written := denotes_of_parts some front back isPoint (by simp)
    (readExponent?_powerDigits power) noBlanks
  rw [powerDigits] at written
  rw [same, size]
  simp only [List.append_assoc, List.cons_append, List.nil_append] at written ⊢
  refine ⟨_, written, ?_⟩
  have length : 0 < digits.length := List.length_pos_of_ne_nil notEmpty
  rw [Decimal.value, List.take_append_drop, List.length_drop]
  dsimp only
  congr 2
  omega

end

/-- Digits are those without the zeros at their end, and some zeros. -/
theorem exists_zeros (digits : List Char) :
    ∃ count, digits = withoutZeros digits ++ zeros count := by
  refine ⟨(digits.reverse.takeWhile fun digit => digit == '0').length, ?_⟩
  have areZeros : digits.reverse.takeWhile (fun digit => digit == '0') =
      zeros (digits.reverse.takeWhile fun digit => digit == '0').length :=
    List.eq_replicate_of_mem fun c member => by simpa using List.mem_takeWhile_imp member
  rw [withoutZeros, zeros, ← List.reverse_replicate, ← zeros, ← areZeros, ← List.reverse_append,
    List.takeWhile_append_dropWhile, List.reverse_reverse]

/-! ## Numbers as they are written -/

/-- The text of a pattern is that of its shortest decimal. -/
theorem exists_denotes_magnitudeText (notZero : bits ≠ 0) :
    ∃ d, Denotes (magnitudeText bits) d ∧ d.value = (shortest bits).value := by
  have text : (toString (shortest bits).significand).toList =
      Nat.toDigits 10 (shortest bits).significand := Nat.toList_repr
  obtain ⟨count, split⟩ := exists_zeros (Nat.toDigits 10 (shortest bits).significand)
  have whole : (shortest bits).significand = 10 ^ count *
      Nat.ofDigitChars 10 (withoutZeros (Nat.toDigits 10 (shortest bits).significand)) 0 := by
    rw [← ofDigitChars_zeros, ← Nat.ofDigitChars_append, ← split, Nat.ofDigitChars_ten_toDigits]
  have length := congrArg List.length split
  rw [List.length_append, zeros, List.length_replicate] at length
  have areDigits : ∀ c ∈ withoutZeros (Nat.toDigits 10 (shortest bits).significand),
      c.isDigit = true := by
    intro c member
    refine Nat.isDigit_of_mem_toDigits (b := 10) (n := (shortest bits).significand) (by decide)
      (by decide) ?_
    rw [split]
    exact List.mem_append_left _ member
  have notEmpty : withoutZeros (Nat.toDigits 10 (shortest bits).significand) ≠ [] := by
    intro none
    rw [none, Nat.ofDigitChars_nil, Nat.mul_zero] at whole
    exact significand_shortest_ne_zero notZero whole
  have value : (shortest bits).value = Nat.ofDigitChars 10 (withoutZeros
      (Nat.toDigits 10 (shortest bits).significand)) 0 *
        10 ^ ((shortest bits).exponent + (count : ℤ)) := by
    rw [Decimal.value, zpow_add₀ (by norm_num), zpow_natCast]
    nth_rewrite 1 [whole]
    push_cast
    ring
  rw [magnitudeText, if_neg notZero]
  dsimp only
  rw [text, value]
  split
  · obtain ⟨d, denotes, same⟩ := exists_denotes_positional notEmpty areDigits
      ((shortest bits).exponent + ((Nat.toDigits 10 (shortest bits).significand).length : ℤ))
    refine ⟨d, denotes, same.trans ?_⟩
    congr 2
    omega
  · obtain ⟨d, denotes, same⟩ := exists_denotes_scientific notEmpty areDigits
      ((shortest bits).exponent + ((Nat.toDigits 10 (shortest bits).significand).length : ℤ) - 1)
    refine ⟨d, denotes, same.trans ?_⟩
    congr 2
    omega

/-- The text of a decimal number is read behind its sign. -/
theorem Denotes.readReal?_eq {cs : List Char} {d : Decimal} (denotes : Denotes cs d)
    (negative : Bool) : readReal? (String.ofList (if negative then '-' :: cs else cs)) =
      some (.decimal negative d.significand d.exponent) := by
  have noLetter : ∀ c ∈ cs.head?, isLetter c = false := by
    intro c isHead
    have bounds := (isDigit_iff c).1 (denotes.first c isHead)
    rw [isLetter_of_ascii (by omega), Char.isAlpha, Bool.or_eq_false_iff, Bool.eq_false_iff,
      Bool.eq_false_iff, ne_eq, ne_eq, isUpper_iff, isLower_iff]
    omega
  rw [← denotes.reads negative]
  cases negative with
  | true =>
    refine readReal?_of_noLetter ?_ rfl noLetter
    exact List.forall_mem_cons.2 ⟨by decide, denotes.noBlanks⟩
  | false =>
    refine readReal?_of_noLetter denotes.noBlanks (readSign_of_head? fun c isHead => ?_) noLetter
    have digit := denotes.first c isHead
    constructor
    · rintro rfl
      cases digit
    · rintro rfl
      cases digit

/-- A finite number is read back from its text. -/
theorem read?_text {negative : Bool} (finite : bits < infiniteBits) :
    read? (text (.finite negative bits)) = some (.finite negative bits) := by
  rw [text, read?]
  by_cases zero : bits = 0
  · subst zero
    have denotes : Denotes ['0', '.', '0'] ⟨0, -1⟩ :=
      denotes_of_point (List.cons_ne_nil '0' []) (by simp) (by simp : ∀ c ∈ ['0'], c.isDigit = true)
    rw [magnitudeText, if_pos rfl, denotes.readReal?_eq]
    rfl
  · obtain ⟨d, denotes, value⟩ := exists_denotes_magnitudeText zero
    have near := isNear_shortest zero
    rw [← value] at near
    rw [denotes.readReal?_eq, Option.map_some, ofNumeral,
      ofDecimal_of_isNear negative zero finite near]

end Meteogram.Number.Binary64
