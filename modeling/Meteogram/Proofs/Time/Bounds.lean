import Meteogram.Proofs.Time.Written

/-!
# Times that are read exist

The numbers of a written time are bounded by the form that they are read in, so that what is read
as a last upload time exists, to the minute (`isMinute_of_read?`). Its year has two digits, so
there is a minute after it (`exists_next_of_read?`).
-/

set_option autoImplicit false

namespace Meteogram.Time

open Text

/-! ## Bounds of what is read -/

theorem toNat_sub_le_of_isDigit {c : Char} (isDigit : c.isDigit = true) : c.toNat - 48 ≤ 9 := by
  have last : c.toNat ≤ 57 := (Char.isDigit_iff_toNat.1 isDigit).2
  omega

theorem plainDigit?_le {c : Char} {digit : Nat} (found : plainDigit? c = some digit) :
    digit ≤ 9 := by
  rw [plainDigit?] at found
  split at found
  · next isDigit =>
    obtain rfl := Option.some.inj found
    exact toNat_sub_le_of_isDigit isDigit
  · cases found

theorem decimalValue?_le {c : Char} {digit : Nat} (found : decimalValue? c = some digit) :
    digit ≤ 9 := by
  rw [decimalValue?] at found
  split at found
  · exact plainDigit?_le found
  · obtain ⟨start, listed, rfl⟩ := Option.map_eq_some_iff.1 found
    have inRun := List.find?_some listed
    rw [Bool.and_eq_true, decide_eq_true_eq, decide_eq_true_eq] at inRun
    omega

/-- No number of this form is greater. -/
structure NumberForm.IsBounded (form : NumberForm) (most : Nat) : Prop where
  single : 9 ≤ most
  free : ∀ first ∈ form.free, 10 * first + 9 ≤ most
  closed : ∀ range ∈ form.closed, 10 * range.1 + range.2.2 ≤ most

section

variable {form : NumberForm} {most n : Nat} {cs rest : List Char}

theorem NumberForm.IsBounded.second?_le (bounded : form.IsBounded most) {first second : Nat}
    {c : Char} (found : form.second? first c = some second) : 10 * first + second ≤ most := by
  rw [NumberForm.second?] at found
  split at found
  · next listed =>
    have digit := decimalValue?_le found
    have bound := bounded.free first (List.contains_iff_mem.1 listed)
    omega
  · split at found
    · next listed _ =>
      split at found
      · next within =>
        obtain rfl := Option.some.inj found
        have bound := bounded.closed _ (List.mem_of_find?_eq_some listed)
        have same := List.find?_some listed
        rw [beq_iff_eq] at same
        rw [Bool.and_eq_true, decide_eq_true_eq, decide_eq_true_eq] at within
        dsimp only at bound same
        omega
      · cases found
    · cases found

theorem NumberForm.single?_le {c : Char} (found : form.single? c = some n) : n ≤ 9 := by
  rw [NumberForm.single?] at found
  split at found
  · exact decimalValue?_le found
  · exact plainDigit?_le (Option.filter_eq_some_iff.1 found).1

theorem NumberForm.IsBounded.read?_le (bounded : form.IsBounded most)
    (found : form.read? cs = some (n, rest)) : n ≤ most := by
  have small : ∀ {found? : Option Nat} {rest' : List Char}, (∀ n, found? = some n → n ≤ 9) →
      found?.map (·, rest') = some (n, rest) → n ≤ most := by
    intro found? rest' digits found
    obtain ⟨n', found', same⟩ := Option.map_eq_some_iff.1 found
    obtain ⟨rfl, _⟩ := Prod.mk.inj same
    exact Nat.le_trans (digits n' found') bounded.single
  match cs with
  | [] => cases found
  | [c] => exact small (fun _ => single?_le) found
  | c :: d :: cs =>
    rw [NumberForm.read?] at found
    simp only [Option.orElse_eq_orElse, Option.orElse_eq_or, Option.or_eq_some_iff] at found
    rcases found with two | ⟨_, single | ⟨_, spaced⟩⟩
    · obtain ⟨first, _, two⟩ := Option.bind_eq_some_iff.1 two
      obtain ⟨second, found, same⟩ := Option.map_eq_some_iff.1 two
      obtain ⟨rfl, _⟩ := Prod.mk.inj same
      exact bounded.second?_le found
    · exact small (fun _ => single?_le) single
    · split at spaced
      · exact small (fun _ found => plainDigit?_le (Option.filter_eq_some_iff.1 found).1) spaced
      · cases spaced

theorem isBounded_hourForm : hourForm.IsBounded 23 :=
  ⟨by decide, by decide, by decide⟩

theorem isBounded_minuteForm : minuteForm.IsBounded 59 :=
  ⟨by decide, by decide, by decide⟩

theorem readDigits?_two_le (found : readDigits? 2 0 cs = some (n, rest)) : n ≤ 99 := by
  match cs with
  | [] => cases found
  | [_] =>
    obtain ⟨_, _, stopped⟩ := Option.bind_eq_some_iff.1 found
    cases stopped
  | c :: d :: cs =>
    obtain ⟨first, digit, found⟩ := Option.bind_eq_some_iff.1 found
    obtain ⟨second, digit', same⟩ := Option.bind_eq_some_iff.1 found
    obtain ⟨rfl, _⟩ := Prod.mk.inj (Option.some.inj same)
    have bound := decimalValue?_le digit
    have bound' := decimalValue?_le digit'
    omega

end

/-! ## Times that are read -/

/-- A time of the years that are written with two digits, to the minute, whose date may not be
one. -/
structure IsClock (moment : Moment) : Prop where
  hour : moment.hour < 24
  minute : moment.minute < 60
  second : moment.second = 0
  micro : moment.micro = 0
  last : moment.date.year ≤ lastShortYear

section

variable {sofar next : Moment} {cs rest : List Char}

theorem isClock_of_read? {part : Part} (listed : part ∈ slashMinute) (clock : IsClock sofar)
    (found : part.read? sofar cs = some (next, rest)) : IsClock next := by
  obtain ⟨hour, minute, second, micro, last⟩ := clock
  cases part with
  | day | month =>
    obtain ⟨_, _, same⟩ := Option.map_eq_some_iff.1 found
    obtain ⟨rfl, _⟩ := Prod.mk.inj same
    exact ⟨hour, minute, second, micro, last⟩
  | shortYear =>
    obtain ⟨⟨n, _⟩, digits, same⟩ := Option.map_eq_some_iff.1 found
    obtain ⟨rfl, _⟩ := Prod.mk.inj same
    have bound := readDigits?_two_le digits
    refine ⟨hour, minute, second, micro, ?_⟩
    dsimp only
    rw [yearOfTwo, lastShortYear]
    split <;> omega
  | hour =>
    obtain ⟨⟨n, _⟩, number, same⟩ := Option.map_eq_some_iff.1 found
    obtain ⟨rfl, _⟩ := Prod.mk.inj same
    exact ⟨Nat.lt_succ_of_le (isBounded_hourForm.read?_le number), minute, second, micro, last⟩
  | minute =>
    obtain ⟨⟨n, _⟩, number, same⟩ := Option.map_eq_some_iff.1 found
    obtain ⟨rfl, _⟩ := Prod.mk.inj same
    exact ⟨hour, Nat.lt_succ_of_le (isBounded_minuteForm.read?_le number), second, micro, last⟩
  | mark | gap =>
    cases cs with
    | nil => cases found
    | cons c cs =>
      rw [Part.read?] at found
      split at found
      · cases found
        exact ⟨hour, minute, second, micro, last⟩
      · cases found
  | fullYear | second => exact absurd listed (by decide)

theorem isClock_of_readParts? {parts : List Part} (listed : parts ⊆ slashMinute)
    (clock : IsClock sofar) (found : readParts? parts sofar cs = some (next, rest)) :
    IsClock next := by
  induction parts generalizing sofar cs with
  | nil =>
    cases found
    exact clock
  | cons part parts ih =>
    obtain ⟨listed, listed'⟩ := List.cons_subset.1 listed
    obtain ⟨⟨after, behind⟩, read, found⟩ := Option.bind_eq_some_iff.1 found
    exact ih listed' (isClock_of_read? listed clock read) found

end

section

variable {text : String} {last : Moment}

/-- What is read as a last upload time exists, and its year is written with two digits. -/
theorem isMinute_of_read? (reads : read? slashMinute text = some last) :
    last.IsMinute ∧ last.date.year ≤ lastShortYear := by
  obtain ⟨⟨moment, rest⟩, parts, checked⟩ := Option.bind_eq_some_iff.1 reads
  dsimp only at checked
  split at checked
  · next holds =>
    obtain rfl := Option.some.inj checked
    have start : IsClock (Moment.ofDate ⟨1900, 1, 1⟩) :=
      ⟨by decide, by decide, rfl, rfl, by decide⟩
    have clock := isClock_of_readParts? (List.Subset.refl _) start parts
    rw [Bool.and_eq_true, Bool.and_eq_true] at holds
    refine ⟨⟨⟨holds.1.2, clock.hour, clock.minute, ?_, ?_⟩, clock.second, clock.micro⟩, clock.last⟩
    · exact clock.second ▸ Nat.zero_lt_succ _
    · exact clock.micro ▸ Nat.zero_lt_succ _
  · cases checked

/-- There is a minute after each last upload time. -/
theorem exists_next_of_read? (reads : read? slashMinute text = some last) :
    ∃ next, last.shift 60 = .ok next := by
  obtain ⟨minute, short⟩ := isMinute_of_read? reads
  have day := Date.number_lt minute.valid.date
  have years := daysBeforeYear_mono (Nat.le_add_left 1 _) (Nat.add_le_add_right short 1)
  have calendar : daysBeforeYear (lastShortYear + 1) + 1 ≤ daysBeforeYear (lastYear + 1) := by
    decide
  have hour := minute.valid.hour
  have minute' := minute.valid.minute
  have second := minute.second
  have within : last.seconds + 60 < Moment.endSeconds := by
    rw [Moment.seconds, Moment.endSeconds, Moment.daySeconds]
    omega
  refine ⟨_, if_neg ?_⟩
  rw [Bool.or_eq_true, decide_eq_true_eq, decide_eq_true_eq]
  omega

end

end Meteogram.Time
