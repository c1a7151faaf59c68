import Meteogram.Proofs.Files.Writing
import Meteogram.Proofs.Log.MonthLogs
import Meteogram.Proofs.Time.Written

/-!
# Logs that can be read

A line that is of the wrong form is left out. The only lines that stop the reading of a log are
those of a month whose time has a number beyond those that a time of day is given in
(`readLine_of_huge`). So the log of days can always be read, and the log of a month exactly
if no line has such a time (`exists_readMonth_iff`).
-/

set_option autoImplicit false

namespace Meteogram.Log

open Text Time

/-! ## Lines -/

/-- A computation that goes on fails exactly if one of its parts does. -/
theorem bind_eq_error {α β : Type} {first : Except Fault α} {next : α → Except Fault β} {fault : Fault} :
    first >>= next = .error fault ↔
      first = .error fault ∨ ∃ a, first = .ok a ∧ next a = .error fault := by
  cases first with
  | error other =>
    refine ⟨fun failed => .inl (congrArg Except.error (Except.error.inj failed)), ?_⟩
    rintro (same | ⟨_, went, _⟩)
    · exact congrArg Except.error (Except.error.inj same)
    · cases went
  | ok a =>
    refine ⟨fun failed => .inr ⟨a, rfl, failed⟩, ?_⟩
    rintro (failed | ⟨_, same, failed⟩)
    · cases failed
    · obtain rfl := Except.ok.inj same
      exact failed

/-- The time of day has an hour or a minute beyond the numbers that it is given in. -/
def IsHugeTime (text : String) : Prop :=
  ∃ hourText minuteText rest hour minute,
    splitFields ':' text = hourText :: minuteText :: rest ∧
      Number.readInt? hourText = some hour ∧ Number.readInt? minuteText = some minute ∧
      (fitsTime hour && fitsTime minute) = false

/-- The line is of the form of a log of a month, but its time of day is huge. -/
structure HasHugeTime (line : String) : Prop where
  /-- There are enough fields. -/
  long : Kind.monthly.leastFields ≤ (splitLine line).length
  /-- The first one is a date. -/
  date : ∃ day, readDate ((splitLine line).headD "") = .ok day
  /-- The second one is not a time of day. -/
  time : IsHugeTime ((splitLine line).getD 1 "")

section

variable {text line : String} {day : Moment} {fault : Fault}

theorem timeNumber_eq_ok_iff {number : Int} :
    timeNumber text = .ok number ↔ Number.readInt? text = some number := by
  rw [timeNumber]
  cases Number.readInt? text with
  | none => exact ⟨fun read => (by cases read), fun read => (by cases read)⟩
  | some found =>
    exact ⟨fun read => congrArg some (Except.ok.inj read),
      fun read => congrArg Except.ok (Option.some.inj read)⟩

theorem timeNumber_error (failed : timeNumber text = .error fault) : fault = .invalidValue := by
  rw [timeNumber] at failed
  cases read : Number.readInt? text with
  | none =>
    rw [read] at failed
    exact (Except.error.inj failed).symm
  | some number =>
    rw [read] at failed
    cases failed

/-- A time of day is of the wrong form, or one of its numbers is out of range. -/
theorem atTime_error (failed : atTime day text = .error fault) :
    fault = .invalidValue ∨ (fault = .outOfRange ∧ IsHugeTime text) := by
  rw [atTime] at failed
  split at failed
  · next hourText minuteText rest parts =>
    rcases bind_eq_error.1 failed with failed | ⟨hour, readHour, failed⟩
    · exact .inl (timeNumber_error failed)
    rcases bind_eq_error.1 failed with failed | ⟨minute, readMinute, failed⟩
    · exact .inl (timeNumber_error failed)
    split at failed
    · next huge =>
      obtain rfl := Except.error.inj failed
      rw [Bool.not_eq_true'] at huge
      exact .inr ⟨rfl, hourText, minuteText, rest, hour, minute, parts,
        timeNumber_eq_ok_iff.1 readHour, timeNumber_eq_ok_iff.1 readMinute, huge⟩
    · split at failed
      · cases failed
      · exact .inl (Except.error.inj failed).symm
  · exact .inl (Except.error.inj failed).symm

theorem atTime_of_huge (huge : IsHugeTime text) : atTime day text = .error .outOfRange := by
  obtain ⟨hourText, minuteText, rest, hour, minute, parts, readHour, readMinute, beyond⟩ := huge
  rw [atTime, parts]
  refine bind_eq_error.2 (.inr ⟨hour, timeNumber_eq_ok_iff.2 readHour, ?_⟩)
  refine bind_eq_error.2 (.inr ⟨minute, timeNumber_eq_ok_iff.2 readMinute, ?_⟩)
  exact if_pos (by rw [beyond]; rfl)

theorem readDate_error (failed : readDate text = .error fault) : fault = .invalidValue := by
  rw [readDate] at failed
  split at failed
  · exact (Except.error.inj failed).symm
  · cases failed

/-- A line that cannot be read is of the wrong form, but for those with huge times. -/
theorem readLine_error {kind : Kind} (failed : readLine kind line = .error fault) :
    isSkippable fault = true ∨ (fault = .outOfRange ∧ kind = .monthly ∧ HasHugeTime line) := by
  rw [readLine] at failed
  split at failed
  · obtain rfl := Except.error.inj failed
    exact .inl rfl
  · next long =>
    rcases bind_eq_error.1 failed with failed | ⟨moment, _, failed⟩
    · rcases bind_eq_error.1 failed with failed | ⟨day, date, failed⟩
      · exact .inl (readDate_error failed ▸ rfl)
      · cases kind with
        | daily => cases failed
        | monthly =>
          rcases atTime_error failed with rfl | ⟨rfl, huge⟩
          · exact .inl rfl
          · exact .inr ⟨rfl, rfl, Nat.le_of_not_lt long, ⟨day, date⟩, huge⟩
    · cases failed

/-- A line of a month whose time is huge stops the reading. -/
theorem readLine_of_huge (huge : HasHugeTime line) : readLine .monthly line = .error .outOfRange := by
  obtain ⟨day, date⟩ := huge.date
  have stops : timeOf .monthly (splitLine line) = .error .outOfRange :=
    bind_eq_error.2 (.inr ⟨day, date, atTime_of_huge huge.time⟩)
  rw [readLine, if_neg (Nat.not_lt_of_le huge.long)]
  exact bind_eq_error.2 (.inl stops)

/-- Only huge times in logs of months stop the reading. -/
theorem readLine_stops_iff {kind : Kind} :
    (∃ fault, readLine kind line = .error fault ∧ isSkippable fault = false) ↔
      kind = .monthly ∧ HasHugeTime line := by
  constructor
  · rintro ⟨fault, failed, notSkipped⟩
    rcases readLine_error failed with skipped | ⟨_, isMonthly, huge⟩
    · exact absurd (notSkipped.symm.trans skipped) Bool.false_ne_true
    · exact ⟨isMonthly, huge⟩
  · rintro ⟨rfl, huge⟩
    exact ⟨_, readLine_of_huge huge, rfl⟩

end

/-! ## Files -/

section

variable {kind : Kind} {path : String}

/-- Lines can be read one after the other if none of them stops the reading. -/
theorem exists_readLines_iff {lines : List (List Char)} {number : Nat} :
    (∃ entries, (readLines kind path number lines).outcome = .ok entries) ↔
      ∀ line ∈ lines, line.all isBlank = false → kind = .monthly →
        ¬ HasHugeTime (String.ofList line) := by
  induction lines generalizing number with
  | nil => exact ⟨fun _ _ member => (by cases member), fun _ => ⟨[], rfl⟩⟩
  | cons line lines ih =>
    rw [List.forall_mem_cons, readLines]
    cases blank : line.all isBlank with
    | true =>
      rw [if_pos rfl, ih]
      exact ⟨fun rest => ⟨fun filled => (by cases filled), rest⟩, And.right⟩
    | false =>
      rw [if_neg Bool.false_ne_true, forall_prop_of_true rfl, ← not_and, ← readLine_stops_iff,
        ← @ih (number + 1)]
      cases read : readLine kind (String.ofList line) with
      | ok entry =>
        have goesOn : ¬ ∃ fault, (.ok entry : Except Fault Entry) = .error fault ∧
            isSkippable fault = false := by
          rintro ⟨_, failed, _⟩
          cases failed
        rw [and_iff_right goesOn]
        constructor
        · rintro ⟨entries, found⟩
          obtain ⟨rest, behind, _⟩ := Report.outcome_bind_eq_ok_iff.1 found
          exact ⟨rest, behind⟩
        · rintro ⟨rest, behind⟩
          exact ⟨entry :: rest, Report.outcome_bind_eq_ok_iff.2 ⟨rest, behind, rfl⟩⟩
      | error fault =>
        dsimp only
        cases skip : isSkippable fault with
        | true =>
          have goesOn : ¬ ∃ other, (.error fault : Except Fault Entry) = .error other ∧
              isSkippable other = false := by
            rintro ⟨_, ⟨⟩, stops⟩
            exact absurd (stops.symm.trans skip) Bool.false_ne_true
          rw [and_iff_right goesOn, if_pos rfl]
          constructor
          · rintro ⟨entries, found⟩
            obtain ⟨_, _, behind⟩ := Report.outcome_bind_eq_ok_iff.1 found
            exact ⟨entries, behind⟩
          · rintro ⟨rest, behind⟩
            exact ⟨rest, Report.outcome_bind_eq_ok_iff.2 ⟨(), rfl, behind⟩⟩
        | false =>
          rw [if_neg Bool.false_ne_true]
          refine iff_of_false ?_ fun both => both.1 ⟨fault, rfl, skip⟩
          rintro ⟨_, stopped⟩
          cases stopped

/-- The lines of a file that are not blank. A missing file has none. -/
def filledLines (files : Files) (path : String) : List String :=
  match files.read path with
  | .ok bytes =>
    ((logLines (decodeLenient bytes)).filter fun line => !line.all isBlank).map String.ofList
  | .error _ => []

/-- There is no directory of this name. -/
def IsNoDirectory (files : Files) (path : String) : Prop :=
  ∀ place, files.locate path ≠ .directory place

theorem exists_readFile_iff {files : Files} (noDirectory : IsNoDirectory files path)
    (there : files.isThere path = true) :
    (∃ entries, (readFile files kind path).outcome = .ok entries) ↔
      ∀ line ∈ filledLines files path, kind = .monthly → ¬ HasHugeTime line := by
  obtain ⟨bytes, read⟩ : ∃ bytes, files.read path = .ok bytes := by
    rw [Files.isThere] at there
    rw [Files.read]
    cases place : files.locate path with
    | file target bytes => exact ⟨bytes, rfl⟩
    | directory target => exact absurd place (noDirectory target)
    | vacant target | noDirectory fault | nowhere fault =>
      rw [place] at there
      cases there
  have lines : (∃ entries, (readFile files kind path).outcome = .ok entries) ↔
      ∃ entries, (readLines kind path 1 (logLines (decodeLenient bytes))).outcome = .ok entries := by
    refine exists_congr fun entries => ?_
    rw [readFile, Report.outcome_bind_eq_ok_iff]
    constructor
    · rintro ⟨bytes', read', found⟩
      obtain rfl : bytes = bytes' := Except.ok.inj (read.symm.trans read')
      exact found
    · exact fun found => ⟨bytes, read, found⟩
  rw [lines, exists_readLines_iff, filledLines, read, List.forall_mem_map]
  simp only [List.mem_filter, Bool.not_eq_true', and_imp]

/-- The log of a month can be read exactly if no line has a huge time. -/
theorem exists_readMonth_iff {files : Files} {directory name : String}
    (noDirectory : IsNoDirectory files (joinName directory name)) :
    (∃ entries, (readMonth files directory name).outcome = .ok entries) ↔
      ∀ line ∈ filledLines files (joinName directory name), ¬ HasHugeTime line := by
  rw [readMonth]
  split
  · next there =>
    rw [exists_readFile_iff noDirectory there]
    exact ⟨fun each line member => each line member rfl, fun each line member _ => each line member⟩
  · next absent =>
    refine ⟨fun _ line member => ?_, fun _ => ⟨[], rfl⟩⟩
    rw [Files.isThere] at absent
    rw [filledLines, Files.read] at member
    cases place : files.locate (joinName directory name) with
    | file target bytes | directory target =>
      rw [place] at absent
      exact absurd rfl absent
    | vacant target | noDirectory fault | nowhere fault =>
      rw [place] at member
      cases member

/-- The log of days can always be read. -/
theorem exists_readDays {files : Files} {directory : String}
    (noDirectory : IsNoDirectory files (joinName directory dayLogName)) :
    ∃ entries, (readDays files directory).outcome = .ok entries := by
  rw [readDays]
  split
  · next there =>
    exact (exists_readFile_iff noDirectory there).2 fun _ _ daily => (by cases daily)
  · exact ⟨[], rfl⟩

end

/-! ## Places of logs -/

/-- A name with a plain last part leads to a directory only if the directory has this name. -/
theorem follow_eq_directory {files : Files} {place target : Path} {outer : List String} {name : String}
    (plain : IsPlainName name) (found : files.follow place (outer ++ [name]) = .directory target) :
    files.isDirectory target = true ∧ target.getLast? = some name := by
  have stops : ∀ {path part rest}, files.stopAt path part rest ≠ .directory target := by
    intro path part rest leads
    cases rest with
    | nil =>
      rw [Files.stopAt] at leads
      split at leads
      · cases leads
      · split at leads <;> cases leads
    | cons _ _ =>
      rw [Files.stopAt] at leads
      split at leads <;> cases leads
  induction outer generalizing place with
  | nil =>
    rw [List.nil_append, Files.follow, if_neg (by simp [plain.notEmpty, plain.notHere]),
      if_neg plain.notBack] at found
    dsimp only at found
    split at found
    · next isDirectory =>
      rw [Files.follow] at found
      obtain rfl := Place.directory.inj found
      exact ⟨isDirectory, List.getLast?_concat⟩
    · exact absurd found stops
  | cons part outer ih =>
    rw [List.cons_append, Files.follow] at found
    split at found
    · exact ih found
    · split at found
      · exact ih found
      · dsimp only at found
        split at found
        · exact ih found
        · exact absurd found stops

/-- A name with a plain last part leads to no directory if no directory has this name. -/
theorem isNoDirectory_of_plain {files : Files} {directory name : String} (plain : IsPlainName name)
    (other : ∀ path, files.isDirectory path = true → path.getLast? ≠ some name) :
    IsNoDirectory files (joinName directory name) := by
  intro target found
  rw [Files.locate] at found
  split at found
  · cases found
  · split at found
    · cases found
    · split at found
      · cases found
      · obtain ⟨outer, parts⟩ := nameParts_joinName directory plain
        rw [parts] at found
        obtain ⟨isDirectory, last⟩ := follow_eq_directory plain found
        exact other target isDirectory last

/-- The name of the log of a month has the name of the month and two digits of the year. -/
theorem toList_monthFile (number : Nat) : ∃ month tens ones, month ∈ monthNames ∧ tens < 10 ∧ ones < 10 ∧
    (monthFile number).toList =
      month.toList ++ Nat.digitChar tens :: Nat.digitChar ones :: "log.txt".toList := by
  have named : number % 12 < monthNames.length := Nat.mod_lt number (by decide)
  refine ⟨monthNames[number % 12], number / 12 % 100 / 10, number / 12 % 100 % 10,
    List.getElem_mem named, by omega, by omega, ?_⟩
  rw [monthFile, List.getD_eq_getElem?_getD, List.getElem?_eq_getElem named, String.toList_append,
    String.toList_append, toList_twoDigits (by omega)]
  simp

theorem isPlainName_monthFile (number : Nat) : IsPlainName (monthFile number) := by
  obtain ⟨month, tens, ones, member, _, _, chars⟩ := toList_monthFile number
  have long : 2 < (monthFile number).toList.length := by
    rw [chars, List.length_append]
    simp
  have apart : ∀ {other : String}, other.toList.length ≤ 2 → monthFile number ≠ other := by
    rintro other short rfl
    exact absurd long (Nat.not_lt_of_le short)
  refine ⟨apart (by decide), apart (by decide), apart (by decide), ?_⟩
  have months : ∀ month ∈ monthNames, '/' ∉ month.toList := by decide
  have digit : ∀ n < 10, '/' ≠ Nat.digitChar n := by decide
  rw [chars, List.mem_append, List.mem_cons, List.mem_cons, not_or, not_or, not_or]
  exact ⟨months month member, digit _ ‹_›, digit _ ‹_›, by decide⟩

end Meteogram.Log
