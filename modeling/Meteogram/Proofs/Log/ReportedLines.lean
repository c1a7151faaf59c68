import Meteogram.Proofs.Log.Notations
import Meteogram.Proofs.Text.Decimals

/-!
# Logs are reported line by line

The reader of logs keeps the entries of all lines that can be read, in the order of the logs
and of the lines in them. Each other line that is not blank has one error, with the number of
the line among all lines of its file, and so has each file that is missing
(`logs_are_reported`). No error stands twice unless a file is read twice. The logs of months
that are a hundred years apart are one file, which is read twice then
(`missing_log_is_reported_twice`).
-/

set_option autoImplicit false

namespace Meteogram.Log

open Text Time

/-! ## Lines of a text -/

/-- No line ends in the text. -/
def IsUnbroken (text : List Char) : Prop :=
  ∀ c ∈ text, c ≠ '\r' ∧ c ≠ '\n'

/-- The end of a line that has this text behind it: a line feed, a carriage return or both. -/
inductive IsLineEnd (behind : List Char) : List Char → Prop
  | feed : IsLineEnd behind ['\n']
  | both : IsLineEnd behind ['\r', '\n']
  | carriage (apart : behind.head? ≠ some '\n') : IsLineEnd behind ['\r']

/-- The lines of a text. The last one may have no end. -/
inductive AreLines : List Char → List (List Char) → Prop
  | nil : AreLines [] []
  | last {line : List Char} (unbroken : IsUnbroken line) (filled : line ≠ []) :
      AreLines line [line]
  | ended {line lineEnd behind : List Char} {lines : List (List Char)}
      (unbroken : IsUnbroken line) (ends : IsLineEnd behind lineEnd)
      (others : AreLines behind lines) : AreLines (line ++ (lineEnd ++ behind)) (line :: lines)

section

variable {text line lineEnd behind : List Char} {lines : List (List Char)}

theorem logLines_of_isLineEnd (ends : IsLineEnd behind lineEnd) :
    logLines (lineEnd ++ behind) = [] :: logLines behind := by
  cases ends with
  | feed | both => rfl
  | carriage apart =>
    cases behind with
    | nil => rfl
    | cons c cs =>
      rw [List.singleton_append, logLines]
      · rfl
      · rintro cs' _ same
        exact apart (congrArg List.head? same)

theorem logLines_cons {c : Char} (inLine : c ≠ '\r' ∧ c ≠ '\n') (cs : List Char) :
    logLines (c :: cs) = attach c (logLines cs) := by
  rw [logLines]
  · rw [if_neg (by simp [inLine.1, inLine.2])]
  · rintro _ same
    exact absurd same inLine.1

/-- A text starts with a line up to the first end. -/
theorem logLines_append (unbroken : IsUnbroken line) (behind : List Char) :
    logLines (line ++ behind) = line.foldr attach (logLines behind) := by
  induction line with
  | nil => rfl
  | cons c line ih =>
    obtain ⟨inLine, unbroken⟩ := List.forall_mem_cons.1 unbroken
    rw [List.cons_append, logLines_cons inLine, ih unbroken, List.foldr_cons]

theorem foldr_attach (line first : List Char) (lines : List (List Char)) :
    line.foldr attach (first :: lines) = (line ++ first) :: lines := by
  induction line with
  | nil => rfl
  | cons c line ih => rw [List.foldr_cons, ih, attach, List.cons_append]

theorem AreLines.eq_logLines (areLines : AreLines text lines) : lines = logLines text := by
  induction areLines with
  | nil => rfl
  | @last line unbroken filled =>
    obtain ⟨front, c, rfl⟩ : ∃ front c, line = front ++ [c] :=
      ⟨_, _, (List.dropLast_append_getLast filled).symm⟩
    obtain ⟨unbroken, inLine⟩ := List.forall_mem_append.1 unbroken
    rw [logLines_append unbroken, logLines_cons (inLine c List.mem_cons_self)]
    exact (foldr_attach front [c] []).symm
  | @ended line lineEnd behind lines unbroken ends others ih =>
    rw [logLines_append unbroken, logLines_of_isLineEnd ends, foldr_attach, List.append_nil, ih]

theorem AreLines.attach {c : Char} (inLine : c ≠ '\r' ∧ c ≠ '\n')
    (areLines : AreLines text lines) : AreLines (c :: text) (attach c lines) := by
  cases areLines with
  | nil => exact .last (List.forall_mem_singleton.2 inLine) (List.cons_ne_nil _ _)
  | last unbroken filled =>
    exact .last (List.forall_mem_cons.2 ⟨inLine, unbroken⟩) (List.cons_ne_nil _ _)
  | ended unbroken ends others =>
    exact .ended (List.forall_mem_cons.2 ⟨inLine, unbroken⟩) ends others

theorem areLines_logLines (text : List Char) : AreLines text (logLines text) := by
  have noLine : IsUnbroken [] := List.forall_mem_nil _
  induction text using logLines.induct with
  | case1 => exact .nil
  | case2 cs ih => exact .ended noLine .both ih
  | case3 c cs apart ends ih =>
    rw [logLines]
    · rw [if_pos ends]
      simp only [Bool.or_eq_true, decide_eq_true_eq] at ends
      rcases ends with rfl | rfl
      · refine .ended noLine (.carriage fun feeds => ?_) ih
        obtain ⟨cs, rfl⟩ := List.head?_eq_some_iff.1 feeds
        exact apart cs rfl rfl
      · exact .ended noLine .feed ih
    · exact apart
  | case4 c cs apart inLine ih =>
    simp only [Bool.or_eq_true, decide_eq_true_eq, not_or] at inLine
    rw [logLines_cons inLine]
    exact ih.attach inLine

/-- The lines of a text are those that are found, and no others. -/
theorem areLines_iff : AreLines text lines ↔ lines = logLines text :=
  ⟨AreLines.eq_logLines, fun same => same ▸ areLines_logLines text⟩

end

/-! ## What a log gives -/

/-- The entries of the lines that can be read. -/
def entriesOf (kind : Kind) (lines : List (List Char)) : List Entry :=
  lines.filterMap fun line => (readLine kind (String.ofList line)).toOption

/-- The error about a line, if it is not blank and cannot be read. -/
def lineError? (kind : Kind) (path : String) (line : List Char) (number : Nat) : Option Message :=
  match readLine kind (String.ofList line) with
  | .ok _ => none
  | .error fault =>
    if line.all isBlank then none else some ⟨.error, skippedMessage path number fault⟩

/-- The errors about lines, of which the first one has this number. -/
def errorsFrom (kind : Kind) (path : String) (number : Nat) (lines : List (List Char)) :
    List Message :=
  (lines.zipIdx number).filterMap fun line => lineError? kind path line.1 line.2

/-- What the error about a missing log says. -/
def missingMessage (path : String) : Kind → String
  | .daily => "No day file at " ++ path
  | .monthly => "Monthly log " ++ path ++ " not found"

/-- A log gives these entries and errors. -/
inductive IsReadAs (files : Files) (kind : Kind) (path : String) :
    List Entry → List Message → Prop
  | missing (absent : files.isThere path = false) :
      IsReadAs files kind path [] [⟨.error, missingMessage path kind⟩]
  | there {bytes : ByteArray} {lines : List (List Char)} (stored : files.read path = .ok bytes)
      (areLines : AreLines (decodeLenient bytes) lines) :
      IsReadAs files kind path (entriesOf kind lines) (errorsFrom kind path 1 lines)

/-- Logs give these entries and errors, one log after the other. -/
inductive AreReadAs (files : Files) (kind : Kind) :
    List String → List Entry → List Message → Prop
  | nil : AreReadAs files kind [] [] []
  | cons {path : String} {paths : List String} {entries entries' : List Entry}
      {errors errors' : List Message} (first : IsReadAs files kind path entries errors)
      (others : AreReadAs files kind paths entries' errors') :
      AreReadAs files kind (path :: paths) (entries ++ entries') (errors ++ errors')

section

variable {files : Files} {kind : Kind} {path directory : String} {entries : List Entry}
  {line : List Char} {number : Nat}

/-- A blank line has too few fields. -/
theorem readLine_of_blank (kind : Kind) (blank : line.all isBlank = true) :
    readLine kind (String.ofList line) = .error (.shortLine 1) := by
  have trimmed : trim line = [] := by
    rw [← List.nil_append line, trim_append_of_blank (List.all_eq_true.1 blank)]
    rfl
  have fields : splitLine (String.ofList line) = [""] := by
    rw [splitLine, String.toList_ofList, fieldsOfLine, trimmed]
    rfl
  rw [readLine, fields]
  cases kind <;> rfl

theorem entriesOf_cons (line : List Char) (lines : List (List Char)) :
    entriesOf kind (line :: lines) =
      (readLine kind (String.ofList line)).toOption.toList ++ entriesOf kind lines := by
  rw [entriesOf, List.filterMap_cons]
  cases readLine kind (String.ofList line) <;> rfl

theorem errorsFrom_cons (line : List Char) (lines : List (List Char)) :
    errorsFrom kind path number (line :: lines) =
      (lineError? kind path line number).toList ++ errorsFrom kind path (number + 1) lines := by
  rw [errorsFrom, List.zipIdx_cons, List.filterMap_cons]
  cases lineError? kind path line number <;> rfl

/-- Reading goes on over all lines. -/
theorem readLines_eq {lines : List (List Char)}
    (found : (readLines kind path number lines).outcome = .ok entries) :
    entries = entriesOf kind lines ∧
      (readLines kind path number lines).log = errorsFrom kind path number lines := by
  induction lines generalizing number entries with
  | nil =>
    obtain rfl := Except.ok.inj found
    exact ⟨rfl, rfl⟩
  | cons line lines ih =>
    rw [entriesOf_cons, errorsFrom_cons, lineError?]
    rw [readLines] at found ⊢
    by_cases blank : line.all isBlank = true
    · rw [if_pos blank] at found ⊢
      rw [readLine_of_blank kind blank]
      dsimp only
      rw [if_pos blank]
      exact ih found
    · rw [if_neg blank] at found ⊢
      cases read : readLine kind (String.ofList line) with
      | ok entry =>
        rw [read] at found
        dsimp only at found ⊢
        obtain ⟨rest, behind, same⟩ := Report.outcome_bind_eq_ok_iff.1 found
        obtain rfl := Except.ok.inj same
        obtain ⟨rfl, errors⟩ := ih behind
        rw [Report.log_bind_of_ok behind, errors]
        exact ⟨rfl, List.append_nil _⟩
      | error fault =>
        rw [read] at found
        dsimp only at found ⊢
        by_cases skips : isSkippable fault = true
        · rw [if_pos skips] at found ⊢
          obtain ⟨_, _, behind⟩ := Report.outcome_bind_eq_ok_iff.1 found
          obtain ⟨rfl, errors⟩ := ih behind
          rw [if_neg blank, Report.log_bind_of_ok rfl, errors]
          exact ⟨rfl, rfl⟩
        · rw [if_neg skips] at found
          cases found

theorem isReadAs_readFile (found : (readFile files kind path).outcome = .ok entries) :
    IsReadAs files kind path entries (readFile files kind path).log := by
  obtain ⟨bytes, stored, lines⟩ := Report.outcome_bind_eq_ok_iff.1 found
  obtain ⟨rfl, errors⟩ := readLines_eq lines
  rw [readFile, Report.log_bind_of_ok stored, errors]
  exact .there stored (areLines_iff.2 rfl)

/-- Reads a log, which may be missing. -/
def readIfThere (files : Files) (kind : Kind) (path : String) : Run (List Entry) := do
  if files.isThere path then readFile files kind path
  else
    Report.complain (missingMessage path kind)
    return []

theorem readMonth_eq (files : Files) (directory name : String) :
    readMonth files directory name = readIfThere files .monthly (joinName directory name) := rfl

theorem readDays_eq (files : Files) (directory : String) :
    readDays files directory = readIfThere files .daily (joinName directory dayLogName) := rfl

theorem isReadAs_readIfThere (found : (readIfThere files kind path).outcome = .ok entries) :
    IsReadAs files kind path entries (readIfThere files kind path).log := by
  rw [readIfThere] at found ⊢
  by_cases there : files.isThere path = true
  · rw [if_pos there] at found ⊢
    exact isReadAs_readFile found
  · rw [if_neg there] at found ⊢
    obtain rfl := Except.ok.inj found
    exact .missing (Bool.eq_false_iff.2 there)

/-- The logs of months are read one after the other. -/
theorem areReadAs_mapM {names : List String} {logs : List (List Entry)}
    (found : (names.mapM (readMonth files directory)).outcome = .ok logs) :
    AreReadAs files .monthly (names.map (joinName directory)) logs.flatten
      (names.mapM (readMonth files directory)).log := by
  induction names generalizing logs with
  | nil =>
    obtain rfl := Except.ok.inj found
    exact .nil
  | cons name names ih =>
    rw [List.mapM_cons, readMonth_eq] at found ⊢
    obtain ⟨first, here, found⟩ := Report.outcome_bind_eq_ok_iff.1 found
    obtain ⟨rest, behind, same⟩ := Report.outcome_bind_eq_ok_iff.1 found
    obtain rfl := Except.ok.inj same
    rw [Report.log_bind_of_ok here, Report.log_bind_of_ok behind, List.map_cons, List.flatten_cons]
    exact .cons (isReadAs_readIfThere here) ((List.append_nil _).symm ▸ ih behind)

end

/-! ## No error stands twice -/

/-- The name of a log ends like that of a text. -/
def IsTextName (name : String) : Prop :=
  ".txt".toList <:+ name.toList

instance (name : String) : Decidable (IsTextName name) :=
  inferInstanceAs (Decidable (_ <:+ _))

/-- The message is about a line of a log. -/
def IsAboutLine (path : String) (number : Nat) (message : Message) : Prop :=
  ∃ rest, message.text.toList =
      path.toList ++ (" line ".toList ++ ((toString number).toList ++ ' ' :: rest)) ∧
    '.' ∉ rest ∧ ("ed".toList <:+ rest ∨ "ds".toList <:+ rest)

/-- The message is about a log. -/
def IsAbout (kind : Kind) (path : String) (message : Message) : Prop :=
  message.text = missingMessage path kind ∨ ∃ number, IsAboutLine path number message

section

variable {files : Files} {kind : Kind} {path path' : String} {number number' : Nat}
  {message error : Message} {line : List Char}

/-- The error about a line says why if the line has too few fields, and nothing more otherwise. -/
theorem message_of_readLine {text : String} {fault : Fault}
    (failed : readLine kind text = .error fault) :
    fault.message = none ∨ ∃ fields : Nat,
      fault.message = some ("line too short, " ++ toString fields ++ " fields") := by
  rcases readLine_error failed with skips | ⟨rfl, _, _⟩
  · cases fault with
    | shortLine fields => exact .inr ⟨fields, rfl⟩
    | invalidValue => exact .inl rfl
    | _ => cases skips
  · exact .inl rfl

theorem isAboutLine_of_lineError? (found : lineError? kind path line number = some error) :
    IsAboutLine path number error := by
  rw [lineError?] at found
  split at found
  · cases found
  · next fault failed =>
    split at found
    · cases found
    · obtain rfl := Option.some.inj found
      rcases message_of_readLine failed with none | ⟨fields, short⟩
      · refine ⟨"skipped".toList, ?_, by decide, .inl (by decide)⟩
        rw [skippedMessage, none]
        simp
      · refine ⟨"skipped: line too short, ".toList ++ (toString fields).toList ++ " fields".toList,
          ?_, ?_, .inr ?_⟩
        · rw [skippedMessage, short]
          simp
        · simp only [List.mem_append, not_or]
          exact ⟨⟨by decide, not_mem_toString (by decide) fields⟩, by decide⟩
        · exact List.suffix_append_of_suffix (by decide)

/-- The name of a log goes no further than to the first point. -/
theorem eq_nil_of_suffix {front more behind : List Char} (isText : ".txt".toList <:+ front ++ more)
    (starts : more <+: " line ".toList ++ behind) (noPoint : '.' ∉ behind) : more = [] := by
  cases more with
  | nil => rfl
  | cons c more =>
    obtain rfl : c = ' ' := (List.cons_prefix_cons.1 starts).1
    rcases List.suffix_or_suffix_of_suffix isText (List.suffix_append front _) with inside | around
    · have point : '.' ∈ " line ".toList ++ behind :=
        starts.subset (inside.subset (by decide : '.' ∈ ".txt".toList))
      rcases List.mem_append.1 point with inLine | inRest
      · exact absurd inLine (by decide)
      · exact absurd inRest noPoint
    · exact absurd (around.subset List.mem_cons_self) (by decide)

/-- The text of a message shows the log and the line that it is about. -/
theorem IsAboutLine.unique (about : IsAboutLine path number message)
    (about' : IsAboutLine path' number' message) (isText : IsTextName path)
    (isText' : IsTextName path') : path = path' ∧ number = number' := by
  obtain ⟨rest, shows, noPoint, _⟩ := about
  obtain ⟨rest', shows', noPoint', _⟩ := about'
  have noPoint : ∀ {n : Nat} {rest : List Char}, '.' ∉ rest →
      '.' ∉ (toString n).toList ++ ' ' :: rest := by
    intro n rest noPoint
    rw [List.mem_append, List.mem_cons, not_or, not_or]
    exact ⟨not_mem_toString (by decide) n, by decide, noPoint⟩
  have same := shows.symm.trans shows'
  rw [IsTextName] at isText isText'
  have paths : path.toList = path'.toList := by
    rcases List.append_eq_append_iff.1 same with ⟨more, longer, behind⟩ | ⟨more, longer, behind⟩
    · have none := eq_nil_of_suffix (longer ▸ isText') ⟨_, behind.symm⟩ (noPoint ‹_›)
      rw [longer, none, List.append_nil]
    · have none := eq_nil_of_suffix (longer ▸ isText) ⟨_, behind.symm⟩ (noPoint ‹_›)
      rw [longer, none, List.append_nil]
  rw [paths, List.append_cancel_left_eq, List.append_cancel_left_eq] at same
  exact ⟨String.toList_inj.1 paths, number_eq_of_digits (by decide) same⟩

/-- An error about a line is no error about a missing log. -/
theorem IsAboutLine.ne_missing (about : IsAboutLine path number message)
    (isText : IsTextName path') : message.text ≠ missingMessage path' kind := by
  intro same
  obtain ⟨rest, shows, _, ends⟩ := about
  have last : rest <:+ message.text.toList :=
    ⟨path.toList ++ (" line ".toList ++ ((toString number).toList ++ [' '])), by simp [shows]⟩
  have missing : "nd".toList <:+ message.text.toList ∨ "xt".toList <:+ message.text.toList := by
    rw [same]
    cases kind with
    | daily =>
      rw [missingMessage, String.toList_append]
      exact .inr (List.suffix_append_of_suffix ((by decide : "xt".toList <:+ ".txt".toList).trans
        isText))
    | monthly =>
      rw [missingMessage, String.toList_append]
      exact .inl (List.suffix_append_of_suffix (by decide))
  rcases ends with ends | ends <;> rcases missing with missing | missing
  all_goals
    exact absurd (List.suffix_of_suffix_length_le (ends.trans last) missing (by decide)) (by decide)

theorem missingMessage_injective (kind : Kind) :
    Function.Injective fun path => missingMessage path kind := by
  intro path path' same
  cases kind <;> simpa [missingMessage, ← String.toList_inj] using same

/-- The text of a message shows the log that it is about. -/
theorem IsAbout.unique (about : IsAbout kind path message) (about' : IsAbout kind path' message)
    (isText : IsTextName path) (isText' : IsTextName path') : path = path' := by
  rcases about with missing | ⟨number, aboutLine⟩
  · rcases about' with missing' | ⟨number', aboutLine'⟩
    · exact missingMessage_injective kind (missing.symm.trans missing')
    · exact absurd missing (aboutLine'.ne_missing isText)
  · rcases about' with missing' | ⟨number', aboutLine'⟩
    · exact absurd missing' (aboutLine.ne_missing isText')
    · exact (aboutLine.unique aboutLine' isText isText').1

end

section

variable {files : Files} {kind : Kind} {path : String} {paths : List String}
  {entries : List Entry} {errors : List Message}

/-- Each line has one error at most. -/
theorem nodup_errorsFrom (isText : IsTextName path) (number : Nat) (lines : List (List Char)) :
    (errorsFrom kind path number lines).Nodup := by
  have order : (lines.zipIdx number).Pairwise fun first second => first.2 < second.2 := by
    rw [← List.pairwise_map, List.zipIdx_map_snd]
    exact List.pairwise_lt_range'
  rw [errorsFrom, List.Nodup, List.pairwise_filterMap]
  refine order.imp fun before error found error' found' same => ?_
  subst same
  have numbers := (isAboutLine_of_lineError? found).unique (isAboutLine_of_lineError? found')
    isText isText
  exact absurd numbers.2 (Nat.ne_of_lt before)

theorem IsReadAs.isAbout (readAs : IsReadAs files kind path entries errors) {error : Message}
    (member : error ∈ errors) : IsAbout kind path error := by
  cases readAs with
  | missing absent => exact .inl (congrArg Message.text (List.mem_singleton.1 member))
  | there stored areLines =>
    obtain ⟨⟨line, number⟩, _, found⟩ := List.mem_filterMap.1 member
    exact .inr ⟨number, isAboutLine_of_lineError? found⟩

theorem IsReadAs.nodup (readAs : IsReadAs files kind path entries errors)
    (isText : IsTextName path) : errors.Nodup := by
  cases readAs with
  | missing absent => exact List.nodup_singleton _
  | there stored areLines => exact nodup_errorsFrom isText 1 _

theorem AreReadAs.exists_isAbout (readAs : AreReadAs files kind paths entries errors)
    {error : Message} (member : error ∈ errors) : ∃ path ∈ paths, IsAbout kind path error := by
  induction readAs with
  | nil => cases member
  | cons first others ih =>
    rcases List.mem_append.1 member with inFirst | inOthers
    · exact ⟨_, List.mem_cons_self, first.isAbout inFirst⟩
    · obtain ⟨path, listed, about⟩ := ih inOthers
      exact ⟨path, List.mem_cons_of_mem _ listed, about⟩

/-- No error stands twice if no log is read twice. -/
theorem AreReadAs.nodup (readAs : AreReadAs files kind paths entries errors)
    (areTexts : ∀ path ∈ paths, IsTextName path) (distinct : paths.Nodup) : errors.Nodup := by
  induction readAs with
  | nil => exact List.nodup_nil
  | cons first others ih =>
    obtain ⟨isText, areTexts⟩ := List.forall_mem_cons.1 areTexts
    obtain ⟨apart, distinct⟩ := List.nodup_cons.1 distinct
    refine (first.nodup isText).append (ih areTexts distinct) fun error inFirst inOthers => ?_
    obtain ⟨other, listed, about⟩ := others.exists_isAbout inOthers
    obtain rfl := (first.isAbout inFirst).unique about isText (areTexts other listed)
    exact apart listed

end

/-! ## The names of the logs -/

section

variable {files : Files} {directory name : String} {number number' : Nat}

theorem isTextName_joinName (isText : IsTextName name) (directory : String) :
    IsTextName (joinName directory name) := by
  rw [joinName]
  split
  · exact isText
  · split
    · rw [IsTextName, String.toList_append]
      exact List.suffix_append_of_suffix isText
    · rw [IsTextName, String.toList_append]
      exact List.suffix_append_of_suffix isText

theorem isTextName_of_monthLogName {names : List String}
    (found : monthLogName names number = .ok name) : IsTextName name := by
  rw [monthLogName] at found
  split at found
  · cases found
  · obtain rfl := Except.ok.inj found
    rw [IsTextName, String.toList_append]
    exact List.suffix_append_of_suffix (by decide)

theorem isTextName_of_monthLogNames {names logs : List String} {first last : Date}
    (found : monthLogNames names first last = .ok logs) : ∀ log ∈ logs, IsTextName log := by
  intro log member
  obtain ⟨i, _, named⟩ := (values_of_mapM found).2 log member
  exact isTextName_of_monthLogName named

/-- Plain names are told apart in a directory. -/
theorem eq_of_joinName {other : String} (plain : IsPlainName name) (plain' : IsPlainName other)
    (same : joinName directory name = joinName directory other) : name = other := by
  obtain ⟨outer, parts⟩ := nameParts_joinName directory plain
  obtain ⟨outer', parts'⟩ := nameParts_joinName directory plain'
  rw [← same, parts] at parts'
  exact (List.append_singleton_inj.1 parts').2

theorem twoDigits_inj {n m : Nat} (small : n < 100) (small' : m < 100)
    (same : twoDigits n = twoDigits m) : n = m := by
  have digits := congrArg String.toList same
  rw [toList_twoDigits small, toList_twoDigits small'] at digits
  have read := readDigits?_twoDigits small []
  rw [digits, readDigits?_twoDigits small'] at read
  exact (Prod.mk.inj (Option.some.inj read)).1.symm

/-- The names of the logs come again after a hundred years. -/
theorem monthFile_add (number : Nat) : monthFile (number + 1200) = monthFile number := by
  have month : (number + 1200) % 12 = number % 12 := by omega
  have year : (number + 1200) / 12 % 100 = number / 12 % 100 := by omega
  rw [monthFile, monthFile, month, year]

/-- The name of a log tells the name of the month and the last two digits of the year. -/
theorem eq_of_logText {other : String} {year year' : Nat}
    (same : name ++ twoDigits (year % 100) ++ "log.txt" =
      other ++ twoDigits (year' % 100) ++ "log.txt") :
    name = other ∧ year % 100 = year' % 100 := by
  have inCentury : ∀ year, year % 100 < 100 := fun year => Nat.mod_lt year (by decide)
  have chars := congrArg String.toList same
  simp only [String.toList_append, List.append_cancel_right_eq] at chars
  obtain ⟨names, digits⟩ := List.append_inj' chars (by
    rw [toList_twoDigits (inCentury year), toList_twoDigits (inCentury year')]
    rfl)
  exact ⟨String.toList_inj.1 names,
    twoDigits_inj (inCentury year) (inCentury year') (String.toList_inj.1 digits)⟩

/-- They do not come again before. -/
theorem mod_eq_of_monthFile (same : monthFile number = monthFile number') :
    number % 1200 = number' % 1200 := by
  have apart : ∀ i < 12, ∀ j < 12, monthNames.getD i "" = monthNames.getD j "" → i = j := by
    decide
  have inYear : ∀ n, n % 12 < 12 := fun n => Nat.mod_lt n (by decide)
  obtain ⟨month, years⟩ := eq_of_logText same
  have months := apart _ (inYear number) _ (inYear number') month
  omega

/-- The logs of less than a hundred years are all different. -/
theorem nodup_monthFiles (directory : String) {first count : Nat} (few : count ≤ 1200) :
    (((List.range count).map fun i => monthFile (first + i)).map (joinName directory)).Nodup := by
  rw [List.map_map]
  refine List.Nodup.map_on ?_ List.nodup_range
  intro i inside j inside' same
  rw [List.mem_range] at inside inside'
  have months := mod_eq_of_monthFile (eq_of_joinName (isPlainName_monthFile _)
    (isPlainName_monthFile _) same)
  omega

end

/-! ## Readings -/

/-- The readers of logs keep the entries of all lines that can be read and report all others that
are not blank, log by log and line by line. Of the logs of the months, the entries in the window
are kept. No error stands twice if no log is read twice, and none is if there are less than a
hundred years between the months. -/
theorem logs_are_reported (files : Files) (directory : String) :
    (∀ (names : List String) (start stop : Moment) (entries : List Entry),
      (readMonths files directory names start stop).outcome = .ok entries →
      ∃ (logs : List String) (all : List Entry),
        monthLogNames names start.date stop.date = .ok logs ∧
        AreReadAs files .monthly (logs.map (joinName directory)) all
          (readMonths files directory names start stop).log ∧
        entries = all.filter (fun entry => start.atMost entry.time && entry.time.atMost stop) ∧
        ((logs.map (joinName directory)).Nodup →
          (readMonths files directory names start stop).log.Nodup) ∧
        (names = [] →
          logs = (List.range (monthNumber stop.date + 1 - monthNumber start.date)).map
            (fun i => monthFile (monthNumber start.date + i)) ∧
          (monthNumber stop.date < monthNumber start.date + 1200 →
            (logs.map (joinName directory)).Nodup))) ∧
    ∀ entries, (readDays files directory).outcome = .ok entries →
      IsReadAs files .daily (joinName directory dayLogName) entries
        (readDays files directory).log ∧
      (readDays files directory).log.Nodup := by
  constructor
  · intro names start stop entries found
    obtain ⟨logs, named, found⟩ := Report.outcome_bind_eq_ok_iff.1 found
    obtain ⟨all, read, same⟩ := Report.outcome_bind_eq_ok_iff.1 found
    obtain rfl := Except.ok.inj same
    have readAs := areReadAs_mapM read
    have log : (readMonths files directory names start stop).log =
        (logs.mapM (readMonth files directory)).log := by
      rw [readMonths, Report.log_bind_of_ok named, Report.log_bind_of_ok read]
      exact List.append_nil _
    rw [log]
    refine ⟨logs, all.flatten, named, readAs, rfl, readAs.nodup ?_, ?_⟩
    · refine List.forall_mem_map.2 fun name member => ?_
      exact isTextName_joinName (isTextName_of_monthLogNames named name member) directory
    · rintro rfl
      obtain rfl := Except.ok.inj ((monthLogNames_eq _ _).symm.trans named)
      exact ⟨rfl, fun close => nodup_monthFiles directory (by omega)⟩
  · intro entries found
    rw [readDays_eq] at found ⊢
    have readAs := isReadAs_readIfThere found
    exact ⟨readAs, readAs.nodup (isTextName_joinName (by decide) directory)⟩

/-- A log of June with a line of each kind: one that can be read, a blank one and a short one. There
is no log of May, and the log of days has a short line. -/
def juneFiles : Files where
  contents := [
    (["data", "Jun24log.txt"],
      "21/06/24,11:00,20,50,10,1,2,180,0,0,1010,0,20,50,1\r\n \r\nshort".toUTF8),
    (["data", "dayfile.txt"], "short\n".toUTF8)]

/-- The last of May. -/
def lastOfMay : Moment := Moment.ofDate ⟨2024, 5, 31⟩

/-- The last of June. -/
def lastOfJune : Moment := Moment.ofDate ⟨2024, 6, 30⟩

/-- The good line has an entry, and the bad ones and the missing log have one error each. -/
theorem juneFiles_are_reported :
    (readMonths juneFiles "data" [] lastOfMay lastOfJune).outcome.map (List.map Entry.time) =
      .ok [⟨⟨2024, 6, 21⟩, 11, 0, 0, 0⟩] ∧
    (readMonths juneFiles "data" [] lastOfMay lastOfJune).log = [
      ⟨.error, "Monthly log data/May24log.txt not found"⟩,
      ⟨.error, "data/Jun24log.txt line 3 skipped: line too short, 1 fields"⟩] ∧
    (readMonths juneFiles "data" [] lastOfMay lastOfJune).log.Nodup ∧
    (readDays juneFiles "data").log = [
      ⟨.error, "data/dayfile.txt line 1 skipped: line too short, 1 fields"⟩] ∧
    (readDays juneFiles "data").log.Nodup := by
  have times : (readMonths juneFiles "data" [] lastOfMay lastOfJune).outcome.map
      (List.map Entry.time) = .ok [⟨⟨2024, 6, 21⟩, 11, 0, 0, 0⟩] := by
    decide +kernel
  have days : (readDays juneFiles "data").outcome = .ok [] := by decide +kernel
  obtain ⟨months, dayFile⟩ := logs_are_reported juneFiles "data"
  cases found : (readMonths juneFiles "data" [] lastOfMay lastOfJune).outcome with
  | error fault =>
    rw [found] at times
    cases times
  | ok entries =>
    obtain ⟨logs, all, _, _, _, once, standard⟩ := months [] lastOfMay lastOfJune entries found
    exact ⟨found ▸ times, by decide +kernel, once ((standard rfl).2 (by decide)),
      by decide +kernel, (dayFile [] days).2⟩

/-! ## Missing logs -/

section

variable {files : Files} {directory name : String}

/-- A computer without files has no log. -/
theorem isThere_of_noFiles (plain : IsPlainName name) (directory : String) :
    ({} : Files).isThere (joinName directory name) = false := by
  have noDirectory : IsNoDirectory {} (joinName directory name) := by
    refine isNoDirectory_of_plain plain fun path found => ?_
    obtain rfl : path = [] := by
      simpa [Files.isDirectory] using found
    exact fun none => (by cases none)
  rw [Files.isThere]
  cases place : ({} : Files).locate (joinName directory name) with
  | file path bytes =>
    have stored : ({} : Files).read (joinName directory name) = .ok bytes := by
      rw [Files.read, place]
    obtain ⟨_, _, there⟩ := Files.target?_of_read stored
    cases there
  | directory path => exact absurd place (noDirectory path)
  | vacant | noDirectory | nowhere => rfl

/-- Each missing log has one error and no entries. -/
theorem mapM_readMonth_of_absent {names : List String}
    (absent : ∀ name ∈ names, files.isThere (joinName directory name) = false) :
    names.mapM (readMonth files directory) = ⟨.ok (names.map fun _ => []),
      names.map fun name => ⟨.error, missingMessage (joinName directory name) .monthly⟩⟩ := by
  induction names with
  | nil => rfl
  | cons name names ih =>
    obtain ⟨first, others⟩ := List.forall_mem_cons.1 absent
    rw [List.mapM_cons, readMonth_eq, readIfThere, if_neg (Bool.eq_false_iff.1 first), ih others]
    exact congrArg (Report.mk _) (congrArg (List.cons _) (List.append_nil _))

/-- Without files, all logs of the months are missing. -/
theorem readMonths_of_noFiles (directory : String) (start stop : Moment) :
    (readMonths {} directory [] start stop).outcome = .ok [] ∧
      (readMonths {} directory [] start stop).log =
        (List.range (monthNumber stop.date + 1 - monthNumber start.date)).map fun i =>
          ⟨.error, missingMessage (joinName directory (monthFile (monthNumber start.date + i)))
            .monthly⟩ := by
  have absent : ∀ name ∈ (List.range (monthNumber stop.date + 1 - monthNumber start.date)).map
      fun i => monthFile (monthNumber start.date + i),
        ({} : Files).isThere (joinName directory name) = false :=
    List.forall_mem_map.2 fun i _ => isThere_of_noFiles (isPlainName_monthFile _) directory
  have none : ∀ names : List String, (names.map fun _ => ([] : List Entry)).flatten = [] :=
    fun names => List.flatten_eq_nil_iff.2 (List.forall_mem_map.2 fun _ _ => rfl)
  constructor
  · rw [readMonths, monthLogNames_eq, Report.outcome_bind_of_ok rfl,
      mapM_readMonth_of_absent absent, Report.outcome_bind_of_ok rfl, none]
    rfl
  · rw [readMonths, monthLogNames_eq, Report.log_bind_of_ok rfl, mapM_readMonth_of_absent absent,
      Report.log_bind_of_ok rfl]
    exact (List.append_nil _).trans List.map_map

end

/-- The start of almost a hundred years. -/
def centuryStart : Moment := Moment.ofDate ⟨2000, 1, 15⟩

/-- The end of almost a hundred years. -/
def centuryStop : Moment := Moment.ofDate ⟨2100, 1, 10⟩

/-- The log of the first month is that of the last one as well, and missing twice. -/
theorem missing_log_is_reported_twice :
    centuryStop.seconds < (Moment.ofDate ⟨2100, 1, 15⟩).seconds ∧
    ({} : Files).isThere "data/Jan00log.txt" = false ∧
    (readMonths {} "data" [] centuryStart centuryStop).outcome = .ok [] ∧
    (readMonths {} "data" [] centuryStart centuryStop).log[0]? =
      some ⟨.error, "Monthly log data/Jan00log.txt not found"⟩ ∧
    (readMonths {} "data" [] centuryStart centuryStop).log[1200]? =
      some ⟨.error, "Monthly log data/Jan00log.txt not found"⟩ := by
  have count : monthNumber centuryStop.date + 1 - monthNumber centuryStart.date = 1201 := by decide
  have first : monthFile (monthNumber centuryStart.date) = "Jan00log.txt" := by decide
  have last : monthFile (monthNumber centuryStart.date + 1200) = "Jan00log.txt" :=
    (monthFile_add _).trans first
  have path : joinName "data" "Jan00log.txt" = "data/Jan00log.txt" := by decide
  obtain ⟨outcome, log⟩ := readMonths_of_noFiles "data" centuryStart centuryStop
  rw [count] at log
  refine ⟨by decide, by decide, outcome, ?_, ?_⟩
  · rw [log, List.getElem?_map, List.getElem?_range (by decide), Option.map_some, Nat.add_zero,
      first, path]
    rfl
  · rw [log, List.getElem?_map, List.getElem?_range (by decide), Option.map_some, last, path]
    rfl

end Meteogram.Log
