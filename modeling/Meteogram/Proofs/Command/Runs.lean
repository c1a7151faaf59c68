import Meteogram.Command
import Meteogram.Proofs.Data.Collecting
import Meteogram.Proofs.Ini.Setting

/-!
# What commands do to files

A command writes the pages or the data files of its outputs, and nothing else but the settings: the
file of the settings is as it was unless the command that writes data ends well (`keeps_perform`).
That command saves the settings last, when nothing can stop it any more (`Job.userdata_cases`).
A run that is asked for help leaves all files (`files_of_asksForHelp`).
-/

set_option autoImplicit false

namespace Meteogram

open Data (Turn)
open Station (Settings)
open Time (Moment)

/-! ## Files that are left alone -/

namespace Files

variable {files after next : Files} {name other : String} {bytes : ByteArray}

/-- No file of the one name is the file of the other. -/
def AreApart (files : Files) (name other : String) : Prop :=
  ∀ path, (files.locate name).target? = some path → (files.locate other).target? ≠ some path

/-- All names lead where they led, and the file of this name is as it was. -/
structure Keeps (files after : Files) (name : String) : Prop where
  targets : ∀ other, (after.locate other).target? = (files.locate other).target?
  content : ∀ path, (files.locate name).target? = some path → after.file? path = files.file? path

theorem toOption_read (files : Files) (name : String) :
    (files.read name).toOption = (files.locate name).target?.bind files.file? := by
  cases leads : (files.locate name).target? with
  | none =>
    rw [read]
    cases place : files.locate name with
    | file path bytes =>
      rw [place] at leads
      cases leads
    | vacant path =>
      rw [place] at leads
      cases leads
    | directory path => rfl
    | noDirectory fault => rfl
    | nowhere fault => rfl
  | some path =>
    obtain ⟨_, place⟩ := target?_locate leads
    rw [read, place, Option.bind_some]
    cases files.file? path <;> rfl

theorem keeps_refl (files : Files) (name : String) : files.Keeps files name :=
  ⟨fun _ => rfl, fun _ _ => rfl⟩

/-- What is read under a name that was left alone is what was read before. -/
theorem Keeps.read (keeps : files.Keeps after name) :
    (after.read name).toOption = (files.read name).toOption := by
  rw [toOption_read, toOption_read, keeps.targets]
  cases leads : (files.locate name).target? with
  | none => rfl
  | some path => exact keeps.content path leads

theorem Keeps.write (keeps : files.Keeps after name) (apart : files.AreApart other name)
    (written : after.write other bytes = .ok next) : files.Keeps next name := by
  refine ⟨fun third => (target?_write written third).trans (keeps.targets third),
    fun path leads => ?_⟩
  rw [file?_write written, keeps.targets, if_neg fun same => apart path same leads]
  exact keeps.content path leads

end Files

/-! ## Pages and data files -/

section

variable {start files : Files} {name directory : String}

/-- Writing a page leaves all other files. -/
theorem keeps_writePage {generator : Page.Generator} {filename : String} {charts : List Chart}
    {id : Int} {page : Option (String × Files)} (keeps : start.Keeps files name)
    (apart : start.AreApart (joinName directory filename) name)
    (written : (writePage generator files directory filename charts id).outcome = .ok page) :
    ∀ found ∈ page, start.Keeps found.2 name := by
  obtain ⟨made, _, written⟩ := Report.outcome_bind_eq_ok_iff.1 written
  cases made with
  | none =>
    obtain rfl := Except.ok.inj written
    exact fun _ none => (by cases none)
  | some text =>
    obtain ⟨after, wrote, same⟩ := Report.outcome_bind_eq_ok_iff.1 written
    obtain rfl := Except.ok.inj same
    rintro _ ⟨⟩
    exact keeps.write apart wrote

/-- Writing the pages of outputs leaves all other files. -/
theorem keeps_writePages (generator : Page.Generator) {outputs : List Output}
    (number written : Nat) (keeps : start.Keeps files name)
    (apart : ∀ output ∈ outputs, start.AreApart (joinName directory output.filename) name) :
    start.Keeps (writePages generator directory number written files outputs).2.2 name := by
  induction outputs generalizing files number written with
  | nil => exact keeps
  | cons output outputs ih =>
    obtain ⟨first, apart⟩ := List.forall_mem_cons.1 apart
    rw [writePages]
    dsimp only
    split
    · exact keeps
    · next wrote => exact ih _ _ (keeps_writePage keeps first wrote _ rfl) apart
    · exact ih _ _ keeps apart

/-- Writing data files leaves all other files. -/
theorem keeps_writeAll {contents : Data.Contents} (keeps : start.Keeps files name)
    (apart : ∀ file ∈ contents.map Prod.fst, start.AreApart (joinName directory file) name) :
    start.Keeps (Data.writeAll files directory contents).2 name := by
  induction contents generalizing files with
  | nil => exact keeps
  | cons entry contents ih =>
    rw [List.map_cons] at apart
    obtain ⟨first, apart⟩ := List.forall_mem_cons.1 apart
    rw [Data.writeAll]
    split
    · next wrote => exact ih (keeps.write first wrote) apart
    · exact keeps

end

/-! ## Data runs -/

/-- A run sets the time of the series by day if it makes them. -/
def IsDue (turn : Turn) (settings : Settings) : Prop :=
  turn.charts ≠ [] ∧ (turn.full = true ∨ settings.dailyDue turn.now = .ok true)

section

variable {turn : Turn} {settings : Settings} {stop : Moment}

/-- A run leaves all files but the data files of its series. -/
theorem keeps_update (turn : Turn) (settings : Settings) {name : String}
    (apart : ∀ series ∈ turn.charts.flatMap Chart.series, Data.isOwn series = true →
      turn.files.AreApart (joinName turn.directory series.datafile) name) :
    turn.files.Keeps (turn.update settings).files name := by
  have same := turn.files.keeps_refl name
  rw [Turn.update, Data.update]
  split
  · exact same
  · dsimp only
    split
    · exact same
    · split
      · exact same
      · split
        · exact same
        · next collects =>
          have isCollected := Data.isCollected_of_collect collects
          refine keeps_writeAll same fun file member => ?_
          obtain ⟨series, inCharts, makes, rfl⟩ := isCollected.named file member
          rw [Data.Request.makes_eq, Bool.and_eq_true] at makes
          exact apart series inCharts makes.1

/-- A run that ends well has set the time of the series by day if they were due, and no other
setting. -/
theorem site_of_update (ended : (turn.update settings).outcome = .ok stop) :
    (IsDue turn settings ∧ settings.site.set "Compiler" "DoneToday"
        (Time.write Time.dashSecond turn.now) = .ok (turn.update settings).settings.site) ∨
      (¬ IsDue turn settings ∧ (turn.update settings).settings.site = settings.site) := by
  by_cases empty : turn.charts = []
  · refine .inr ⟨fun due => due.1 empty, ?_⟩
    rw [Turn.update, Data.update, empty]
    rfl
  · obtain ⟨window, due, contents, planned, well⟩ := Turn.steps_of_update empty ended
    obtain ⟨_, _, isDue⟩ := Report.outcome_bind_eq_ok_iff.1 planned
    have marks := well.marks
    rw [Data.markDone] at marks
    have isDue_iff : IsDue turn settings ↔ due = true := by
      rw [IsDue, and_iff_right empty]
      cases full : turn.full with
      | true => exact iff_of_true (.inl rfl) (well.isDue full)
      | false =>
        rw [full] at isDue
        obtain ⟨due', daily, same⟩ := Report.outcome_bind_eq_ok_iff.1 isDue
        obtain rfl : due' = due := congrArg Prod.snd (Except.ok.inj same)
        have daily' : settings.dailyDue turn.now = .ok due' := daily
        rw [daily', or_iff_right Bool.false_ne_true, Except.ok.injEq]
    cases due with
    | true =>
      obtain ⟨site, set, same⟩ := bind_eq_ok.1 marks
      refine .inl ⟨isDue_iff.2 rfl, ?_⟩
      rw [← Except.ok.inj same]
      exact set
    | false =>
      refine .inr ⟨fun due => Bool.false_ne_true (isDue_iff.1 due), ?_⟩
      rw [← Except.ok.inj marks]

end

/-! ## Commands -/

namespace Job

variable {job : Job} {outputs : List Output} {full : Bool}

/-- The run of the command that writes data. -/
def turn (job : Job) (outputs : List Output) (full : Bool) : Turn where
  files := job.files
  charts := outputs.flatMap Output.charts
  logDirectory := job.dataDirectory
  directory := job.places.output
  now := job.now
  full := full

theorem update_turn (job : Job) (outputs : List Output) (full : Bool) :
    Data.update job.site.settings job.files (outputs.flatMap Output.charts) job.dataDirectory
      job.places.output job.now full = (job.turn outputs full).update job.site.settings := by
  rw [Turn.update, turn]

/-- The command that writes data ends well once the settings are saved. -/
theorem userdata_of_saves {stop : Moment} {settings : Settings} {files : Files}
    (updated : ((job.turn outputs full).update job.site.settings).outcome = .ok stop)
    (set : ((job.turn outputs full).update job.site.settings).settings.setSite "General"
      "LastUploadTime" (Time.write Time.slashMinute stop) = .ok settings)
    (saves : saveSite settings ((job.turn outputs full).update job.site.settings).files
      job.places.site = .ok files) :
    (job.userdata outputs full).ending =
        .success ("User data written up to " ++ Time.write Time.slashMinute stop) ∧
      (job.userdata outputs full).files = files := by
  rw [← update_turn] at updated set saves
  simp only [userdata, updated, set, bind, Except.bind, saves]
  exact ⟨trivial, trivial⟩

/-- The command that writes data either stops and saves nothing, or it ends well and saves the
settings with the end of its window. -/
theorem userdata_cases (job : Job) (outputs : List Output) (full : Bool) :
    ((∃ fault, (job.userdata outputs full).ending = .stopped fault) ∧
      (job.userdata outputs full).files = ((job.turn outputs full).update job.site.settings).files) ∨
    ∃ stop settings files,
      ((job.turn outputs full).update job.site.settings).outcome = .ok stop ∧
      ((job.turn outputs full).update job.site.settings).settings.setSite "General" "LastUploadTime"
        (Time.write Time.slashMinute stop) = .ok settings ∧
      saveSite settings ((job.turn outputs full).update job.site.settings).files job.places.site =
        .ok files ∧
      (job.userdata outputs full).ending =
        .success ("User data written up to " ++ Time.write Time.slashMinute stop) ∧
      (job.userdata outputs full).files = files := by
  cases updated : ((job.turn outputs full).update job.site.settings).outcome with
  | error fault =>
    rw [← update_turn] at updated ⊢
    simp only [userdata, updated]
    exact .inl ⟨⟨fault, rfl⟩, trivial⟩
  | ok stop =>
    cases saved : (do
        let settings ← ((job.turn outputs full).update job.site.settings).settings.setSite "General"
          "LastUploadTime" (Time.write Time.slashMinute stop)
        saveSite settings ((job.turn outputs full).update job.site.settings).files job.places.site) with
    | error fault =>
      rw [← update_turn] at updated saved ⊢
      simp only [userdata, updated, saved]
      exact .inl ⟨⟨fault, rfl⟩, trivial⟩
    | ok files =>
      obtain ⟨settings, set, saves⟩ := bind_eq_ok.1 saved
      exact .inr ⟨stop, settings, files, rfl, set, saves, userdata_of_saves updated set saves⟩

/-- What the job does under a command. -/
def perform (job : Job) (outputs : List Output) : Command → Finished
  | .compile => job.compile outputs job.definitions.panels
  | .userdata full => job.userdata outputs full

/-- Writing pages leaves all other files. -/
theorem keeps_compile {panels : List String} {name : String}
    (apart : ∀ output ∈ outputs,
      job.files.AreApart (joinName job.places.output output.filename) name) :
    job.files.Keeps (job.compile outputs panels).files name := by
  have same := job.files.keeps_refl name
  rw [compile]
  split
  · exact same
  · next generator _ =>
    have keeps := keeps_writePages generator 0 0 same apart
    dsimp only
    split
    · exact keeps
    · exact keeps

end Job

/-- The names of the files that a command writes for outputs. -/
def Command.fileNames (outputs : List Output) : Command → List String
  | .compile => outputs.map Output.filename
  | .userdata _ => ((outputs.flatMap Output.charts).flatMap Chart.series).filter Data.isOwn
      |>.map Series.datafile

theorem command_of_readUserdata {arguments : List String} {full : Bool} {command : Command}
    (read : readUserdata arguments full = some command) : ∃ full', command = .userdata full' := by
  induction arguments generalizing full with
  | nil => exact ⟨full, (Option.some.inj read).symm⟩
  | cons argument rest ih =>
    rw [readUserdata] at read
    split at read
    · exact ih read
    · split at read
      · exact ⟨full, (Option.some.inj read).symm⟩
      · cases read

/-- A command that does not end well leaves the file of the settings. -/
theorem keeps_perform {job : Job} {command : Command} {outputs : List Output}
    (apart : ∀ file ∈ command.fileNames outputs,
      job.files.AreApart (joinName job.places.output file) job.places.site)
    (notSaved : command = .compile ∨ ∀ text, (job.perform outputs command).ending ≠ .success text) :
    job.files.Keeps (job.perform outputs command).files job.places.site := by
  cases command with
  | compile => exact Job.keeps_compile (List.forall_mem_map.1 apart)
  | userdata full =>
    have apart' := List.forall_mem_map.1 apart
    simp only [List.mem_filter, and_imp] at apart'
    have keeps := keeps_update (job.turn outputs full) job.site.settings apart'
    rcases job.userdata_cases outputs full with
      ⟨_, same⟩ | ⟨stop, _, _, _, _, _, ended, _⟩
    · exact same ▸ keeps
    · rcases notSaved with compiles | notEnded
      · cases compiles
      · exact absurd ended (notEnded _)

/-! ## Runs of the program -/

/-- A run of the program comes to a command over these outputs. -/
structure Starts (arguments : List String) (files : Files) (now : Moment) (job : Job)
    (command : Command) (outputs : List Output) : Prop where
  reads : ∃ name more, readOptions arguments {} = some (job.places, name :: more) ∧
    isCommandName name = true ∧ readCommand name more = some command
  settings : ∃ values, (readSettings files job.places.site job.places.station none).outcome =
    .ok values ∧ Site.build values = .ok job.site
  sameFiles : job.files = files
  sameNow : job.now = now
  definitions : job.definitions.outcome = .ok (some outputs)

/-- A run of the program that comes to its command does what the command does. -/
theorem runProgram_of_starts {arguments : List String} {files : Files} {now : Moment} {job : Job}
    {command : Command} {outputs : List Output}
    (starts : Starts arguments files now job command outputs) :
    (runProgram arguments files now).ending = (job.perform outputs command).ending ∧
      (runProgram arguments files now).files = (job.perform outputs command).files := by
  obtain ⟨⟨name, more, options, isName, isCommand⟩, ⟨values, settings, built⟩, rfl, rfl, outcome⟩ :=
    starts
  have notOther : ¬ (!isCommandName name) = true := by rw [isName]; exact Bool.false_ne_true
  rw [runProgram, options]
  dsimp only
  rw [if_neg notOther, settings]
  dsimp only
  rw [built]
  dsimp only
  rw [isCommand]
  dsimp only
  rw [Job.run, outcome]
  cases command <;> exact ⟨rfl, rfl⟩

/-- A run of the program does not come to its command and leaves all files, or it does what its
command does. -/
theorem runProgram_cases (arguments : List String) (files : Files) (now : Moment) :
    ((runProgram arguments files now).files = files ∧
      ∀ text, (runProgram arguments files now).ending ≠ .success text) ∨
    ∃ job command outputs, Starts arguments files now job command outputs := by
  have noSuccess : ∀ fault text, Ending.ofSettingsFault fault ≠ .success text := by
    intro fault text same
    cases fault <;> cases same
  rw [runProgram]
  split
  · exact .inl ⟨rfl, fun _ same => by cases same⟩
  · exact .inl ⟨rfl, fun _ same => by cases same⟩
  · next places name more options =>
    split
    · exact .inl ⟨rfl, fun _ same => by cases same⟩
    · next isName =>
      dsimp only
      split
      · exact .inl ⟨rfl, noSuccess _⟩
      · next values settings =>
        split
        · exact .inl ⟨rfl, fun _ same => by cases same⟩
        · next site built =>
          split
          · exact .inl ⟨rfl, fun _ same => by cases same⟩
          · next command isCommand =>
            let job : Job := { places, files, now, site }
            have reads : ∃ name more, readOptions arguments {} = some (job.places, name :: more) ∧
                isCommandName name = true ∧ readCommand name more = some command :=
              ⟨name, more, options, by simpa using isName, isCommand⟩
            cases outcome : job.definitions.outcome with
            | error fault =>
              refine .inl ?_
              rw [Job.run, outcome]
              exact ⟨rfl, fun _ same => by cases same⟩
            | ok found =>
              cases found with
              | none =>
                refine .inl ?_
                rw [Job.run, outcome]
                exact ⟨rfl, fun _ same => by cases same⟩
              | some outputs =>
                exact .inr ⟨job, command, outputs, reads, ⟨values, settings, built⟩, rfl, rfl, outcome⟩

/-! ## Help -/

theorem readUserdata_of_help {arguments : List String} {full : Bool}
    (member : helpOption ∈ arguments) : readUserdata arguments full = none := by
  have notFull : helpOption ≠ fullOption := by decide
  have notEnd : helpOption ≠ "--" := by decide
  induction arguments generalizing full with
  | nil => cases member
  | cons argument rest ih =>
    rw [readUserdata]
    rcases List.mem_cons.1 member with rfl | behind
    · rw [if_neg notFull, if_neg (by simp [notEnd])]
    · have notEmpty : rest.isEmpty = false := by
        cases rest with
        | nil => cases behind
        | cons _ _ => rfl
      rw [ih behind, notEmpty, Bool.and_false, if_neg Bool.false_ne_true, ite_self]

/-- No command is read from arguments that ask for help. -/
theorem readCommand_of_asksForHelp {name : String} {arguments : List String}
    (asks : commandAsksForHelp name arguments = true) : readCommand name arguments = none := by
  rw [commandAsksForHelp, Bool.and_eq_true, List.contains_iff_mem] at asks
  have member : helpOption ∈ arguments := (List.takeWhile_prefix _).subset asks.1
  rw [readCommand]
  split
  · refine if_neg fun plain => ?_
    have among : arguments = [] ∨ arguments = ["--"] := by simpa using plain
    rcases among with rfl | rfl
    · cases member
    · exact absurd member (by decide)
  · exact readUserdata_of_help member

/-- With options that ask for help there is no command, or no command is read. -/
theorem readCommand_of_readOptions {arguments : List String}
    (asks : asksForHelp false arguments = true) {places places' : Places} {name : String}
    {more : List String} (read : readOptions arguments places = some (places', name :: more)) :
    readCommand name more = none := by
  have dashed : (decide (helpOption = "-") || !Text.startsWith helpOption "-") = false := by decide
  have quiet : isVerbose helpOption = false := by decide
  have bare : splitOption helpOption = (helpOption, none) := by decide
  have behind : ∀ arguments : List String, arguments = name :: more →
      isHelpOfCommand arguments = true → readCommand name more = none := by
    rintro _ rfl asks
    exact readCommand_of_asksForHelp (Bool.and_eq_true_iff.1 asks).2
  fun_induction readOptions arguments places with
  | case1 => cases read
  | case2 rest =>
    rw [asksForHelp, if_neg (by decide), if_pos rfl, Bool.false_or] at asks
    exact behind _ (Prod.mk.inj (Option.some.inj read)).2 asks
  | case3 argument rest places notEnd plain =>
    have notHelp : argument ≠ helpOption := by
      rintro rfl
      exact Bool.false_ne_true (dashed.symm.trans plain)
    rw [asksForHelp, if_neg notHelp, if_neg notEnd, if_pos plain, Bool.false_or] at asks
    exact behind _ (Prod.mk.inj (Option.some.inj read)).2 asks
  | case4 argument rest places notEnd dashes verbose ih =>
    have notHelp : argument ≠ helpOption := by
      rintro rfl
      exact Bool.false_ne_true (quiet.symm.trans verbose)
    rw [asksForHelp, if_neg notHelp, if_neg notEnd, if_neg dashes, if_pos verbose] at asks
    exact ih asks read
  | case5 argument rest places notEnd dashes verbose option value splits next set ih =>
    have notHelp : argument ≠ helpOption := by
      rintro rfl
      cases bare.symm.trans splits
    rw [asksForHelp, if_neg notHelp, if_neg notEnd, if_neg dashes, if_neg verbose, splits] at asks
    exact ih (Bool.and_eq_true_iff.1 asks).2 read
  | case6 => cases read
  | case7 => cases read
  | case8 argument places notEnd dashes verbose option splits value rest next set ih =>
    have notHelp : argument ≠ helpOption := by
      rintro rfl
      cases bare.symm.trans splits
      cases set
    rw [asksForHelp, if_neg notHelp, if_neg notEnd, if_neg dashes, if_neg verbose, splits] at asks
    exact ih (Bool.and_eq_true_iff.1 asks).2 read
  | case9 => cases read

/-- A run of the program that is asked for help leaves all files. -/
theorem files_of_asksForHelp {arguments : List String} (asks : asksForHelp false arguments = true)
    (files : Files) (now : Moment) : (runProgram arguments files now).files = files := by
  rcases runProgram_cases arguments files now with ⟨same, _⟩ | ⟨_, _, _, starts⟩
  · exact same
  · obtain ⟨name, more, read, _, isCommand⟩ := starts.reads
    cases (readCommand_of_readOptions asks read).symm.trans isCommand

/-- The settings of the site are those of their document. -/
theorem site_of_readSettings {files : Files} {site station : String} {records : Option String}
    {values : Settings} (read : (readSettings files site station records).outcome = .ok values) :
    ∃ document, readDocument files site false = .ok document ∧
      values.site = { document with file := .site } := by
  obtain ⟨document, isSite, read⟩ := Report.outcome_bind_eq_ok_iff.1 read
  obtain ⟨_, _, read⟩ := Report.outcome_bind_eq_ok_iff.1 read
  obtain ⟨_, _, built⟩ := Report.outcome_bind_eq_ok_iff.1 read
  exact ⟨document, isSite, (Settings.steps_of_build built).1⟩

end Meteogram
