import Meteogram.Proofs.Command.Runs
import Meteogram.Proofs.Ini.Changes

/-!
# Saved settings

The settings of the site are saved by runs that write data and end well, and by no others
(`settings_are_saved_by_data_runs_that_end_well`). Read again they have the end of the run and, if
the series by day were due, its time, and all other texts as they were. The entries that a run does
not change have to be such that they are read from their written lines as they are, and no section
may stand where a text is set: behind other sections its line belongs to the last of them
(`section_at_the_key_hides_the_end`).
-/

set_option autoImplicit false

namespace Meteogram

open Station (Settings)
open Time (Moment)

/-! ## Saved settings -/

theorem isSound_of_readDocument {files : Files} {name : String} {required : Bool}
    {document : Ini.Document} (read : readDocument files name required = .ok document) :
    document.IsSound ∧ (document.lineEnd = "\r" ∨ Ini.IsLineEnd document.lineEnd.toList) := by
  have empty : ({} : Ini.Document).IsSound ∧ (({} : Ini.Document).lineEnd = "\r" ∨
      Ini.IsLineEnd ({} : Ini.Document).lineEnd.toList) :=
    ⟨Ini.isSound_empty_document, .inr (.inl rfl)⟩
  rw [readDocument] at read
  split at read
  · exact Ini.isSound_of_readBytes read
  · exact Except.ok.inj read ▸ empty
  all_goals
    split at read
    · cases read
    · exact Except.ok.inj read ▸ empty

theorem readDocument_of_read {files : Files} {name : String} {bytes : ByteArray}
    (found : files.read name = .ok bytes) (required : Bool) :
    readDocument files name required = Ini.readBytes bytes := by
  rw [Files.read] at found
  rw [readDocument]
  cases place : files.locate name with
  | file path bytes' =>
    rw [place] at found
    rw [Except.ok.inj found]
  | directory path =>
    rw [place] at found
    cases found
  | vacant path =>
    rw [place] at found
    cases found
  | noDirectory fault =>
    rw [place] at found
    cases found
  | nowhere fault =>
    rw [place] at found
    cases found

/-- The keys that a data run sets, with the names of their sections. -/
def changedKeys (due : Bool) : List (String × String) :=
  ("General", "LastUploadTime") :: if due then [("Compiler", "DoneToday")] else []

/-- New sections with these names are kept, and settings with these keys are read as they are
written. -/
theorem plain_changedKeys (indent : String) : ∀ entry ∈ changedKeys true,
    Ini.IsKeptHead indent 0 entry.1 {} ∧ Ini.IsPlainKey entry.2.toList := by
  have general : Ini.headLine indent 0 "General" {} = "[General]" := rfl
  have compiler : Ini.headLine indent 0 "Compiler" {} = "[Compiler]" := rfl
  refine List.forall_mem_cons.2 ⟨⟨⟨⟨[], 1, "General".toList, 1, []⟩, ?_, rfl, rfl, rfl⟩, ?_⟩,
    List.forall_mem_singleton.2 ⟨⟨⟨[], 1, "Compiler".toList, 1, []⟩, ?_, rfl, rfl, rfl⟩, ?_⟩⟩
  · rw [general]
    exact ⟨rfl, List.forall_mem_singleton.2 (by decide)⟩
  · constructor
    · rintro _ ⟨⟩
      decide
    · rintro _ ⟨⟩
      decide
    all_goals decide
  · rw [compiler]
    exact ⟨rfl, List.forall_mem_singleton.2 (by decide)⟩
  · constructor
    · rintro _ ⟨⟩
      decide
    · rintro _ ⟨⟩
      decide
    all_goals decide

theorem isPlainText_slashMinute (moment : Moment) :
    Ini.IsPlainText (Time.write Time.slashMinute moment).toList := by
  have between : [Time.Part.mark '/', .month, .mark '/', .shortYear, .gap, .hour, .mark ':'].all
      Ini.isPlainPart = true := rfl
  exact Ini.isPlainText_write .day .minute rfl rfl between moment

theorem isPlainText_dashSecond (moment : Moment) :
    Ini.IsPlainText (Time.write Time.dashSecond moment).toList := by
  have between : [Time.Part.mark '-', .month, .mark '-', .day, .mark 'T', .hour, .mark ':', .minute,
      .mark ':'].all Ini.isPlainPart = true := rfl
  exact Ini.isPlainText_write .fullYear .second rfl rfl between moment

/-- The path is that of one of these keys. -/
def IsPathOf (keys : List (String × String)) (path : List String) : Prop :=
  ∃ entry ∈ keys, path = [entry.1, entry.2]

/-- All entries that are not at these keys are read from their written lines as they are, no section
stands at the keys, and the lines of the file do not end in a single carriage return. -/
structure IsKeptBut (document : Ini.Document) (keys : List (String × String)) : Prop where
  kept : document.body.IsKept document.indent (IsPathOf keys) 0
  noSections : ∀ entry ∈ keys, document.IsFreeAt entry.1 entry.2
  lineEnd : document.lineEnd ≠ "\r"

/-- The saved settings have the end of a run and, if the series by day were due, its time. All other
texts are the old ones. -/
structure IsSaved (document saved : Ini.Document) (stop now : Moment) (due : Bool) : Prop where
  upload : saved.body.textAt? ["General", "LastUploadTime"] =
    some (Time.write Time.slashMinute stop)
  done : saved.body.textAt? ["Compiler", "DoneToday"] =
    if due then some (Time.write Time.dashSecond now)
    else document.body.textAt? ["Compiler", "DoneToday"]
  others : ∀ path, path ≠ ["General", "LastUploadTime"] → path ≠ ["Compiler", "DoneToday"] →
    saved.body.textAt? path = document.body.textAt? path

/-- Settings in which the time of the series by day has been set, if they were due. Written as they
are, all but the free entries are read back, and the end of the run is the only free one. -/
structure IsMarked (start marked : Ini.Document) (now : Moment) (due : Bool)
    (free : List String → Prop) : Prop where
  writable : marked.IsWritable free
  last : ∀ path, free path → path = ["General", "LastUploadTime"]
  upload : marked.IsFreeAt "General" "LastUploadTime"
  done : marked.body.textAt? ["Compiler", "DoneToday"] =
    if due then some (Time.write Time.dashSecond now)
    else start.body.textAt? ["Compiler", "DoneToday"]
  others : ∀ path, path ≠ ["Compiler", "DoneToday"] →
    marked.body.textAt? path = start.body.textAt? path

theorem exists_isMarked {start marked : Ini.Document} {now : Moment} {due : Bool}
    (writable : start.IsWritable (IsPathOf (changedKeys due)))
    (noSections : ∀ entry ∈ changedKeys due, start.IsFreeAt entry.1 entry.2)
    (marks : if due then start.set "Compiler" "DoneToday" (Time.write Time.dashSecond now) = .ok marked
      else marked = start) : ∃ free, IsMarked start marked now due free := by
  have uploadFree := noSections ("General", "LastUploadTime") List.mem_cons_self
  cases due with
  | false =>
    obtain rfl : marked = start := marks
    refine ⟨_, writable, ?_, uploadFree, rfl, fun _ _ => rfl⟩
    rintro path ⟨entry, member, rfl⟩
    obtain rfl := List.mem_singleton.1 member
    rfl
  | true =>
    have inKeys : ("Compiler", "DoneToday") ∈ changedKeys true :=
      List.mem_cons_of_mem _ List.mem_cons_self
    have doneFree := noSections _ inKeys
    obtain ⟨isHead, isKey⟩ := plain_changedKeys start.indent _ inKeys
    have marks' : start.set "Compiler" "DoneToday" (Time.write Time.dashSecond now) =
        .ok marked := marks
    refine ⟨_, writable.set doneFree marks' isHead isKey (isPlainText_dashSecond now), ?_,
      uploadFree.set marks', Ini.Document.textAt?_set_self marks',
      fun path elsewhere => doneFree.textAt?_set marks' elsewhere⟩
    rintro path ⟨⟨entry, member, rfl⟩, notDone⟩
    rcases List.mem_cons.1 member with rfl | member
    · rfl
    · obtain rfl := List.mem_singleton.1 member
      exact absurd rfl notDone

/-- The settings that a run leaves are read back. -/
theorem exists_saved {document start marked last : Ini.Document} {stop now : Moment} {due : Bool}
    (sound : document.IsSound)
    (lineEnd : document.lineEnd = "\r" ∨ Ini.IsLineEnd document.lineEnd.toList)
    (kept : IsKeptBut document (changedKeys due)) (isStart : start = { document with file := .site })
    (marks : if due then start.set "Compiler" "DoneToday" (Time.write Time.dashSecond now) = .ok marked
      else marked = start)
    (set : marked.set "General" "LastUploadTime" (Time.write Time.slashMinute stop) = .ok last)
    {bytes : ByteArray} (written : last.bytes = .ok bytes) :
    ∃ saved, Ini.readBytes bytes = .ok saved ∧ IsSaved document saved stop now due := by
  have sameTexts : start.body = document.body := by rw [isStart]
  obtain ⟨free, isMarked⟩ : ∃ free, IsMarked start marked now due free := by
    refine exists_isMarked ?_ ?_ marks
    · rw [isStart]
      exact ⟨⟨sound.body, sound.heading, sound.closing, sound.indent⟩, kept.kept,
        lineEnd.resolve_left kept.lineEnd⟩
    · rw [isStart]
      exact kept.noSections
  -- All changed entries are written with plain texts.
  obtain ⟨isHead, isKey⟩ :=
    plain_changedKeys marked.indent ("General", "LastUploadTime") List.mem_cons_self
  have final := isMarked.writable.set isMarked.upload set isHead isKey (isPlainText_slashMinute stop)
  have standing := Ini.Document.textAt?_set_self set
  obtain ⟨saved, read, same⟩ := Ini.Document.exists_readBytes final.sound final.kept
    (fun path isFree => isFree.2 (isMarked.last path isFree.1)) final.lineEnd standing written
  have apart : ["Compiler", "DoneToday"] ≠ ["General", "LastUploadTime"] := by decide
  refine ⟨saved, read, ?_, ?_, fun path notUpload notDone => ?_⟩
  · rw [Ini.Section.textAt?_congr same, standing]
  · rw [Ini.Section.textAt?_congr same, isMarked.upload.textAt?_set set apart, isMarked.done,
      sameTexts]
  · rw [Ini.Section.textAt?_congr same, isMarked.upload.textAt?_set set notUpload,
      isMarked.others path notDone, sameTexts]

/-! ## Runs of the program -/

section

variable {arguments : List String} {places : Places} {name : String} {more : List String}

/-- A data run that ends well saves what it has set. -/
theorem exists_saved_of_perform {job : Job} {outputs : List Output} {full : Bool} {text : String}
    (ended : (job.userdata outputs full).ending = .success text) (named : job.places.site ≠ "")
    {document : Ini.Document} (read : readDocument job.files job.places.site false = .ok document)
    (isSite : job.site.settings.site = { document with file := .site }) :
    ∃ stop due, text = "User data written up to " ++ Time.write Time.slashMinute stop ∧
      (due = true ↔ IsDue (job.turn outputs full) job.site.settings) ∧
      (IsKeptBut document (changedKeys due) →
        ∃ saved, readDocument (job.userdata outputs full).files job.places.site false = .ok saved ∧
          IsSaved document saved stop job.now due) := by
  rcases job.userdata_cases outputs full with
    ⟨⟨_, stopped⟩, _⟩ | ⟨stop, settings, files, updated, set, saves, ended', left⟩
  · cases stopped.symm.trans ended
  · obtain rfl : _ = text := Ending.success.inj (ended'.symm.trans ended)
    obtain ⟨last, set', same⟩ := bind_eq_ok.1 set
    obtain rfl := Except.ok.inj same
    rw [saveSite, if_neg named] at saves
    obtain ⟨bytes, written, wrote⟩ := bind_eq_ok.1 saves
    obtain ⟨sound, lineEnd⟩ := isSound_of_readDocument read
    have readAgain : readDocument (job.userdata outputs full).files job.places.site false =
        Ini.readBytes bytes := by
      rw [left]
      exact readDocument_of_read (Files.read_write wrote) false
    rw [readAgain]
    rcases site_of_update updated with ⟨due, marks⟩ | ⟨notDue, same⟩
    · refine ⟨stop, true, rfl, iff_of_true rfl due, fun kept => ?_⟩
      exact exists_saved sound lineEnd kept isSite marks set' written
    · refine ⟨stop, false, rfl, iff_of_false Bool.false_ne_true notDue, fun kept => ?_⟩
      exact exists_saved sound lineEnd kept isSite same set' written

/-- The settings are saved by a data run that ends well, and by no other run. -/
theorem settings_are_saved_by_data_runs_that_end_well (files : Files) (now : Moment)
    (options : readOptions arguments {} = some (places, name :: more)) :
    ((name = "compile" ∨ ∀ text, (runProgram arguments files now).ending ≠ .success text) →
      (∀ job command outputs, Starts arguments files now job command outputs →
        ∀ file ∈ command.fileNames outputs,
          files.AreApart (joinName places.output file) places.site) →
      ((runProgram arguments files now).files.read places.site).toOption =
        (files.read places.site).toOption) ∧
    ∀ text, name = "userdata" → (runProgram arguments files now).ending = .success text →
      places.site ≠ "" →
      ∃ document job outputs full stop due,
        readDocument files places.site false = .ok document ∧
        Starts arguments files now job (.userdata full) outputs ∧
        text = "User data written up to " ++ Time.write Time.slashMinute stop ∧
        (due = true ↔ IsDue (job.turn outputs full) job.site.settings) ∧
        (IsKeptBut document (changedKeys due) →
          ∃ saved, readDocument (runProgram arguments files now).files places.site false =
              .ok saved ∧ IsSaved document saved stop now due) := by
  constructor
  · intro notSaved apart
    rcases runProgram_cases arguments files now with
      ⟨same, _⟩ | ⟨job, command, outputs, starts⟩
    · rw [same]
    · obtain ⟨ended, left⟩ := runProgram_of_starts starts
      obtain ⟨name', more', options', _, isCommand⟩ := starts.reads
      obtain ⟨rfl, rfl, rfl⟩ : places = job.places ∧ name = name' ∧ more = more' := by
        simpa using options.symm.trans options'
      have notSaved' : command = .compile ∨
          ∀ text, (job.perform outputs command).ending ≠ .success text := by
        rw [← ended]
        refine notSaved.imp_left ?_
        rintro rfl
        rw [readCommand, if_pos rfl] at isCommand
        split at isCommand
        · exact (Option.some.inj isCommand).symm
        · cases isCommand
      have apart' := apart job command outputs starts
      rw [← starts.sameFiles] at apart'
      rw [left, (keeps_perform apart' notSaved').read, starts.sameFiles]
  · rintro text rfl ended named
    rcases runProgram_cases arguments files now with
      ⟨_, notEnded⟩ | ⟨job, command, outputs, starts⟩
    · exact absurd ended (notEnded text)
    · obtain ⟨ended', left⟩ := runProgram_of_starts starts
      obtain ⟨name', more', options', _, isCommand⟩ := starts.reads
      obtain ⟨rfl, rfl, rfl⟩ : places = job.places ∧ "userdata" = name' ∧ more = more' := by
        simpa using options.symm.trans options'
      rw [readCommand, if_neg (by decide)] at isCommand
      obtain ⟨full, rfl⟩ := command_of_readUserdata isCommand
      obtain ⟨values, read, built⟩ := starts.settings
      obtain ⟨document, isRead, isSite⟩ := site_of_readSettings read
      have sameValues : job.site.settings = values := by
        obtain ⟨_, _, same⟩ := bind_eq_ok.1 built
        rw [← Except.ok.inj same]
      rw [ended'] at ended
      rw [← sameValues] at isSite
      obtain ⟨stop, due, isText, isDue, saves⟩ :=
        exists_saved_of_perform ended named (starts.sameFiles ▸ isRead) isSite
      refine ⟨document, job, outputs, full, stop, due, isRead, starts, isText, isDue, fun kept => ?_⟩
      rw [left, ← starts.sameNow]
      exact saves kept

end

/-! ### A full run at noon -/

/-- A site with these settings and a chart of the temperature. -/
def noonFiles (settings : String) : Files where
  contents := [(["Cumulus.ini"], "".toUTF8),
    (["CUserCharts.def"], "Chart A Title T Plot Temperature EndChart".toUTF8),
    (["cumulusutils.ini"], settings.toUTF8)]

def noon : Moment := ⟨⟨2024, 6, 21⟩, 12, 0, 0, 0⟩

def noonJob (settings : String) (site : Site) : Job where
  places := {}
  files := noonFiles settings
  now := noon
  site := site

def temperatureOutput : Output where
  filename := "cumuluscharts.txt"
  charts := [{
    id := "A"
    title := "T"
    axes := ⟨1⟩
    series := [{
      keyword := "Temperature"
      field := "temp"
      datafile := "tempdata.json"
      axes := ⟨1⟩
      axisId := "Temp"
      unit := "°C" }] }]

/-- The outputs of the site. -/
def noonOutputs (settings : String) : Except Fault (Option (List Output)) := do
  let values ← (readSettings (noonFiles settings) "cumulusutils.ini" "Cumulus.ini" none).outcome
  let site ← Site.build values
  (noonJob settings site).definitions.outcome

/-- The end of the window of the run, if there is a place for the settings then. -/
def noonStop (settings : String) : Except Fault String := do
  let values ← (readSettings (noonFiles settings) "cumulusutils.ini" "Cumulus.ini" none).outcome
  let site ← Site.build values
  let update := ((noonJob settings site).turn [temperatureOutput] true).update site.settings
  let stop ← update.outcome
  let _ ← update.files.write "cumulusutils.ini" .empty
  return Time.write Time.slashMinute stop

/-- The run saves the settings that it sets in those that it has read. -/
theorem runProgram_noon (settings : String) (document : Ini.Document) {marked last : Ini.Document}
    {bytes : ByteArray} (outputs : noonOutputs settings = .ok (some [temperatureOutput]))
    (stops : noonStop settings = .ok "21/06/24 12:00")
    (read : Ini.readBytes settings.toUTF8 = .ok document)
    (marks : ({ document with file := .site } : Ini.Document).set "Compiler" "DoneToday"
      (Time.write Time.dashSecond noon) = .ok marked)
    (set : marked.set "General" "LastUploadTime" "21/06/24 12:00" = .ok last)
    (written : last.bytes = .ok bytes) :
    (runProgram ["userdata", "--non-incremental"] (noonFiles settings) noon).ending =
        .success "User data written up to 21/06/24 12:00" ∧
      readDocument (runProgram ["userdata", "--non-incremental"] (noonFiles settings) noon).files
        "cumulusutils.ini" false = Ini.readBytes bytes := by
  obtain ⟨values, areValues, stops⟩ := bind_eq_ok.1 stops
  obtain ⟨site, built, stops⟩ := bind_eq_ok.1 stops
  obtain ⟨stop, updated, stops⟩ := bind_eq_ok.1 stops
  obtain ⟨_, hasPlace, stops⟩ := bind_eq_ok.1 stops
  have printed : Time.write Time.slashMinute stop = "21/06/24 12:00" := Except.ok.inj stops
  obtain ⟨values', areValues', outputs⟩ := bind_eq_ok.1 outputs
  obtain ⟨site', built', outputs⟩ := bind_eq_ok.1 outputs
  obtain rfl : values = values' := Except.ok.inj (areValues.symm.trans areValues')
  obtain rfl : site = site' := Except.ok.inj (built.symm.trans built')
  have options : readOptions ["userdata", "--non-incremental"] {} =
      some ({}, ["userdata", "--non-incremental"]) := by decide
  have starts : Starts ["userdata", "--non-incremental"] (noonFiles settings) noon
      (noonJob settings site) (.userdata true) [temperatureOutput] :=
    ⟨⟨_, _, options, by decide, by decide⟩, ⟨values, areValues, built⟩, rfl, rfl, outputs⟩
  obtain ⟨found, isRead, isSite⟩ := site_of_readSettings areValues
  have isFile : (noonFiles settings).read "cumulusutils.ini" = .ok settings.toUTF8 := rfl
  obtain rfl : found = document :=
    Except.ok.inj (isRead.symm.trans ((readDocument_of_read isFile false).trans read))
  have sameValues : site.settings = values := by
    obtain ⟨_, _, same⟩ := bind_eq_ok.1 built
    rw [← Except.ok.inj same]
  obtain ⟨settings', isSet, same⟩ : ∃ settings', (((noonJob settings site).turn [temperatureOutput]
      true).update site.settings).settings.setSite "General" "LastUploadTime"
        (Time.write Time.slashMinute stop) = .ok settings' ∧ settings'.site = last := by
    rcases site_of_update updated with ⟨_, isMarked⟩ | ⟨notDue, _⟩
    · rw [sameValues, isSite] at isMarked
      obtain rfl : _ = marked := Except.ok.inj (isMarked.symm.trans marks)
      rw [Settings.setSite, printed, sameValues, set]
      exact ⟨_, rfl, rfl⟩
    · exact absurd ⟨List.cons_ne_nil _ _, .inl rfl⟩ notDue
  obtain ⟨after, wrote⟩ := Files.exists_write_iff.2 (Files.exists_write_iff.1 ⟨_, hasPlace⟩)
  have saves : saveSite settings' (((noonJob settings site).turn [temperatureOutput] true).update
      site.settings).files "cumulusutils.ini" = .ok after := by
    rw [saveSite, if_neg (by decide), same, written]
    exact wrote
  obtain ⟨ended, left⟩ := runProgram_of_starts starts
  obtain ⟨ended', left'⟩ := Job.userdata_of_saves updated isSet saves
  rw [ended, left]
  refine ⟨ended'.trans (by rw [printed]; rfl), ?_⟩
  exact (congrArg (readDocument · _ false) left').trans
    (readDocument_of_read (Files.read_write wrote) false)

/-- The settings of a site, with an upload that was before. -/
def namedText : String := "[General]\nName = Rotterdam\nLastUploadTime = 20/06/24 10:00\n"

def namedDocument : Ini.Document where
  body := { children := [("General", {}, .group { settings :=
    [{ key := "Name", text := "Rotterdam" }, { key := "LastUploadTime", text := "20/06/24 10:00" }] })] }

theorem isKeptBut_namedDocument (due : Bool) : IsKeptBut namedDocument (changedKeys due) where
  kept := by
    have isIndent : Ini.IsIndent "".toList := fun _ member => (by cases member)
    refine .mk (fun _ member => (by cases member)) (List.forall_mem_singleton.2
      (plain_changedKeys "" ("General", "LastUploadTime") List.mem_cons_self).1) ?_
    intro name margin inner member
    obtain ⟨rfl, rfl, rfl⟩ : name = "General" ∧ margin = {} ∧ inner = _ := by
      simpa [namedDocument] using member
    refine .mk (List.forall_mem_cons.2 ⟨fun _ => ?_, List.forall_mem_singleton.2 fun notFree => ?_⟩)
      (fun _ member => (by cases member)) (fun _ _ _ member => (by cases member))
    · refine Ini.Setting.isKept_of_plain isIndent Ini.Margin.isSound_empty ?_ ?_
      · constructor
        · rintro _ ⟨⟩
          decide
        · rintro _ ⟨⟩
          decide
        all_goals decide
      · constructor
        · rintro _ ⟨⟩
          decide
        · rintro _ ⟨⟩
          decide
        all_goals decide
    · exact absurd ⟨("General", "LastUploadTime"), List.mem_cons_self, rfl⟩ notFree
  noSections := by
    have upload : namedDocument.IsFreeAt "General" "LastUploadTime" := by
      rintro body ⟨⟩ inner ⟨⟩
    cases due with
    | false => exact List.forall_mem_singleton.2 upload
    | true =>
      refine List.forall_mem_cons.2 ⟨upload, List.forall_mem_singleton.2 ?_⟩
      rintro body ⟨⟩
  lineEnd := by decide

/-- A run at noon saves its end and leaves the name of the site. -/
theorem noon_run_saves_its_end : ∃ saved,
    readDocument (runProgram ["userdata", "--non-incremental"] (noonFiles namedText) noon).files
        "cumulusutils.ini" false = .ok saved ∧
      saved.body.textAt? ["General", "LastUploadTime"] = some "21/06/24 12:00" ∧
      saved.body.textAt? ["General", "Name"] = some "Rotterdam" := by
  have options : readOptions ["userdata", "--non-incremental"] {} =
      some ({}, ["userdata", "--non-incremental"]) := by decide
  have ended : (runProgram ["userdata", "--non-incremental"] (noonFiles namedText) noon).ending =
      .success "User data written up to 21/06/24 12:00" := by
    let last : Ini.Document := { namedDocument with body := { children :=
      [("General", {}, .group { settings := [{ key := "Name", text := "Rotterdam" },
          { key := "LastUploadTime", text := "21/06/24 12:00" }] }),
        ("Compiler", {}, .group { settings :=
          [{ key := "DoneToday", text := "2024-06-21T12:00:00" }] })] } }
    have lines : Ini.sectionLines last.indent 0 last.body = .ok ["[General]", "Name = Rotterdam",
        "LastUploadTime = 21/06/24 12:00", "[Compiler]", "DoneToday = 2024-06-21T12:00:00"] := by
      rw [Ini.sectionLines_eq]
      simp only [last, List.mapM_nil, List.mapM_cons, Ini.childLines, Ini.sectionLines_eq]
      rfl
    obtain ⟨bytes, written⟩ : ∃ bytes, last.bytes = .ok bytes := by
      rw [Ini.Document.bytes, Ini.Document.text, lines]
      exact ⟨_, rfl⟩
    exact (runProgram_noon namedText namedDocument (by decide) (by decide) rfl rfl
      rfl written).1
  obtain ⟨_, saves⟩ :=
    settings_are_saved_by_data_runs_that_end_well (noonFiles namedText) noon options
  obtain ⟨document, job, outputs, full, stop, due, read, _, isText, _, kept⟩ :=
    saves _ rfl ended (by decide)
  have isFile : (noonFiles namedText).read "cumulusutils.ini" = .ok namedText.toUTF8 := rfl
  have isDocument : Ini.readBytes namedText.toUTF8 = .ok namedDocument := rfl
  obtain rfl : document = namedDocument :=
    Except.ok.inj (read.symm.trans ((readDocument_of_read isFile false).trans isDocument))
  obtain ⟨saved, readAgain, isSaved⟩ := kept (isKeptBut_namedDocument due)
  refine ⟨saved, readAgain, isSaved.upload.trans ?_, isSaved.others _ (by decide) (by decide)⟩
  have start : "User data written up to 21/06/24 12:00" =
      "User data written up to " ++ "21/06/24 12:00" := rfl
  rw [start, String.append_right_inj] at isText
  rw [isText]

/-- The end of a run is hidden in another section if a section stands at its key. -/
def nestedText : String := "[General]\n[[Sub]]\na = 1\n[[LastUploadTime]]\n"

def nestedDocument : Ini.Document where
  body := { children := [("General", {}, .group { children :=
    [("Sub", {}, .group { settings := [{ key := "a", text := "1" }] }),
      ("LastUploadTime", {}, .group {})] })] }

theorem section_at_the_key_hides_the_end :
    (runProgram ["userdata", "--non-incremental"] (noonFiles nestedText) noon).ending =
        .success "User data written up to 21/06/24 12:00" ∧
      ∃ saved, readDocument (runProgram ["userdata", "--non-incremental"] (noonFiles nestedText)
          noon).files "cumulusutils.ini" false = .ok saved ∧
        saved.body.textAt? ["General", "LastUploadTime"] = none ∧
        saved.body.textAt? ["General", "Sub", "a"] = some "1" := by
  let last : Ini.Document := { nestedDocument with body := { children :=
    [("General", {}, .group { children :=
      [("Sub", {}, .group { settings := [{ key := "a", text := "1" }] }),
        ("LastUploadTime", {}, .text "21/06/24 12:00")] }),
      ("Compiler", {}, .group { settings :=
        [{ key := "DoneToday", text := "2024-06-21T12:00:00" }] })] } }
  have lines : Ini.sectionLines last.indent 0 last.body = .ok ["[General]", "[[Sub]]", "a = 1",
      "LastUploadTime = 21/06/24 12:00", "[Compiler]", "DoneToday = 2024-06-21T12:00:00"] := by
    rw [Ini.sectionLines_eq]
    simp only [last, List.mapM_nil, List.mapM_cons, Ini.childLines, Ini.sectionLines_eq]
    rfl
  have text : last.text = .ok ("[General]\n[[Sub]]\na = 1\nLastUploadTime = 21/06/24 12:00\n" ++
      "[Compiler]\nDoneToday = 2024-06-21T12:00:00\n") := by
    rw [Ini.Document.text, lines]
    decide +kernel
  have bytes : last.bytes = .ok ("[General]\n[[Sub]]\na = 1\nLastUploadTime = 21/06/24 12:00\n" ++
      "[Compiler]\nDoneToday = 2024-06-21T12:00:00\n").toUTF8 := by
    rw [Ini.Document.bytes, text]
    rfl
  obtain ⟨ended, read⟩ := runProgram_noon nestedText nestedDocument (by decide)
    (by decide) rfl rfl rfl bytes
  refine ⟨ended, ?_⟩
  rw [read]
  exact ⟨_, rfl, rfl, rfl⟩

/-- A comment whose line ends in a single carriage return. -/
def returnText : String := "# settings\r"

def returnDocument : Ini.Document where
  heading := ["# settings"]
  lineEnd := "\r"

theorem carriage_return_hides_the_end :
    (runProgram ["userdata", "--non-incremental"] (noonFiles returnText) noon).ending =
        .success "User data written up to 21/06/24 12:00" ∧
      ∃ saved, readDocument (runProgram ["userdata", "--non-incremental"] (noonFiles returnText)
          noon).files "cumulusutils.ini" false = .ok saved ∧
        saved.body.textAt? ["General", "LastUploadTime"] = none := by
  let last : Ini.Document := { returnDocument with body := { children :=
    [("Compiler", {}, .group { settings :=
        [{ key := "DoneToday", text := "2024-06-21T12:00:00" }] }),
      ("General", {}, .group { settings :=
        [{ key := "LastUploadTime", text := "21/06/24 12:00" }] })] } }
  have lines : Ini.sectionLines last.indent 0 last.body = .ok ["[Compiler]",
      "DoneToday = 2024-06-21T12:00:00", "[General]", "LastUploadTime = 21/06/24 12:00"] := by
    rw [Ini.sectionLines_eq]
    simp only [last, List.mapM_nil, List.mapM_cons, Ini.childLines, Ini.sectionLines_eq]
    rfl
  have text : last.text = .ok ("# settings\r[Compiler]\rDoneToday = 2024-06-21T12:00:00\r" ++
      "[General]\rLastUploadTime = 21/06/24 12:00\r") := by
    rw [Ini.Document.text, lines]
    decide +kernel
  have bytes : last.bytes = .ok ("# settings\r[Compiler]\rDoneToday = 2024-06-21T12:00:00\r" ++
      "[General]\rLastUploadTime = 21/06/24 12:00\r").toUTF8 := by
    rw [Ini.Document.bytes, text]
    rfl
  obtain ⟨ended, read⟩ := runProgram_noon returnText returnDocument (by decide)
    (by decide) rfl rfl rfl bytes
  refine ⟨ended, ?_⟩
  rw [read]
  have noEnd : (Ini.readBytes ("# settings\r[Compiler]\rDoneToday = 2024-06-21T12:00:00\r" ++
      "[General]\rLastUploadTime = 21/06/24 12:00\r").toUTF8).map
        (fun saved => saved.body.textAt? ["General", "LastUploadTime"]) = .ok none := by
    decide +kernel
  generalize Ini.readBytes _ = result at noEnd ⊢
  cases result with
  | error fault => cases noEnd
  | ok saved => exact ⟨saved, rfl, Except.ok.inj noEnd⟩

/-- The end of a run is not found again if a section stands at its key, nor if the lines of the
file end in a single carriage return. -/
theorem sections_and_carriage_returns_hide_the_end : [nestedText, returnText].Forall fun settings =>
    (runProgram ["userdata", "--non-incremental"] (noonFiles settings) noon).ending =
        .success "User data written up to 21/06/24 12:00" ∧
      ∃ saved, readDocument (runProgram ["userdata", "--non-incremental"] (noonFiles settings)
          noon).files "cumulusutils.ini" false = .ok saved ∧
        saved.body.textAt? ["General", "LastUploadTime"] = none := by
  obtain ⟨ended, saved, read, hidden, _⟩ := section_at_the_key_hides_the_end
  exact ⟨⟨ended, saved, read, hidden⟩, carriage_return_hides_the_end⟩

end Meteogram
