import Meteogram.Proofs.Command.Runs
import Meteogram.Proofs.Page.Contents
import Meteogram.Proofs.Text.Decimals

/-!
# The pages that a run leaves

The command that writes pages ends well only if each output has a page. The pages are written one
after the other, so a page stays unless the name of a later output leads to the same file, and what
stands there then is the page of the last such output (`isWritten_of_writePages`). Pages of
different outputs differ, since each carries the number of its output (`number_eq_of_generate`). So
an output has its own page in the end exactly if no later output has the same file.
-/

set_option autoImplicit false

namespace Meteogram

open Time (Moment)

/-! ## Pages carry the number of their output -/

namespace Page

theorem textOfLines_append (first second : List String) :
    textOfLines (first ++ second) = String.join (first.map (· ++ "\n")) ++ textOfLines second := by
  rw [textOfLines, textOfLines, List.map_append, ← String.append_assoc]
  congr 1
  apply String.toList_injective
  simp only [String.toList_join, String.toList_append, List.flatMap_append]

theorem textOfLines_append_inj {front first second : List String} :
    textOfLines (front ++ first) = textOfLines (front ++ second) ↔
      textOfLines first = textOfLines second := by
  rw [textOfLines_append, textOfLines_append, String.append_right_inj]

theorem textOfLines_cons_inj {line : String} {first second : List String} :
    textOfLines (line :: first) = textOfLines (line :: second) ↔
      textOfLines first = textOfLines second :=
  @textOfLines_append_inj [line] first second

theorem toList_textOfLines_cons (line : String) (lines : List String) :
    (textOfLines (line :: lines)).toList = line.toList ++ '\n' :: (textOfLines lines).toList := by
  simp only [textOfLines, List.map_cons, String.toList_append, String.toList_join,
    List.flatMap_cons, List.append_assoc]
  rfl

/-- Texts whose first lines are apart differ. -/
theorem textOfLines_ne_of_apart {line line' : String} {first second : List String}
    (apart : areApart line.toList line'.toList = true) :
    textOfLines (line :: first) ≠ textOfLines (line' :: second) := by
  intro same
  have chars := congrArg String.toList same
  rw [toList_textOfLines_cons, toList_textOfLines_cons] at chars
  have starts :
      line.toList.isPrefixOf (line'.toList ++ '\n' :: (textOfLines second).toList) = true :=
    List.isPrefixOf_iff_prefix.2 (chars ▸ List.prefix_append _ _)
  rw [isPrefixOf_append_of_apart apart] at starts
  cases starts

/-- The line of the menu shows the number. -/
theorem number_eq_of_menu {number number' : Nat} {first second : List String}
    (same : textOfLines (("<select id='graph" ++ toString number ++ "'>") :: first) =
      textOfLines (("<select id='graph" ++ toString number' ++ "'>") :: second)) :
    number = number' := by
  have chars := congrArg String.toList same
  simp only [toList_textOfLines_cons, String.toList_append, List.append_assoc,
    List.append_cancel_left_eq] at chars
  exact number_eq_of_digits (by decide) chars

/-- Lines that start apart are apart. -/
theorem areApart_of_starts {part part' : List Char} {line line' : String}
    (apart : areApart part part' = true) (starts : hasStart part line = true)
    (starts' : hasStart part' line' = true) : areApart line.toList line'.toList = true := by
  rw [areApart, Bool.and_eq_true, Bool.not_eq_true', Bool.not_eq_true', ← Bool.not_eq_true,
    ← Bool.not_eq_true, List.isPrefixOf_iff_prefix, List.isPrefixOf_iff_prefix] at apart ⊢
  rw [hasStart, List.isPrefixOf_iff_prefix] at starts starts'
  obtain ⟨notBefore, notBehind⟩ := apart
  constructor
  · intro longer
    exact (List.prefix_or_prefix_of_prefix (starts.trans longer) starts').elim notBefore notBehind
  · intro longer
    exact (List.prefix_or_prefix_of_prefix starts (starts'.trans longer)).elim notBefore notBehind

/-- The line for the texts about charts is apart from the one that loads the charts. -/
theorem chartLibraryLines_apart (boost : Bool) : ∃ line rest,
    chartLibraryLines chartLibraryVersion boost = line :: rest ∧
      areApart infoLibraryLine.toList line.toList = true ∧
      areApart line.toList infoLibraryLine.toList = true := by
  -- The one line has its address in double quotes, the other one in single quotes.
  have info : hasStart "<script src=\"".toList infoLibraryLine = true :=
    hasStart_append (hasStart_append (hasStart_append (hasStart_ofList (by decide)) _) _) _
  refine ⟨_, _, rfl, ?_⟩
  have chart : ∀ rest : String, hasStart "<script src='".toList ("<script src='" ++ rest) = true :=
    fun rest => hasStart_append (by decide) rest
  simp only [String.append_assoc]
  exact ⟨areApart_of_starts (by decide) info (chart _),
    areApart_of_starts (by decide) (chart _) info⟩

/-- Pages with the same text are those of one output. -/
theorem number_eq_of_generate {generator : Generator} {charts charts' : List Chart}
    {filename filename' page : String} {number number' : Nat}
    (generated : (generate generator charts filename number).outcome = .ok (some page))
    (generated' : (generate generator charts' filename' number').outcome = .ok (some page)) :
    number = number' := by
  obtain ⟨contents, _, rfl⟩ := exists_contents_of_generate generated
  obtain ⟨contents', _, same⟩ := exists_contents_of_generate generated'
  obtain ⟨library, rest, libraries, apart, apart'⟩ :=
    chartLibraryLines_apart generator.options.boost
  have digits : ∀ n : Nat, toString (n : Int) = toString n := fun _ => rfl
  simp only [Contents.lines, Contents.topLines, libraryLines, libraries, digits, List.append_assoc,
    textOfLines_append_inj, List.cons_append, List.nil_append] at same
  -- The libraries in front of the menu depend on the charts in one line at most.
  generalize generator.options.loadsCharts = loads at same
  cases loads with
  | false =>
    simp only [Bool.false_and, Bool.false_eq_true, if_false, List.nil_append,
      textOfLines_append_inj, textOfLines_cons_inj] at same
    exact number_eq_of_menu same
  | true =>
    generalize charts.any Chart.hasInfo = info at same
    generalize charts'.any Chart.hasInfo = info' at same
    cases info <;> cases info' <;>
      simp only [Bool.and_self, Bool.and_false, Bool.false_eq_true, if_false, if_true,
        List.nil_append, List.cons_append, textOfLines_append_inj, textOfLines_cons_inj] at same
    · exact number_eq_of_menu same
    · exact absurd same (textOfLines_ne_of_apart apart')
    · exact absurd same (textOfLines_ne_of_apart apart)
    · exact number_eq_of_menu same

end Page

/-! ## One page after the other -/

/-- The page is generated for the output of this number. -/
def IsPageOf (generator : Page.Generator) (output : Output) (number : Nat) (page : String) : Prop :=
  (Page.generate generator output.charts output.filename number).outcome = .ok (some page)

/-- Where the page of the output goes. -/
def Output.target? (output : Output) (files : Files) (directory : String) : Option Path :=
  (files.locate (joinName directory output.filename)).target?

/-- The files after the pages of the outputs, with numbers from this one on, have been written. -/
structure AreWritten (generator : Page.Generator) (directory : String) (number : Nat)
    (outputs : List Output) (files after : Files) : Prop where
  targets : ∀ name, (after.locate name).target? = (files.locate name).target?
  others : ∀ path, (∀ output ∈ outputs, output.target? files directory ≠ some path) →
    after.file? path = files.file? path
  /-- Each output has a page, which stays if no later output has the same file. -/
  pages : ∀ i output, outputs[i]? = some output → ∃ page path,
    IsPageOf generator output (number + i) page ∧ output.target? files directory = some path ∧
      ((∀ j later, i < j → outputs[j]? = some later → later.target? files directory ≠ some path) →
        after.file? path = some page.toUTF8)

section

variable {generator : Page.Generator} {directory : String} {files : Files} {outputs : List Output}
  {number written count : Nat}

/-- A page that is written was generated. -/
theorem write_of_writePage {filename name : String} {charts : List Chart} {id : Int} {after : Files}
    (wrote : (writePage generator files directory filename charts id).outcome =
      .ok (some (name, after))) :
    ∃ page, (Page.generate generator charts filename id).outcome = .ok (some page) ∧
      files.write (joinName directory filename) page.toUTF8 = .ok after := by
  obtain ⟨made, generated, wrote⟩ := Report.outcome_bind_eq_ok_iff.1 wrote
  cases made with
  | none => cases wrote
  | some page =>
    obtain ⟨next, put, same⟩ := Report.outcome_bind_eq_ok_iff.1 wrote
    cases same
    exact ⟨page, generated, put⟩

/-- No more pages are counted than there are outputs. -/
theorem count_le_of_writePages
    (counts : (writePages generator directory number written files outputs).1 = .ok count) :
    count ≤ written + outputs.length := by
  induction outputs generalizing number written files with
  | nil => exact (Except.ok.inj counts).ge
  | cons output outputs ih =>
    rw [writePages] at counts
    dsimp only at counts
    rw [List.length_cons]
    split at counts
    · cases counts
    · have bound := ih counts
      omega
    · have bound := ih counts
      omega

/-- If as many pages are counted as there are outputs, all of them have been written. -/
theorem areWritten_of_writePages
    (counts : (writePages generator directory number written files outputs).1 = .ok count)
    (complete : written + outputs.length ≤ count) :
    AreWritten generator directory number outputs files
      (writePages generator directory number written files outputs).2.2 := by
  induction outputs generalizing number written files with
  | nil => exact ⟨fun _ => rfl, fun _ _ => rfl, fun _ _ found => by cases found⟩
  | cons output outputs ih =>
    rw [List.length_cons] at complete
    rw [writePages] at counts ⊢
    dsimp only at counts ⊢
    split at counts
    · cases counts
    · next name next wrote =>
      obtain ⟨page, generated, put⟩ := write_of_writePage wrote
      have rest := ih counts (by omega)
      have same : ∀ other : Output, other.target? next directory = other.target? files directory :=
        fun other => Files.target?_write put _
      obtain ⟨path, leads, _⟩ := Files.target?_of_write put
      refine ⟨fun name => (rest.targets name).trans (Files.target?_write put name), ?_, ?_⟩
      · intro other apart
        obtain ⟨here, apart⟩ := List.forall_mem_cons.1 apart
        rw [rest.others other fun later member => same later ▸ apart later member,
          Files.file?_write put]
        exact if_neg here
      · intro i chosen found
        cases i with
        | zero =>
          obtain rfl := Option.some.inj found
          refine ⟨page, path, generated, leads, fun last => ?_⟩
          rw [rest.others path, Files.file?_write put, if_pos leads]
          intro later member
          obtain ⟨j, foundLater⟩ := List.getElem?_of_mem member
          exact same later ▸ last (j + 1) later (Nat.succ_pos j) foundLater
        | succ i =>
          obtain ⟨page', path', isPage, leads', stays⟩ := rest.pages i chosen found
          rw [same] at leads'
          refine ⟨page', path', by rwa [Nat.add_right_comm] at isPage, leads', fun last => stays ?_⟩
          intro j later behind foundLater
          exact same later ▸ last (j + 1) later (Nat.succ_lt_succ behind) foundLater
    · have bound := count_le_of_writePages counts
      omega

/-! ## What is left of an output -/

/-- What is left of the output of this number: its own page, unless a later output has the same
file, and otherwise the page of the last one that has. -/
structure IsLeft (generator : Page.Generator) (directory : String) (outputs : List Output)
    (files after : Files) (number : Nat) (output : Output) (page : String) : Prop where
  isPage : IsPageOf generator output number page
  own_iff : after.read (joinName directory output.filename) = .ok page.toUTF8 ↔
    ∀ n later, number < n → outputs[n]? = some later →
      files.AreApart (joinName directory output.filename) (joinName directory later.filename)
  last : ∃ n other otherPage, number ≤ n ∧ outputs[n]? = some other ∧
    IsPageOf generator other n otherPage ∧
    after.read (joinName directory output.filename) = .ok otherPage.toUTF8

/-- The last output that has this file. -/
theorem exists_last_output {path : Path} {i : Nat} {output : Output}
    (found : outputs[i]? = some output) (leads : output.target? files directory = some path) :
    ∃ k last, i ≤ k ∧ outputs[k]? = some last ∧ last.target? files directory = some path ∧
      ∀ j later, k < j → outputs[j]? = some later → later.target? files directory ≠ some path := by
  classical
  let HasFile (k : Nat) : Prop :=
    ∃ last, outputs[k]? = some last ∧ last.target? files directory = some path
  have here : HasFile i := ⟨output, found, leads⟩
  have bounded : ∀ {k : Nat} {last : Output}, outputs[k]? = some last → k ≤ outputs.length :=
    fun isThere => (List.getElem?_eq_some_iff.1 isThere).1.le
  obtain ⟨last, isThere, leadsLast⟩ := Nat.findGreatest_spec (bounded found) here
  refine ⟨_, last, Nat.le_findGreatest (bounded found) here, isThere, leadsLast, ?_⟩
  intro j later behind foundLater leadsLater
  exact Nat.findGreatest_is_greatest behind (bounded foundLater) ⟨later, foundLater, leadsLater⟩

/-- Each output is left as its own page or as that of a later output. -/
theorem AreWritten.isLeft {after : Files}
    (areWritten : AreWritten generator directory 0 outputs files after) {i : Nat} {output : Output}
    (found : outputs[i]? = some output) :
    ∃ page, IsLeft generator directory outputs files after i output page := by
  have reads : ∀ {path : Path} {bytes : ByteArray},
      output.target? files directory = some path → after.file? path = some bytes →
      after.read (joinName directory output.filename) = .ok bytes :=
    fun leads content => Files.read_of_target? ((areWritten.targets _).trans leads) content
  obtain ⟨page, path, isPage, leads, stays⟩ := areWritten.pages i output found
  obtain ⟨k, last, later, foundLast, leadsLast, isLast⟩ := exists_last_output found leads
  obtain ⟨lastPage, path', isLastPage, leads', staysLast⟩ := areWritten.pages k last foundLast
  obtain rfl : path = path' := Option.some.inj (leadsLast.symm.trans leads')
  rw [Nat.zero_add] at isPage isLastPage
  have readsLast := reads leads (staysLast isLast)
  refine ⟨page, isPage, ⟨fun own => ?_, fun apart => ?_⟩,
    k, last, lastPage, later, foundLast, isLastPage, readsLast⟩
  · obtain rfl : page = lastPage :=
      String.toByteArray_inj.1 (Except.ok.inj (own.symm.trans readsLast))
    obtain rfl : i = k := Page.number_eq_of_generate isPage isLastPage
    intro j other behind foundOther place leadsHere
    obtain rfl : path = place := Option.some.inj (leads.symm.trans leadsHere)
    exact isLast j other behind foundOther
  · exact reads leads (stays fun j other behind foundOther =>
      apart j other behind foundOther path leads)

end

/-! ## The command that writes pages -/

/-- The command that writes pages ends well only if it has written all of them. -/
theorem Job.areWritten_of_compile {job : Job} {outputs : List Output} {panels : List String}
    {text : String} (ended : (job.compile outputs panels).ending = .success text) :
    ∃ generator, Page.Generator.build job.site panels job.now.date.dayOfYear = .ok generator ∧
      AreWritten generator job.places.output 0 outputs job.files
        (job.compile outputs panels).files ∧
      text = "Compiled " ++ toString outputs.length ++ " of " ++ toString outputs.length ++
        " outputs" := by
  rw [compile] at ended ⊢
  split at ended
  · cases ended
  · next generator built =>
    dsimp only at ended ⊢
    split at ended
    · cases ended
    · next count counts =>
      dsimp only at ended
      split at ended
      · cases ended
      · next complete =>
        have bound := count_le_of_writePages counts
        obtain rfl : count = outputs.length := by omega
        exact ⟨generator, built, areWritten_of_writePages counts (by omega),
          (Ending.success.inj ended).symm⟩

/-- A run of the command that writes pages ends well only if it has written all of them. -/
theorem areWritten_of_runProgram {arguments : List String} {files : Files} {now : Moment}
    {places : Places} {more : List String} {text : String}
    (options : readOptions arguments {} = some (places, "compile" :: more))
    (ended : (runProgram arguments files now).ending = .success text) :
    ∃ job outputs generator, Starts arguments files now job .compile outputs ∧
      Page.Generator.build job.site job.definitions.panels now.date.dayOfYear = .ok generator ∧
      AreWritten generator job.places.output 0 outputs files
        (runProgram arguments files now).files ∧
      text = "Compiled " ++ toString outputs.length ++ " of " ++ toString outputs.length ++
        " outputs" := by
  rcases runProgram_cases arguments files now with
    ⟨_, notEnded⟩ | ⟨job, command, outputs, starts⟩
  · exact absurd ended (notEnded text)
  · obtain ⟨name, more', options', _, isCommand⟩ := starts.reads
    obtain ⟨rfl, rfl, rfl⟩ : places = job.places ∧ "compile" = name ∧ more = more' := by
      simpa using options.symm.trans options'
    obtain rfl : .compile = command := by
      rw [readCommand, if_pos rfl] at isCommand
      split at isCommand
      · exact Option.some.inj isCommand
      · cases isCommand
    obtain ⟨ended', left⟩ := runProgram_of_starts starts
    obtain ⟨generator, built, areWritten, isText⟩ :=
      Job.areWritten_of_compile (ended'.symm.trans ended)
    rw [starts.sameNow] at built
    rw [starts.sameFiles] at areWritten
    exact ⟨job, outputs, generator, starts, built, left ▸ areWritten, isText⟩

/-- A run of the command that writes pages, if it ends well, has generated a page for every output.
The page is in the file of its output exactly if no later output has the same file, and else the
page of the last such output is. So with different plain names every output has its own page. -/
theorem compiled_pages_stay_unless_later_ones_replace_them {arguments : List String} {files : Files}
    {now : Moment} {places : Places} {more : List String} {text : String}
    (options : readOptions arguments {} = some (places, "compile" :: more))
    (ended : (runProgram arguments files now).ending = .success text) :
    ∃ job outputs generator, Starts arguments files now job .compile outputs ∧
      Page.Generator.build job.site job.definitions.panels now.date.dayOfYear = .ok generator ∧
      text = "Compiled " ++ toString outputs.length ++ " of " ++ toString outputs.length ++
        " outputs" ∧
      (∀ number output, outputs[number]? = some output → ∃ page,
        IsLeft generator job.places.output outputs files (runProgram arguments files now).files
          number output page) ∧
      ((outputs.map Output.filename).Nodup →
        (∀ output ∈ outputs, IsPlainName output.filename) →
        ∀ number output, outputs[number]? = some output → ∃ page,
          IsPageOf generator output number page ∧
          (runProgram arguments files now).files.read (joinName job.places.output output.filename) =
            .ok page.toUTF8) := by
  obtain ⟨job, outputs, generator, starts, built, areWritten, isText⟩ :=
    areWritten_of_runProgram options ended
  refine ⟨job, outputs, generator, starts, built, isText, fun _ _ => areWritten.isLeft, ?_⟩
  intro different plain number output found
  obtain ⟨page, isLeft⟩ := areWritten.isLeft found
  refine ⟨page, isLeft.isPage, isLeft.own_iff.2 fun n later behind foundLater path leads => ?_⟩
  refine Files.target?_joinName_ne (plain output (List.mem_of_getElem? found))
    (plain later (List.mem_of_getElem? foundLater)) ?_ leads
  intro sameName
  have names : (outputs.map Output.filename)[number]? = (outputs.map Output.filename)[n]? := by
    rw [List.getElem?_map, List.getElem?_map, found, foundLater, Option.map_some, Option.map_some,
      sameName]
  have inRange : number < (outputs.map Output.filename).length := by
    rw [List.length_map]
    exact (List.getElem?_eq_some_iff.1 found).1
  exact absurd ((List.getElem?_inj inRange different).1 names) behind.ne

/-! ### Two charts on two pages -/

/-- A station with two charts, the second of which has its own output. -/
def twoCharts (output : String) : Files where
  contents := [(["Cumulus.ini"], "".toUTF8),
    (["CUserCharts.def"], ("Chart A Title T Plot Temperature EndChart " ++
      "Chart B Title T Plot Temperature EndChart Output " ++ output).toUTF8)]

def midsummer : Moment := ⟨⟨2024, 6, 21⟩, 12, 0, 0, 0⟩

/-- The names of the files that pages are written to. -/
def pageNames (files : Files) : Except Fault (Option (List String)) := do
  let values ← (readSettings files "cumulusutils.ini" "Cumulus.ini" none).outcome
  let site ← Site.build values
  let outputs ← ({ places := {}, files, now := midsummer, site } : Job).definitions.outcome
  return outputs.map (List.map Output.filename)

theorem pageNames_of_starts {files : Files} {job : Job} {outputs : List Output}
    (starts : Starts ["compile"] files midsummer job .compile outputs) :
    job.places.output = "." ∧ pageNames files = .ok (some (outputs.map Output.filename)) := by
  obtain ⟨⟨name, more, options, _, _⟩, ⟨values, isRead, built⟩, rfl, isNow, isDefined⟩ := starts
  have options' : readOptions ["compile"] {} = some ({}, ["compile"]) := by decide
  obtain ⟨isPlaces, _, _⟩ : {} = job.places ∧ "compile" = name ∧ [] = more := by
    simpa using options'.symm.trans options
  obtain ⟨places, files, now, site⟩ := job
  subst isPlaces isNow
  refine ⟨rfl, ?_⟩
  rw [pageNames, isRead]
  change (Site.build values >>= _) = _
  rw [built]
  change (Job.definitions _).outcome >>= _ = _
  rw [isDefined]
  rfl

/-- Pages in different files stay. -/
theorem pages_of_two_files_stay : ∃ first second : String,
    (runProgram ["compile"] (twoCharts "b.txt") midsummer).files.read "./cumuluscharts.txt" =
        .ok first.toUTF8 ∧
      (runProgram ["compile"] (twoCharts "b.txt") midsummer).files.read "./b.txt" =
        .ok second.toUTF8 := by
  have options : readOptions ["compile"] {} = some ({}, ["compile"]) := by decide
  have ended : (runProgram ["compile"] (twoCharts "b.txt") midsummer).ending =
      .success "Compiled 2 of 2 outputs" := by decide +kernel
  obtain ⟨job, outputs, generator, starts, _, _, _, stays⟩ :=
    compiled_pages_stay_unless_later_ones_replace_them options ended
  obtain ⟨directory, names⟩ := pageNames_of_starts starts
  have names' : pageNames (twoCharts "b.txt") = .ok (some ["cumuluscharts.txt", "b.txt"]) := by
    decide +kernel
  have filenames : outputs.map Output.filename = ["cumuluscharts.txt", "b.txt"] :=
    Option.some.inj (Except.ok.inj (names.symm.trans names'))
  have plain : ∀ name ∈ ["cumuluscharts.txt", "b.txt"], IsPlainName name := by
    intro name member
    rcases List.mem_pair.1 member with rfl | rfl <;>
      exact ⟨by decide, by decide, by decide, by decide⟩
  rw [← filenames, List.forall_mem_map] at plain
  have own := stays (filenames ▸ by decide) plain
  obtain ⟨first, others, rfl, isFirst, filenames⟩ := List.map_eq_cons_iff.1 filenames
  obtain ⟨second, none, rfl, isSecond, _⟩ := List.map_eq_cons_iff.1 filenames
  obtain ⟨firstPage, _, readsFirst⟩ := own 0 first rfl
  obtain ⟨secondPage, _, readsSecond⟩ := own 1 second rfl
  rw [directory, isFirst] at readsFirst
  rw [directory, isSecond] at readsSecond
  exact ⟨firstPage, secondPage, readsFirst, readsSecond⟩

/-- A page is lost if a later output has the same file. -/
theorem later_output_replaces_first_page :
    (runProgram ["compile"] (twoCharts "cumuluscharts.txt") midsummer).ending =
        .success "Compiled 2 of 2 outputs" ∧
      ∃ job outputs generator output page,
        Starts ["compile"] (twoCharts "cumuluscharts.txt") midsummer job .compile outputs ∧
        Page.Generator.build job.site job.definitions.panels midsummer.date.dayOfYear =
          .ok generator ∧
        outputs[0]? = some output ∧ IsPageOf generator output 0 page ∧
        (runProgram ["compile"] (twoCharts "cumuluscharts.txt") midsummer).files.read
          (joinName job.places.output output.filename) ≠ .ok page.toUTF8 := by
  have options : readOptions ["compile"] {} = some ({}, ["compile"]) := by decide
  have ended : (runProgram ["compile"] (twoCharts "cumuluscharts.txt") midsummer).ending =
      .success "Compiled 2 of 2 outputs" := by decide +kernel
  refine ⟨ended, ?_⟩
  obtain ⟨job, outputs, generator, starts, built, areWritten, _⟩ :=
    areWritten_of_runProgram options ended
  obtain ⟨_, names⟩ := pageNames_of_starts starts
  have names' : pageNames (twoCharts "cumuluscharts.txt") =
      .ok (some ["cumuluscharts.txt", "cumuluscharts.txt"]) := by decide +kernel
  have filenames : outputs.map Output.filename = ["cumuluscharts.txt", "cumuluscharts.txt"] :=
    Option.some.inj (Except.ok.inj (names.symm.trans names'))
  obtain ⟨output, others, rfl, first, filenames⟩ := List.map_eq_cons_iff.1 filenames
  obtain ⟨later, none, rfl, second, filenames⟩ := List.map_eq_cons_iff.1 filenames
  obtain ⟨page, isLeft⟩ := areWritten.isLeft (i := 0) rfl
  obtain ⟨_, path, _, leads, _⟩ := areWritten.pages 0 output rfl
  refine ⟨job, _, generator, output, page, starts, built, rfl, isLeft.isPage, fun own => ?_⟩
  have sameName : later.filename = output.filename := second.trans first.symm
  have apart := isLeft.own_iff.1 own 1 later (by decide) rfl path leads
  rw [sameName] at apart
  exact apart leads

end Meteogram
