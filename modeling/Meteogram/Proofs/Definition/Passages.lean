import Meteogram.Proofs.Definition.ReadingFile
import Meteogram.Proofs.Definition.Taking

/-!
# The charts of a text

Whatever the words of definitions are, if they are read then they are a block of
equations, which may be missing, and the passages of charts one after the other. A
passage is a chart from its first keyword to its last one, and the clauses that stand
behind it. What is read of a passage depends on the passages in front of it: on their
charts, and on whether one of them starts another output.

`ends_takeOutputs` says this of every text that is read. The other theorems are
about one reader each: what it takes, what it ends with, and what can stop it.
-/

set_option autoImplicit false

namespace Meteogram.Definition

open Text Number Reader

/-! ## Passages -/

/-- A clause between the title and the series. -/
inductive HeadClause where
  /-- `ConnectsTo`, with words made of digits. -/
  | connects (panels : List String)
  /-- `Zoom`, with any word. -/
  | zoom (number : String)
  /-- `Has WindBarbs`, with the side and the colour. -/
  | barbs (below : Bool) (colour : Option String)

namespace HeadClause

/-- How the clause is written. -/
def items : HeadClause → List Item
  | connects panels => .keyword "ConnectsTo" :: panels.map .word
  | zoom number => [.keyword "Zoom", .word number]
  | barbs below colour =>
    .keyword "Has" :: .keyword "WindBarbs" :: .keyword (if below then "Below" else "Above") ::
      match colour with
      | none => []
      | some colour => [.keyword "Colour", .word colour]

/-- The numbers of the panels that the clause names. -/
@[simp]
def named : HeadClause → List Int
  | connects panels => panels.filterMap readInt?
  | _ => []

theorem items_ne_nil (clause : HeadClause) : clause.items ≠ [] := by
  cases clause <;> exact List.cons_ne_nil _ _

/-- What the clause names as panels is made of digits. -/
def IsWritten : HeadClause → Prop
  | connects panels => ∀ panel ∈ panels, isDigits panel = true
  | _ => True

end HeadClause

/-- The words of a chart from its first keyword to its last one. -/
structure ChartText where
  id : String
  /-- The first word of the title. -/
  title : String
  /-- The other words of the title. -/
  moreTitle : List String
  clauses : List HeadClause
  /-- The words of all series. -/
  series : List String

namespace ChartText

/-- How the chart is written. -/
def items (text : ChartText) : List Item :=
  .keyword "Chart" :: .word text.id :: .keyword "Title" :: .word text.title ::
    (text.moreTitle.map .word ++ (text.clauses.flatMap HeadClause.items ++
      (text.series.map .word ++ [.keyword "EndChart"])))

/-- The numbers of the panels that the chart names in its `ConnectsTo` clauses. -/
def named (text : ChartText) : List Int :=
  text.clauses.flatMap HeadClause.named

/-- The title ends in front of a clause or a series, and there is a series. -/
structure IsWritten (text : ChartText) : Prop where
  title : ∀ word ∈ text.moreTitle,
    ["Plot", "Stats", "ConnectsTo", "Zoom", "Has"].any (sameWord word) = false
  clauses : ∀ clause ∈ text.clauses, clause.IsWritten
  series : ["Plot", "Stats"].any (sameWord (text.series.headD "")) = true

end ChartText

/-- A clause behind a chart. -/
inductive Supplement where
  /-- `Info`, with the words between the quotation marks. -/
  | info (words : List String)
  /-- `Output`, with the name of a file. -/
  | output (filename : String)

namespace Supplement

/-- How the clause is written. -/
def items : Supplement → List Item
  | info words => .keyword "Info" :: .word "\"" :: (words.map .word ++ [.word "\""])
  | output filename => [.keyword "Output", .word filename]

/-- The text that the clause gives to the chart. -/
@[simp]
def info? : Supplement → Option (List String)
  | info words => some words
  | output _ => none

/-- The file that the clause names. -/
@[simp]
def output? : Supplement → Option String
  | info _ => none
  | output filename => some filename

/-- At most one of the clauses is a text, and at most one names a file. -/
structure AreWritten (supplements : List Supplement) : Prop where
  infos : (supplements.filterMap info?).length ≤ 1
  outputs : (supplements.filterMap output?).length ≤ 1

end Supplement

/-- The chart with this text about it, if there is one. -/
def withInfo (chart : Chart) : Option (List String) → Chart
  | none => chart
  | some words => { chart with hasInfo := true, infoText := String.intercalate " " words }

/-- A chart of a text, with what stands behind it. -/
structure Passage where
  text : ChartText
  /-- The chart that the text is read as. -/
  chart : Chart
  supplements : List Supplement

namespace Passage

/-- How the passage is written. -/
def items (passage : Passage) : List Item :=
  passage.text.items ++ passage.supplements.flatMap Supplement.items

/-- The file that the passage names as the output to start. -/
def output? (passage : Passage) : Option String :=
  lastOf Supplement.output? passage.supplements

/-- The chart with the text about it. -/
def full (passage : Passage) : Chart :=
  withInfo passage.chart (lastOf Supplement.info? passage.supplements)

/-- Charts behind these passages connect to the dashboard: none of them starts another
output. The first one of all cannot. -/
def connectsBehind (before : List Passage) : Bool :=
  before.tail.all fun passage => passage.output?.isNone

/-- The output that the passage starts behind these ones, if it starts one. -/
def startsBehind (before : List Passage) (passage : Passage) : Option String :=
  if before.isEmpty then none else passage.output?

/-- The charts of the passages, each with the file of the output that it starts. -/
def placed : List Passage → List (Option String × Chart)
  | [] => []
  | first :: others => (none, first.full) :: others.map fun passage => (passage.output?, passage.full)

/-- The connections to panels that the charts of the passages have. -/
def connections (passages : List Passage) : List (Int × String) :=
  passages.flatMap fun passage => linksOf passage.full.id passage.full.panels

/-- Behind the passages `before`, the passage is read between the two states. -/
structure IsRead (site : Site) (before : List Passage) (passage : Passage)
    (state last : State) : Prop where
  text : passage.text.IsWritten
  supplements : Supplement.AreWritten passage.supplements
  id : passage.full.id = passage.text.id
  fresh : ∀ other ∈ before, sameWord other.full.id passage.full.id = false
  panels : passage.full.panels = linked (connectsBehind before) passage.text.named
  taken : ∃ between,
    takeChart site (before.map full) (connectsBehind before) state = .ok passage.chart between ∧
      Passed state passage.text.items (linksOf passage.full.id passage.full.panels) between ∧
      Passed between (passage.supplements.flatMap Supplement.items) [] last

end Passage

/-- From the state `start` on, the passages are read one after the other. -/
inductive AreRead (site : Site) (start : State) : List Passage → State → Prop where
  | none : AreRead site start [] start
  | next {before : List Passage} {passage : Passage} {state last : State}
      (others : AreRead site start before state) (read : passage.IsRead site before state last) :
      AreRead site start (before ++ [passage]) last

/-- An equation of the block in front of the charts. -/
structure BlockEquation where
  name : String
  expression : List String

/-- How the equation is written. -/
def BlockEquation.items (equation : BlockEquation) : List Item :=
  .word equation.name :: bracketItems equation.expression

/-- How the block of equations is written. -/
def blockItems : List BlockEquation → List Item
  | [] => []
  | equations => .keyword "Equations" :: equations.flatMap BlockEquation.items

/-- All words from the first state on are the block of these equations and these
passages, and the reading ends in the last state. -/
def IsDivided (site : Site) (first : State) (equations : List BlockEquation)
    (passages : List Passage) (last : State) : Prop :=
  ∃ start, Passed first (blockItems equations) [] start ∧ AreRead site start passages last ∧
    last.rest = []

/-! ## Clauses in front of the series -/

section

variable {state : State} {site : Site} {all : List String} {E : Fault → Prop} {connects : Bool}

/-- A chart is connected to a panel if it can be. -/
theorem ends_connect (chart : Chart) (panel : Int) :
    Ends state (connect chart connects panel) (fun full last =>
      full = withPanels chart (linked connects [panel]) ∧
        Passed state [] (linksOf chart.id (linked connects [panel])) last) E := by
  have unlinked : ∀ last, linked connects [panel] = [] → Passed state [] [] last →
      Ends last (pure chart) (fun full last =>
        full = withPanels chart (linked connects [panel]) ∧
          Passed state [] (linksOf chart.id (linked connects [panel])) last) E := by
    intro last none passed
    rw [none, linksOf, List.map_nil, withPanels_nil]
    exact Ends.pure ⟨rfl, passed⟩
  rw [connect]
  cases connects with
  | false =>
    refine Ends.ite (fun _ => (ends_warn _).bind fun _ last => unlinked last rfl) fun on => ?_
    exact absurd rfl on
  | true =>
    refine Ends.ite (fun off => by cases off) fun _ => ?_
    by_cases known : isPanel panel = true
    · have alone : linked true [panel] = [panel] := by
        rw [linked, if_pos rfl, List.filter_cons_of_pos known, List.filter_nil]
      rw [alone]
      refine Ends.ite (fun outside => ?_) fun _ => ?_
      · rw [isPanel, Bool.and_eq_true, decide_eq_true_eq, decide_eq_true_eq] at known
        rw [Bool.or_eq_true, decide_eq_true_eq, decide_eq_true_eq] at outside
        omega
      · refine Ends.bind (Q := fun _ last => Passed state [] (linksOf chart.id [panel]) last)
          (Ends.modify ⟨⟨[], .nil, rfl⟩, fun connections same => ?_⟩) fun _ _ passed =>
            Ends.pure ⟨rfl, passed⟩
        rw [linksOf, List.map_singleton, dashboard_concat connections known, ← same]
    · have none : linked true [panel] = [] := by
        rw [linked, if_pos rfl, List.filter_cons_of_neg known, List.filter_nil]
      refine Ends.ite (fun _ => (ends_warn _).bind fun _ last => unlinked last none) fun inside => ?_
      rw [isPanel, Bool.and_eq_true, decide_eq_true_eq, decide_eq_true_eq] at known
      rw [Bool.or_eq_true, decide_eq_true_eq, decide_eq_true_eq] at inside
      omega

/-- All words made of digits behind the keyword are taken as panels. -/
theorem ends_takePanels {keyword : String} (chart : Chart)
    (same : sameWord keyword "ConnectsTo" = true) (within : keyword :: state.rest <:+ all) :
    Ends state (takePanels chart connects) (fun full last => ∃ panels : List String,
      (∀ panel ∈ panels, isDigits panel = true) ∧
        full = withPanels chart (linked connects (panels.filterMap readInt?)) ∧
        Passed state (panels.map .word) (linksOf chart.id (linked connects (panels.filterMap readInt?)))
          last) (StopsReading site all) := by
  refine (ends_repeatWhile (R := fun full last => ∃ panels : List String,
      (∀ panel ∈ panels, isDigits panel = true) ∧
        full = withPanels chart (linked connects (panels.filterMap readInt?)) ∧
        Passed state (panels.map .word) (linksOf chart.id (linked connects (panels.filterMap readInt?)))
          last) ?_ ⟨[], fun _ member => absurd member List.not_mem_nil, ?_, ?_⟩).weaken
    fun _ _ both => both.1
  · rintro full between ⟨panels, digits, rfl, passed⟩ goes
    refine ends_take.bind fun word last taken => ?_
    have isDigit : isDigits word = true := by
      rwa [State.next, taken.rest_of_word] at goes
    cases number : readInt? word with
    | none =>
      rw [passed.rest_of_words, taken.rest_of_word] at within
      exact Ends.fault (.inl (.panel same digits isDigit number within))
    | some panel =>
      refine (ends_connect _ panel).weaken ?_
      rintro full final ⟨rfl, connected⟩
      have shorter := (taken.then_ connected).shorter (List.cons_ne_nil _ _)
      have more : linked connects ((panels ++ [word]).filterMap readInt?) =
          linked connects (panels.filterMap readInt?) ++ linked connects [panel] := by
        rw [List.filterMap_append, linked_append, List.filterMap_cons_some number, List.filterMap_nil]
      refine ⟨⟨panels ++ [word], ?_, ?_, ?_⟩, shorter⟩
      · exact List.forall_mem_append.2 ⟨digits, List.forall_mem_singleton.2 isDigit⟩
      · rw [more, withPanels_append]
      · rw [more, linksOf_append, List.map_append]
        exact passed.trans (taken.then_ connected)
  · rw [List.filterMap_nil, linked_nil, withPanels_nil]
  · rw [List.filterMap_nil, linked_nil]
    exact Passed.refl state

/-- The wind barbs are taken; they make no difference to the panels. -/
theorem ends_takeWindBarbs (chart : Chart) :
    Ends state (takeWindBarbs chart) (fun full last => ∃ below colour, full.id = chart.id ∧
      full.panels = chart.panels ∧ Passed state (HeadClause.barbs below colour).items.tail [] last)
      E := by
  have side : ∀ {state : State}, Ends state (takeBarbsBelow chart) (fun below last =>
      Passed state [.keyword (if below then "Below" else "Above")] [] last) E := by
    intro state
    refine ends_ifKeyword (by decide) (fun last above => Ends.pure above) fun _ => ?_
    exact ends_ifKeyword (by decide) (fun last below => Ends.pure below) fun _ => Ends.refuse _
  rw [takeWindBarbs]
  refine ends_needKeyword (by decide) (Ends.refuse_bind _) fun opened barbs => ?_
  refine side.bind fun below between beside => ?_
  refine ends_ifKeyword (by decide) (fun named colour => ?_) fun _ => ?_
  · refine ends_take.bind fun word last taken => ?_
    exact Ends.pure ⟨below, some word, rfl, rfl, barbs.then_ (beside.then_ (colour.then_ taken))⟩
  · exact Ends.pure ⟨below, none, rfl, rfl, barbs.then_ beside⟩

/-- A clause that starts here is taken. -/
theorem ends_takeClause (chart : Chart) (within : state.rest <:+ all)
    (starts : state.isAtAny ["ConnectsTo", "Zoom", "Has"] = true) :
    Ends state (takeClause connects chart) (fun full last => ∃ clause : HeadClause,
      clause.IsWritten ∧ full.id = chart.id ∧
        full.panels = chart.panels ++ linked connects clause.named ∧
        Passed state clause.items (linksOf chart.id (linked connects clause.named)) last)
      (StopsReading site all) := by
  rw [takeClause]
  refine ends_ifKeyword (by decide) (fun opened isConnects => ?_) fun noConnects => ?_
  · obtain ⟨keyword, same, split⟩ := isConnects.rest_of_keyword
    rw [split] at within
    refine (ends_takePanels chart same within).weaken ?_
    rintro full last ⟨panels, digits, rfl, passed⟩
    exact ⟨.connects panels, digits, rfl, rfl, isConnects.then_ passed⟩
  refine ends_ifKeyword (by decide) (fun opened isZoom => ?_) fun noZoom => ?_
  · obtain ⟨keyword, same, split⟩ := isZoom.rest_of_keyword
    refine ends_take.bind fun word last taken => ?_
    rw [split, taken.rest_of_word] at within
    have nothing : chart.panels = chart.panels ++ linked connects [] := by
      rw [linked_nil, List.append_nil]
    have passed : Passed state (HeadClause.zoom word).items (linksOf chart.id (linked connects []))
        last := by
      rw [linked_nil]
      exact isZoom.then_ taken
    refine Ends.bind (ends_takeWhole? fun endless => .inl (.number (by simp) same endless within)) ?_
    rintro (_ | zoom) final rfl
    · refine (ends_complain _).bind fun _ last logged => Ends.pure ⟨.zoom word, trivial, rfl, nothing, ?_⟩
      have further := passed.trans logged
      rwa [List.append_nil, List.append_nil] at further
    · exact Ends.pure ⟨.zoom word, trivial, rfl, nothing, passed⟩
  · have isHas : state.isAt "Has" = true := by
      simpa [State.isAtAny, noConnects, noZoom] using starts
    refine (ends_skip (by decide) isHas).bind fun _ opened has => ?_
    refine (ends_takeWindBarbs chart).weaken ?_
    rintro full last ⟨below, colour, id, panels, passed⟩
    have nothing : full.panels = chart.panels ++ linked connects [] := by
      rw [linked_nil, List.append_nil, panels]
    refine ⟨.barbs below colour, trivial, id, nothing, ?_⟩
    rw [show (HeadClause.barbs below colour).named = [] from rfl, linked_nil]
    exact has.then_ passed

/-! ## Charts -/

/-- A title is taken up to a clause or a series. -/
theorem ends_takeTitle : Ends state takeTitle (fun _ last => ∃ (first : String) (more : List String),
    Passed state (.word first :: more.map .word) [] last ∧ ∀ word ∈ more,
      ["Plot", "Stats", "ConnectsTo", "Zoom", "Has"].any (sameWord word) = false) E := by
  rw [takeTitle]
  refine ends_take.bind fun first opened taken => (ends_takeUntil _).bind fun more last passed => ?_
  exact Ends.pure ⟨first, more, taken.then_ passed.1, passed.2.1⟩

/-- All clauses in front of the series are taken. -/
theorem ends_takeClauses {id title : String} (within : state.rest <:+ all) :
    Ends state (repeatWhile (State.isAtAny · ["ConnectsTo", "Zoom", "Has"]) (takeClause connects)
      { id, title }) (fun full last => ∃ clauses : List HeadClause,
        (∀ clause ∈ clauses, clause.IsWritten) ∧ full.id = id ∧
          full.panels = linked connects (clauses.flatMap HeadClause.named) ∧
          Passed state (clauses.flatMap HeadClause.items)
            (linksOf id (linked connects (clauses.flatMap HeadClause.named))) last)
      (StopsReading site all) := by
  refine (ends_repeatWhile (R := fun full last => ∃ clauses : List HeadClause,
      (∀ clause ∈ clauses, clause.IsWritten) ∧ full.id = id ∧
        full.panels = linked connects (clauses.flatMap HeadClause.named) ∧
        Passed state (clauses.flatMap HeadClause.items)
          (linksOf id (linked connects (clauses.flatMap HeadClause.named))) last)
    ?_ ⟨[], fun _ member => absurd member List.not_mem_nil, rfl, ?_, ?_⟩).weaken fun _ _ both => both.1
  · rintro chart between ⟨clauses, written, rfl, panels, passed⟩ starts
    refine (ends_takeClause chart (passed.suffix.trans within) starts).weaken ?_
    rintro full last ⟨clause, isWritten, id, panels', passed'⟩
    have more : linked connects ((clauses ++ [clause]).flatMap HeadClause.named) =
        linked connects (clauses.flatMap HeadClause.named) ++ linked connects clause.named := by
      rw [List.flatMap_append, List.flatMap_singleton, linked_append]
    refine ⟨⟨clauses ++ [clause], ?_, id, ?_, ?_⟩, passed'.shorter clause.items_ne_nil⟩
    · exact List.forall_mem_append.2 ⟨written, List.forall_mem_singleton.2 isWritten⟩
    · rw [more, panels', panels]
    · rw [more, linksOf_append, List.flatMap_append, List.flatMap_singleton]
      exact passed.trans passed'
  · rw [List.flatMap_nil, linked_nil]
  · rw [List.flatMap_nil, List.flatMap_nil, linked_nil]
    exact Passed.refl state

theorem isAtAny_eq_any (state : State) (keywords : List String) :
    state.isAtAny keywords = keywords.any (sameWord state.next) :=
  rfl

/-- All series of a chart are taken; the first one starts here. -/
theorem ends_takeSeries_all (chart : Chart) (within : state.rest <:+ all)
    (starts : state.isAtAny ["Plot", "Stats"] = true) :
    Ends state (repeatWhile (State.isAtAny · ["Plot", "Stats"]) (takeSeries site) chart)
      (fun full last => ∃ words : List String, Passed state (words.map .word) [] last ∧
        ["Plot", "Stats"].any (sameWord (words.headD "")) = true ∧ full.id = chart.id ∧
          full.panels = chart.panels) (StopsReading site all) := by
  refine (ends_repeatWhile (R := fun full last =>
    Reached state last ∧ full.id = chart.id ∧ full.panels = chart.panels)
    ?_ ⟨Reached.refl state, rfl, rfl⟩).weaken ?_
  · rintro plain between ⟨reached, id, panels⟩ goes
    refine (ends_takeSeries plain (reached.suffix.trans within) goes).weaken ?_
    rintro full last ⟨further, shorter, id', panels'⟩
    exact ⟨⟨reached.trans further, id'.trans id, panels'.trans panels⟩, shorter⟩
  · rintro full last ⟨⟨⟨words, passed⟩, id, panels⟩, stops⟩
    refine ⟨words, passed, ?_, id, panels⟩
    have split := passed.rest_of_words
    cases words with
    | nil =>
      -- Without a word the repetition would still be in front of a series.
      rw [isAtAny_eq_any, State.next, split, List.nil_append] at starts
      rw [isAtAny_eq_any, State.next, starts] at stops
      cases stops
    | cons word words =>
      rwa [isAtAny_eq_any, State.next, split] at starts

/-- A chart is taken from its first keyword to its last one. -/
theorem ends_takeChart (others : List Chart) (within : state.rest <:+ all) :
    Ends state (takeChart site others connects) (fun chart last => ∃ text : ChartText,
      text.IsWritten ∧ chart.id = text.id ∧
        others.any (fun other => sameWord other.id text.id) = false ∧
        chart.panels = linked connects text.named ∧
        Passed state text.items (linksOf chart.id chart.panels) last)
      (StopsReading site all) := by
  rw [takeChart]
  refine ends_needKeyword (by decide) (Ends.get_bind (Ends.refuse_bind _)) fun opened first => ?_
  refine ends_take.bind fun id named isNamed => Ends.guard fun fresh => ?_
  refine ends_needKeyword (by decide) (Ends.refuse_bind _) fun titled title => ?_
  refine ends_takeTitle.bind fun whole behind has => ?_
  obtain ⟨word, more, isTitle, free⟩ := has
  have front := first.then_ (isNamed.then_ (title.then_ isTitle))
  refine (ends_takeClauses (front.suffix.trans within)).bind fun frame framed has => ?_
  obtain ⟨clauses, written, sameId, panels, isFramed⟩ := has
  refine Ends.get_bind (Ends.guard fun plots => ?_)
  have starts : framed.isAtAny ["Plot", "Stats"] = true := by simpa using plots
  have inside := (front.then_ isFramed).suffix.trans within
  refine (ends_takeSeries_all frame inside starts).bind fun full filled has => ?_
  obtain ⟨words, isFilled, begins, sameId', panels'⟩ := has
  refine ends_needKeyword (by decide) (Ends.get_bind (Ends.refuse_bind _)) fun last ending => ?_
  refine Ends.pure ?_
  refine ⟨⟨id, word, more, clauses, words⟩, ⟨free, written, begins⟩, sameId'.trans sameId,
    Bool.not_eq_true _ ▸ fresh, panels'.trans panels, ?_⟩
  have all := front.then_ (isFramed.trans (isFilled.then_ ending))
  rw [sameId'.trans sameId, panels'.trans panels]
  simpa [ChartText.items, ChartText.named] using all

/-! ## What stands behind a chart -/

/-- A text about a chart that has none is taken. -/
theorem ends_takeInfo (chart : Chart) :
    Ends state (takeInfo chart) (fun full last => chart.hasInfo = false ∧ ∃ words : List String,
      full = withInfo chart (some words) ∧ Passed state (Supplement.info words).items.tail [] last)
      E := by
  rw [takeInfo]
  refine Ends.guard fun bare => ends_take.bind fun mark opened opening => Ends.guard fun isMark => ?_
  obtain rfl : mark = "\"" := by simpa using isMark
  refine (ends_takeUntil _).bind fun words between taken => Ends.get_bind (Ends.guard fun more => ?_)
  obtain ⟨isText, -, closes⟩ := taken
  have notEmpty : between.rest ≠ [] := fun none => more (by rw [none]; rfl)
  have closing : between.next = "\"" := by simpa using closes notEmpty
  obtain ⟨word, rest, split⟩ := List.exists_cons_of_ne_nil notEmpty
  have isWord : word = "\"" := by rwa [State.next, split] at closing
  refine (Ends.modify (Q := fun _ last => Passed between [.word "\""] [] last)
    (passed_skip split isWord)).bind fun _ last closed => Ends.pure ⟨Bool.not_eq_true _ ▸ bare, ?_⟩
  exact ⟨words, rfl, opening.then_ (isText.then_ closed)⟩

/-- What the clauses behind a chart make of it. -/
def endingOf (chart : Chart) (progress : Progress) (supplements : List Supplement) : Ending where
  chart := withInfo chart (lastOf Supplement.info? supplements)
  progress :=
    match lastOf Supplement.output? supplements with
    | none => progress
    | some filename => if progress.isFresh then progress else progress.begin filename
  outputGiven := (lastOf Supplement.output? supplements).isSome

theorem lastOf_eq_none_iff {α β : Type} {part : α → Option β} {list : List α} :
    lastOf part list = none ↔ list.filterMap part = [] := by
  rw [lastOf, List.getLast?_eq_none_iff]

/-- A clause that starts here is taken, if none of its kind was taken before. -/
theorem ends_takeEnding {chart : Chart} {progress : Progress} {supplements : List Supplement}
    (written : Supplement.AreWritten supplements)
    (starts : state.isAtAny ["Info", "Output"] = true) :
    Ends state (takeEnding (endingOf chart progress supplements)) (fun ending last =>
      ∃ supplement : Supplement, Supplement.AreWritten (supplements ++ [supplement]) ∧
        ending = endingOf chart progress (supplements ++ [supplement]) ∧
        Passed state supplement.items [] last) E := by
  rw [takeEnding]
  refine ends_ifKeyword (by decide) (fun opened isInfo => ?_) fun noInfo => ?_
  · refine (ends_takeInfo _).bind fun full last taken => ?_
    obtain ⟨bare, words, rfl, passed⟩ := taken
    have none : lastOf Supplement.info? supplements = none := by
      cases given : lastOf Supplement.info? supplements with
      | none => rfl
      | some words => rw [endingOf, given] at bare; cases bare
    refine Ends.pure ⟨.info words, ⟨?_, ?_⟩, ?_, isInfo.then_ passed⟩
    · simp [lastOf_eq_none_iff.1 none]
    · simpa [List.filterMap_cons] using written.outputs
    · simp [endingOf, none, withInfo]
  · refine Ends.ite (fun _ => Ends.refuse _) fun notGiven => ?_
    have isOutput : state.isAt "Output" = true := by
      simpa [State.isAtAny, noInfo] using starts
    have none : lastOf Supplement.output? supplements = none := by
      simpa [endingOf] using notGiven
    have areWritten : ∀ filename, Supplement.AreWritten (supplements ++ [.output filename]) := by
      intro filename
      refine ⟨by simpa [List.filterMap_cons] using written.infos, ?_⟩
      simp [lastOf_eq_none_iff.1 none]
    have same : (endingOf chart progress supplements).progress = progress := by
      simp [endingOf, none]
    refine (ends_skip (by decide) isOutput).bind fun _ opened output => ?_
    refine ends_take.bind fun filename last taken => ?_
    rw [same]
    refine Ends.ite (fun fresh => ?_) fun started => ?_
    · have isFresh : progress.isFresh = true := fresh
      refine (ends_warn _).bind fun _ final logged => Ends.pure ⟨.output filename,
        areWritten filename, ?_, output.then_ (taken.then_ logged)⟩
      simp [endingOf, none, isFresh]
    · have notFresh : ¬ progress.isFresh = true := started
      refine Ends.pure ⟨.output filename, areWritten filename, ?_, output.then_ taken⟩
      simp [endingOf, none, notFresh]

theorem Supplement.items_ne_nil (supplement : Supplement) : supplement.items ≠ [] := by
  cases supplement <;> exact List.cons_ne_nil _ _

/-- All clauses behind a chart are taken. -/
theorem ends_takeEndings (chart : Chart) (progress : Progress) :
    Ends state (repeatWhile (State.isAtAny · ["Info", "Output"]) takeEnding { chart, progress })
      (fun ending last => ∃ supplements, Supplement.AreWritten supplements ∧
        ending = endingOf chart progress supplements ∧
        Passed state (supplements.flatMap Supplement.items) [] last) E := by
  refine (ends_repeatWhile (R := fun ending last => ∃ supplements,
    Supplement.AreWritten supplements ∧ ending = endingOf chart progress supplements ∧
      Passed state (supplements.flatMap Supplement.items) [] last) ?_
    ⟨[], ⟨Nat.zero_le _, Nat.zero_le _⟩, rfl, Passed.refl state⟩).weaken fun _ _ both => both.1
  rintro ending between ⟨supplements, written, rfl, passed⟩ starts
  refine (ends_takeEnding written starts).weaken ?_
  rintro _ last ⟨supplement, areWritten, rfl, further⟩
  refine ⟨⟨supplements ++ [supplement], areWritten, rfl, ?_⟩, further.shorter supplement.items_ne_nil⟩
  rw [List.flatMap_append, List.flatMap_singleton]
  exact passed.then_ further

end

/-! ## Passages one after the other -/

namespace Passage

theorem placed_concat (before : List Passage) (passage : Passage) :
    placed (before ++ [passage]) =
      placed before ++ [(passage.startsBehind before, passage.full)] := by
  cases before with
  | nil => rfl
  | cons first others =>
    rw [List.cons_append, placed, List.map_append]
    rfl

theorem isEmpty_placed (passages : List Passage) :
    (placed passages).isEmpty = passages.isEmpty := by
  cases passages <;> rfl

theorem map_snd_placed (passages : List Passage) :
    (placed passages).map Prod.snd = passages.map full := by
  cases passages with
  | nil => rfl
  | cons first others => simp [placed, Function.comp_def]

/-- Charts connect to the dashboard as long as no passage starts another output. -/
theorem all_isNone_placed (passages : List Passage) :
    (placed passages).all (fun one => one.1.isNone) = connectsBehind passages := by
  cases passages with
  | nil => rfl
  | cons first others => simp [placed, connectsBehind, Function.comp_def]

theorem connections_concat (before : List Passage) (passage : Passage) :
    connections (before ++ [passage]) =
      connections before ++ linksOf passage.full.id passage.full.panels := by
  rw [connections, List.flatMap_append, List.flatMap_singleton]
  rfl

theorem id_withInfo (chart : Chart) (info : Option (List String)) :
    (withInfo chart info).id = chart.id := by
  cases info <;> rfl

theorem panels_withInfo (chart : Chart) (info : Option (List String)) :
    (withInfo chart info).panels = chart.panels := by
  cases info <;> rfl

/-- A chart and the clauses behind it go where the passage is placed. -/
theorem add_endingOf (before : List Passage) (passage : Passage) :
    (endingOf passage.chart (.gathered (placed before)) passage.supplements).progress.add
        (endingOf passage.chart (.gathered (placed before)) passage.supplements).chart =
      .gathered (placed (before ++ [passage])) := by
  have fresh : (Progress.gathered (placed before)).isFresh = before.isEmpty :=
    (Progress.isFresh_gathered _).trans (isEmpty_placed before)
  rw [placed_concat, Progress.gathered_concat, startsBehind, output?, endingOf, fresh]
  cases lastOf Supplement.output? passage.supplements <;> cases before.isEmpty <;> rfl

end Passage

section

variable {start state : State} {site : Site} {all : List String}

/-- The passages that were read are spelled by the words in between. -/
theorem AreRead.passed {passages : List Passage} (read : AreRead site start passages state) :
    Passed start (passages.flatMap Passage.items) (Passage.connections passages) state := by
  induction read with
  | none => exact Passed.refl start
  | next others read ih =>
    obtain ⟨between, -, text, supplements⟩ := read.taken
    have passed := ih.trans (text.trans supplements)
    rw [List.append_nil] at passed
    rw [List.flatMap_append, List.flatMap_singleton, Passage.connections_concat]
    exact passed

/-- A chart with what stands behind it is taken behind the passages `before`. -/
theorem ends_takeNextChart (before : List Passage) (within : state.rest <:+ all) :
    Ends state (takeNextChart site (.gathered (Passage.placed before))) (fun progress last =>
      ∃ passage : Passage, progress = .gathered (Passage.placed (before ++ [passage])) ∧
        passage.IsRead site before state last) (StopsReading site all) := by
  have charts : (Progress.gathered (Passage.placed before)).charts = before.map Passage.full :=
    (Progress.charts_gathered _).trans (Passage.map_snd_placed before)
  have connects : (Progress.gathered (Passage.placed before)).done.isEmpty =
      Passage.connectsBehind before :=
    (Progress.isEmpty_done_gathered _).trans (Passage.all_isNone_placed before)
  rw [takeNextChart, charts, connects]
  refine (ends_takeChart _ within).with_eq.bind fun chart between taken => ?_
  obtain ⟨found, text, written, id, fresh, panels, passed⟩ := taken
  refine (ends_takeEndings chart _).bind fun ending last taken => ?_
  obtain ⟨supplements, areWritten, rfl, behind⟩ := taken
  refine Ends.pure ⟨⟨text, chart, supplements⟩, Passage.add_endingOf before ⟨text, chart, supplements⟩, ?_⟩
  have fullId : (Passage.mk text chart supplements).full.id = chart.id := Passage.id_withInfo _ _
  have fullPanels : (Passage.mk text chart supplements).full.panels = chart.panels :=
    Passage.panels_withInfo _ _
  refine ⟨written, areWritten, fullId.trans id, ?_, fullPanels.trans panels, between, found, ?_, behind⟩
  · intro other member
    rw [fullId, id]
    have apart := List.any_eq_false.1 fresh other.full (List.mem_map_of_mem member)
    exact Bool.not_eq_true _ ▸ apart
  · rw [fullId, fullPanels]
    exact passed

/-- All passages are taken. -/
theorem ends_takeNextChart_all (within : state.rest <:+ all) :
    Ends state (repeatWhile (fun state => !state.rest.isEmpty) (takeNextChart site) {})
      (fun progress last => ∃ passages, progress = .gathered (Passage.placed passages) ∧
        AreRead site state passages last ∧ last.rest = []) (StopsReading site all) := by
  refine (ends_repeatWhile (R := fun progress last => ∃ passages,
    progress = .gathered (Passage.placed passages) ∧ AreRead site state passages last)
    ?_ ⟨[], rfl, .none⟩).weaken ?_
  · rintro progress between ⟨passages, rfl, read⟩ _
    refine (ends_takeNextChart passages (read.passed.suffix.trans within)).weaken ?_
    rintro progress last ⟨passage, rfl, next⟩
    refine ⟨⟨passages ++ [passage], rfl, read.next next⟩, ?_⟩
    obtain ⟨between, -, text, behind⟩ := next.taken
    have fewer := text.shorter (List.cons_ne_nil _ _)
    have length := behind.suffix.length_le
    omega
  · rintro progress last ⟨⟨passages, same, read⟩, stops⟩
    exact ⟨passages, same, read, by simpa using stops⟩

/-! ## Equations in front of the charts -/

theorem ends_takeDefinition : Ends state (takeDefinition site) (fun _ last =>
    ∃ equation : BlockEquation, Passed state equation.items [] last) (StopsReading site all) := by
  rw [takeDefinition]
  refine ends_take.bind fun name opened named => ?_
  refine (ends_takeEquation site name none).bind fun found last taken => ?_
  cases found with
  | none => exact Ends.refuse _
  | some equation =>
    obtain ⟨expression, -, passed⟩ := taken rfl
    refine Ends.modify ⟨⟨name, expression⟩, ?_⟩
    have all := named.then_ passed
    exact ⟨all.words, all.panels⟩

/-- The block of equations is taken, of which there is one at least. -/
theorem ends_takeDefinitions : Ends state (takeDefinitions site) (fun _ last =>
    ∃ equation : BlockEquation, ∃ equations : List BlockEquation,
      Passed state ((equation :: equations).flatMap BlockEquation.items) [] last)
    (StopsReading site all) := by
  rw [takeDefinitions]
  refine ends_takeDefinition.bind fun _ between taken => ?_
  obtain ⟨equation, first⟩ := taken
  refine (ends_repeatWhile (R := fun _ last => ∃ equations : List BlockEquation,
    Passed state ((equation :: equations).flatMap BlockEquation.items) [] last) ?_
    ⟨[], by simpa using first⟩).weaken fun _ _ both => ⟨equation, both.1⟩
  rintro _ behind ⟨equations, passed⟩ _
  refine ends_takeDefinition.weaken ?_
  rintro _ last ⟨further, taken⟩
  refine ⟨⟨equations ++ [further], ?_⟩, taken.shorter (List.cons_ne_nil _ _)⟩
  rw [← List.cons_append, List.flatMap_append, List.flatMap_singleton]
  exact passed.then_ taken

/-! ## Whole texts -/

/-- Takes all charts and checks them. -/
theorem ends_charts (within : state.rest <:+ all) {equations : List BlockEquation}
    (block : Passed start (blockItems equations) [] state) :
    Ends state (repeatWhile (fun state => !state.rest.isEmpty) (takeNextChart site) {} >>= endOutputs)
      (fun outputs last => ∃ equations passages, IsDivided site start equations passages last ∧
        outputs = outputsFrom { filename := Output.firstFilename } (Passage.placed passages))
      (StopsReading site all) := by
  refine (ends_takeNextChart_all within).bind fun progress last taken => ?_
  obtain ⟨passages, rfl, read, ends⟩ := taken
  rw [endOutputs]
  split
  · exact Ends.refuse _
  · exact Ends.pure ⟨equations, passages, ⟨state, block, read, ends⟩, Progress.outputs_gathered _⟩

/-- All that is read is a block of equations and the passages of charts, and the outputs
are those that the charts of the passages go to one after the other. -/
theorem ends_takeOutputs (within : state.rest <:+ all) :
    Ends state (takeOutputs site) (fun outputs last =>
      ∃ equations passages, IsDivided site state equations passages last ∧
        outputs = outputsFrom { filename := Output.firstFilename } (Passage.placed passages))
      (StopsReading site all) := by
  rw [takeOutputs]
  refine Ends.get_bind (Ends.guard fun _ => ?_)
  refine ends_ifKeyword (by decide) (fun opened block => ?_) fun _ => ?_
  · refine ends_takeDefinitions.bind fun _ between taken => ?_
    obtain ⟨equation, equations, passed⟩ := taken
    have block : Passed state (blockItems (equation :: equations)) [] between := block.then_ passed
    exact ends_charts (block.suffix.trans within) block
  · have block : Passed state (blockItems []) [] state := Passed.refl state
    exact ends_charts within block

end

end Meteogram.Definition
