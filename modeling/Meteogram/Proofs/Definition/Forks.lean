import Meteogram.Proofs.Definition.Consistency

/-!
# Two readings side by side

Definitions that begin with the same words are read in the same way as long as these words
last. A fork is two ways in which they may go on, and a reader is steady at a fork
(`Fork.Steady`) if two runs of it that start beside each other end beside each other, unless
the first one goes past the fork. The word that was read last and the messages may differ: no
reader looks at them but to say what a flaw is.

All readers of definitions are steady where the same words follow on both sides, or where a
word has to be left in front of the fork (`Fork.IsUniform`). The readers of what a series
shows are also steady at a fork whose first words they do not tell apart.
-/

set_option autoImplicit false

namespace Meteogram.Definition

open Reader

/-! ## Forks -/

/-- Two ways in which definitions may go on, and the number of words that have to be left in
front of them. -/
structure Fork where
  first : List String
  second : List String
  margin : Nat
  /-- Both ways are of one length. -/
  length_eq : first.length = second.length

/-- The state in which a reader ended or stopped. -/
def finalState {α : Type} : EStateM.Result Stop State α → State
  | .ok _ state => state
  | .error _ state => state

/-! ## Parts of the readers -/

/-- Takes a series from its first word up to its attributes. -/
def takePlain (site : Site) (chart : Chart) : Reader Series := do
  if ← takeKeyword "Stats" then takeStatistic site chart
  else do
    skip
    takePlot site chart

/-- The chart with one more series. -/
def addSeries (chart : Chart) (series : Series) : Chart :=
  { chart with
    range := series.range
    hasScatter := chart.hasScatter || series.graphType = "scatter"
    axes := chart.axes ∪ series.axes
    series := chart.series ++ [series] }

theorem takeSeries_eq (site : Site) (chart : Chart) :
    takeSeries site chart = takePlain site chart >>= fun plain =>
      takeAttributes chart plain >>= fun series => withStandardAxis chart series >>= fun series =>
        pure (addSeries chart series) := by
  rw [takeSeries, takePlain]
  simp only [bind_assoc]
  congr 1
  funext found
  cases found <;> simp [addSeries]

/-- Takes a chart up to its first series, and gives its name too. -/
def takeHead (others : List Chart) (firstOutput : Bool) : Reader (String × Chart) := do
  if !(← takeKeyword "Chart") then refuse (.chartExpected (← get).next)
  let id ← take
  if others.any fun other => Text.sameWord other.id id then refuse (.duplicateChart id)
  if !(← takeKeyword "Title") then refuse (.titleMissing id)
  let title ← takeTitle
  let chart ← repeatWhile (State.isAtAny · ["ConnectsTo", "Zoom", "Has"]) (takeClause firstOutput)
    { id, title }
  if !(← get).isAtAny ["Plot", "Stats"] then refuse (.nothingPlotted id)
  return (id, chart)

/-- Takes the series of a chart and the word that ends it. -/
def takeTail (site : Site) (id : String) (chart : Chart) : Reader Chart := do
  let chart ← repeatWhile (State.isAtAny · ["Plot", "Stats"]) (takeSeries site) chart
  if !(← takeKeyword "EndChart") then refuse (.endMissing (← get).last id)
  return chart

/-- What would be read behind a flaw is not read. -/
theorem refuse_bind {α β : Type} (flaw : Flaw) (next : α → Reader β) :
    Reader.refuse flaw >>= next = Reader.refuse flaw :=
  rfl

theorem ite_then {α β : Type} (condition : Prop) [Decidable condition] (first second : Reader α)
    (next : α → Reader β) : (if condition then first else second) >>= next =
      if condition then first >>= next else second >>= next := by
  by_cases holds : condition
  · rw [if_pos holds, if_pos holds]
  · rw [if_neg holds, if_neg holds]

theorem takeChart_eq (site : Site) (others : List Chart) (firstOutput : Bool) :
    takeChart site others firstOutput = takeHead others firstOutput >>= fun head =>
      takeTail site head.1 head.2 := by
  rw [takeChart, takeHead]
  simp only [takeTail, bind_assoc, pure_bind, refuse_bind, ite_then]

/-- Takes the clauses behind a chart and adds it to its output. -/
def takeEndings (progress : Progress) (chart : Chart) : Reader Progress := do
  let ending ← repeatWhile (State.isAtAny · ["Info", "Output"]) takeEnding { chart, progress }
  return ending.progress.add ending.chart

theorem takeNextChart_eq (site : Site) (progress : Progress) :
    takeNextChart site progress =
      takeChart site progress.charts progress.done.isEmpty >>= takeEndings progress :=
  rfl

/-- Takes the block of equations, if there is one. -/
def takeBlock (site : Site) : Reader Unit := do
  if (← get).rest.isEmpty then refuse .noWords
  if ← takeKeyword "Equations" then takeDefinitions site

/-- Takes the charts that are left and checks all of them. -/
def takeCharts (site : Site) (progress : Progress) : Reader (List Output) :=
  repeatWhile (fun state => !state.rest.isEmpty) (takeNextChart site) progress >>= endOutputs

theorem takeOutputs_eq (site : Site) :
    takeOutputs site = takeBlock site >>= fun _ => takeCharts site {} := by
  rw [takeOutputs, takeBlock]
  simp only [bind_assoc, pure_bind, refuse_bind, ite_then]
  rfl

namespace Fork

variable (fork : Fork)

/-- The same words are left in front of the fork, and the same was kept. -/
structure Beside (state state' : State) : Prop where
  rest : ∃ front, fork.margin ≤ front.length ∧ state.rest = front ++ fork.first ∧
    state'.rest = front ++ fork.second
  equations : state'.equations = state.equations
  panels : state'.panels = state.panels

/-- The results are the same value, or a flaw on both sides, or the same fault, and the
states are beside each other. -/
inductive Matches {α : Type} :
    EStateM.Result Stop State α → EStateM.Result Stop State α → Prop where
  | ok {value : α} {state state' : State} (beside : fork.Beside state state') :
      Matches (.ok value state) (.ok value state')
  | flaw {flaw flaw' : Flaw} {state state' : State} (beside : fork.Beside state state') :
      Matches (.error (.flaw flaw) state) (.error (.flaw flaw') state')
  | fault {fault : Fault} {state state' : State} (beside : fork.Beside state state') :
      Matches (.error (.fault fault) state) (.error (.fault fault) state')

/-- The words that have to be left in front of the fork were read. -/
def IsPast (state : State) : Prop :=
  state.rest.length < fork.margin + fork.first.length

/-- Two runs end beside each other, or the first one goes past the fork. -/
def Together {α : Type} (state state' : State) (reader reader' : Reader α) : Prop :=
  fork.IsPast (finalState (reader state)) ∨ fork.Matches (reader state) (reader' state')

/-- No run of the reader puts words back, and two runs that start beside each other end
beside each other if the first one does not go past the fork. -/
structure Steady {α : Type} (reader : Reader α) : Prop where
  shrinks : ∀ state, (finalState (reader state)).rest.length ≤ state.rest.length
  together : ∀ state state', fork.Beside state state' → fork.Together state state' reader reader

/-- What is looked for in the first word is found on both sides or on neither. -/
def Agrees {γ : Type} (look : String → γ) : Prop :=
  fork.margin = 0 → look (fork.first.headD "") = look (fork.second.headD "")

/-- Whatever is looked for in the first word is the same on both sides. -/
def IsUniform : Prop :=
  fork.margin ≠ 0 ∨ fork.first = fork.second

/-- The fork behind all words, which no reader goes past. -/
def closed : Fork where
  first := []
  second := []
  margin := 0
  length_eq := rfl

theorem isUniform_closed : closed.IsUniform :=
  .inr rfl

/-! ## Rules for readers -/

section

variable {fork} {α β γ : Type} {state state' : State}

theorem IsUniform.agrees (uniform : fork.IsUniform) (look : String → γ) : fork.Agrees look := by
  intro none
  rcases uniform with some | same
  · exact absurd none some
  · rw [same]

theorem Agrees.comp {look : String → γ} (agrees : fork.Agrees look) {δ : Type} (part : γ → δ) :
    fork.Agrees fun word => part (look word) :=
  fun none => congrArg part (agrees none)

theorem Beside.length_eq (beside : fork.Beside state state') :
    state'.rest.length = state.rest.length := by
  obtain ⟨front, _, rest, rest'⟩ := beside.rest
  rw [rest, rest', List.length_append, List.length_append, fork.length_eq]

theorem Beside.isEmpty_eq (beside : fork.Beside state state') :
    state'.rest.isEmpty = state.rest.isEmpty := by
  rw [Bool.eq_iff_iff, List.isEmpty_iff_length_eq_zero, List.isEmpty_iff_length_eq_zero,
    beside.length_eq]

theorem Beside.look_eq {look : String → γ} (beside : fork.Beside state state')
    (agrees : fork.Agrees look) : look state'.next = look state.next := by
  obtain ⟨front, margin, rest, rest'⟩ := beside.rest
  rw [State.next, State.next, rest, rest']
  cases front with
  | nil => exact (agrees (Nat.le_zero.1 margin)).symm
  | cons word front => rfl

/-- Beside each other, no words are left, or the next one is the last one in front of the
fork, or it is the same on both sides and the states behind it are beside each other. -/
theorem Beside.skip_cases (beside : fork.Beside state state') :
    (state.rest = [] ∧ state'.rest = []) ∨ (state.rest ≠ [] ∧ fork.IsPast state.skip) ∨
      ∃ word rest rest', state.rest = word :: rest ∧ state'.rest = word :: rest' ∧
        fork.Beside state.skip state'.skip := by
  obtain ⟨last, words, equations, panels, log⟩ := state
  obtain ⟨last', words', equations', panels', log'⟩ := state'
  obtain ⟨⟨front, margin, rest, rest'⟩, equations, panels⟩ := beside
  dsimp only at rest rest'
  subst rest
  subst rest'
  cases front with
  | cons word front =>
    by_cases more : fork.margin ≤ front.length
    · exact .inr (.inr ⟨word, _, _, rfl, rfl, ⟨front, more, rfl, rfl⟩, equations, panels⟩)
    · refine .inr (.inl ⟨List.cons_ne_nil _ _, ?_⟩)
      rw [IsPast, State.skip]
      dsimp only [List.cons_append]
      rw [List.length_append]
      omega
  | nil =>
    have length := fork.length_eq
    cases first : fork.first with
    | nil =>
      rw [first] at length
      exact .inl ⟨rfl, List.length_eq_zero_iff.1 length.symm⟩
    | cons word rest =>
      refine .inr (.inl ⟨List.cons_ne_nil _ _, ?_⟩)
      rw [IsPast, State.skip, first]
      dsimp only [List.nil_append]
      rw [List.length_cons]
      omega

/-- Nothing is skipped at the end. -/
theorem skip_of_rest_eq_nil (none : state.rest = []) : state.skip = state := by
  rw [State.skip, none]

theorem length_rest_skip_le (state : State) : state.skip.rest.length ≤ state.rest.length := by
  obtain ⟨last, words, equations, panels, log⟩ := state
  cases words with
  | nil => exact Nat.le_refl _
  | cons word words => exact Nat.le_succ _

/-- A run that went past the fork stays there. -/
theorem Together.bind {reader reader' : Reader α} {next next' : α → Reader β}
    (first : fork.Together state state' reader reader')
    (shrinks : ∀ value state, (finalState (next value state)).rest.length ≤ state.rest.length)
    (then_ : ∀ value last last', fork.Beside last last' →
      fork.Together last last' (next value) (next' value)) :
    fork.Together state state' (reader >>= next) (reader' >>= next') := by
  have unfolded : (reader >>= next) state = EStateM.bind reader next state := rfl
  have unfolded' : (reader' >>= next') state' = EStateM.bind reader' next' state' := rfl
  rw [Together, unfolded, unfolded', EStateM.bind, EStateM.bind]
  rcases first with past | both
  · refine .inl ?_
    cases ends : reader state with
    | ok value last =>
      rw [ends] at past
      exact Nat.lt_of_le_of_lt (shrinks value last) past
    | error stop last =>
      rw [ends] at past
      exact past
  · cases ends : reader state with
    | ok value last =>
      rw [ends] at both
      cases ends' : reader' state' with
      | ok value' last' =>
        rw [ends'] at both
        cases both with
        | ok beside => exact then_ value last last' beside
      | error stop' last' =>
        rw [ends'] at both
        cases both
    | error stop last =>
      rw [ends] at both
      cases ends' : reader' state' with
      | ok value' last' =>
        rw [ends'] at both
        cases both
      | error stop' last' =>
        rw [ends'] at both
        refine .inr ?_
        cases both with
        | flaw beside => exact .flaw beside
        | fault beside => exact .fault beside

namespace Steady

theorem pure (value : α) : fork.Steady (Pure.pure value : Reader α) where
  shrinks _ := Nat.le_refl _
  together _ _ beside := .inr (.ok beside)

theorem bind {reader : Reader α} (first : fork.Steady reader) {next : α → Reader β}
    (then_ : ∀ value, fork.Steady (next value)) : fork.Steady (reader >>= next) where
  shrinks state := by
    have shorter := first.shrinks state
    have unfolded : (reader >>= next) state = EStateM.bind reader next state := rfl
    rw [unfolded, EStateM.bind]
    cases ends : reader state with
    | ok value last =>
      rw [ends] at shorter
      exact Nat.le_trans ((then_ value).shrinks last) shorter
    | error stop last =>
      rw [ends] at shorter
      exact shorter
  together state state' beside :=
    (first.together state state' beside).bind (fun value => (then_ value).shrinks)
      fun value => (then_ value).together

/-- A reader that looks at the state goes the same way if it goes on in the same way. -/
theorem get_bind {next : State → Reader β} (each : ∀ state, fork.Steady (next state))
    (same : ∀ state state', fork.Beside state state' → next state' = next state) :
    fork.Steady (get >>= next) where
  shrinks state := (each state).shrinks state
  together state state' beside := by
    rcases (each state).together state state' beside with past | both
    · exact .inl past
    · refine .inr ?_
      change fork.Matches (next state state) (next state' state')
      rw [same state state' beside]
      exact both

theorem modify {change : State → State} (rest : ∀ state, (change state).rest = state.rest)
    (keeps : ∀ state state', fork.Beside state state' →
      (change state').equations = (change state).equations ∧
        (change state').panels = (change state).panels) :
    fork.Steady (modify change : Reader Unit) where
  shrinks state := by
    change (change state).rest.length ≤ _
    rw [rest]
  together state state' beside := by
    obtain ⟨equations, panels⟩ := keeps state state' beside
    obtain ⟨front, margin, first, second⟩ := beside.rest
    exact .inr (.ok ⟨⟨front, margin, (rest state).trans first, (rest state').trans second⟩,
      equations, panels⟩)

theorem refuse (flaw : Flaw) : fork.Steady (Reader.refuse flaw : Reader α) where
  shrinks _ := Nat.le_refl _
  together _ _ beside := .inr (.flaw beside)

theorem refuse_bind (flaw : Flaw) {next : α → Reader β} :
    fork.Steady (Reader.refuse flaw >>= next) where
  shrinks _ := Nat.le_refl _
  together _ _ beside := .inr (.flaw beside)

/-- What is said about a flaw makes no difference. -/
theorem refuseOf_bind {flaw : State → Flaw} {next : α → Reader β} :
    fork.Steady (get >>= fun state => Reader.refuse (flaw state) >>= next) where
  shrinks _ := Nat.le_refl _
  together _ _ beside := .inr (.flaw beside)

theorem fault (fault : Fault) : fork.Steady (throw (.fault fault) : Reader α) where
  shrinks _ := Nat.le_refl _
  together _ _ beside := .inr (.fault beside)

theorem ofExcept (outcome : Except Fault α) : fork.Steady (Reader.ofExcept outcome) := by
  cases outcome with
  | error stop => exact fault stop
  | ok value => exact pure value

theorem ite {condition : Prop} [Decidable condition] {first second : Reader α}
    (yes : fork.Steady first) (no : fork.Steady second) :
    fork.Steady (if condition then first else second) := by
  by_cases holds : condition
  · rw [if_pos holds]
    exact yes
  · rw [if_neg holds]
    exact no

/-- A run that ends in front of the fork started in front of it. -/
theorem inside {reader : Reader α} (steady : fork.Steady reader) {value : α} {last : State}
    (ends : reader state = .ok value last) (inside : ¬ fork.IsPast last) : ¬ fork.IsPast state := by
  have shorter := steady.shrinks state
  rw [ends] at shorter
  exact fun past => inside (Nat.lt_of_le_of_lt shorter past)

/-- A run that ends in front of the fork ends with the same value beside it. -/
theorem exists_of_ok {reader : Reader α} (steady : fork.Steady reader)
    (beside : fork.Beside state state') {value : α} {last : State}
    (ends : reader state = .ok value last) (inside : ¬ fork.IsPast last) :
    ∃ last', reader state' = .ok value last' ∧ fork.Beside last last' := by
  have together := steady.together state state' beside
  rw [Together, ends] at together
  rcases together with past | both
  · exact absurd past inside
  · generalize ends' : reader state' = result at both
    cases both with
    | ok beside => exact ⟨_, rfl, beside⟩

theorem warn (text : String) : fork.Steady (Reader.warn text) :=
  modify (fun _ => rfl) fun _ _ beside => ⟨beside.equations, beside.panels⟩

theorem complain (text : String) : fork.Steady (Reader.complain text) :=
  modify (fun _ => rfl) fun _ _ beside => ⟨beside.equations, beside.panels⟩

end Steady

/-! ## Words -/

theorem steady_skip : fork.Steady skip where
  shrinks state := length_rest_skip_le state
  together state state' beside := by
    rcases beside.skip_cases with ⟨none, none'⟩ | ⟨_, past⟩ | ⟨_, _, _, _, _, behind⟩
    · refine .inr ?_
      change fork.Matches (.ok () state.skip) (.ok () state'.skip)
      rw [skip_of_rest_eq_nil none, skip_of_rest_eq_nil none']
      exact .ok beside
    · exact .inl past
    · exact .inr (.ok behind)

theorem take_of_nil (none : state.rest = []) :
    take state = .error (.flaw .unexpectedEnd) state := by
  obtain ⟨last, words, equations, panels, log⟩ := state
  subst none
  rfl

theorem take_of_cons {word : String} {rest : List String} (some : state.rest = word :: rest) :
    take state = .ok word state.skip := by
  obtain ⟨last, words, equations, panels, log⟩ := state
  subst some
  rfl

theorem steady_take : fork.Steady take where
  shrinks state := by
    cases words : state.rest with
    | nil =>
      rw [take_of_nil words, finalState, words]
    | cons word rest =>
      rw [take_of_cons words, finalState, ← words]
      exact length_rest_skip_le state
  together state state' beside := by
    rcases beside.skip_cases with ⟨none, none'⟩ | ⟨some, past⟩ | ⟨word, _, _, here, here', behind⟩
    · refine .inr ?_
      rw [take_of_nil none, take_of_nil none']
      exact .flaw beside
    · obtain ⟨word, rest, words⟩ := List.exists_cons_of_ne_nil some
      refine .inl ?_
      rw [take_of_cons words]
      exact past
    · refine .inr ?_
      rw [take_of_cons here, take_of_cons here']
      exact .ok behind

theorem steady_takeKeyword {keyword : String} (agrees : fork.Agrees (Text.sameWord · keyword)) :
    fork.Steady (takeKeyword keyword) := by
  refine Steady.bind (Steady.get_bind (fun state => .pure (state.isAt keyword)) ?_) fun found => ?_
  · exact fun state state' beside => congrArg pure (beside.look_eq agrees)
  · exact Steady.ite (steady_skip.bind fun _ => .pure true) (.pure false)

theorem steady_repeatUpTo {condition : State → Bool} {step : β → Reader β}
    (same : ∀ state state', fork.Beside state state' → condition state' = condition state)
    (each : ∀ value, fork.Steady (step value)) (fuel : Nat) (value : β) :
    fork.Steady (repeatUpTo condition step fuel value) := by
  induction fuel generalizing value with
  | zero => exact Steady.pure value
  | succ fuel ih =>
    rw [repeatUpTo]
    refine Steady.get_bind (fun state => .ite ((each value).bind ih) (.pure value)) ?_
    intro state state' beside
    rw [same state state' beside]

theorem steady_repeatWhile {condition : State → Bool} {step : β → Reader β}
    (same : ∀ state state', fork.Beside state state' → condition state' = condition state)
    (each : ∀ value, fork.Steady (step value)) (value : β) :
    fork.Steady (repeatWhile condition step value) := by
  rw [repeatWhile]
  refine Steady.get_bind (fun state => steady_repeatUpTo same each _ value) ?_
  intro state state' beside
  rw [beside.length_eq]

theorem steady_takeUntil {condition : String → Bool} (agrees : fork.Agrees condition) :
    fork.Steady (takeUntil condition) :=
  steady_repeatWhile
    (fun _ _ beside => by rw [beside.isEmpty_eq, beside.look_eq agrees])
    (fun _ => steady_take.bind fun _ => .pure _) []

theorem steady_takeWhole? (word : String) : fork.Steady (takeWhole? word) := by
  rw [takeWhole?]
  split
  · exact .pure _
  · exact .pure _
  · exact .fault _

/-! ## What a series shows -/

/-- What the readers of what a series shows look for in a word. -/
structure Sight where
  range : Option DataRange
  isStatistic : Bool
  isEquation : Bool
  isClosing : Bool
  isPeriod : Bool
  /-- The graph type, if the word is the one for an average. -/
  average : Option String

/-- What the readers of what a series shows see in a word. -/
def sightOf (word : String) : Sight where
  range := rangeOf? word
  isStatistic := Text.sameWord word "Stats"
  isEquation := Text.sameWord word "Eval"
  isClosing := word == "]"
  isPeriod := Text.sameWord word "Period"
  average := if Text.hasCapitals ['S', 'M', 'A'] word.toList then some (Text.lower word) else none

theorem steady_takeRange (agrees : fork.Agrees sightOf) : fork.Steady takeRange := by
  rw [takeRange]
  refine Steady.get_bind (fun state => ?_) fun state state' beside => ?_
  · cases rangeOf? state.next with
    | none => exact .pure _
    | some range => exact steady_skip.bind fun _ => .pure _
  · have same : rangeOf? state'.next = rangeOf? state.next :=
      beside.look_eq (agrees.comp Sight.range)
    rw [same]

theorem steady_takeEquation (agrees : fork.Agrees sightOf) (site : Site) (name : String)
    (range : Option DataRange) : fork.Steady (takeEquation site name range) := by
  have nothing : ∀ text, fork.Steady (do complain text; return none : Reader (Option String)) :=
    fun text => (Steady.complain text).bind fun _ => .pure none
  rw [takeEquation]
  refine (steady_takeKeyword (agrees.comp Sight.isEquation)).bind fun found => ?_
  refine Steady.ite (nothing _) (Steady.ite (nothing _) (steady_take.bind fun mark => ?_))
  refine Steady.ite (nothing _) ?_
  refine (steady_takeUntil (agrees.comp Sight.isClosing)).bind fun words => ?_
  refine steady_take.bind fun _ => Steady.get_bind (fun state => ?_) fun state state' beside => ?_
  · dsimp only
    split
    · exact .pure _
    · exact nothing _
  · rw [beside.equations]

theorem steady_takePlot (agrees : fork.Agrees sightOf) (site : Site) (chart : Chart) :
    fork.Steady (takePlot site chart) := by
  rw [takePlot]
  refine (steady_takeRange agrees).bind fun range => steady_take.bind fun word => ?_
  refine Steady.get_bind (fun state => ?_) fun state state' beside => ?_
  · refine Steady.ite ((steady_takeEquation agrees site _ _).bind fun found => ?_)
      (Steady.ite (.refuse _) (.pure _))
    cases found with
    | none => exact .refuse _
    | some equation => exact .pure _
  · have same : state'.isAt "Eval" = state.isAt "Eval" :=
      beside.look_eq (agrees.comp Sight.isEquation)
    rw [same]

theorem steady_statisticBase (site : Site) (chart : Chart) (range : DataRange) (word : String) :
    fork.Steady (statisticBase site chart range word) := by
  rw [statisticBase]
  split
  · exact .pure _
  · split
    · exact .refuse _
    · exact .pure _

theorem steady_takePeriod (agrees : fork.Agrees sightOf) (site : Site) (chart : Chart) :
    fork.Steady (takePeriod site chart) := by
  rw [takePeriod]
  refine (steady_takeKeyword (agrees.comp Sight.isPeriod)).bind fun found => Steady.ite ?_ ?_
  · refine steady_take.bind fun word => (steady_takeWhole? word).bind fun number => ?_
    cases number with
    | none => exact .refuse _
    | some period => exact .pure _
  · refine (Steady.ofExcept _).bind fun value => (Steady.ofExcept _).bind fun number => ?_
    cases number with
    | none => exact .pure _
    | some period => exact .pure _

theorem steady_takeStatistic (agrees : fork.Agrees sightOf) (site : Site) (chart : Chart) :
    fork.Steady (takeStatistic site chart) := by
  rw [takeStatistic]
  refine (steady_takeRange agrees).bind fun range => steady_take.bind fun word => ?_
  refine (steady_statisticBase site chart _ word).bind fun base => ?_
  refine Steady.get_bind (fun state => ?_) fun state state' beside => ?_
  · refine Steady.ite (steady_skip.bind fun _ => ?_) (.refuse _)
    exact (steady_takePeriod agrees site chart).bind fun period => .pure _
  · have same := beside.look_eq (agrees.comp Sight.average)
    dsimp only [sightOf] at same ⊢
    split at same <;> split at same <;> simp_all

theorem steady_takePlain (agrees : fork.Agrees sightOf) (site : Site) (chart : Chart) :
    fork.Steady (takePlain site chart) :=
  (steady_takeKeyword (agrees.comp Sight.isStatistic)).bind fun _ =>
    .ite (steady_takeStatistic agrees site chart)
      (steady_skip.bind fun _ => steady_takePlot agrees site chart)

/-! ## Attributes and series -/

theorem steady_withGraphType (chart : Chart) (series : Series) (word : String) :
    fork.Steady (withGraphType chart series word) := by
  rw [withGraphType]
  refine Steady.ite ((Steady.warn _).bind fun _ => .pure _) ?_
  exact Steady.ite (.refuse _) (.ite (.refuse _) (.pure _))

theorem steady_withOpacity (chart : Chart) (series : Series) (word : String) :
    fork.Steady (withOpacity chart series word) := by
  rw [withOpacity]
  split
  · exact .refuse _
  · exact .pure _

theorem steady_withAxis (chart : Chart) (series : Series) (word : String) :
    fork.Steady (withAxis chart series word) := by
  rw [withAxis]
  refine Steady.ite ((Steady.warn _).bind fun _ => .pure _) ?_
  split
  · exact .refuse _
  · exact .pure _

theorem steady_takeNumber (chart : Chart) (series : Series) (setting : String) :
    fork.Steady (takeNumber chart series setting) := by
  rw [takeNumber]
  refine steady_take.bind fun word => (steady_takeWhole? word).bind fun number => ?_
  cases number with
  | none => exact .refuse _
  | some number => exact .pure _

theorem steady_takeAttribute (chart : Chart) (series : Series) :
    fork.Steady (takeAttribute chart series) := by
  rw [takeAttribute]
  refine steady_take.bind fun word => Steady.ite (.pure _) ?_
  refine Steady.ite (steady_take.bind fun _ => steady_withGraphType _ _ _) ?_
  refine Steady.ite (steady_take.bind fun _ => steady_withOpacity _ _ _) ?_
  refine Steady.ite (steady_take.bind fun _ => .pure _) ?_
  refine Steady.ite ((steady_takeNumber _ _ _).bind fun _ => .pure _) ?_
  refine Steady.ite ((steady_takeNumber _ _ _).bind fun _ => .pure _) ?_
  exact steady_take.bind fun _ => steady_withAxis _ _ _

section

variable (uniform : fork.IsUniform)

include uniform

/-- Keywords in the first word are found on both sides or on neither. -/
theorem isAtAny_eq (keywords : List String) (state state' : State)
    (beside : fork.Beside state state') : state'.isAtAny keywords = state.isAtAny keywords :=
  beside.look_eq (uniform.agrees fun word => keywords.any (Text.sameWord word))

theorem steady_takeAttributes (chart : Chart) (series : Series) :
    fork.Steady (takeAttributes chart series) :=
  steady_repeatWhile (isAtAny_eq uniform attributeWords) (steady_takeAttribute chart) series

omit uniform in
theorem steady_withStandardAxis (chart : Chart) (series : Series) :
    fork.Steady (withStandardAxis chart series) := by
  rw [withStandardAxis]
  exact Steady.ite ((Steady.warn _).bind fun _ => .pure _) (.pure _)

theorem steady_takeSeries (site : Site) (chart : Chart) : fork.Steady (takeSeries site chart) := by
  rw [takeSeries_eq]
  refine (steady_takePlain (uniform.agrees _) site chart).bind fun plain => ?_
  refine (steady_takeAttributes uniform chart plain).bind fun series => ?_
  exact (steady_withStandardAxis chart series).bind fun _ => .pure _

/-! ## Charts -/

theorem steady_takeDefinitions (site : Site) : fork.Steady (takeDefinitions site) := by
  have one : fork.Steady (takeDefinition site) := by
    rw [takeDefinition]
    refine steady_take.bind fun name => ?_
    refine (steady_takeEquation (uniform.agrees _) site name none).bind fun found => ?_
    cases found with
    | none => exact .refuse _
    | some equation =>
      refine Steady.modify (fun _ => rfl) fun state state' beside => ⟨?_, beside.panels⟩
      rw [beside.equations]
  rw [takeDefinitions]
  refine one.bind fun _ => steady_repeatWhile (fun state state' beside => ?_) (fun _ => one) ()
  have same := beside.look_eq (uniform.agrees (Text.sameWord · "Chart"))
  rw [beside.isEmpty_eq, State.isAt, State.isAt, same]

theorem steady_takeTitle : fork.Steady takeTitle :=
  steady_take.bind fun _ => (steady_takeUntil (uniform.agrees _)).bind fun _ => .pure _

omit uniform in
theorem steady_connect (chart : Chart) (firstOutput : Bool) (panel : Int) :
    fork.Steady (connect chart firstOutput panel) := by
  rw [connect]
  refine Steady.ite ((Steady.warn _).bind fun _ => .pure _) ?_
  refine Steady.ite ((Steady.warn _).bind fun _ => .pure _) ?_
  refine Steady.bind ?_ fun _ => .pure _
  refine Steady.modify (fun _ => rfl) fun state state' beside => ⟨beside.equations, ?_⟩
  rw [beside.panels]

theorem steady_takePanels (chart : Chart) (firstOutput : Bool) :
    fork.Steady (takePanels chart firstOutput) := by
  refine steady_repeatWhile (fun _ _ beside => beside.look_eq (uniform.agrees isDigits))
    (fun chart => steady_take.bind fun word => ?_) chart
  split
  · exact .fault _
  · exact steady_connect chart firstOutput _

omit uniform in
theorem steady_takeZoom (chart : Chart) : fork.Steady (takeZoom chart) := by
  rw [takeZoom]
  refine steady_take.bind fun word => (steady_takeWhole? word).bind fun number => ?_
  cases number with
  | none => exact (Steady.complain _).bind fun _ => .pure _
  | some zoom => exact .pure _

theorem steady_keyword (keyword : String) : fork.Steady (takeKeyword keyword) :=
  steady_takeKeyword (uniform.agrees _)

/-- A keyword that has to be there is taken. -/
theorem steady_needKeyword (keyword : String) {stop go : Reader β} (stops : fork.Steady stop)
    (goes : fork.Steady go) :
    fork.Steady (takeKeyword keyword >>= fun found => if (!found) = true then stop else go) :=
  (steady_keyword uniform keyword).bind fun _ => .ite stops goes

theorem steady_takeWindBarbs (chart : Chart) : fork.Steady (takeWindBarbs chart) := by
  have side : fork.Steady (takeBarbsBelow chart) := by
    refine (steady_keyword uniform "Above").bind fun _ => Steady.ite (.pure _) ?_
    exact (steady_keyword uniform "Below").bind fun _ => Steady.ite (.pure _) (.refuse _)
  rw [takeWindBarbs]
  refine steady_needKeyword uniform _ (.refuse_bind _) (side.bind fun below => ?_)
  refine (steady_keyword uniform "Colour").bind fun _ => ?_
  exact Steady.ite (steady_take.bind fun _ => .pure _) (.pure _)

theorem steady_takeClause (firstOutput : Bool) (chart : Chart) :
    fork.Steady (takeClause firstOutput chart) := by
  refine (steady_keyword uniform "ConnectsTo").bind fun _ =>
    Steady.ite (steady_takePanels uniform chart firstOutput) ?_
  refine (steady_keyword uniform "Zoom").bind fun _ => Steady.ite (steady_takeZoom chart) ?_
  exact steady_skip.bind fun _ => steady_takeWindBarbs uniform chart

theorem steady_takeHead (others : List Chart) (firstOutput : Bool) :
    fork.Steady (takeHead others firstOutput) := by
  rw [takeHead]
  refine steady_needKeyword uniform "Chart" .refuseOf_bind (steady_take.bind fun id => ?_)
  refine Steady.ite (.refuse_bind _) (steady_needKeyword uniform "Title" (.refuse_bind _) ?_)
  refine (steady_takeTitle uniform).bind fun title => ?_
  refine (steady_repeatWhile (isAtAny_eq uniform _) (steady_takeClause uniform firstOutput) _).bind
    fun chart => ?_
  refine Steady.get_bind (fun state => Steady.ite (.refuse_bind _) (.pure _)) ?_
  intro state state' beside
  rw [isAtAny_eq uniform _ state state' beside]

theorem steady_takeTail (site : Site) (id : String) (chart : Chart) :
    fork.Steady (takeTail site id chart) := by
  rw [takeTail]
  refine (steady_repeatWhile (isAtAny_eq uniform _) (steady_takeSeries uniform site) chart).bind
    fun full => ?_
  exact steady_needKeyword uniform "EndChart" .refuseOf_bind (.pure full)

/-! ## Outputs -/

theorem steady_takeInfo (chart : Chart) : fork.Steady (takeInfo chart) := by
  rw [takeInfo]
  refine Steady.ite (.refuse_bind _) (steady_take.bind fun mark => Steady.ite (.refuse_bind _) ?_)
  refine (steady_takeUntil (uniform.agrees _)).bind fun words => ?_
  refine Steady.get_bind (fun state => ?_) fun state state' beside => ?_
  · exact Steady.ite (.refuse_bind _) (steady_skip.bind fun _ => .pure _)
  · rw [beside.isEmpty_eq]

theorem steady_takeEnding (ending : Ending) : fork.Steady (takeEnding ending) := by
  rw [takeEnding]
  refine (steady_keyword uniform "Info").bind fun _ => Steady.ite ?_ (Steady.ite (.refuse _) ?_)
  · exact (steady_takeInfo uniform ending.chart).bind fun _ => .pure _
  · refine steady_skip.bind fun _ => steady_take.bind fun filename => Steady.ite ?_ (.pure _)
    exact (Steady.warn _).bind fun _ => .pure _

theorem steady_takeEndings (progress : Progress) (chart : Chart) :
    fork.Steady (takeEndings progress chart) :=
  (steady_repeatWhile (isAtAny_eq uniform _) (steady_takeEnding uniform) _).bind fun _ => .pure _

theorem steady_takeNextChart (site : Site) (progress : Progress) :
    fork.Steady (takeNextChart site progress) := by
  rw [takeNextChart_eq, takeChart_eq, bind_assoc]
  refine (steady_takeHead uniform _ _).bind fun head => ?_
  exact (steady_takeTail uniform site head.1 head.2).bind fun _ => steady_takeEndings uniform _ _

omit uniform in
theorem steady_endOutputs (progress : Progress) : fork.Steady (endOutputs progress) := by
  rw [endOutputs]
  split
  · exact .refuse _
  · exact .pure _

theorem steady_takeBlock (site : Site) : fork.Steady (takeBlock site) := by
  rw [takeBlock]
  refine Steady.get_bind (fun state => Steady.ite (.refuse_bind _) ?_) ?_
  · refine (steady_keyword uniform "Equations").bind fun _ => Steady.ite ?_ (.pure _)
    exact steady_takeDefinitions uniform site
  · intro state state' beside
    rw [beside.isEmpty_eq]

theorem steady_takeCharts (site : Site) (progress : Progress) :
    fork.Steady (takeCharts site progress) :=
  (steady_repeatWhile (fun _ _ beside => by rw [beside.isEmpty_eq])
    (steady_takeNextChart uniform site) progress).bind steady_endOutputs

theorem steady_takeOutputs (site : Site) : fork.Steady (takeOutputs site) := by
  rw [takeOutputs_eq]
  exact (steady_takeBlock uniform site).bind fun _ => steady_takeCharts uniform site _

end

end

end Fork

end Meteogram.Definition
