import Meteogram.Proofs.Definition.Forks
import Meteogram.Proofs.Definition.Passages
import Meteogram.Proofs.Definition.ReadingFile

/-!
# Attributes in another order

Behind a series stand its attributes, each of them a keyword and, but for the one that hides
the series, a word for its value. A value is taken as it is, even if it is a keyword itself.
Attributes of different kinds may change places (`parse_reordered`): what an attribute does
depends only on what no attribute changes, and two of them that concern different parts of
the series do the same in both orders. What comes before and behind is read side by side.
-/

set_option autoImplicit false

namespace Meteogram.Definition

open Reader Text Number

/-! ## Attributes as they are written -/

/-- The parts of a series that attributes give values to. -/
inductive SeriesPart where
  | graphType
  | opacity
  | colour
  | zIndex
  | lineWidth
  | axis
  deriving DecidableEq

/-- The keyword of the attribute for this part. -/
def SeriesPart.keyword : SeriesPart → String
  | graphType => "As"
  | opacity => "Opacity"
  | colour => "Colour"
  | zIndex => "zIndex"
  | lineWidth => "LineWidth"
  | axis => "Axis"

/-- An attribute as it is written: a keyword in any letter case, and behind it one word for
the value, whatever that word is, unless the attribute hides the series. -/
inductive Clause where
  | hides (keyword : String) (named : sameWord keyword "InVisible" = true)
  | gives (part : SeriesPart) (keyword : String) (named : sameWord keyword part.keyword = true)
      (value : String)

namespace Clause

/-- The words of a clause. -/
def words : Clause → List String
  | hides keyword _ => [keyword]
  | gives _ keyword _ value => [keyword, value]

/-- The kind of a clause: the part that it gives a value to, or nothing if it hides the
series. -/
def kind : Clause → Option SeriesPart
  | hides _ _ => none
  | gives part _ _ _ => some part

end Clause

/-- The same clauses in another order, in which those of one kind keep theirs. -/
structure Reordered (clauses clauses' : List Clause) : Prop where
  perm : clauses.Perm clauses'
  ordered : ∀ kind, clauses'.filter (fun clause => clause.kind = kind) =
    clauses.filter (fun clause => clause.kind = kind)

/-! ## What attributes change -/

/-- What an attribute changes in a series. -/
inductive Change where
  | nothing
  | hide
  | graphType (type : String)
  | opacity (value : Binary64)
  | colour (name : String)
  | zIndex (level : Int)
  | lineWidth (width : Int)
  | axis (chosen : Axis)

namespace Change

/-- The changed series. -/
def apply : Change → Series → Series
  | nothing, series => series
  | hide, series => { series with visible := false }
  | graphType type, series => { series with graphType := type }
  | opacity value, series => { series with opacity := value }
  | colour name, series => { series with color := name }
  | zIndex level, series => { series with zIndex := level }
  | lineWidth width, series => { series with lineWidth := width }
  | axis chosen, series => { series with axes := chosen.set, axisId := chosen.name }

/-- The change is one that clauses of this kind make. -/
def Concerns (kind : Option SeriesPart) : Change → Prop
  | nothing => True
  | hide => kind = none
  | graphType _ => kind = some .graphType
  | opacity _ => kind = some .opacity
  | colour _ => kind = some .colour
  | zIndex _ => kind = some .zIndex
  | lineWidth _ => kind = some .lineWidth
  | axis _ => kind = some .axis

section

variable (change : Change) (series : Series)

@[simp]
theorem keyword_apply : (change.apply series).keyword = series.keyword := by
  cases change <;> rfl

@[simp]
theorem equation_apply : (change.apply series).equation = series.equation := by
  cases change <;> rfl

@[simp]
theorem isStatistic_apply : (change.apply series).isStatistic = series.isStatistic := by
  cases change <;> rfl

end

/-- Changes of different kinds do the same in both orders. -/
theorem apply_comm {change change' : Change} {kind kind' : Option SeriesPart}
    (concerns : change.Concerns kind) (concerns' : change'.Concerns kind') (apart : kind ≠ kind')
    (series : Series) :
    change'.apply (change.apply series) = change.apply (change'.apply series) := by
  cases change <;> cases change' <;>
    first
      | rfl
      | exact absurd (Eq.trans concerns (Eq.symm concerns')) apart

end Change

/-- What the attribute for this part changes in the series, if the definitions are not
refused for it. -/
def SeriesPart.change? (series : Series) (value : String) : SeriesPart → Option Change
  | graphType =>
    if series.isStatistic then some .nothing
    else if !graphTypes.contains (lower value) then none
    else if lower value = "columnrange" && !columnRangeKeywords.any (sameWord series.keyword) then
      none
    else some (.graphType (lower value))
  | opacity => (Binary64.read? value).map fun number =>
      .opacity (if number.isBelowZero || number.isAboveOne then .one else number)
  | colour => some (.colour value)
  | zIndex => (wholeNumber value).toOption.map .zIndex
  | lineWidth => (wholeNumber value).toOption.map .lineWidth
  | axis =>
    if series.equation.isNone then some .nothing
    else (Axis.ofKeyword? value).map .axis

namespace Clause

/-- What the clause changes in the series. -/
def change? (series : Series) : Clause → Option Change
  | hides _ _ => some .hide
  | gives part _ _ value => part.change? series value

/-- The series with the attribute, if the definitions are not refused for it. -/
def applied? (series : Series) (clause : Clause) : Option Series :=
  (clause.change? series).map (·.apply series)

variable {clause : Clause} {series : Series} {change : Change}

theorem concerns_of_change? (changes : clause.change? series = some change) :
    change.Concerns clause.kind := by
  obtain _ | ⟨part, _, _, value⟩ := clause
  · obtain rfl := Option.some.inj changes
    rfl
  · change part.change? series value = some change at changes
    cases part <;> simp only [SeriesPart.change?] at changes
    case graphType =>
      split at changes
      · obtain rfl := Option.some.inj changes
        trivial
      · split at changes
        · cases changes
        · split at changes
          · cases changes
          · obtain rfl := Option.some.inj changes
            rfl
    case colour =>
      obtain rfl := Option.some.inj changes
      rfl
    case axis =>
      split at changes
      · obtain rfl := Option.some.inj changes
        trivial
      · obtain ⟨_, _, rfl⟩ := Option.map_eq_some_iff.1 changes
        rfl
    all_goals
      obtain ⟨_, _, rfl⟩ := Option.map_eq_some_iff.1 changes
      rfl

/-- What a clause changes does not depend on what other clauses changed. -/
theorem change?_apply (clause : Clause) (change : Change) (series : Series) :
    clause.change? (change.apply series) = clause.change? series := by
  obtain _ | ⟨part, _, _, value⟩ := clause
  · rfl
  · cases part <;>
      simp only [change?, SeriesPart.change?, Change.keyword_apply, Change.equation_apply,
        Change.isStatistic_apply]

/-- Clauses of different kinds may change places. -/
theorem applied?_comm {clause clause' : Clause} (apart : clause.kind ≠ clause'.kind)
    (series : Series) :
    (clause.applied? series >>= fun series => clause'.applied? series) =
      clause'.applied? series >>= fun series => clause.applied? series := by
  cases first : clause.change? series with
  | none =>
    cases second : clause'.change? series with
    | none => simp [applied?, first, second]
    | some change' => simp [applied?, first, second, change?_apply]
  | some change =>
    cases second : clause'.change? series with
    | none => simp [applied?, first, second, change?_apply]
    | some change' =>
      have same := Change.apply_comm (concerns_of_change? first) (concerns_of_change? second)
        apart series
      simp [applied?, first, second, change?_apply, same]

end Clause

/-- A clause moves to the front past clauses of other kinds. -/
theorem foldlM_applied?_move {front : List Clause} {clause : Clause}
    (apart : ∀ other ∈ front, other.kind ≠ clause.kind) (behind : List Clause) (series : Series) :
    (front ++ clause :: behind).foldlM Clause.applied? series =
      (clause :: (front ++ behind)).foldlM Clause.applied? series := by
  induction front generalizing series with
  | nil => rfl
  | cons other front ih =>
    have swap := Clause.applied?_comm (apart other List.mem_cons_self) series
    have inner := ih fun other member => apart other (List.mem_cons_of_mem _ member)
    calc ((other :: front) ++ clause :: behind).foldlM Clause.applied? series
        = (other.applied? series >>= fun series => clause.applied? series) >>=
            fun series => (front ++ behind).foldlM Clause.applied? series := by
          rw [List.cons_append, List.foldlM_cons, bind_assoc]
          exact congrArg _ (funext inner)
      _ = (clause.applied? series >>= fun series => other.applied? series) >>=
            fun series => (front ++ behind).foldlM Clause.applied? series := by rw [swap]
      _ = (clause :: ((other :: front) ++ behind)).foldlM Clause.applied? series := by
          rw [bind_assoc, List.foldlM_cons]
          rfl

/-- Clauses in another order change the series in the same way. -/
theorem Reordered.foldlM_applied? {clauses clauses' : List Clause}
    (reordered : Reordered clauses clauses') (series : Series) :
    clauses'.foldlM Clause.applied? series = clauses.foldlM Clause.applied? series := by
  induction clauses generalizing clauses' series with
  | nil => rw [reordered.perm.symm.eq_nil]
  | cons clause clauses ih =>
    -- The first clause is the first one of its kind in the other order too.
    obtain ⟨front, behind, rfl, apart⟩ : ∃ front behind, clauses' = front ++ clause :: behind ∧
        ∀ other ∈ front, other.kind ≠ clause.kind := by
      have kept := reordered.ordered clause.kind
      rw [List.filter_cons_of_pos (by simp)] at kept
      obtain ⟨front, behind, rfl, none, _, _⟩ := List.filter_eq_cons_iff.1 kept
      exact ⟨front, behind, rfl, by simpa using none⟩
    have less : Reordered clauses (front ++ behind) := by
      refine ⟨?_, fun kind => ?_⟩
      · exact (List.perm_cons clause).1 (reordered.perm.trans List.perm_middle)
      · have kept := reordered.ordered kind
        rw [List.filter_append] at kept ⊢
        by_cases same : clause.kind = kind
        · have none : front.filter (fun other => other.kind = kind) = [] := by
            refine List.filter_eq_nil_iff.2 fun other member => ?_
            simpa [← same] using apart other member
          rw [none, List.filter_cons_of_pos (by simpa using same),
            List.filter_cons_of_pos (by simpa using same)] at kept
          rw [none]
          exact (List.cons.inj kept).2
        · rwa [List.filter_cons_of_neg (by simpa using same),
            List.filter_cons_of_neg (by simpa using same)] at kept
    rw [foldlM_applied?_move apart, List.foldlM_cons, List.foldlM_cons]
    exact congrArg _ (funext fun series => ih less series)

/-! ## Taking attributes -/

/-- Between the two states only words were taken, and these are left. -/
structure IsBehind (start : State) (behind : List String) (state : State) : Prop where
  rest : state.rest = behind
  equations : state.equations = start.equations
  panels : state.panels = start.panels

/-- The reader gives what there is to find and leaves these words, or it stops. -/
inductive Finds {α : Type} (start : State) (behind : List String) :
    Option α → EStateM.Result Stop State α → Prop where
  | found {value : α} {last : State} (isBehind : IsBehind start behind last) :
      Finds start behind (some value) (.ok value last)
  | stopped {stop : Stop} {last : State} (equations : last.equations = start.equations)
      (panels : last.panels = start.panels) : Finds start behind none (.error stop last)

section

variable {α β : Type} {start state : State} {behind : List String} {chart : Chart}
  {series : Series} {value : String}

theorem isBehind_skip {word : String} (words : state.rest = word :: behind) :
    IsBehind state behind state.skip := by
  rw [State.skip, words]
  exact ⟨rfl, rfl, rfl⟩

theorem IsBehind.trans {between : List String} {middle : State}
    (first : IsBehind start between middle) (second : IsBehind middle behind state) :
    IsBehind start behind state :=
  ⟨second.rest, second.equations.trans first.equations, second.panels.trans first.panels⟩

theorem IsBehind.stopped {stop : Stop} (isBehind : IsBehind start behind state) :
    Finds start behind (none : Option α) (.error stop state) :=
  .stopped isBehind.equations isBehind.panels

theorem take_bind {word : String} {next : String → Reader β} (words : state.rest = word :: behind) :
    (take >>= next) state = next word state.skip := by
  change EStateM.bind take next state = _
  rw [EStateM.bind, Fork.take_of_cons words]

theorem finds_withGraphType (isBehind : IsBehind start behind state) :
    Finds start behind ((SeriesPart.graphType.change? series value).map (·.apply series))
      (withGraphType chart series value state) := by
  rw [withGraphType, SeriesPart.change?]
  split
  · exact .found ⟨isBehind.rest, isBehind.equations, isBehind.panels⟩
  · split
    · exact isBehind.stopped
    · split
      · exact isBehind.stopped
      · exact .found isBehind

theorem finds_withOpacity (isBehind : IsBehind start behind state) :
    Finds start behind ((SeriesPart.opacity.change? series value).map (·.apply series))
      (withOpacity chart series value state) := by
  rw [withOpacity, SeriesPart.change?]
  cases Binary64.read? value with
  | none => exact isBehind.stopped
  | some number => exact .found ⟨isBehind.rest, isBehind.equations, isBehind.panels⟩

theorem finds_withAxis (isBehind : IsBehind start behind state) :
    Finds start behind ((SeriesPart.axis.change? series value).map (·.apply series))
      (withAxis chart series value state) := by
  rw [withAxis, SeriesPart.change?]
  split
  · exact .found ⟨isBehind.rest, isBehind.equations, isBehind.panels⟩
  · cases Axis.ofKeyword? value with
    | none => exact isBehind.stopped
    | some axis => exact .found ⟨isBehind.rest, isBehind.equations, isBehind.panels⟩

theorem finds_takeNumber (setting : String) (change : Int → Change)
    (words : state.rest = value :: behind) (isBehind : IsBehind start (value :: behind) state) :
    Finds start behind (((wholeNumber value).toOption.map change).map (·.apply series))
      ((takeNumber chart series setting >>= fun number => pure ((change number).apply series))
        state) := by
  have after := isBehind.trans (isBehind_skip words)
  rw [takeNumber, bind_assoc, take_bind words, takeWhole?]
  cases wholeNumber value with
  | ok number => exact .found after
  | error fault => cases fault <;> exact after.stopped

/-- Taking an attribute makes the change of its clause. -/
theorem finds_takeAttribute (chart : Chart) (series : Series) {clause : Clause}
    (words : state.rest = clause.words ++ behind) :
    Finds state behind (clause.applied? series) (takeAttribute chart series state) := by
  obtain ⟨keyword, named⟩ | ⟨part, keyword, named, value⟩ := clause
  · rw [takeAttribute, take_bind words, if_pos named]
    exact .found (isBehind_skip words)
  · change state.rest = keyword :: value :: behind at words
    have opened := isBehind_skip words
    have after := opened.trans (isBehind_skip opened.rest)
    rw [takeAttribute, take_bind words]
    simp only [sameWord_congr_left named]
    cases part <;> simp +decide only [if_true, if_false]
    case graphType =>
      rw [take_bind opened.rest]
      exact finds_withGraphType after
    case opacity =>
      rw [take_bind opened.rest]
      exact finds_withOpacity after
    case colour =>
      rw [take_bind opened.rest]
      exact .found after
    case zIndex => exact finds_takeNumber "zindex" .zIndex opened.rest opened
    case lineWidth => exact finds_takeNumber "linewidth" .lineWidth opened.rest opened
    case axis =>
      rw [take_bind opened.rest]
      exact finds_withAxis after

end

/-! ## Repetitions that take words -/

section

variable {β : Type} {condition : State → Bool} {step : β → Reader β} {value final : β}
  {state last : State}

/-- Each step of the repetition leaves fewer words. -/
def TakesWords (condition : State → Bool) (step : β → Reader β) : Prop :=
  ∀ value state next last, condition state = true → step value state = .ok next last →
    last.rest.length < state.rest.length

/-- Some steps of a repetition, from a value and a state to others. -/
inductive Repeats (condition : State → Bool) (step : β → Reader β) : β → State → β → State → Prop
  | refl (value : β) (state : State) : Repeats condition step value state value state
  | next {value between final : β} {state middle last : State} (holds : condition state = true)
      (ends : step value state = .ok between middle)
      (more : Repeats condition step between middle final last) :
      Repeats condition step value state final last

theorem bind_congr_at {α : Type} {reader : Reader α} {next next' : α → Reader β}
    (same : ∀ value last, reader state = .ok value last → next value last = next' value last) :
    (reader >>= next) state = (reader >>= next') state := by
  change EStateM.bind reader next state = EStateM.bind reader next' state
  rw [EStateM.bind, EStateM.bind]
  cases ends : reader state with
  | ok value last => exact same value last ends
  | error stop last => rfl

theorem bind_congr_run {α : Type} {reader reader' : Reader α} {next : α → Reader β}
    (same : reader state = reader' last) : (reader >>= next) state = (reader' >>= next) last := by
  change EStateM.bind reader next state = EStateM.bind reader' next last
  rw [EStateM.bind, EStateM.bind, same]

theorem bind_of_ok {α : Type} {reader : Reader α} {next : α → Reader β} {value : α}
    (ends : reader state = .ok value last) : (reader >>= next) state = next value last := by
  change EStateM.bind reader next state = _
  rw [EStateM.bind, ends]

theorem bind_of_error {α : Type} {reader : Reader α} {next : α → Reader β} {stop : Stop}
    (ends : reader state = .error stop last) : (reader >>= next) state = .error stop last := by
  change EStateM.bind reader next state = _
  rw [EStateM.bind, ends]

/-- A repetition that has more steps left than there are words does not run out of them. -/
theorem TakesWords.repeatUpTo_eq (takes : TakesWords condition step) {fuel fuel' : Nat}
    (enough : state.rest.length < fuel) (enough' : state.rest.length < fuel') :
    repeatUpTo condition step fuel value state = repeatUpTo condition step fuel' value state := by
  induction fuel generalizing fuel' value state with
  | zero => exact absurd enough (Nat.not_lt_zero _)
  | succ fuel ih =>
    cases fuel' with
    | zero => exact absurd enough' (Nat.not_lt_zero _)
    | succ fuel' =>
      change (if condition state then step value >>= repeatUpTo condition step fuel
        else pure value : Reader β) state = (if condition state then
          step value >>= repeatUpTo condition step fuel' else pure value : Reader β) state
      by_cases holds : condition state = true
      · rw [if_pos holds, if_pos holds]
        refine bind_congr_at fun between middle ends => ?_
        have shorter := takes value state between middle holds ends
        exact ih (by omega) (by omega)
      · rw [if_neg holds, if_neg holds]

/-- A repetition of which the condition holds is a step and the repetition again. -/
theorem TakesWords.repeatWhile_next (takes : TakesWords condition step)
    (holds : condition state = true) :
    repeatWhile condition step value state =
      (step value >>= fun between => repeatWhile condition step between) state := by
  change (if condition state then step value >>= repeatUpTo condition step state.rest.length
    else pure value : Reader β) state = _
  rw [if_pos holds]
  refine bind_congr_at fun between middle ends => ?_
  exact takes.repeatUpTo_eq (takes value state between middle holds ends) (Nat.lt_succ_self _)

/-- A repetition goes on from where some of its steps lead. -/
theorem Repeats.repeatWhile_eq (takes : TakesWords condition step)
    (repeats : Repeats condition step value state final last) :
    repeatWhile condition step value state = repeatWhile condition step final last := by
  induction repeats with
  | refl value state => rfl
  | next holds ends _ ih => rw [takes.repeatWhile_next holds, bind_of_ok ends, ih]

/-- What is read behind a repetition is read behind its steps and the repetition again. -/
theorem TakesWords.bind_next {α : Type} {next : β → Reader α} (takes : TakesWords condition step)
    (holds : condition state = true) :
    (repeatWhile condition step value >>= next) state =
      (step value >>= fun between => repeatWhile condition step between >>= next) state := by
  rw [← bind_assoc]
  exact bind_congr_run (takes.repeatWhile_next holds)

theorem Repeats.bind_eq {α : Type} {next : β → Reader α} (takes : TakesWords condition step)
    (repeats : Repeats condition step value state final last) :
    (repeatWhile condition step value >>= next) state =
      (repeatWhile condition step final >>= next) last :=
  bind_congr_run (repeats.repeatWhile_eq takes)

end

/-- What holds where a reader ends holds if it is known to end. -/
theorem Ends.of_ok {α : Type} {state last : State} {reader : Reader α} {Q : α → State → Prop}
    {E : Fault → Prop} {value : α} (ends : Ends state reader Q E)
    (found : reader state = .ok value last) : Q value last := by
  rw [Ends, found] at ends
  exact ends

theorem takesWords_takeAttribute (chart : Chart) :
    TakesWords (State.isAtAny · attributeWords) (takeAttribute chart) := by
  intro series state next last _ ends
  -- Any site will do: it only says which faults there are.
  have walks := @walks_takeAttribute state plainSite state.rest chart series (List.suffix_refl _)
  exact (walks.of_ok ends).2

theorem takesWords_takeSeries (site : Site) :
    TakesWords (State.isAtAny · ["Plot", "Stats"]) (takeSeries site) :=
  fun chart state _ _ starts ends =>
    ((ends_takeSeries chart (List.suffix_refl state.rest) starts).of_ok ends).2.1

theorem takesWords_takeNextChart (site : Site) :
    TakesWords (fun state => !state.rest.isEmpty) (takeNextChart site) := by
  intro progress state next last _ ends
  rw [takeNextChart_eq] at ends
  obtain ⟨chart, between, taken, ending⟩ := bind_ok_iff.1 ends
  obtain ⟨text, _, _, _, _, passed⟩ :=
    (ends_takeChart progress.charts (List.suffix_refl state.rest)).of_ok taken
  have shorter := passed.shorter (List.cons_ne_nil _ _)
  have further := (Fork.steady_takeEndings Fork.isUniform_closed progress chart).shrinks between
  rw [ending] at further
  exact Nat.lt_of_le_of_lt further shorter

/-! ## The attributes of a series -/

section

variable {chart : Chart} {series : Series} {start state : State} {behind : List String}
  {clauses : List Clause}

theorem isAtAny_of_clause {clause : Clause} (words : state.rest = clause.words ++ behind) :
    state.isAtAny attributeWords = true := by
  have keyword : ∃ name ∈ attributeWords, sameWord state.next name = true := by
    rw [State.next, words]
    obtain ⟨keyword, named⟩ | ⟨part, keyword, named, value⟩ := clause
    · exact ⟨"InVisible", by decide, named⟩
    · exact ⟨part.keyword, by cases part <;> decide, named⟩
  exact List.any_eq_true.2 keyword

/-- Taking the attributes of a series makes the changes of the clauses one after the other, or
stops at one of them. -/
theorem takeAttributes_of_clauses (chart : Chart) (series : Series)
    (words : state.rest = clauses.flatMap Clause.words ++ behind) :
    (∃ found last, clauses.foldlM Clause.applied? series = some found ∧ IsBehind state behind last ∧
        takeAttributes chart series state = takeAttributes chart found last) ∨
      (clauses.foldlM Clause.applied? series = none ∧
        Finds state behind (none : Option Series) (takeAttributes chart series state)) := by
  induction clauses generalizing series state with
  | nil => exact .inl ⟨series, state, rfl, ⟨words, rfl, rfl⟩, rfl⟩
  | cons clause clauses ih =>
    rw [List.flatMap_cons, List.append_assoc] at words
    have first := finds_takeAttribute chart series words
    have next : takeAttributes chart series state =
        (takeAttribute chart series >>= takeAttributes chart) state :=
      (takesWords_takeAttribute chart).repeatWhile_next (isAtAny_of_clause words)
    rw [List.foldlM_cons]
    generalize found : clause.applied? series = one at first
    generalize ends : takeAttribute chart series state = result at first
    cases first with
    | stopped equations panels =>
      rw [next, bind_of_error ends]
      exact .inr ⟨rfl, .stopped equations panels⟩
    | found isBehind =>
      rw [next, bind_of_ok ends]
      rcases ih _ isBehind.rest with ⟨final, last, all, there, same⟩ | ⟨none, stops⟩
      · exact .inl ⟨final, last, all, isBehind.trans there, same⟩
      · refine .inr ⟨none, ?_⟩
        generalize takeAttributes chart _ _ = result at stops
        cases stops with
        | stopped equations panels =>
          exact .stopped (equations.trans isBehind.equations) (panels.trans isBehind.panels)

end

/-! ## Where a series stands -/

/-- What is read from a series of a chart on. -/
def takeRemaining (site : Site) (progress : Progress) (id : String) (chart : Chart) :
    Reader (List Output) :=
  takeTail site id chart >>= fun full => takeEndings progress full >>= takeCharts site

/-- What is read from the attributes of a series on. -/
def takeDressed (site : Site) (progress : Progress) (id : String) (chart : Chart)
    (plain : Series) : Reader (List Output) :=
  takeAttributes chart plain >>= fun series => withStandardAxis chart series >>= fun series =>
    takeRemaining site progress id (addSeries chart series)

/-- Reading comes to a series: it takes the equations and the charts in front of its chart,
and the head of the chart and the series in front of it. -/
inductive ComesTo (site : Site) (start : State) : Progress → String → Chart → State → Prop
  | intro {opened between headed state : State} {progress : Progress} {id : String}
      {bare chart : Chart} (block : takeBlock site start = .ok () opened)
      (charts : Repeats (fun state => !state.rest.isEmpty) (takeNextChart site) {} opened
        progress between)
      (more : between.rest.isEmpty = false)
      (head : takeHead progress.charts progress.done.isEmpty between = .ok (id, bare) headed)
      (series : Repeats (State.isAtAny · ["Plot", "Stats"]) (takeSeries site) bare headed
        chart state)
      (starts : state.isAtAny ["Plot", "Stats"] = true) :
      ComesTo site start progress id chart state

theorem ComesTo.starts {site : Site} {start state : State} {progress : Progress} {id : String}
    {chart : Chart} (comes : ComesTo site start progress id chart state) :
    state.isAtAny ["Plot", "Stats"] = true := by
  obtain ⟨_, _, _, _, _, starts⟩ := comes
  exact starts

/-- The line is a series of the definitions, up to its attributes. Reading comes to it and
takes it, or refuses the definitions within it, or stops somewhere in front of its end. -/
inductive IsLine (site : Site) (before line behind : List String) : Prop
  | taken {progress : Progress} {id : String} {chart : Chart} {state last : State} {plain : Series}
      (comes : ComesTo site { rest := before ++ line ++ behind } progress id chart state)
      (some : line ≠ []) (here : state.rest = line ++ behind)
      (ends : takePlain site chart state = .ok plain last) (rest : last.rest = behind)
  | refused {progress : Progress} {id : String} {chart : Chart} {state last : State} {stop : Stop}
      (comes : ComesTo site { rest := before ++ line ++ behind } progress id chart state)
      (some : line ≠ []) (here : state.rest = line ++ behind)
      (ends : takePlain site chart state = .error stop last)
      (within : behind.length ≤ last.rest.length)
  | missed {last : State} {stop : Stop}
      (ends : takeOutputs site { rest := before ++ line ++ behind } = .error stop last)
      (short : behind.length < last.rest.length)

section

variable {site : Site} {start start' state state' : State} {progress : Progress} {id : String}
  {chart : Chart}

/-- A series is taken, its attributes are, and then what is left. -/
theorem takeRemaining_of_isAtAny (starts : state.isAtAny ["Plot", "Stats"] = true) :
    takeRemaining site progress id chart state =
      (takePlain site chart >>= takeDressed site progress id chart) state := by
  have dressed : takePlain site chart >>= takeDressed site progress id chart =
      takeSeries site chart >>= takeRemaining site progress id := by
    rw [takeSeries_eq]
    simp only [bind_assoc, pure_bind]
    rfl
  rw [dressed, takeRemaining, takeTail, bind_assoc, (takesWords_takeSeries site).bind_next starts]
  refine bind_congr_at fun full last _ => ?_
  rw [takeRemaining, takeTail, bind_assoc]

/-- Where reading comes to, it goes on. -/
theorem ComesTo.takeOutputs_eq (comes : ComesTo site start progress id chart state) :
    takeOutputs site start = takeRemaining site progress id chart state := by
  obtain ⟨block, charts, more, head, series, _⟩ := comes
  rw [Meteogram.Definition.takeOutputs_eq, bind_of_ok block, takeCharts,
    charts.bind_eq (takesWords_takeNextChart site),
    (takesWords_takeNextChart site).bind_next (by rw [more]; rfl), takeNextChart_eq, takeChart_eq,
    bind_assoc, bind_assoc, bind_of_ok head]
  rw [takeRemaining, takeTail, takeTail, bind_assoc, bind_assoc,
    series.bind_eq (takesWords_takeSeries site)]
  rfl

theorem steady_takeRemaining {fork : Fork} (uniform : fork.IsUniform) (site : Site)
    (progress : Progress) (id : String) (chart : Chart) :
    fork.Steady (takeRemaining site progress id chart) := by
  refine (Fork.steady_takeTail uniform site id chart).bind fun full => ?_
  exact (Fork.steady_takeEndings uniform progress full).bind (Fork.steady_takeCharts uniform site)

theorem steady_takeDressed {fork : Fork} (uniform : fork.IsUniform) (site : Site)
    (progress : Progress) (id : String) (chart : Chart) (plain : Series) :
    fork.Steady (takeDressed site progress id chart plain) := by
  refine (Fork.steady_takeAttributes uniform chart plain).bind fun series => ?_
  refine (Fork.steady_withStandardAxis chart series).bind fun series => ?_
  exact steady_takeRemaining uniform site progress id _

section

variable {β : Type} {fork : Fork} {condition : State → Bool} {step : β → Reader β} {value final : β}
  {last : State}

theorem Repeats.inside (each : ∀ value, fork.Steady (step value))
    (repeats : Repeats condition step value state final last) (inside : ¬ fork.IsPast last) :
    ¬ fork.IsPast state := by
  induction repeats with
  | refl value state => exact inside
  | next holds ends more ih => exact (each _).inside ends (ih inside)

/-- Steps in front of a fork are the same on both sides. -/
theorem Repeats.beside (each : ∀ value, fork.Steady (step value))
    (same : ∀ state state', fork.Beside state state' → condition state' = condition state)
    (repeats : Repeats condition step value state final last) (inside : ¬ fork.IsPast last)
    (beside : fork.Beside state state') :
    ∃ last', Repeats condition step value state' final last' ∧ fork.Beside last last' := by
  induction repeats generalizing state' with
  | refl value state => exact ⟨state', .refl _ _, beside⟩
  | next holds ends more ih =>
    obtain ⟨middle', ends', there⟩ := (each _).exists_of_ok beside ends (more.inside each inside)
    obtain ⟨last', more', beside'⟩ := ih inside there
    exact ⟨last', .next ((same _ _ beside).trans holds) ends' more', beside'⟩

end

/-- Reading comes to a series in front of a fork on both sides. -/
theorem ComesTo.beside {fork : Fork} (uniform : fork.IsUniform)
    (comes : ComesTo site start progress id chart state) (inside : ¬ fork.IsPast state)
    (beside : fork.Beside start start') :
    ∃ state', ComesTo site start' progress id chart state' ∧ fork.Beside state state' := by
  obtain ⟨block, charts, more, head, series, starts⟩ := comes
  have eachChart := Fork.steady_takeNextChart uniform site
  have eachSeries := Fork.steady_takeSeries uniform site
  have steadyHead := Fork.steady_takeHead uniform progress.charts progress.done.isEmpty
  have insideHeaded := series.inside eachSeries inside
  have insideBetween := steadyHead.inside head insideHeaded
  have insideOpened := charts.inside eachChart insideBetween
  obtain ⟨_, block', opened⟩ :=
    (Fork.steady_takeBlock uniform site).exists_of_ok beside block insideOpened
  obtain ⟨_, charts', between⟩ := charts.beside eachChart
    (fun _ _ beside => by rw [beside.isEmpty_eq]) insideBetween opened
  obtain ⟨_, head', headed⟩ := steadyHead.exists_of_ok between head insideHeaded
  obtain ⟨state', series', last⟩ := series.beside eachSeries
    (Fork.isAtAny_eq uniform _) inside headed
  refine ⟨state', ⟨block', charts', between.isEmpty_eq.trans more, head', series', ?_⟩, last⟩
  exact (Fork.isAtAny_eq uniform _ _ _ last).trans starts

end

/-! ## Other orders -/

/-- Both readings end with the same value or are both refused, or one of them stops at a
fault. -/
inductive EndAlike {α : Type} : EStateM.Result Stop State α → EStateM.Result Stop State α → Prop
  | ok {value : α} {last last' : State} (equations : last'.equations = last.equations)
      (panels : last'.panels = last.panels) : EndAlike (.ok value last) (.ok value last')
  | flaw {flaw flaw' : Flaw} {last last' : State} (equations : last'.equations = last.equations)
      (panels : last'.panels = last.panels) :
      EndAlike (.error (.flaw flaw) last) (.error (.flaw flaw') last')
  | fault {fault : Fault} {last : State} {result : EStateM.Result Stop State α} :
      EndAlike (.error (.fault fault) last) result
  | faultBehind {fault : Fault} {last : State} {result : EStateM.Result Stop State α} :
      EndAlike result (.error (.fault fault) last)

theorem Fork.Matches.endAlike {fork : Fork} {α : Type}
    {result result' : EStateM.Result Stop State α} (both : fork.Matches result result') :
    EndAlike result result' := by
  cases both with
  | ok beside => exact .ok beside.equations beside.panels
  | flaw beside => exact .flaw beside.equations beside.panels
  | fault _ => exact .fault

theorem endAlike_error {α : Type} {stop stop' : Stop} {last last' : State}
    (equations : last'.equations = last.equations) (panels : last'.panels = last.panels) :
    EndAlike (.error stop last : EStateM.Result Stop State α) (.error stop' last') := by
  cases stop with
  | fault _ => exact .fault
  | flaw _ =>
    cases stop' with
    | fault _ => exact .faultBehind
    | flaw _ => exact .flaw equations panels

/-- Two readings of definitions that end alike, neither of them at a fault, have the same
outcome. -/
theorem parse_of_endAlike {site : Site} {text text' : String}
    (alike : EndAlike (takeOutputs site { rest := words text })
      (takeOutputs site { rest := words text' }))
    (reads : ∀ fault, (parse site text).outcome ≠ .error fault)
    (reads' : ∀ fault, (parse site text').outcome ≠ .error fault) :
    (parse site text').outcome = (parse site text).outcome ∧
      (parse site text').equations = (parse site text).equations ∧
      (parse site text').panels = (parse site text).panels := by
  rw [parse] at reads reads' ⊢
  rw [parse]
  generalize takeOutputs site { rest := words text } = result at *
  generalize takeOutputs site { rest := words text' } = result' at *
  cases alike with
  | ok equations panels => exact ⟨rfl, equations, panels⟩
  | flaw equations panels => exact ⟨rfl, equations, panels⟩
  | fault => exact absurd rfl (reads _)
  | faultBehind => exact absurd rfl (reads' _)

/-- The readers of what a series shows see nothing in the keyword of an attribute. -/
theorem sightOf_of_sameWord {keyword name : String} (listed : name ∈ attributeWords)
    (named : sameWord keyword name = true) :
    Fork.sightOf keyword = ⟨none, false, false, false, false, none⟩ := by
  have checked : ∀ name ∈ attributeWords, rangeOf? name = none ∧ sameWord name "Stats" = false ∧
      sameWord name "Eval" = false ∧ sameWord name "Period" = false ∧
      sameWord "]" name = false ∧ (lower name).toList.length ≠ 3 := by decide
  obtain ⟨range, statistic, equation, period, closing, length⟩ := checked name listed
  have noClosing : (keyword == "]") = false := by
    refine beq_eq_false_iff_ne.2 fun same => ?_
    rw [same, closing] at named
    cases named
  have noAverage : ¬ hasCapitals ['S', 'M', 'A'] keyword.toList = true := by
    intro capitals
    rw [← sameWord_iff.1 named] at length
    exact length (length_lower_of_hasCapitals capitals)
  have noRange : rangeOf? keyword = none := by
    rw [← range, rangeOf?, rangeOf?]
    simp only [sameWord_congr_left named]
  rw [Fork.sightOf, noRange, noClosing, if_neg noAverage, sameWord_congr_left named, statistic,
    sameWord_congr_left named, equation, sameWord_congr_left named, period]

namespace Reordered

variable {clauses clauses' : List Clause} {site : Site} {before line behind : List String}
  {progress : Progress} {id : String} {chart : Chart} {state state' : State}

/-- The two orders, and behind each of them the same words, as ways in which definitions go
on. -/
def fork (reordered : Reordered clauses clauses') (behind : List String) (margin : Nat) : Fork where
  first := clauses.flatMap Clause.words ++ behind
  second := clauses'.flatMap Clause.words ++ behind
  margin := margin
  length_eq := by
    rw [List.length_append, List.length_append,
      (reordered.perm.flatMap_right Clause.words).length_eq]

theorem not_isPast_fork (reordered : Reordered clauses clauses') {margin : Nat}
    (long : margin + (clauses.flatMap Clause.words ++ behind).length ≤ state.rest.length) :
    ¬ (reordered.fork behind margin).IsPast state :=
  Nat.not_lt.2 long

theorem agrees_sightOf (reordered : Reordered clauses clauses') (behind : List String)
    (margin : Nat) : (reordered.fork behind margin).Agrees Fork.sightOf := by
  have seen : ∀ (clause : Clause) more behind, Fork.sightOf
      (((clause :: more).flatMap Clause.words ++ behind).headD "") =
        ⟨none, false, false, false, false, none⟩ := by
    intro clause more behind
    obtain ⟨keyword, named⟩ | ⟨part, keyword, named, value⟩ := clause
    · exact sightOf_of_sameWord (by decide) named
    · exact sightOf_of_sameWord (by cases part <;> decide) named
  intro _
  rw [Reordered.fork]
  cases clauses with
  | nil =>
    obtain rfl := reordered.perm.symm.eq_nil
    rfl
  | cons clause more =>
    cases clauses' with
    | nil => cases reordered.perm.eq_nil
    | cons clause' more' => exact (seen clause more behind).trans (seen clause' more' behind).symm

/-- From the attributes of a series on, both readings end alike. -/
theorem endAlike_takeDressed (reordered : Reordered clauses clauses')
    (words : state.rest = clauses.flatMap Clause.words ++ behind)
    (words' : state'.rest = clauses'.flatMap Clause.words ++ behind)
    (equations : state'.equations = state.equations) (panels : state'.panels = state.panels)
    (plain : Series) :
    EndAlike (takeDressed site progress id chart plain state)
      (takeDressed site progress id chart plain state') := by
  have changes := reordered.foldlM_applied? plain
  rcases takeAttributes_of_clauses chart plain words with
    ⟨found, last, some, there, same⟩ | ⟨none, stops⟩
  · rcases takeAttributes_of_clauses chart plain words' with
      ⟨found', last', some', there', same'⟩ | ⟨none', _⟩
    · obtain rfl : found' = found := by
        rw [some, some'] at changes
        exact Option.some.inj changes
      have goes : takeDressed site progress id chart plain state =
          takeDressed site progress id chart found' last := bind_congr_run same
      have goes' : takeDressed site progress id chart plain state' =
          takeDressed site progress id chart found' last' := bind_congr_run same'
      have beside : Fork.closed.Beside last last' := by
        refine ⟨⟨behind, Nat.zero_le _, ?_, ?_⟩, ?_, ?_⟩
        · exact there.rest.trans (List.append_nil behind).symm
        · exact there'.rest.trans (List.append_nil behind).symm
        · exact there'.equations.trans (equations.trans there.equations.symm)
        · exact there'.panels.trans (panels.trans there.panels.symm)
      have steady := steady_takeDressed Fork.isUniform_closed site progress id chart found'
      rw [goes, goes']
      rcases steady.together _ _ beside with past | both
      · exact absurd past (Nat.not_lt_zero _)
      · exact both.endAlike
    · rw [some, none'] at changes
      cases changes
  · rcases takeAttributes_of_clauses chart plain words' with
      ⟨found', last', some', there', same'⟩ | ⟨none', stops'⟩
    · rw [none, some'] at changes
      cases changes
    · rw [takeDressed]
      generalize ends : takeAttributes chart plain state = result at stops
      generalize ends' : takeAttributes chart plain state' = result' at stops'
      cases stops with
      | stopped kept keptPanels =>
        cases stops' with
        | stopped kept' keptPanels' =>
          rw [bind_of_error ends, bind_of_error ends']
          exact endAlike_error (kept'.trans (equations.trans kept.symm))
            (keptPanels'.trans (panels.trans keptPanels.symm))

/-- In front of the clauses both orders of the definitions stand side by side. -/
theorem beside_fork (reordered : Reordered clauses clauses') (some : before ++ line ≠ []) :
    (reordered.fork behind 1).Beside
      { rest := before ++ line ++ (clauses.flatMap Clause.words ++ behind) }
      { rest := before ++ line ++ (clauses'.flatMap Clause.words ++ behind) } :=
  ⟨⟨before ++ line, List.length_pos_of_ne_nil some, rfl, rfl⟩, rfl, rfl⟩

/-- Reading comes to the series in the other order, too. -/
theorem exists_comesTo (reordered : Reordered clauses clauses')
    (comes : ComesTo site
      { rest := before ++ line ++ (clauses.flatMap Clause.words ++ behind) }
      progress id chart state)
    (some : line ≠ []) (here : state.rest = line ++ (clauses.flatMap Clause.words ++ behind)) :
    ∃ state',
      ComesTo site { rest := before ++ line ++ (clauses'.flatMap Clause.words ++ behind) }
        progress id chart state' ∧
      (reordered.fork behind 0).Beside state state' := by
  have uniform : (reordered.fork behind 1).IsUniform := .inl Nat.one_ne_zero
  have inside : ¬ (reordered.fork behind 1).IsPast state := by
    refine reordered.not_isPast_fork ?_
    have length := List.length_pos_of_ne_nil some
    rw [here]
    simp only [List.length_append]
    omega
  obtain ⟨state', comes', ⟨⟨front, _, words, words'⟩, equations, panels⟩⟩ :=
    comes.beside uniform inside
      (reordered.beside_fork (List.append_ne_nil_of_right_ne_nil before some))
  exact ⟨state', comes', ⟨front, Nat.zero_le _, words, words'⟩, equations, panels⟩

/-- Both readings of the definitions end alike. -/
theorem endAlike_takeOutputs (reordered : Reordered clauses clauses')
    (isLine : IsLine site before line (clauses.flatMap Clause.words ++ behind)) :
    EndAlike
      (takeOutputs site
        { rest := before ++ line ++ (clauses.flatMap Clause.words ++ behind) })
      (takeOutputs site
        { rest := before ++ line ++ (clauses'.flatMap Clause.words ++ behind) }) := by
  have plain := fun chart => Fork.steady_takePlain (reordered.agrees_sightOf behind 0) site chart
  cases isLine with
  | @taken progress id chart state last series comes some here ends rest =>
    obtain ⟨state', comes', there⟩ := reordered.exists_comesTo comes some here
    have inside : ¬ (reordered.fork behind 0).IsPast last :=
      reordered.not_isPast_fork (by rw [rest, Nat.zero_add])
    obtain ⟨last', ends', after⟩ := (plain chart).exists_of_ok there ends inside
    have rest' : last'.rest = clauses'.flatMap Clause.words ++ behind := by
      obtain ⟨front, _, words, words'⟩ := after.rest
      obtain rfl : front = [] := List.append_left_eq_self.1 (words.symm.trans rest)
      exact words'
    rw [comes.takeOutputs_eq, comes'.takeOutputs_eq, takeRemaining_of_isAtAny comes.starts,
      takeRemaining_of_isAtAny comes'.starts, bind_of_ok ends, bind_of_ok ends']
    exact reordered.endAlike_takeDressed rest rest' after.equations after.panels series
  | @refused progress id chart state last stop comes some here ends within =>
    obtain ⟨state', comes', there⟩ := reordered.exists_comesTo comes some here
    rw [comes.takeOutputs_eq, comes'.takeOutputs_eq, takeRemaining_of_isAtAny comes.starts,
      takeRemaining_of_isAtAny comes'.starts, bind_of_error ends]
    have together := (plain chart).together state state' there
    rw [Fork.Together, ends] at together
    rcases together with past | both
    · exact absurd past (reordered.not_isPast_fork ((Nat.zero_add _).trans_le within))
    · generalize ends' : takePlain site chart state' = result at both
      cases both with
      | flaw after =>
        rw [bind_of_error ends']
        exact .flaw after.equations after.panels
      | fault => exact .fault
  | @missed last stop ends short =>
    have some : before ++ line ≠ [] := by
      intro none
      have shorter := (Fork.steady_takeOutputs Fork.isUniform_closed site).shrinks
        { rest := before ++ line ++ (clauses.flatMap Clause.words ++ behind) }
      rw [ends, none, List.nil_append] at shorter
      exact absurd shorter (Nat.not_le.2 short)
    have uniform : (reordered.fork behind 1).IsUniform := .inl Nat.one_ne_zero
    rcases (Fork.steady_takeOutputs uniform site).together _ _
        (reordered.beside_fork some) with past | both
    · rw [ends] at past
      exact absurd past (reordered.not_isPast_fork ((Nat.add_comm 1 _).trans_le short))
    · exact both.endAlike

end Reordered

/-- Attributes of a series may be written in any order in which those of one kind keep theirs:
if no fault stops the reading of either text, what is read is the same, or both are
refused. -/
theorem parse_reordered {site : Site} {text text' : String} {before line behind : List String}
    {clauses clauses' : List Clause}
    (written : words text = before ++ line ++ (clauses.flatMap Clause.words ++ behind))
    (written' : words text' = before ++ line ++ (clauses'.flatMap Clause.words ++ behind))
    (isLine : IsLine site before line (clauses.flatMap Clause.words ++ behind))
    (reordered : Reordered clauses clauses')
    (reads : ∀ fault, (parse site text).outcome ≠ .error fault)
    (reads' : ∀ fault, (parse site text').outcome ≠ .error fault) :
    (parse site text').outcome = (parse site text).outcome ∧
      (parse site text').equations = (parse site text).equations ∧
      (parse site text').panels = (parse site text).panels := by
  refine parse_of_endAlike ?_ reads reads'
  rw [written, written']
  exact reordered.endAlike_takeOutputs isLine

/-- The value that a reader ended with. -/
def value? {α : Type} : EStateM.Result Stop State α → Option α
  | .ok value _ => some value
  | .error _ _ => none

theorem eq_ok_of_value? {α : Type} {result : EStateM.Result Stop State α} {value : α}
    (ended : value? result = some value) : result = .ok value (finalState result) := by
  cases result with
  | ok value' last => rw [← Option.some.inj ended, finalState]
  | error stop last => cases ended

/-- An area in a colour that is named twice, the first time by a word that is a keyword. -/
def areaClauses : List Clause :=
  [.gives .graphType "As" (by decide) "area", .gives .colour "Colour" (by decide) "As",
    .gives .opacity "OPACITY" (by decide) "0.5", .gives .colour "colour" (by decide) "red"]

/-- The same clauses in another order. -/
def areaClauses' : List Clause :=
  [.gives .colour "Colour" (by decide) "As", .gives .graphType "As" (by decide) "area",
    .gives .colour "colour" (by decide) "red", .gives .opacity "OPACITY" (by decide) "0.5"]

theorem reordered_areaClauses : Reordered areaClauses areaClauses' where
  perm := (List.Perm.swap _ _ _).trans (.cons _ (.cons _ (.swap _ _ _)))
  ordered := by
    rintro (_ | part)
    · rfl
    · cases part <;> rfl

def areaText : String :=
  "Chart A Title T Plot Temperature As area Colour As OPACITY 0.5 colour red EndChart"

def areaText' : String :=
  "Chart A Title T Plot Temperature Colour As As area colour red OPACITY 0.5 EndChart"

/-- The chart of both texts. -/
def areaChart : Chart where
  id := "A"
  title := "T"
  axes := ⟨1⟩
  series := [{
    keyword := "Temperature", field := "temp", datafile := "tempdata.json", graphType := "area",
    axes := ⟨1⟩, axisId := "Temp", color := "red", unit := "°C",
    opacity := .finite false (0x3FE * twoTo 52) }]

theorem parse_areaText : (parse plainSite areaText).outcome =
    .ok (some [{ filename := Output.firstFilename, charts := [areaChart] }]) := by
  decide +kernel

/-- Reading of the first text comes to the series, which is taken. -/
theorem isLine_areaText : IsLine plainSite ["Chart", "A", "Title", "T"] ["Plot", "Temperature"]
    (areaClauses.flatMap Clause.words ++ ["EndChart"]) := by
  let start : State := { rest := ["Chart", "A", "Title", "T"] ++ ["Plot", "Temperature"] ++
    (areaClauses.flatMap Clause.words ++ ["EndChart"]) }
  let opened := finalState (takeBlock plainSite start)
  let headed := finalState (takeHead [] true opened)
  have block : takeBlock plainSite start = .ok () opened := eq_ok_of_value? (by decide)
  have head : takeHead [] true opened = .ok ("A", { id := "A", title := "T" }) headed :=
    eq_ok_of_value? (by decide)
  have comes : ComesTo plainSite start {} "A" { id := "A", title := "T" } headed :=
    .intro block (.refl _ _) (by decide) head (.refl _ _) (by decide)
  have ends : takePlain plainSite { id := "A", title := "T" } headed =
      .ok { keyword := "Temperature", field := "temp", datafile := "tempdata.json", axes := ⟨1⟩,
            axisId := "Temp", unit := "°C" }
        (finalState (takePlain plainSite { id := "A", title := "T" } headed)) :=
    eq_ok_of_value? (by decide)
  exact .taken comes (List.cons_ne_nil _ _) (by decide) ends (by decide)

/-- In the second text the chart is the same. -/
theorem parse_areaText_reordered :
    words areaText = ["Chart", "A", "Title", "T"] ++ ["Plot", "Temperature"] ++
        (areaClauses.flatMap Clause.words ++ ["EndChart"]) ∧
      words areaText' = ["Chart", "A", "Title", "T"] ++ ["Plot", "Temperature"] ++
        (areaClauses'.flatMap Clause.words ++ ["EndChart"]) ∧
      Reordered areaClauses areaClauses' ∧
      (parse plainSite areaText').outcome =
        .ok (some [{ filename := Output.firstFilename, charts := [areaChart] }]) := by
  have written : words areaText = ["Chart", "A", "Title", "T"] ++ ["Plot", "Temperature"] ++
      (areaClauses.flatMap Clause.words ++ ["EndChart"]) := by decide
  have written' : words areaText' = ["Chart", "A", "Title", "T"] ++ ["Plot", "Temperature"] ++
      (areaClauses'.flatMap Clause.words ++ ["EndChart"]) := by decide
  have reads : ∀ fault, (parse plainSite areaText).outcome ≠ .error fault := by
    rw [parse_areaText]
    exact fun _ same => by cases same
  have reads' : ∀ fault, (parse plainSite areaText').outcome ≠ .error fault := by
    have isOk : (parse plainSite areaText').outcome.isOk = true := by decide
    intro fault same
    rw [same] at isOk
    cases isOk
  have same := parse_reordered written written' isLine_areaText reordered_areaClauses reads reads'
  exact ⟨written, written', reordered_areaClauses, same.1.trans parse_areaText⟩

end Meteogram.Definition
