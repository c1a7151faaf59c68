import Meteogram.Proofs.Definition.ReadingCharts

/-!
# What readers take from any words

A reader of definitions, started at any words at all, ends with a value, refuses the
definitions for a flaw, or stops at a fault that is none of theirs. `Ends` says all
three at once: what holds of the value and of the state where it ends, and of which
kind the faults are. The rules follow the ways in which readers are put together; a
repetition keeps an invariant, and each of its steps takes a word.

What a reader takes is a row of items (`Passed`), the same items that definitions are
written as. The reader of a series can take anything that its parts allow, so of it
only the way is known that the words were passed (`Reached`).

There are few faults (`IsUnreadable`): a word in the place of a panel that is made of
digits and is no number, and a number without an end in the place of a whole number.
-/

set_option autoImplicit false

namespace Meteogram.Definition

open Text Number Reader

/-! ## Rules for readers -/

section

variable {α β : Type} {state : State} {Q : α → State → Prop} {R : β → State → Prop}
  {E : Fault → Prop}

/-- Started in this state, the reader ends with a value and in a state with the property
`Q`, or it refuses the definitions, or it stops at a fault with the property `E`. -/
def Ends (state : State) (reader : Reader α) (Q : α → State → Prop) (E : Fault → Prop) : Prop :=
  match reader state with
  | .ok value last => Q value last
  | .error (.flaw _) _ => True
  | .error (.fault fault) _ => E fault

namespace Ends

theorem pure {value : α} (holds : Q value state) : Ends state (Pure.pure value) Q E :=
  holds

theorem bind {reader : Reader α} (first : Ends state reader Q E) {next : α → Reader β}
    (then_ : ∀ value last, Q value last → Ends last (next value) R E) :
    Ends state (reader >>= next) R E := by
  have unfolded : (reader >>= next) state = EStateM.bind reader next state := rfl
  rw [Ends] at first
  rw [Ends, unfolded, EStateM.bind]
  cases found : reader state with
  | ok value last =>
    rw [found] at first
    exact then_ value last first
  | error stop last =>
    rw [found] at first
    cases stop <;> exact first

/-- A reader that looks at the state goes on from that state. -/
theorem get_bind {next : State → Reader β} (goes : Ends state (next state) R E) :
    Ends state (get >>= next) R E :=
  goes

theorem modify {change : State → State} {Q : Unit → State → Prop} (holds : Q () (change state)) :
    Ends state (modify change) Q E :=
  holds

theorem refuse (flaw : Flaw) : Ends state (Reader.refuse flaw : Reader α) Q E :=
  trivial

theorem refuse_bind (flaw : Flaw) {next : α → Reader β} :
    Ends state (Reader.refuse flaw >>= next) R E :=
  trivial

theorem fault {fault : Fault} (holds : E fault) :
    Ends state (throw (.fault fault) : Reader α) Q E :=
  holds

theorem ofExcept {outcome : Except Fault α} (found : ∀ value, outcome = .ok value → Q value state)
    (stopped : ∀ fault, outcome = .error fault → E fault) :
    Ends state (Reader.ofExcept outcome) Q E := by
  cases outcome with
  | error fault => exact stopped fault rfl
  | ok value => exact found value rfl

theorem ite {condition : Prop} [Decidable condition] {first second : Reader α}
    (yes : condition → Ends state first Q E) (no : ¬ condition → Ends state second Q E) :
    Ends state (if condition then first else second) Q E := by
  by_cases holds : condition
  · rw [if_pos holds]
    exact yes holds
  · rw [if_neg holds]
    exact no holds

/-- Behind a check that refuses the definitions, the condition does not hold. -/
theorem guard {condition : Prop} [Decidable condition] {flaw : Flaw} {next : α → Reader β}
    {go : Reader β} (no : ¬ condition → Ends state go R E) :
    Ends state (if condition then Reader.refuse flaw >>= next else go) R E :=
  ite (fun _ => refuse_bind flaw) no

theorem weaken {reader : Reader α} (ends : Ends state reader Q E) {Q' : α → State → Prop}
    (weaker : ∀ value last, Q value last → Q' value last) : Ends state reader Q' E := by
  rw [Ends] at ends ⊢
  cases found : reader state with
  | ok value last =>
    rw [found] at ends
    exact weaker value last ends
  | error stop last =>
    rw [found] at ends
    cases stop <;> exact ends

/-- What the reader ends with is what it gives in that state. -/
theorem with_eq {reader : Reader α} (ends : Ends state reader Q E) :
    Ends state reader (fun value last => reader state = .ok value last ∧ Q value last) E := by
  rw [Ends] at ends ⊢
  cases found : reader state with
  | ok value last =>
    rw [found] at ends
    exact ⟨rfl, ends⟩
  | error stop last =>
    rw [found] at ends
    cases stop <;> exact ends

end Ends

/-- A repetition keeps what each step keeps, as long as the condition holds. It does not
run out of steps, because each one takes a word. -/
theorem ends_repeatUpTo {condition : State → Bool} {step : β → Reader β}
    (each : ∀ value state, R value state → condition state = true →
      Ends state (step value)
        (fun value last => R value last ∧ last.rest.length < state.rest.length) E)
    (fuel : Nat) {value : β} (holds : R value state) (enough : state.rest.length < fuel) :
    Ends state (repeatUpTo condition step fuel value)
      (fun value last => R value last ∧ condition last = false) E := by
  induction fuel generalizing state value with
  | zero => exact absurd enough (Nat.not_lt_zero _)
  | succ fuel ih =>
    rw [repeatUpTo]
    refine Ends.get_bind (Ends.ite (fun goes => ?_) fun stops => ?_)
    · refine (each value state holds goes).bind fun between last taken => ?_
      exact ih taken.1 (by omega)
    · exact Ends.pure ⟨holds, Bool.not_eq_true _ ▸ stops⟩

theorem ends_repeatWhile {condition : State → Bool} {step : β → Reader β}
    (each : ∀ value state, R value state → condition state = true →
      Ends state (step value)
        (fun value last => R value last ∧ last.rest.length < state.rest.length) E)
    {value : β} (holds : R value state) :
    Ends state (repeatWhile condition step value)
      (fun value last => R value last ∧ condition last = false) E :=
  Ends.get_bind (ends_repeatUpTo each (state.rest.length + 1) holds (Nat.lt_succ_self _))

end

/-! ## What was passed -/

/-- Between the two states the reader took words that spell the items, and connected
charts to panels, and nothing else. -/
structure Passed (start : State) (items : List Item) (links : List (Int × String))
    (state : State) : Prop where
  words : ∃ taken, Spells items taken ∧ start.rest = taken ++ state.rest
  panels : ∀ connections, start.panels = dashboard connections →
    state.panels = dashboard (connections ++ links)

/-- Between the two states the reader took some words and kept the panels. -/
def Reached (start state : State) : Prop :=
  ∃ words : List String, Passed start (words.map Item.word) [] state

section

variable {start between state : State} {items items' : List Item}
  {links links' : List (Int × String)}

/-- Words spell themselves. -/
theorem spells_words (words : List String) : Spells (words.map Item.word) words := by
  rw [Spells, List.forall₂_map_left_iff]
  exact List.forall₂_same.2 fun _ _ => rfl

namespace Passed

/-- A reader that takes no word and leaves the panels alone passes nothing. -/
theorem nothing (rest : state.rest = start.rest) (panels : state.panels = start.panels) :
    Passed start [] [] state where
  words := ⟨[], List.Forall₂.nil, rest.symm⟩
  panels connections same := by rw [panels, same, List.append_nil]

theorem refl (state : State) : Passed state [] [] state :=
  nothing rfl rfl

theorem trans (first : Passed start items links between)
    (second : Passed between items' links' state) :
    Passed start (items ++ items') (links ++ links') state where
  words := by
    obtain ⟨taken, spelled, split⟩ := first.words
    obtain ⟨taken', spelled', split'⟩ := second.words
    exact ⟨taken ++ taken', List.rel_append spelled spelled',
      by rw [split, split', List.append_assoc]⟩
  panels connections same := by
    rw [second.panels _ (first.panels _ same), List.append_assoc]

/-- What follows a reader that connects nothing. -/
theorem then_ (first : Passed start items [] between)
    (second : Passed between items' links state) : Passed start (items ++ items') links state :=
  first.trans second

theorem suffix (passed : Passed start items links state) : state.rest <:+ start.rest := by
  obtain ⟨taken, _, split⟩ := passed.words
  exact ⟨taken, split.symm⟩

theorem length_rest (passed : Passed start items links state) :
    start.rest.length = items.length + state.rest.length := by
  obtain ⟨taken, spelled, split⟩ := passed.words
  rw [split, List.length_append, ← spelled.length_eq]

theorem shorter (passed : Passed start items links state) (some : items ≠ []) :
    state.rest.length < start.rest.length := by
  have length := passed.length_rest
  have positive := List.length_pos_iff.2 some
  omega

/-- The word that was passed stood in front. -/
theorem rest_of_word {word : String} (passed : Passed start [.word word] links state) :
    start.rest = word :: state.rest := by
  obtain ⟨taken, spelled, split⟩ := passed.words
  cases spelled with
  | cons here none =>
    cases none
    rw [split, show _ = word from here]
    rfl

/-- The words that were passed stood in front. -/
theorem rest_of_words {words : List String} (passed : Passed start (words.map Item.word) links state) :
    start.rest = words ++ state.rest := by
  obtain ⟨taken, spelled, split⟩ := passed.words
  rw [Spells, List.forall₂_map_left_iff] at spelled
  have same : List.Forall₂ (· = ·) taken words := spelled.flip
  rw [List.forall₂_eq_eq_eq] at same
  rw [split, same]

/-- A spelling of the keyword that was passed stood in front. -/
theorem rest_of_keyword {name : String} (passed : Passed start [.keyword name] links state) :
    ∃ word, sameWord word name = true ∧ start.rest = word :: state.rest := by
  obtain ⟨taken, spelled, split⟩ := passed.words
  cases spelled with
  | cons here none =>
    cases none
    exact ⟨_, here, split⟩

/-- Whatever was passed, it was some words. -/
theorem reached (passed : Passed start items [] state) : Reached start state := by
  obtain ⟨taken, _, split⟩ := passed.words
  exact ⟨taken, ⟨taken, spells_words taken, split⟩, passed.panels⟩

end Passed

namespace Reached

theorem refl (state : State) : Reached state state :=
  (Passed.refl state).reached

theorem trans (first : Reached start between) (second : Reached between state) :
    Reached start state := by
  obtain ⟨_, first⟩ := first
  obtain ⟨_, second⟩ := second
  exact (first.then_ second).reached

theorem suffix (reached : Reached start state) : state.rest <:+ start.rest := by
  obtain ⟨_, passed⟩ := reached
  exact passed.suffix

end Reached

/-- The next word is there if a keyword is there. -/
theorem exists_rest_of_isAt {name : String} (named : name ≠ "") (here : state.isAt name = true) :
    ∃ word rest, state.rest = word :: rest ∧ sameWord word name = true := by
  rw [State.isAt, State.next] at here
  cases rest : state.rest with
  | nil =>
    rw [rest] at here
    have none : lower name = "" := (sameWord_iff.1 here).symm
    have empty := (lowerFrom_eq_nil_iff _ _).1 (String.ofList_eq_empty_iff.1 none)
    exact absurd (String.toList_eq_nil_iff.1 empty) named
  | cons word more =>
    rw [rest] at here
    exact ⟨word, more, rfl, here⟩

/-- The next word is passed by skipping it. -/
theorem passed_skip {word : String} {rest : List String} (split : state.rest = word :: rest)
    {item : Item} (spelled : item.IsSpelled word) : Passed state [item] [] state.skip := by
  obtain ⟨last, words, equations, panels, log⟩ := state
  subst split
  exact ⟨⟨[word], .cons spelled .nil, rfl⟩, fun connections same => by
    rw [List.append_nil]
    exact same⟩

theorem passed_skip_keyword {name : String} (named : name ≠ "") (here : state.isAt name = true) :
    Passed state [.keyword name] [] state.skip := by
  obtain ⟨word, rest, split, same⟩ := exists_rest_of_isAt named here
  exact passed_skip split same

end

/-! ## Faults -/

/-- The word is no whole number, and as a real number it is infinite. -/
def IsEndless (word : String) : Prop :=
  readInt? word = none ∧ ∃ negative, Binary64.read? word = some (.infinite negative)

/-- The words have a number in them that stops the reading with this fault. -/
inductive IsUnreadable (words : List String) : Fault → Prop where
  /-- An endless number where a whole number is read. -/
  | number {keyword word name : String} {rest : List String}
      (listed : name ∈ ["Zoom", "Period", "zIndex", "LineWidth"])
      (same : sameWord keyword name = true) (endless : IsEndless word)
      (stands : keyword :: word :: rest <:+ words) : IsUnreadable words .outOfRange
  /-- A panel that is made of digits, but is no whole number. -/
  | panel {keyword word : String} {before rest : List String}
      (same : sameWord keyword "ConnectsTo" = true)
      (panels : ∀ panel ∈ before, isDigits panel = true) (digits : isDigits word = true)
      (unread : readInt? word = none) (stands : keyword :: (before ++ word :: rest) <:+ words) :
      IsUnreadable words .invalidValue

/-- The number of values that statistics of the site average cannot be read. -/
def IsPeriodFault (site : Site) (fault : Fault) : Prop :=
  site.settings.site.get "Compiler" "SmaPeriod" (.whole standardPeriod) = .error fault ∨
    ∃ value, site.settings.site.get "Compiler" "SmaPeriod" (.whole standardPeriod) = .ok value ∧
      value.toWhole = .error fault

/-- What can stop the reading of these words. -/
def StopsReading (site : Site) (words : List String) (fault : Fault) : Prop :=
  IsUnreadable words fault ∨ IsPeriodFault site fault

/-- A word that is no whole number, and not merely of another form, is endless. -/
theorem isEndless_of_wholeNumber {word : String} {fault : Fault}
    (stopped : wholeNumber word = .error fault) (other : fault ≠ .invalidValue) :
    fault = .outOfRange ∧ IsEndless word := by
  rw [wholeNumber, Ini.wholeOf] at stopped
  by_cases absent : Ini.isAbsent word = true
  · rw [if_pos absent] at stopped
    exact absurd (Except.error.inj stopped).symm other
  rw [if_neg absent] at stopped
  cases read : readInt? word with
  | some number => rw [read] at stopped; cases stopped
  | none =>
    rw [read] at stopped
    cases real : Binary64.read? word with
    | none =>
      rw [real] at stopped
      exact absurd (Except.error.inj stopped).symm other
    | some number =>
      rw [real] at stopped
      cases number with
      | nan => exact absurd (Except.error.inj stopped).symm other
      | infinite negative => exact ⟨(Except.error.inj stopped).symm, read, negative, real⟩
      | finite negative bits => cases stopped

/-! ## Words -/

section

variable {state : State} {E : Fault → Prop}

theorem ends_take : Ends state take (fun word last => Passed state [.word word] [] last) E := by
  refine Ends.get_bind ?_
  cases split : state.rest with
  | nil => exact Ends.refuse _
  | cons word rest => exact show Passed state [.word word] [] state.skip from passed_skip split rfl

/-- A keyword that is there is passed over. -/
theorem ends_skip {name : String} (named : name ≠ "") (here : state.isAt name = true) :
    Ends state skip (fun _ last => Passed state [.keyword name] [] last) E :=
  passed_skip_keyword named here

theorem reached_skip (state : State) : Reached state state.skip := by
  cases split : state.rest with
  | nil =>
    rw [State.skip, split]
    exact Reached.refl state
  | cons word rest =>
    have spelled : (Item.word word).IsSpelled word := rfl
    exact (passed_skip split spelled).reached

/-- A keyword is taken if it is there; what follows depends on it. -/
theorem ends_takeKeyword_bind {β : Type} {name : String} {next : Bool → Reader β}
    {R : β → State → Prop} (named : name ≠ "")
    (yes : ∀ last, Passed state [.keyword name] [] last → Ends last (next true) R E)
    (no : state.isAt name = false → Ends state (next false) R E) :
    Ends state (takeKeyword name >>= next) R E := by
  have cases_ : Ends state (takeKeyword name) (fun found last =>
      found = true ∧ Passed state [.keyword name] [] last ∨
        found = false ∧ last = state ∧ state.isAt name = false) E := by
    refine Ends.get_bind (Ends.ite (fun here => ?_) fun absent => ?_)
    · exact Or.inl ⟨rfl, passed_skip_keyword named here⟩
    · exact Or.inr ⟨rfl, rfl, Bool.not_eq_true _ ▸ absent⟩
  refine cases_.bind fun found last either => ?_
  rcases either with ⟨rfl, passed⟩ | ⟨rfl, rfl, absent⟩
  · exact yes last passed
  · exact no absent

/-- A keyword decides between two readers. -/
theorem ends_ifKeyword {β : Type} {name : String} {first second : Reader β} {R : β → State → Prop}
    (named : name ≠ "")
    (yes : ∀ last, Passed state [.keyword name] [] last → Ends last first R E)
    (no : state.isAt name = false → Ends state second R E) :
    Ends state (takeKeyword name >>= fun found => if found = true then first else second) R E := by
  refine ends_takeKeyword_bind named (fun last passed => ?_) fun absent => ?_
  · exact Ends.ite (fun _ => yes last passed) fun missing => absurd rfl missing
  · exact Ends.ite (fun found => absurd found Bool.false_ne_true) fun _ => no absent

/-- A keyword that has to be there is taken. -/
theorem ends_needKeyword {β : Type} {name : String} {stop go : Reader β} {R : β → State → Prop}
    (named : name ≠ "") (stops : Ends state stop R E)
    (goes : ∀ last, Passed state [.keyword name] [] last → Ends last go R E) :
    Ends state (takeKeyword name >>= fun found => if (!found) = true then stop else go) R E := by
  refine ends_takeKeyword_bind named (fun last passed => ?_) fun _ => ?_
  · exact Ends.ite (fun missing => absurd missing Bool.false_ne_true) fun _ => goes last passed
  · exact Ends.ite (fun _ => stops) fun found => absurd rfl found

/-- The words in front of the next one of which the condition holds are taken. -/
theorem ends_takeUntil (condition : String → Bool) :
    Ends state (takeUntil condition) (fun words last =>
      Passed state (words.map Item.word) [] last ∧ (∀ word ∈ words, condition word = false) ∧
        (last.rest ≠ [] → condition last.next = true)) E := by
  refine (ends_repeatWhile (R := fun words last =>
    Passed state (words.map Item.word) [] last ∧ ∀ word ∈ words, condition word = false)
    ?_ ⟨Passed.refl state, fun _ member => absurd member List.not_mem_nil⟩).weaken ?_
  · rintro words between ⟨passed, free⟩ goes
    refine ends_take.bind fun word last taken => Ends.pure ⟨⟨?_, ?_⟩, ?_⟩
    · rw [List.map_append]
      exact passed.then_ taken
    · refine List.forall_mem_append.2 ⟨free, List.forall_mem_singleton.2 ?_⟩
      rw [Bool.and_eq_true, Bool.not_eq_true', Bool.not_eq_true', State.next,
        taken.rest_of_word] at goes
      exact goes.2
    · exact taken.shorter (List.cons_ne_nil _ _)
  · rintro words last ⟨⟨passed, free⟩, stops⟩
    refine ⟨passed, free, fun more => ?_⟩
    rw [List.isEmpty_eq_false_iff.2 more] at stops
    simpa using stops

theorem ends_takeWhole? {word : String} (refused : IsEndless word → E .outOfRange) :
    Ends state (takeWhole? word) (fun _ last => last = state) E := by
  rw [takeWhole?]
  split
  · exact Ends.pure rfl
  · exact Ends.pure rfl
  · next fault other stopped =>
    obtain ⟨rfl, endless⟩ := isEndless_of_wholeNumber stopped other
    exact Ends.fault (refused endless)

theorem ends_warn (text : String) :
    Ends state (Reader.warn text) (fun _ last => Passed state [] [] last) E :=
  @Passed.nothing state _ rfl rfl

theorem ends_complain (text : String) :
    Ends state (Reader.complain text) (fun _ last => Passed state [] [] last) E :=
  @Passed.nothing state _ rfl rfl

end

/-! ## Series -/

/-- The reader only takes some words. -/
abbrev Walks {α : Type} (state : State) (reader : Reader α) (E : Fault → Prop) : Prop :=
  Ends state reader (fun _ last => Reached state last) E

section

variable {α β : Type} {state : State} {E : Fault → Prop}

theorem Walks.bind {reader : Reader α} (first : Walks state reader E) {next : α → Reader β}
    (then_ : ∀ value last, Reached state last → Walks last (next value) E) :
    Walks state (reader >>= next) E :=
  Ends.bind first fun value last reached =>
    (then_ value last reached).weaken fun _ _ further => reached.trans further

theorem walks_pure (value : α) : Walks state (pure value) E :=
  Ends.pure (Reached.refl state)

theorem walks_skip : Walks state skip E :=
  reached_skip state

theorem walks_take : Walks state take E :=
  ends_take.weaken fun _ _ passed => passed.reached

theorem walks_warn (text : String) : Walks state (Reader.warn text) E :=
  (ends_warn text).weaken fun _ _ passed => passed.reached

theorem walks_takeRange : Walks state takeRange E := by
  refine Ends.get_bind ?_
  cases rangeOf? state.next with
  | none => exact walks_pure _
  | some range => exact walks_skip.bind fun _ _ _ => walks_pure _

/-- Behind a word that was passed, fewer words are left wherever the reader walks. -/
theorem Walks.behind {reader : Reader α} {opened : State} (walks : Walks opened reader E) {item : Item}
    (passed : Passed state [item] [] opened) :
    Ends opened reader
      (fun _ last => Reached state last ∧ last.rest.length < state.rest.length) E := by
  refine walks.weaken fun _ last further => ⟨passed.reached.trans further, ?_⟩
  have length := further.suffix.length_le
  have shorter := passed.shorter (List.cons_ne_nil _ _)
  omega

end

/-- An equation in square brackets, whatever its words are. -/
def bracketItems (expression : List String) : List Item :=
  .keyword "Eval" :: .word "[" :: (expression.map Item.word ++ [.word "]"])

section

variable {state : State} {site : Site} {all : List String} {E : Fault → Prop}

/-- If there is an equation in the end, it stood between square brackets. -/
theorem ends_takeEquation (site : Site) (name : String) (range : Option DataRange) :
    Ends state (takeEquation site name range) (fun found last => found.isSome = true →
      ∃ expression, "]" ∉ expression ∧ Passed state (bracketItems expression) [] last) E := by
  have nothing : ∀ (last : State) (text : String), Ends last
      (do complain text; return none : Reader (Option String)) (fun found final =>
        found.isSome = true → ∃ expression, "]" ∉ expression ∧
          Passed state (bracketItems expression) [] final) E :=
    fun last text => (ends_complain text).bind fun _ _ _ => Ends.pure fun none => by cases none
  rw [takeEquation]
  refine ends_needKeyword (by decide) (nothing state _) fun opened eval => ?_
  refine Ends.ite (fun _ => nothing opened _) fun _ => ?_
  refine ends_take.bind fun mark inside bracket => ?_
  refine Ends.ite (fun _ => nothing inside _) fun isBracket => ?_
  obtain rfl : mark = "[" := by simpa using isBracket
  refine (ends_takeUntil _).bind fun expression between taken => ?_
  obtain ⟨words, free, closes⟩ := taken
  refine ends_take.bind fun closing last close => Ends.get_bind ?_
  obtain rfl : closing = "]" := by
    have split := close.rest_of_word
    have next := closes (by rw [split]; exact List.cons_ne_nil _ _)
    rw [State.next, split] at next
    exact beq_iff_eq.1 next
  have outside : "]" ∉ expression := fun member => by
    have ended := free "]" member
    exact absurd ended (by decide)
  have passed : Passed state (bracketItems expression) [] last :=
    eval.then_ (bracket.then_ (words.then_ close))
  dsimp only
  split
  · exact Ends.pure fun _ => ⟨expression, outside, passed⟩
  · exact nothing last _

theorem walks_takePlot (site : Site) (chart : Chart) : Walks state (takePlot site chart) E := by
  rw [takePlot]
  refine walks_takeRange.bind fun range _ _ => walks_take.bind fun word last _ => ?_
  refine Ends.get_bind (Ends.ite (fun _ => ?_) fun _ => ?_)
  · refine (ends_takeEquation site _ _).bind fun found between taken => ?_
    cases found with
    | none => exact Ends.refuse _
    | some equation =>
      obtain ⟨_, _, passed⟩ := taken rfl
      exact Ends.pure passed.reached
  · exact Ends.ite (fun _ => Ends.refuse _) fun _ => walks_pure _

theorem walks_statisticBase (site : Site) (chart : Chart) (range : DataRange) (word : String) :
    Walks state (statisticBase site chart range word) E := by
  rw [statisticBase]
  split
  · exact walks_pure _
  · split
    · exact Ends.refuse _
    · exact walks_pure _

/-- The number of values is read behind its keyword, or from the settings. -/
theorem walks_takePeriod (chart : Chart) (within : state.rest <:+ all) :
    Walks state (takePeriod site chart) (StopsReading site all) := by
  rw [takePeriod]
  refine ends_takeKeyword_bind (by decide) (fun opened period => ?_) fun _ => ?_
  · obtain ⟨keyword, same, split⟩ := period.rest_of_keyword
    refine ends_take.bind fun word last taken => ?_
    rw [split, taken.rest_of_word] at within
    refine Ends.bind (ends_takeWhole? fun endless => .inl (.number (by simp) same endless within)) ?_
    rintro (_ | number) final rfl
    · exact Ends.refuse _
    · exact Ends.pure (period.then_ taken).reached
  · refine Ends.bind (Q := fun value last => last = state ∧
      site.settings.site.get "Compiler" "SmaPeriod" (.whole standardPeriod) = .ok value)
      (Ends.ofExcept (fun _ found => ⟨rfl, found⟩) fun _ stopped => .inr (.inl stopped)) ?_
    rintro value last ⟨rfl, found⟩
    refine Ends.bind (Q := fun _ final => final = last)
      (Ends.ofExcept (fun _ _ => rfl) fun _ stopped => .inr (.inr ⟨value, found, stopped⟩)) ?_
    rintro (_ | period) final rfl
    · exact walks_pure _
    · exact walks_pure _

theorem walks_takeStatistic (chart : Chart) (within : state.rest <:+ all) :
    Walks state (takeStatistic site chart) (StopsReading site all) := by
  rw [takeStatistic]
  refine walks_takeRange.bind fun range first here => walks_take.bind fun word second there => ?_
  refine (walks_statisticBase site chart _ word).bind fun base third everywhere => ?_
  refine Ends.get_bind (Ends.ite (fun _ => ?_) fun _ => Ends.refuse _)
  refine walks_skip.bind fun _ last skipped => ?_
  have reached := (here.trans there).trans (everywhere.trans skipped)
  exact (walks_takePeriod chart (reached.suffix.trans within)).bind fun _ _ _ => walks_pure _

theorem walks_withGraphType (chart : Chart) (series : Series) (word : String) :
    Walks state (withGraphType chart series word) E := by
  rw [withGraphType]
  refine Ends.ite (fun _ => (walks_warn _).bind fun _ _ _ => walks_pure _) fun _ => ?_
  refine Ends.ite (fun _ => Ends.refuse _) fun _ => ?_
  exact Ends.ite (fun _ => Ends.refuse _) fun _ => walks_pure _

theorem walks_withOpacity (chart : Chart) (series : Series) (word : String) :
    Walks state (withOpacity chart series word) E := by
  rw [withOpacity]
  split
  · exact Ends.refuse _
  · exact walks_pure _

theorem walks_withAxis (chart : Chart) (series : Series) (word : String) :
    Walks state (withAxis chart series word) E := by
  rw [withAxis]
  refine Ends.ite (fun _ => (walks_warn _).bind fun _ _ _ => walks_pure _) fun _ => ?_
  split
  · exact Ends.refuse _
  · exact walks_pure _

/-- The number of an attribute is read behind the keyword `name`. -/
theorem walks_takeNumber {keyword name : String} (chart : Chart) (series : Series)
    (setting : String) (listed : name ∈ ["Zoom", "Period", "zIndex", "LineWidth"])
    (same : sameWord keyword name = true) (within : keyword :: state.rest <:+ all) :
    Walks state (takeNumber chart series setting) (StopsReading site all) := by
  rw [takeNumber]
  refine ends_take.bind fun word last taken => ?_
  rw [taken.rest_of_word] at within
  refine Ends.bind (ends_takeWhole? fun endless => .inl (.number listed same endless within)) ?_
  rintro (_ | number) final rfl
  · exact Ends.refuse _
  · exact Ends.pure taken.reached

theorem walks_takeAttribute (chart : Chart) (series : Series) (within : state.rest <:+ all) :
    Ends state (takeAttribute chart series) (fun _ last =>
      Reached state last ∧ last.rest.length < state.rest.length) (StopsReading site all) := by
  rw [takeAttribute]
  refine ends_take.bind fun word opened taken => ?_
  rw [taken.rest_of_word] at within
  suffices walks : Walks opened _ (StopsReading site all) from walks.behind taken
  refine Ends.ite (fun _ => walks_pure _) fun _ => ?_
  refine Ends.ite (fun _ => ?_) fun _ => ?_
  · exact walks_take.bind fun _ _ _ => walks_withGraphType _ _ _
  refine Ends.ite (fun _ => ?_) fun _ => ?_
  · exact walks_take.bind fun _ _ _ => walks_withOpacity _ _ _
  refine Ends.ite (fun _ => ?_) fun _ => ?_
  · exact walks_take.bind fun _ _ _ => walks_pure _
  refine Ends.ite (fun same => ?_) fun _ => ?_
  · exact (walks_takeNumber chart series _ (by simp) same within).bind fun _ _ _ => walks_pure _
  refine Ends.ite (fun same => ?_) fun _ => ?_
  · exact (walks_takeNumber chart series _ (by simp) same within).bind fun _ _ _ => walks_pure _
  · exact walks_take.bind fun _ _ _ => walks_withAxis _ _ _

theorem walks_takeAttributes (chart : Chart) (series : Series) (within : state.rest <:+ all) :
    Walks state (takeAttributes chart series) (StopsReading site all) := by
  refine (ends_repeatWhile (R := fun _ last => Reached state last) ?_ (Reached.refl state)).weaken
    fun _ _ both => both.1
  intro between last reached _
  refine (walks_takeAttribute chart between (reached.suffix.trans within)).weaken ?_
  exact fun _ _ further => ⟨reached.trans further.1, further.2⟩

theorem walks_withStandardAxis (chart : Chart) (series : Series) :
    Walks state (withStandardAxis chart series) E := by
  rw [withStandardAxis]
  exact Ends.ite (fun _ => (walks_warn _).bind fun _ _ _ => walks_pure _) fun _ => walks_pure _

/-- A series that starts here is taken. It changes neither the name of the chart nor its
panels. -/
theorem ends_takeSeries (chart : Chart) (within : state.rest <:+ all)
    (starts : state.isAtAny ["Plot", "Stats"] = true) :
    Ends state (takeSeries site chart) (fun full last =>
      Reached state last ∧ last.rest.length < state.rest.length ∧ full.id = chart.id ∧
        full.panels = chart.panels) (StopsReading site all) := by
  have dress : ∀ plain last, Reached state last → last.rest.length < state.rest.length →
      Ends last (takeAttributes chart plain >>= fun dressed =>
        withStandardAxis chart dressed >>= fun series => Pure.pure { chart with
          range := series.range
          hasScatter := chart.hasScatter || series.graphType = "scatter"
          axes := chart.axes ∪ series.axes
          series := chart.series ++ [series] }) (fun full last =>
        Reached state last ∧ last.rest.length < state.rest.length ∧ full.id = chart.id ∧
          full.panels = chart.panels) (StopsReading site all) := by
    intro plain last reached shorter
    refine Ends.bind (walks_takeAttributes chart plain (reached.suffix.trans within)) ?_
    refine fun dressed second here => Ends.bind (walks_withStandardAxis chart dressed) ?_
    refine fun series final there => Ends.pure ⟨reached.trans (here.trans there), ?_, rfl, rfl⟩
    have length := (here.trans there).suffix.length_le
    omega
  rw [takeSeries]
  refine ends_takeKeyword_bind (by decide) (fun opened stats => ?_) fun noStats => ?_
  · refine Ends.bind ((walks_takeStatistic chart (stats.suffix.trans within)).behind stats) ?_
    exact fun plain last both => dress plain last both.1 both.2
  · have plot : state.isAt "Plot" = true := by
      simpa [State.isAtAny, noStats] using starts
    refine (ends_skip (by decide) plot).bind fun _ opened skipped => ?_
    refine Ends.bind ((walks_takePlot site chart).behind skipped) ?_
    exact fun plain last both => dress plain last both.1 both.2

end

end Meteogram.Definition
