import Meteogram.Definition.Parse
import Meteogram.Proofs.Text.LowerCase

/-!
# Reading what is written

Definitions are written as a row of items: keywords, which may be in any letter
case, and words that stand for themselves. A reader reads some items if, at any words
that spell them, it ends with a known value right behind those words (`Reads`). This
is a statement about every run of the reader, and it says that the reader does end:
no flaw and no fault stops it, and it logs nothing worse than warnings.

The rules follow the ways in which readers are put together. A repetition reads the
items of a list one after the other (`reads_repeatEach`), with an invariant that says
what has come of the elements that were read already.
-/

set_option autoImplicit false

namespace Meteogram.Definition

open Text Reader

/-! ## Items -/

/-- A piece of written definitions. -/
inductive Item where
  /-- A keyword, in any letter case. -/
  | keyword (name : String)
  /-- A word that is written exactly like this. -/
  | word (text : String)
  deriving DecidableEq, Repr

/-- The usual way to write an item. -/
def Item.text : Item → String
  | .keyword name => name
  | .word text => text

/-- The word is a way to write the item. -/
def Item.IsSpelled : Item → String → Prop
  | .keyword name, written => sameWord written name = true
  | .word text, written => written = text

/-- The words are a way to write the items. -/
def Spells (items : List Item) (words : List String) : Prop :=
  List.Forall₂ Item.IsSpelled items words

/-- The first word of the items as it is usually written; there is an empty one at
the end. -/
def headText (items : List Item) : String :=
  (items.head?.map Item.text).getD ""

theorem Item.isSpelled_text (item : Item) : item.IsSpelled item.text := by
  cases item with
  | keyword name => exact sameWord_refl name
  | word text => rfl

/-- What is usually written is a way to write the items. -/
theorem spells_texts (items : List Item) : Spells items (items.map Item.text) := by
  rw [Spells, List.forall₂_map_right_iff]
  exact List.forall₂_same.2 fun item _ => item.isSpelled_text

/-- All ways to write an item agree with the same keywords. -/
theorem Item.IsSpelled.sameWord {item : Item} {word : String} (spelled : item.IsSpelled word)
    (keyword : String) : sameWord word keyword = sameWord item.text keyword := by
  cases item with
  | keyword name => exact sameWord_congr_left spelled keyword
  | word text => rw [show word = text from spelled]; rfl

/-- The items begin with one of these keywords. -/
def OpensWith (keywords : List String) (items : List Item) : Prop :=
  ∃ name ∈ keywords, ∃ rest, items = .keyword name :: rest

section

variable {keywords : List String} {items : List Item}

theorem OpensWith.isFree (opens : OpensWith keywords items) {word : String}
    (free : keywords.all (fun name => !sameWord name word) = true) :
    sameWord (headText items) word = false := by
  obtain ⟨name, member, rest, rfl⟩ := opens
  have apart := List.all_eq_true.1 free name member
  rwa [Bool.not_eq_true'] at apart

theorem OpensWith.weaken (opens : OpensWith keywords items) {more : List String}
    (subset : keywords ⊆ more) : OpensWith more items := by
  obtain ⟨name, member, rest, same⟩ := opens
  exact ⟨name, subset member, rest, same⟩

/-- What begins with a keyword whatever follows is not empty. -/
theorem ne_nil_of_opensWith (opens : ∀ more, OpensWith keywords (items ++ more)) : items ≠ [] := by
  obtain ⟨name, _, rest, same⟩ := opens []
  rw [List.append_nil] at same
  rw [same]
  exact List.cons_ne_nil _ _

/-- If everything that may follow begins with one of the keywords, and so does each
element of a list, then so does the list with what follows it. -/
theorem opensWith_flatMap {α : Type} {write : α → List Item}
    (each : ∀ element more, OpensWith keywords (write element ++ more)) (list : List α)
    (follows : OpensWith keywords items) : OpensWith keywords (list.flatMap write ++ items) := by
  cases list with
  | nil => exact follows
  | cons element list =>
    rw [List.flatMap_cons, List.append_assoc]
    exact each element _

end

/-! ## Places -/

/-- What readers keep besides the words. -/
structure Memory where
  /-- The equations of the block in front of the charts. -/
  equations : Equation.Definitions := []
  /-- The chart that each panel of the dashboard opens. -/
  panels : List String := noPanels

/-- The words that are left spell the items, and nothing worse than a warning was
logged. -/
structure At (items : List Item) (memory : Memory) (state : State) : Prop where
  words : Spells items state.rest
  equations : state.equations = memory.equations
  panels : state.panels = memory.panels
  quiet : ∀ message ∈ state.log, message.level = .warning

section

variable {items : List Item} {memory : Memory} {state : State}

/-- The next word is a way to write the next item. -/
theorem At.next {item : Item} (place : At (item :: items) memory state) :
    item.IsSpelled state.next := by
  have words := place.words
  rw [State.next]
  cases rest : state.rest with
  | nil => rw [rest] at words; cases words
  | cons word rest =>
    rw [‹state.rest = _›] at words
    cases words with
    | cons spelled _ => exact spelled

theorem At.length (place : At items memory state) : state.rest.length = items.length :=
  place.words.length_eq.symm

theorem At.isEmpty (place : At items memory state) : state.rest.isEmpty = items.isEmpty := by
  have length := place.length
  rw [Bool.eq_iff_iff, List.isEmpty_iff_length_eq_zero, List.isEmpty_iff_length_eq_zero, length]

/-- Whether the next word is a keyword depends on the next item only. -/
theorem At.isAt (place : At items memory state) (keyword : String) :
    state.isAt keyword = sameWord (headText items) keyword := by
  rw [State.isAt]
  cases items with
  | nil =>
    have none : state.rest = [] := List.length_eq_zero_iff.1 place.length
    rw [State.next, none]
    rfl
  | cons item items => exact place.next.sameWord keyword

theorem At.isAtAny (place : At items memory state) (keywords : List String) :
    state.isAtAny keywords = keywords.any (sameWord (headText items)) := by
  rw [State.isAtAny]
  congr 1
  funext keyword
  exact place.isAt keyword

theorem At.isAtAny_of_opens {keywords among : List String} (place : At items memory state)
    (opens : OpensWith keywords items) (subset : keywords ⊆ among) :
    state.isAtAny among = true := by
  obtain ⟨name, member, rest, rfl⟩ := opens
  rw [place.isAtAny]
  exact List.any_eq_true.2 ⟨name, subset member, sameWord_refl name⟩

theorem At.not_isAtAny_of_opens {keywords among : List String} (place : At items memory state)
    (opens : OpensWith keywords items)
    (apart : among.all (fun word => keywords.all fun name => !sameWord name word) = true) :
    state.isAtAny among = false := by
  rw [place.isAtAny]
  refine List.any_eq_false.2 fun word member => ?_
  rw [opens.isFree (List.all_eq_true.1 apart word member)]
  exact Bool.false_ne_true

/-- Behind the next word stand the items behind the next item. -/
theorem At.skip {item : Item} (place : At (item :: items) memory state) :
    At items memory state.skip := by
  obtain ⟨last, rest, equations, panels, log⟩ := state
  obtain ⟨words, same, same', quiet⟩ := place
  cases words with
  | cons _ words => exact ⟨words, same, same', quiet⟩

end

/-! ## Rules for readers -/

section

variable {α β : Type} {items items' items'' : List Item} {memory memory' memory'' : Memory}

/-- At any words that spell the items, the reader ends with this value; the words that
are left spell the other items. -/
def Reads (items : List Item) (memory : Memory) (reader : Reader α) (value : α)
    (items' : List Item) (memory' : Memory) : Prop :=
  ∀ state, At items memory state → ∃ last, reader state = .ok value last ∧ At items' memory' last

theorem Reads.pure (value : α) : Reads items memory (Pure.pure value) value items memory :=
  fun state place => ⟨state, rfl, place⟩

theorem Reads.bind {reader : Reader α} {value : α} {next : α → Reader β} {value' : β}
    (first : Reads items memory reader value items' memory')
    (second : Reads items' memory' (next value) value' items'' memory'') :
    Reads items memory (reader >>= next) value' items'' memory'' := by
  intro state place
  obtain ⟨between, ends, place'⟩ := first state place
  obtain ⟨last, ends', place''⟩ := second between place'
  refine ⟨last, ?_, place''⟩
  change EStateM.bind reader next state = _
  rw [EStateM.bind, ends]
  exact ends'

/-- A reader that looks at the state goes on from that state. -/
theorem Reads.get_bind {next : State → Reader β} {value : β}
    (goes : ∀ state, At items memory state →
      Reads items memory (next state) value items' memory') :
    Reads items memory (get >>= next) value items' memory' :=
  fun state place => goes state place state place

theorem Reads.ofExcept {outcome : Except Fault α} {value : α} (found : outcome = .ok value) :
    Reads items memory (Reader.ofExcept outcome) value items memory := by
  subst found
  exact Reads.pure value

theorem Reads.ite_true {condition : Prop} [Decidable condition] {first second : Reader α}
    {value : α} (holds : condition) (reads : Reads items memory first value items' memory') :
    Reads items memory (if condition then first else second) value items' memory' := by
  rwa [if_pos holds]

theorem Reads.ite_false {condition : Prop} [Decidable condition] {first second : Reader α}
    {value : α} (fails : ¬ condition) (reads : Reads items memory second value items' memory') :
    Reads items memory (if condition then first else second) value items' memory' := by
  rwa [if_neg fails]

theorem reads_warn (text : String) : Reads items memory (Reader.warn text) () items memory := by
  intro state place
  refine ⟨_, rfl, place.words, place.equations, place.panels, ?_⟩
  intro message member
  rcases List.mem_append.1 member with old | new
  · exact place.quiet message old
  · rw [List.mem_singleton.1 new]

theorem reads_skip {item : Item} : Reads (item :: items) memory skip () items memory :=
  fun state place => ⟨state.skip, rfl, place.skip⟩

/-- A word that is taken is a way to write the next item. -/
theorem reads_take_bind {item : Item} {next : String → Reader β} {value : β}
    (goes : ∀ word, item.IsSpelled word → Reads items memory (next word) value items' memory') :
    Reads (item :: items) memory (take >>= next) value items' memory' := by
  intro state place
  have words := place.words
  have place' := place.skip
  obtain ⟨last, rest, equations, panels, log⟩ := state
  cases words with
  | cons spelled _ => exact goes _ spelled _ place'

theorem reads_take {word : String} :
    Reads (.word word :: items) memory take word items memory := by
  have taken : Reads (.word word :: items) memory (take >>= Pure.pure) word items memory := by
    refine reads_take_bind fun given same => ?_
    rw [show given = word from same]
    exact Reads.pure word
  rwa [bind_pure] at taken

theorem reads_takeKeyword {name : String} :
    Reads (.keyword name :: items) memory (takeKeyword name) true items memory := by
  have found : Reads (.keyword name :: items) memory (isAt name) true
      (.keyword name :: items) memory := by
    refine Reads.get_bind fun state place => ?_
    rw [place.isAt name, show headText (.keyword name :: items) = name from rfl, sameWord_refl]
    exact Reads.pure true
  exact found.bind (reads_skip.bind (Reads.pure true))

/-- A keyword that is not there is not taken. -/
theorem reads_noKeyword {name : String} (absent : sameWord (headText items) name = false) :
    Reads items memory (takeKeyword name) false items memory := by
  have missing : Reads items memory (isAt name) false items memory := by
    refine Reads.get_bind fun state place => ?_
    rw [place.isAt name, absent]
    exact Reads.pure false
  exact missing.bind (Reads.pure false)

/-! ## Repetitions -/

/-- The steps of a repetition, from the value and the place that it starts with to
those that it ends with. Each step takes a word. -/
inductive Runs (condition : State → Bool) (step : β → Reader β) :
    List Item → Memory → β → List Item → Memory → β → Prop where
  | stop {items : List Item} {memory : Memory} {value : β}
      (ends : ∀ state, At items memory state → condition state = false) :
      Runs condition step items memory value items memory value
  | next {items items' items'' : List Item} {memory memory' memory'' : Memory}
      {value value' value'' : β}
      (goes : ∀ state, At items memory state → condition state = true)
      (reads : Reads items memory (step value) value' items' memory')
      (shorter : items'.length < items.length)
      (more : Runs condition step items' memory' value' items'' memory'' value'') :
      Runs condition step items memory value items'' memory'' value''

variable {condition : State → Bool} {step : β → Reader β}

theorem Runs.repeatUpTo {value value' : β}
    (runs : Runs condition step items memory value items' memory' value') {fuel : Nat}
    (enough : items.length < fuel) :
    Reads items memory (repeatUpTo condition step fuel value) value' items' memory' := by
  induction runs generalizing fuel with
  | stop ends =>
    cases fuel with
    | zero => exact absurd enough (Nat.not_lt_zero _)
    | succ fuel =>
      refine Reads.get_bind fun state place => Reads.ite_false ?_ (Reads.pure _)
      rw [ends state place]
      exact Bool.false_ne_true
  | next goes reads shorter _ ih =>
    cases fuel with
    | zero => exact absurd enough (Nat.not_lt_zero _)
    | succ fuel =>
      refine Reads.get_bind fun state place => Reads.ite_true (goes state place) ?_
      exact reads.bind (ih (by omega))

theorem Runs.repeatWhile {value value' : β}
    (runs : Runs condition step items memory value items' memory' value') :
    Reads items memory (repeatWhile condition step value) value' items' memory' := by
  refine Reads.get_bind fun state place => runs.repeatUpTo ?_
  rw [place.length]
  exact Nat.lt_succ_self _

/-- A repetition reads the elements of a list one by one. What has come of the
elements `done` is `value done`, and the readers keep `kept done`. -/
theorem reads_repeatEach {α : Type} {write : α → List Item} {more : List Item}
    (value : List α → β) (kept : List α → Memory) (list : List α)
    (goes : ∀ done element rest, done ++ element :: rest = list → ∀ state,
      At (write element ++ (rest.flatMap write ++ more)) (kept done) state →
        condition state = true)
    (reads : ∀ done element rest, done ++ element :: rest = list →
      Reads (write element ++ (rest.flatMap write ++ more)) (kept done) (step (value done))
        (value (done ++ [element])) (rest.flatMap write ++ more) (kept (done ++ [element])))
    (written : ∀ element, write element ≠ [])
    (ends : ∀ state, At more (kept list) state → condition state = false) :
    Reads (list.flatMap write ++ more) (kept []) (repeatWhile condition step (value []))
      (value list) more (kept list) := by
  have runs : ∀ done rest, done ++ rest = list →
      Runs condition step (rest.flatMap write ++ more) (kept done) (value done) more (kept list)
        (value list) := by
    intro done rest split
    induction rest generalizing done with
    | nil =>
      obtain rfl : done = list := by rw [← split, List.append_nil]
      exact .stop ends
    | cons element rest ih =>
      have shorter := List.length_pos_iff.2 (written element)
      rw [List.flatMap_cons, List.append_assoc]
      refine .next (goes done element rest split) (reads done element rest split) ?_ ?_
      · calc (rest.flatMap write ++ more).length
          _ < (write element).length + (rest.flatMap write ++ more).length := by omega
          _ = (write element ++ (rest.flatMap write ++ more)).length := List.length_append.symm
      · exact ih (done ++ [element]) (by rw [List.append_assoc]; exact split)
  exact (runs [] list rfl).repeatWhile

end

/-- Words are taken up to the first one that ends them. -/
theorem reads_takeUntil {condition : String → Bool} {words : List String} {item : Item}
    {more : List Item} {memory : Memory} (free : ∀ word ∈ words, condition word = false)
    (ends : ∀ word, item.IsSpelled word → condition word = true) :
    Reads (words.map Item.word ++ item :: more) memory (takeUntil condition) words
      (item :: more) memory := by
  rw [List.map_eq_flatMap]
  refine reads_repeatEach (fun done => done) (fun _ => memory) words ?_ ?_ ?_ ?_
  · intro done word rest split state place
    have next : state.next = word := place.next
    have inside : word ∈ words := by rw [← split]; simp
    rw [place.isEmpty, next, free word inside]
    rfl
  · intro done word rest split
    exact reads_take.bind (Reads.pure _)
  · intro word
    exact List.cons_ne_nil _ _
  · intro state place
    rw [ends _ place.next, Bool.not_true, Bool.and_false]

end Meteogram.Definition
