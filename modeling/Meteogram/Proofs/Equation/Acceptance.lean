import Meteogram.Proofs.Equation.Grammar

/-!
# What the check accepts

Without defined equations, and in the block of definitions, the check accepts every expression
of known words, with blanks anywhere. What it accepts need not be an expression, but is in
order (`IsOrderly`): the brackets are balanced, every token is an operator, a bracket, a number, a
known word or the name of a function in front of its arguments, the innermost brackets around a
comma are those of a function that takes several arguments, and an operator is not the last token,
nor that of a bracket. The text that the check gives has the same tokens in the same order, in
their own spelling.
-/

set_option autoImplicit false

namespace Meteogram.Equation

open Meteogram.Text

/-! ## Tokens in order -/

/-- Each bracket that opens is closed, and the other way round. -/
inductive Balanced : List Token → Prop where
  | nil : Balanced []
  | other {token : Token} {rest : List Token} (opening : token ≠ ['(']) (closing : token ≠ [')'])
      (next : Balanced rest) : Balanced (token :: rest)
  | group {inner rest : List Token} (inside : Balanced inner) (next : Balanced rest) :
      Balanced (['('] :: inner ++ [')'] :: rest)

/-- The bracket that was opened last and is still open after these tokens is that of a function
with several arguments. -/
def EndsInCall (front : List Token) : Prop :=
  ∃ outer name function inner, front = outer ++ name :: ['('] :: inner ∧
    IsNameOf function name ∧ function.takesComma = true ∧ Balanced inner

/-- Something follows, and it is no closing bracket. -/
def GoesOn (back : List Token) : Prop :=
  ∃ next rest, back = next :: rest ∧ next ≠ [')']

/-- The token may stand between the tokens in front of it and those behind it, and a comma where
it is allowed. -/
inductive Placed (known : Token → Prop) (allowed : List Token → Prop) :
    List Token → Token → List Token → Prop where
  | operation {front back : List Token} {token : Token} (operation : isOperation token = true)
      (goesOn : GoesOn back) : Placed known allowed front token back
  | comma {front back : List Token} (within : allowed front) (goesOn : GoesOn back) :
      Placed known allowed front [','] back
  | opening {front back : List Token} : Placed known allowed front ['('] back
  | closing {front back : List Token} : Placed known allowed front [')'] back
  | number {front back : List Token} {token : Token} (isNumber : IsNumber token) :
      Placed known allowed front token back
  | word {front back : List Token} {token : Token} (isWord : IsWord token)
      (isKnown : known token) : Placed known allowed front token back
  | function {front back : List Token} {name : Token} {function : Function}
      (named : IsNameOf function name) : Placed known allowed front name (['('] :: back)

/-- The tokens are balanced and each has a place of its kind. -/
structure IsOrderly (known : Token → Prop) (tokens : List Token) : Prop where
  balanced : Balanced tokens
  placed : ∀ front token back, tokens = front ++ token :: back →
    Placed known EndsInCall front token back

/-! ## Formed tokens are in order -/

theorem Balanced.of_kind {token : Token} {rest : List Token} (opening : kindOf token ≠ .opening)
    (other : kindOf token ≠ .other) (next : Balanced rest) : Balanced (token :: rest) := by
  refine .other ?_ ?_ next
  · rintro rfl
    exact opening rfl
  · rintro rfl
    exact other kindOf_closing

theorem Formed.balanced {comma pending : Bool} {tokens : List Token}
    (formed : Formed comma pending tokens) : Balanced tokens := by
  induction formed with
  | done => exact .nil
  | operator kind _ _ ih => exact .of_kind (by rw [kind]; decide) (by rw [kind]; decide) ih
  | group _ _ ihInside ih => exact .group ihInside ih
  | call kind _ _ _ ihInside ih =>
    exact .of_kind (by rw [kind]; decide) (by rw [kind]; decide) (.group ihInside ih)
  | word kind _ _ ih => exact .of_kind (by rw [kind]; decide) (by rw [kind]; decide) ih
  | number kind _ _ ih => exact .of_kind (by rw [kind]; decide) (by rw [kind]; decide) ih

/-- Right after an operator something follows. -/
theorem Formed.goesOn {comma : Bool} {tokens : List Token} (formed : Formed comma true tokens) :
    GoesOn tokens := by
  have notClosing : ∀ {token : Token}, kindOf token ≠ .other → token ≠ [')'] := by
    rintro _ notOther rfl
    exact notOther kindOf_closing
  cases formed with
  | operator kind _ _ => exact ⟨_, _, rfl, notClosing (by rw [kind]; decide)⟩
  | group _ _ => exact ⟨_, _, rfl, by decide⟩
  | call kind _ _ _ => exact ⟨_, _, rfl, notClosing (by rw [kind]; decide)⟩
  | word kind _ _ => exact ⟨_, _, rfl, notClosing (by rw [kind]; decide)⟩
  | number kind _ _ => exact ⟨_, _, rfl, notClosing (by rw [kind]; decide)⟩

theorem GoesOn.append {back : List Token} (goesOn : GoesOn back) (after : List Token) :
    GoesOn (back ++ after) := by
  obtain ⟨next, rest, rfl, notClosing⟩ := goesOn
  exact ⟨next, rest ++ after, rfl, notClosing⟩

theorem EndsInCall.append_left {front : List Token} (ends : EndsInCall front)
    (before : List Token) : EndsInCall (before ++ front) := by
  obtain ⟨outer, name, function, inner, rfl, named, takesComma, balanced⟩ := ends
  exact ⟨before ++ outer, name, function, inner, (List.append_assoc _ _ _).symm, named, takesComma,
    balanced⟩

section

variable {known : Token → Prop} {allowed allowed' : List Token → Prop}
  {front back : List Token} {token : Token}

/-- A token keeps its place among more tokens, if a comma is still allowed there. -/
theorem Placed.within (placed : Placed known allowed front token back) (before after : List Token)
    (still : allowed front → allowed' (before ++ front)) :
    Placed known allowed' (before ++ front) token (back ++ after) := by
  cases placed with
  | operation operation goesOn => exact .operation operation (goesOn.append after)
  | comma within goesOn => exact .comma (still within) (goesOn.append after)
  | opening => exact .opening
  | closing => exact .closing
  | number isNumber => exact .number isNumber
  | word isWord isKnown => exact .word isWord isKnown
  | function named => exact .function named

/-- A token keeps its place behind more tokens. -/
theorem Placed.behind (placed : Placed known allowed front token back) (before : List Token)
    (still : allowed front → allowed' (before ++ front)) :
    Placed known allowed' (before ++ front) token back := by
  have placed' := placed.within before [] still
  rwa [List.append_nil] at placed'

/-- Where an element of two lists that are joined stands. -/
theorem eq_append_cons_of_append {first second : List Token}
    (joined : first ++ second = front ++ token :: back) :
    (∃ inner, first = front ++ token :: inner ∧ back = inner ++ second) ∨
      ∃ before, front = first ++ before ∧ second = before ++ token :: back := by
  rcases List.append_eq_append_iff.1 joined with ⟨before, same, rest⟩ | ⟨middle, same, rest⟩
  · exact .inr ⟨before, same, rest⟩
  · rcases List.cons_eq_append_iff.1 rest with ⟨rfl, atHead⟩ | ⟨inner, rfl, inside⟩
    · exact .inr ⟨[], by rw [same, List.append_nil, List.append_nil], atHead⟩
    · exact .inl ⟨inner, same, inside⟩

/-- Where an element of tokens that begin with brackets stands. -/
theorem eq_append_cons_of_group {inner rest : List Token}
    (joined : ['('] :: inner ++ [')'] :: rest = front ++ token :: back) :
    (front = [] ∧ token = ['(']) ∨
      (∃ before after, front = ['('] :: before ∧ inner = before ++ token :: after ∧
        back = after ++ [')'] :: rest) ∨
      (token = [')'] ∧ front = ['('] :: inner) ∨
      ∃ before, front = ['('] :: inner ++ [')'] :: before ∧ rest = before ++ token :: back := by
  rw [List.cons_append] at joined
  rcases List.cons_eq_append_iff.1 joined with ⟨rfl, atHead⟩ | ⟨front', rfl, behind⟩
  · exact .inl ⟨rfl, (List.cons.inj atHead).1⟩
  · rcases eq_append_cons_of_append behind with ⟨after, inInner, rfl⟩ | ⟨before, rfl, beyond⟩
    · exact .inr (.inl ⟨_, _, rfl, inInner, rfl⟩)
    · rcases List.cons_eq_append_iff.1 beyond with ⟨rfl, closing⟩ | ⟨before, rfl, inRest⟩
      · rw [List.append_nil]
        exact .inr (.inr (.inl ⟨(List.cons.inj closing).1, rfl⟩))
      · exact .inr (.inr (.inr ⟨_, rfl, inRest⟩))

/-- Where a comma may stand among formed tokens. -/
def MayTakeComma (comma : Bool) (front : List Token) : Prop :=
  comma = true ∧ Balanced front ∨ EndsInCall front

/-- Behind a token that is no bracket, commas stay where they are allowed. -/
theorem MayTakeComma.cons {comma : Bool} (may : MayTakeComma comma front)
    (opening : kindOf token ≠ .opening) (other : kindOf token ≠ .other) :
    MayTakeComma comma (token :: front) := by
  rcases may with ⟨comma, balanced⟩ | ends
  · exact .inl ⟨comma, .of_kind opening other balanced⟩
  · exact .inr (ends.append_left [token])

/-- So they do behind brackets. -/
theorem MayTakeComma.group {comma : Bool} (may : MayTakeComma comma front) {inner : List Token}
    (inside : Balanced inner) : MayTakeComma comma (['('] :: inner ++ [')'] :: front) := by
  rcases may with ⟨comma, balanced⟩ | ends
  · exact .inl ⟨comma, .group inside balanced⟩
  · rw [List.append_cons]
    exact .inr (ends.append_left _)

/-- Each of the tokens has its place. -/
def ArePlaced (known : Token → Prop) (allowed : List Token → Prop) (tokens : List Token) : Prop :=
  ∀ front token back, tokens = front ++ token :: back → Placed known allowed front token back

/-- Tokens keep their places behind one that has its own, if a comma is still allowed there. -/
theorem ArePlaced.cons {rest : List Token} (rests : ArePlaced known allowed' rest)
    (here : Placed known allowed [] token rest)
    (still : ∀ front, allowed' front → allowed (token :: front)) :
    ArePlaced known allowed (token :: rest) := by
  intro front other back split
  rcases List.cons_eq_append_iff.1 split with ⟨rfl, same⟩ | ⟨front, rfl, inRest⟩
  · obtain ⟨rfl, rfl⟩ := List.cons.inj same
    exact here
  · exact (rests front other back inRest).behind [token] (still front)

/-- Tokens keep their places in brackets and behind them, if commas are still allowed there. -/
theorem ArePlaced.bracketed {allowed'' : List Token → Prop} {inner rest : List Token}
    (inside : ArePlaced known allowed' inner) (rests : ArePlaced known allowed'' rest)
    (enter : ∀ front, allowed' front → allowed (['('] :: front))
    (leave : ∀ front, allowed'' front → allowed (['('] :: inner ++ [')'] :: front)) :
    ArePlaced known allowed (['('] :: inner ++ [')'] :: rest) := by
  intro front token back split
  rcases eq_append_cons_of_group split with ⟨_, rfl⟩ | ⟨front, after, rfl, inInner, rfl⟩ |
    ⟨rfl, _⟩ | ⟨front, rfl, inRest⟩
  · exact .opening
  · exact (inside front token after inInner).within [['(']] _ (enter front)
  · exact .closing
  · rw [List.append_cons]
    refine (rests front token back inRest).behind _ fun may => ?_
    rw [← List.append_cons]
    exact leave front may

/-- Each of formed tokens has its place, with a comma between arguments. -/
theorem Formed.arePlaced {comma pending : Bool} {tokens : List Token}
    (formed : Formed comma pending tokens) (form : ∀ token ∈ tokens, IsMark token ∨ IsPlain token)
    (isKnown : ∀ token ∈ tokens, IsName token → known token) :
    ArePlaced known (MayTakeComma comma) tokens := by
  induction formed with
  | done =>
    intro front token back split
    exact absurd split.symm (List.append_ne_nil_of_right_ne_nil _ (List.cons_ne_nil _ _))
  | operator kind commaAllowed next ih =>
    obtain ⟨formHere, form⟩ := List.forall_mem_cons.1 form
    obtain ⟨_, isKnown⟩ := List.forall_mem_cons.1 isKnown
    refine (ih form isKnown).cons ?_ fun _ may =>
      may.cons (by rw [kind]; decide) (by rw [kind]; decide)
    rcases operator_cases formHere kind with rfl | operation
    · exact .comma (.inl ⟨commaAllowed rfl, .nil⟩) next.goesOn
    · exact .operation operation next.goesOn
  | @group comma pending inner rest formedInside _ ihInside ih =>
    simp only [List.forall_mem_cons, List.forall_mem_append] at form isKnown
    obtain ⟨⟨_, formInside⟩, _, form⟩ := form
    obtain ⟨⟨_, knownInside⟩, _, isKnown⟩ := isKnown
    refine (ihInside formInside knownInside).bracketed (ih form isKnown) (fun front may => ?_)
      (fun front may => may.group formedInside.balanced)
    rcases may with ⟨never, _⟩ | ends
    · cases never
    · exact .inr (ends.append_left [['(']])
  | @call comma pending word function inner rest kind named formedInside _ ihInside ih =>
    simp only [List.forall_mem_cons, List.forall_mem_append] at form isKnown
    obtain ⟨⟨_, _, formInside⟩, _, form⟩ := form
    obtain ⟨⟨_, _, knownInside⟩, _, isKnown⟩ := isKnown
    have behind : ArePlaced known (fun front => MayTakeComma comma (word :: front))
        (['('] :: inner ++ [')'] :: rest) := by
      refine (ihInside formInside knownInside).bracketed (ih form isKnown) (fun front may => ?_)
        (fun front may => (may.group formedInside.balanced).cons
          (by rw [kind]; decide) (by rw [kind]; decide))
      rcases may with ⟨takesComma, balanced⟩ | ends
      · exact .inr ⟨[], word, function, front, rfl, named, takesComma, balanced⟩
      · exact .inr (ends.append_left [word, ['(']])
    exact behind.cons (.function named) fun _ may => may
  | word kind unnamed _ ih =>
    obtain ⟨formHere, form⟩ := List.forall_mem_cons.1 form
    obtain ⟨knownHere, isKnown⟩ := List.forall_mem_cons.1 isKnown
    refine (ih form isKnown).cons ?_ fun _ may =>
      may.cons (by rw [kind]; decide) (by rw [kind]; decide)
    exact .word ⟨isPlain_of_kind formHere (.inl kind), (kindOf_eq_word_iff _).1 kind, unnamed⟩
      (knownHere ⟨kind, unnamed⟩)
  | number kind real _ ih =>
    obtain ⟨formHere, form⟩ := List.forall_mem_cons.1 form
    obtain ⟨_, isKnown⟩ := List.forall_mem_cons.1 isKnown
    refine (ih form isKnown).cons ?_ fun _ may =>
      may.cons (by rw [kind]; decide) (by rw [kind]; decide)
    have plain := isPlain_of_kind formHere (.inr kind)
    exact .number ⟨plain, (kindOf_eq_number_iff plain).1 kind, real⟩

end

/-- Formed tokens are in order. -/
theorem Formed.isOrderly {known : Token → Prop} {tokens : List Token}
    (formed : Formed false false tokens) (separated : Separated tokens)
    (isKnown : ∀ token ∈ tokens, IsName token → known token) : IsOrderly known tokens where
  balanced := formed.balanced
  placed := by
    intro front token back split
    have placed := formed.arePlaced (fun _ member => separated.mem member) isKnown _ _ _ split
    refine placed.behind [] fun may => ?_
    rcases may with ⟨never, _⟩ | ends
    · cases never
    · exact ends

/-! ## Equations that use no others -/

/-- What the words of an equation stand for in a scope. In the block of definitions each stands for
itself, in a chart it is spelled in its own way or names a defined equation. -/
inductive Scope.Spells : Scope → (String → Option String) → Definitions → Prop where
  | definitions : Spells .definitions some []
  | chart {spelling? : String → Option String} (spelling : IsSpelling spelling?)
      (defined : Definitions) : Spells (.chart spelling? defined) spelling? defined

section

variable {spelling? : String → Option String}

theorem Scope.Spells.isSpelling {scope : Scope} {defined : Definitions}
    (spells : scope.Spells spelling? defined) : IsSpelling spelling? := by
  cases spells with
  | definitions => exact isSpelling_some
  | chart spelling => exact spelling

theorem Scope.Spells.evaluate_eq {scope : Scope} {defined : Definitions}
    (spells : scope.Spells spelling? defined) (equation : String) :
    evaluate scope equation = evaluate (.chart spelling? defined) equation := by
  cases spells with
  | definitions => exact evaluate_definitions equation
  | chart => rfl

/-- The word has a spelling. -/
def IsSpelled (spelling? : String → Option String) (word : Token) : Prop :=
  (spelling? (String.ofList word)).isSome

/-- Without definitions the known words are those that are spelled. -/
theorem isKnown_nil_iff {word : Token} : IsKnown spelling? [] word ↔ IsSpelled spelling? word :=
  or_iff_left Bool.false_ne_true

theorem reaches_nil_iff {tokens : List Token} {word : Token} :
    Reaches spelling? [] tokens word ↔ word ∈ tokens ∧ IsName word := by
  constructor
  · intro reaches
    cases reaches with
    | here member isName => exact ⟨member, isName⟩
    | through _ defines _ => exact absurd defines (not_defines_nil _ _)
  · rintro ⟨member, isName⟩
    exact .here member isName

/-- An equation is evaluated without definitions exactly if its tokens are formed, there is one, and
its words are spelled. -/
theorem evaluate_ok_iff_of_nil (spelling : IsSpelling spelling?) {equation : String} :
    (∃ text, evaluate (.chart spelling? []) equation = .ok text) ↔
      Formed false false (tokensOf equation.toList) ∧ tokensOf equation.toList ≠ [] ∧
        ∀ token ∈ tokensOf equation.toList, IsName token → IsSpelled spelling? token := by
  have accepted : ∀ entry ∈ ([] : Definitions), Accepted entry.2 :=
    fun _ member => absurd member List.not_mem_nil
  simp only [evaluate_eq_ok_iff_meaningful spelling accepted]
  constructor
  · rintro ⟨_, meaningful, _⟩
    obtain ⟨formed, nonempty⟩ := accepted_iff.1 meaningful.accepted
    exact ⟨formed, nonempty, fun token member isName =>
      isKnown_nil_iff.1 (meaningful.known token (.here member isName))⟩
  · rintro ⟨formed, nonempty, spelled⟩
    have meaningful : Meaningful spelling? [] equation :=
      { accepted := accepted_iff.2 ⟨formed, nonempty⟩
        known := fun word reaches =>
          have ⟨member, isName⟩ := reaches_nil_iff.1 reaches
          isKnown_nil_iff.2 (spelled word member isName)
        acyclic := fun _ _ _ defines => absurd defines (not_defines_nil _ _) }
    obtain ⟨_, text, expansion⟩ := meaningful.expansion
    exact ⟨String.ofList text, meaningful, String.toList_ofList ▸ expansion⟩

/-- Each word is what the token of its place stands for. -/
def AreMeant (spelling? : String → Option String) (defined : Definitions) :
    List Token → List Token → Prop :=
  List.Forall₂ fun token word => Meaning spelling? defined token (.token word)

theorem Expansion.areMeant {tokens : List Token} {text : List Char}
    (expansion : Expansion spelling? [] tokens text) :
    ∃ words, AreMeant spelling? [] tokens words ∧ text = words.flatten := by
  induction expansion with
  | nil => exact ⟨[], .nil, rfl⟩
  | @kept token word _ _ meaning _ ih =>
    obtain ⟨words, meant, rfl⟩ := ih
    exact ⟨word :: words, .cons meaning meant, rfl⟩
  | expanded meaning _ _ _ _ =>
    obtain ⟨_, defines, _⟩ := meaning.defines
    exact absurd defines (not_defines_nil _ _)

/-- If nothing is left to expand, a round gives what the tokens stand for. -/
theorem AreMeant.round_eq {defined : Definitions} {tokens words : List Token}
    (meant : AreMeant spelling? defined tokens words) :
    (Scope.chart spelling? defined).round tokens = words := by
  induction meant with
  | nil => rfl
  | cons meaning _ ih =>
    rw [round_cons, (meaning_iff.1 meaning).2, Piece.tokens, ih, List.singleton_append]

end

/-! ## Acceptance -/

/-- Where no other equation is used, every expression of words that are spelled is accepted, with
blanks anywhere. Of every text that is accepted, the tokens are in order, and the result is made of
the same tokens one by one, functions and words in their own spelling. -/
theorem check_accepts_expressions_and_keeps_order {scope : Scope}
    {spelling? : String → Option String} (spells : scope.Spells spelling? []) (equation : String) :
    (∀ tokens, Phrase (IsSpelled spelling?) .expression tokens →
      withoutBlanks equation.toList = tokens.flatten →
        ∃ text, evaluate scope equation = .ok text) ∧
    (∀ text, evaluate scope equation = .ok text →
      IsOrderly (IsSpelled spelling?) (tokensOf equation.toList) ∧
        AreMeant spelling? [] (tokensOf equation.toList) (tokensOf text.toList) ∧
          text.toList = (tokensOf text.toList).flatten) := by
  have spelling := spells.isSpelling
  have separated := separated_tokensOf equation.toList
  simp only [spells.evaluate_eq]
  constructor
  · intro tokens phrase joined
    have same : tokensOf equation.toList = tokens :=
      tokensOf_eq_iff.2 ⟨phrase.separated, joined.symm⟩
    rw [evaluate_ok_iff_of_nil spelling, same]
    refine ⟨phrase.formed, ?_, fun _ member isName => phrase.known_of_mem member isName⟩
    rintro rfl
    cases phrase.alternates
  · intro text evaluated
    obtain ⟨formed, _, spelled⟩ := (evaluate_ok_iff_of_nil spelling).1 ⟨text, evaluated⟩
    obtain ⟨_, _, expansion⟩ := (evaluate_eq_ok_iff spelling inOrder_nil).1 evaluated
    obtain ⟨words, meant, joined⟩ := expansion.areMeant
    have separated' := separated_round spelling separated expansion.knows
    rw [meant.round_eq] at separated'
    have again : tokensOf text.toList = words := joined ▸ separated'.tokensOf_flatten
    exact ⟨formed.isOrderly separated spelled, again ▸ meant, again ▸ joined⟩

/-- The only keyword is that of the temperature. -/
def onlyTemp : String → Option String :=
  spellingIn ⟨[⟨"Temp", "temp", "tempdata.json", .temp, "C"⟩], [], []⟩ .recent

/-- A call with a sign in front of it and blanks within a word. -/
theorem signed_call_is_accepted :
    Phrase (IsSpelled onlyTemp) .expression (tokensOf "- MAX( te mp, 2*(1) )".toList) ∧
      (∃ text, evaluate (.chart onlyTemp []) "- MAX( te mp, 2*(1) )" = .ok text) ∧
      AreMeant onlyTemp [] (tokensOf "- MAX( te mp, 2*(1) )".toList)
        (tokensOf "-max(Temp,2*(1))".toList) := by
  have spelling : IsSpelling onlyTemp := isSpelling_spellingIn _ _
  have evaluated : evaluate (.chart onlyTemp []) "- MAX( te mp, 2*(1) )" =
      .ok "-max(Temp,2*(1))" := by decide +kernel
  obtain ⟨complete, sound⟩ := check_accepts_expressions_and_keeps_order
    (.chart spelling []) "- MAX( te mp, 2*(1) )"
  obtain ⟨formed, _, spelled⟩ := (evaluate_ok_iff_of_nil spelling).1 ⟨_, evaluated⟩
  have phrase := (phrase_iff_alternates (separated_tokensOf _) formed spelled).2 (by decide)
  exact ⟨phrase, complete _ phrase (flatten_tokensOf _).symm, (sound _ evaluated).2.1⟩

end Meteogram.Equation
