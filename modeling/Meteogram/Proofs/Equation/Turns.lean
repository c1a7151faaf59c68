import Meteogram.Proofs.Equation.Acceptance

/-!
# When the value of an equation is an expression

The check does not ask that operands and operators take turns: an operator may stand where an
operand is missing, brackets may be empty and two operands may be neighbours. This is all that
keeps the value of an equation from being an expression. A round neither adds nor removes such a
place, other than those of the definitions that it puts in, so the value is an expression exactly
if operands and operators take turns in the equation and in every equation that it leads to
(`TakesTurns`). What the check does see is an operator that nothing follows.
-/

set_option autoImplicit false

namespace Meteogram.Equation

open Meteogram.Text

/-- Operands and operators take turns in the tokens and in every equation that they lead to. -/
structure TakesTurns (spelling? : String → Option String) (defined : Definitions)
    (tokens : List Token) : Prop where
  here : alternates tokens = true
  inside : ∀ name text, Reaches spelling? defined tokens name →
    Defines spelling? defined name text → alternates (tokensOf text.toList) = true

section

variable {spelling? : String → Option String} {defined : Definitions} {tokens : List Token}

/-! ## Turns in a round -/

/-- What a token stands for has the same places as the token, if it is not an equation. -/
theorem Meaning.fits?_eq (spelling : IsSpelling spelling?) {token word : Token}
    (meaning : Meaning spelling? defined token (.token word)) (expected : Bool) :
    fits? expected word = fits? expected token := by
  cases meaning with
  | plain _ => rfl
  | @function function _ named =>
    have again : IsNameOf function function.name.toList := by
      unfold IsNameOf
      cases function <;> decide
    rw [fits?_function again, fits?_function named]
  | keyword isName spelled =>
    rw [fits?_name (isName.congr (spelling.same spelled)), fits?_name isName]

/-- In a round operands and operators take turns if they do before it and in each definition that
the round puts in. -/
theorem foldlM_round_iff (spelling : IsSpelling spelling?)
    (known : ∀ token ∈ tokens, (Scope.chart spelling? defined).Knows token)
    {expected state : Bool} :
    ((Scope.chart spelling? defined).round tokens).foldlM fits? expected = some state ↔
      tokens.foldlM fits? expected = some state ∧
        ∀ name ∈ tokens, ∀ text, Defines spelling? defined name text →
          alternates (tokensOf text.toList) = true := by
  induction tokens generalizing expected with
  | nil => exact (and_iff_left fun _ member => absurd member List.not_mem_nil).symm
  | cons token rest ih =>
    obtain ⟨here, known⟩ := List.forall_mem_cons.1 known
    have meaning := meaning_iff.2 ⟨here, rfl⟩
    rw [round_cons, List.foldlM_append, List.foldlM_cons, List.forall_mem_cons]
    simp only [Option.bind_eq_bind, Option.bind_eq_some_iff, ih known]
    cases piece : (Scope.chart spelling? defined).pieceOf token with
    | token word =>
      rw [piece] at meaning
      have kept : ∀ text, ¬ Defines spelling? defined token text := meaning.not_defines
      simp only [Piece.tokens, List.foldlM_cons, List.foldlM_nil, bind_pure,
        meaning.fits?_eq spelling, kept, false_implies, implies_true, true_and]
      constructor
      · rintro ⟨next, fits, follows, inside⟩
        exact ⟨⟨next, fits, follows⟩, inside⟩
      · rintro ⟨⟨next, fits, follows⟩, inside⟩
        exact ⟨next, fits, follows, inside⟩
    | expansion equation =>
      rw [piece] at meaning
      obtain ⟨text, defines, rfl⟩ := meaning.defines
      have only : (∀ text', Defines spelling? defined token text' →
          alternates (tokensOf text'.toList) = true) ↔
            alternates (tokensOf text.toList) = true := by
        refine ⟨fun each => each text defines, fun turns text' defines' => ?_⟩
        rwa [Option.some.inj (defines'.found.symm.trans defines.found)]
      rw [Piece.tokens, foldlM_bracketed, fits?_name defines.isName, only]
      cases expected with
      | false => simp only [Bool.false_and, Bool.false_eq_true, if_false, reduceCtorEq, false_and,
          exists_false]
      | true =>
        simp only [Bool.true_and, if_true]
        constructor
        · rintro ⟨next, entered, follows, inside⟩
          split_ifs at entered with turns
          exact ⟨⟨next, entered, follows⟩, turns, inside⟩
        · rintro ⟨⟨next, fits, follows⟩, turns, inside⟩
          exact ⟨next, by rw [if_pos turns, fits], follows, inside⟩

/-! ## What a round leads to -/

theorem Reaches.mono {others : List Token} (subset : ∀ token ∈ tokens, token ∈ others)
    {word : Token} (reaches : Reaches spelling? defined tokens word) :
    Reaches spelling? defined others word := by
  cases reaches with
  | here member isName => exact .here (subset _ member) isName
  | through member defines next => exact .through (subset _ member) defines next

/-- The tokens of a definition that is put in are there after the round. -/
theorem mem_round_of_defines {name : Token} {text : String} (member : name ∈ tokens)
    (defines : Defines spelling? defined name text) :
    ∀ inner ∈ tokensOf text.toList, inner ∈ (Scope.chart spelling? defined).round tokens := by
  intro inner inside
  refine List.mem_flatMap.2 ⟨name, member, ?_⟩
  rw [(meaning_iff.1 (.equation defines)).2, Piece.tokens]
  exact List.mem_append_left _ (List.mem_cons_of_mem _ inside)

/-- A round leads to no definition that the tokens do not lead to. -/
theorem Reaches.of_round (spelling : IsSpelling spelling?)
    (known : ∀ token ∈ tokens, (Scope.chart spelling? defined).Knows token) {name : Token}
    {text : String} (defines : Defines spelling? defined name text)
    (reaches : Reaches spelling? defined ((Scope.chart spelling? defined).round tokens) name) :
    Reaches spelling? defined tokens name := by
  cases reaches with
  | here member isName =>
    rcases mem_round spelling known member with meaning | ⟨token, inTokens, text', defines', inside⟩
    · exact absurd defines (meaning.not_defines _)
    · exact .through inTokens defines' (.here inside isName)
  | through member defines' next =>
    rcases mem_round spelling known member with meaning | ⟨token, inTokens, text', outer, inside⟩
    · exact absurd defines' (meaning.not_defines _)
    · exact .through inTokens outer (.through inside defines' next)

/-- Turns are taken after a round exactly if they were before. -/
theorem takesTurns_round_iff (spelling : IsSpelling spelling?)
    (known : ∀ token ∈ tokens, (Scope.chart spelling? defined).Knows token) :
    TakesTurns spelling? defined ((Scope.chart spelling? defined).round tokens) ↔
      TakesTurns spelling? defined tokens := by
  constructor
  · rintro ⟨here, inside⟩
    obtain ⟨before, direct⟩ := (foldlM_round_iff spelling known).1 (alternates_iff.1 here)
    refine ⟨alternates_iff.2 before, fun name text reaches defines => ?_⟩
    cases reaches with
    | here member _ => exact direct name member text defines
    | through member outer next =>
      exact inside name text (next.mono (mem_round_of_defines member outer)) defines
  · rintro ⟨here, inside⟩
    refine ⟨alternates_iff.2 ((foldlM_round_iff spelling known).2 ⟨alternates_iff.1 here, ?_⟩), ?_⟩
    · intro name member text defines
      exact inside name text (.here member defines.isName) defines
    · intro name text reaches defines
      exact inside name text (reaches.of_round spelling known defines) defines

/-- Where nothing is left to expand, only the tokens themselves have to take turns. -/
theorem takesTurns_iff_of_flat
    (flat : ∀ token ∈ tokens, ∀ text, ¬ Defines spelling? defined token text) :
    TakesTurns spelling? defined tokens ↔ alternates tokens = true := by
  refine ⟨TakesTurns.here, fun turns => ⟨turns, fun name text reaches defines => ?_⟩⟩
  cases reaches with
  | here member _ => exact absurd defines (flat name member text)
  | through member outer _ => exact absurd outer (flat _ member _)

theorem takesTurns_nil_iff : TakesTurns spelling? [] tokens ↔ alternates tokens = true :=
  takesTurns_iff_of_flat fun _ _ => not_defines_nil _

/-! ## Rounds until nothing is left, whatever is defined -/

/-- What a token stands for does not depend on definitions, if it is not an equation. -/
theorem Meaning.others {token word : Token}
    (meaning : Meaning spelling? defined token (.token word)) (others : Definitions) :
    Meaning spelling? others token (.token word) := by
  cases meaning with
  | plain notWord => exact .plain notWord
  | function isWord named => exact .function isWord named
  | keyword isName spelled => exact .keyword isName spelled

/-- With nothing left to expand, the text is that of final tokens, which are an expression if turns
are taken. -/
theorem final_of_flat (spelling : IsSpelling spelling?) (separated : Separated tokens)
    (formed : Formed false false tokens)
    (flat : ∀ token ∈ tokens, ∃ word, Meaning spelling? defined token (.token word)) :
    ∃ final, Final spelling? final ∧
      final.flatten = textOf (tokens.map (Scope.chart spelling? defined).pieceOf) ∧
        (alternates final = true ↔ TakesTurns spelling? defined tokens) := by
  have meant : ∀ token ∈ tokens, ∃ word, Meaning spelling? [] token (.token word) := by
    intro token member
    obtain ⟨word, meaning⟩ := flat token member
    exact ⟨word, meaning.others []⟩
  have known : ∀ token ∈ tokens, (Scope.chart spelling? []).Knows token := by
    intro token member
    obtain ⟨word, meaning⟩ := meant token member
    exact (meaning_iff.1 meaning).1
  have pieces : tokens.map (Scope.chart spelling? defined).pieceOf =
      tokens.map (Scope.chart spelling? []).pieceOf := by
    refine List.map_congr_left fun token member => ?_
    obtain ⟨word, meaning⟩ := flat token member
    rw [(meaning_iff.1 meaning).2, (meaning_iff.1 (meaning.others [])).2]
  obtain ⟨isFinal, joined⟩ := final_round spelling inOrder_nil separated formed known meant
  refine ⟨_, isFinal, pieces ▸ joined, ?_⟩
  rw [← takesTurns_nil_iff, takesTurns_round_iff spelling known, takesTurns_nil_iff,
    takesTurns_iff_of_flat]
  intro token member
  obtain ⟨word, meaning⟩ := flat token member
  exact meaning.not_defines

/-- The rounds end with the text of final tokens, which are an expression if turns are taken. -/
theorem exists_final_of_settle (spelling : IsSpelling spelling?) (separated : Separated tokens)
    (formed : Formed false false tokens)
    (known : ∀ token ∈ tokens, (Scope.chart spelling? defined).Knows token) {rounds : Nat}
    {text : List Char}
    (settled : settle (.chart spelling? defined) rounds
      (tokens.map (Scope.chart spelling? defined).pieceOf) = .ok text) :
    ∃ final, Final spelling? final ∧ final.flatten = text ∧
      (alternates final = true ↔ TakesTurns spelling? defined tokens) := by
  refine settle_induction
    (motive := fun tokens => ∃ final, Final spelling? final ∧ final.flatten = text ∧
      (alternates final = true ↔ TakesTurns spelling? defined tokens))
    spelling separated formed known ?_ ?_ settled
  · rintro tokens separated formed _ flat rfl
    exact final_of_flat spelling separated formed flat
  · rintro tokens known ⟨final, isFinal, joined, turns⟩
    exact ⟨final, isFinal, joined, turns.trans (takesTurns_round_iff spelling known)⟩

end

/-! ## Values and expressions -/

/-- The value of an equation is an expression exactly if operands and operators take turns in the
equation and in every defined one that it leads to. In any case it is in order. -/
theorem value_is_expression_iff_turns_are_taken {scope : Scope}
    {spelling? : String → Option String} {defined : Definitions}
    (spells : scope.Spells spelling? defined) {equation text : String}
    (evaluated : evaluate scope equation = .ok text) :
    (Phrase (IsSpelled spelling?) .expression (tokensOf text.toList) ↔
      TakesTurns spelling? defined (tokensOf equation.toList)) ∧
    IsOrderly (IsSpelled spelling?) (tokensOf text.toList) ∧
    text.toList = (tokensOf text.toList).flatten := by
  have spelling := spells.isSpelling
  rw [spells.evaluate_eq, evaluate] at evaluated
  simp only [bind_eq_ok, checkText_eq_ok_iff] at evaluated
  obtain ⟨_, ⟨formed, known, rfl⟩, out, settled, last⟩ := evaluated
  obtain ⟨final, isFinal, rfl, turns⟩ := exists_final_of_settle spelling
    (separated_tokensOf equation.toList) formed known settled
  have spelled : ∀ token ∈ final, IsName token → IsSpelled spelling? token := by
    intro token member isName
    have meaning := isFinal.itself token member []
    exact isKnown_nil_iff.1 ((isKnown_iff isName).2 (meaning_iff.1 meaning).1)
  split_ifs at last
  obtain rfl := Except.ok.inj last
  have again : tokensOf (String.ofList final.flatten).toList = final := by
    rw [String.toList_ofList, isFinal.separated.tokensOf_flatten]
  rw [again, phrase_iff_alternates isFinal.separated isFinal.formed spelled, turns,
    String.toList_ofList]
  exact ⟨Iff.rfl, isFinal.formed.isOrderly isFinal.separated spelled, rfl⟩

/-- An equation that uses another one, with an expression as its value. -/
theorem doubled_half_is_expression :
    evaluate (.chart onlyTemp [("Half", "TEMP/2")]) "2 * Half" = .ok "2*(Temp/2)" ∧
      TakesTurns onlyTemp [("Half", "TEMP/2")] (tokensOf "2 * Half".toList) := by
  have spelling : IsSpelling onlyTemp := isSpelling_spellingIn _ _
  have evaluated : evaluate (.chart onlyTemp [("Half", "TEMP/2")]) "2 * Half" =
      .ok "2*(Temp/2)" := by decide +kernel
  have again : evaluate (.chart onlyTemp []) "2*(Temp/2)" = .ok "2*(Temp/2)" := by decide +kernel
  obtain ⟨formed, _, spelled⟩ := (evaluate_ok_iff_of_nil spelling).1 ⟨_, again⟩
  have phrase := (phrase_iff_alternates (separated_tokensOf _) formed spelled).2 (by decide)
  exact ⟨evaluated,
    (value_is_expression_iff_turns_are_taken (.chart spelling _) evaluated).1.1 phrase⟩

/-- An operand is missing between operators, in brackets or in front of a comma, or there are two of
them without an operator. -/
theorem gaps_are_accepted :
    ["Temp-/2", "*Temp", "()", "max(,Temp)", "2(3)", "(1)Temp"].Forall fun text =>
      evaluate (.chart onlyTemp []) text = .ok text ∧
        ¬ Phrase (IsSpelled onlyTemp) .expression (tokensOf text.toList) := by
  have gap : ∀ text ∈ ["Temp-/2", "*Temp", "()", "max(,Temp)", "2(3)", "(1)Temp"],
      evaluate (.chart onlyTemp []) text = .ok text ∧
        alternates (tokensOf text.toList) = false := by decide +kernel
  refine List.forall_iff_forall_mem.2 fun text member => ?_
  obtain ⟨evaluated, gap⟩ := gap text member
  exact ⟨evaluated, fun phrase => Bool.false_ne_true (gap.symm.trans phrase.alternates)⟩

end Meteogram.Equation
