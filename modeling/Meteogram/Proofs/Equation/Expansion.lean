import Meteogram.Proofs.Equation.Meaning

/-!
# Defined equations mean their full expansion

An equation may use equations that were defined in front of the charts, and
these may use others. The expansion of an equation is a relation of its own
here: every name of a defined equation stands for the expansion of its text, in
brackets. The check takes one round of replacements after the other instead, and
gives up after as many rounds as there are definitions.

Both agree: an equation is accepted exactly if its own tokens are in order,
every word that it leads to is known, and no name leads back to itself
(`Meaningful`). As many rounds are enough as a name can lead through others
(`Ends`), and without a circle the names on such a way are different, so there
are no more of them than definitions.
-/

set_option autoImplicit false

namespace Meteogram.Equation

open Meteogram.Text

section

variable (spelling? : String → Option String) (defined : Definitions)

/-- The text with every name of an equation replaced by the expansion of that
equation in brackets. -/
inductive Expansion : List Token → List Char → Prop where
  | nil : Expansion [] []
  | kept {token word : Token} {rest : List Token} {text : List Char}
      (meaning : Meaning spelling? defined token (.token word)) (next : Expansion rest text) :
      Expansion (token :: rest) (word ++ text)
  | expanded {token : Token} {equation inner : List Char} {rest : List Token} {text : List Char}
      (meaning : Meaning spelling? defined token (.expansion equation))
      (inside : Expansion (tokensOf equation) inner) (next : Expansion rest text) :
      Expansion (token :: rest) ('(' :: inner ++ ')' :: text)

/-- The tokens lead to the word: it is a name among them, or they use an equation
whose text leads to it. -/
inductive Reaches : List Token → Token → Prop where
  | here {tokens : List Token} {word : Token} (member : word ∈ tokens) (isName : IsName word) :
      Reaches tokens word
  | through {tokens : List Token} {name word : Token} {text : String} (member : name ∈ tokens)
      (defines : Defines spelling? defined name text)
      (next : Reaches (tokensOf text.toList) word) : Reaches tokens word

/-- The word is a keyword or the name of an equation. -/
def IsKnown (word : Token) : Prop :=
  (spelling? (String.ofList word)).isSome ∨ (defined.find? (String.ofList word)).isSome

/-- The text is accepted in the block of definitions. -/
def Accepted (text : String) : Prop :=
  ∃ checked, evaluate .definitions text = .ok checked

/-- An equation that has an expansion. -/
structure Meaningful (equation : String) : Prop where
  accepted : Accepted equation
  known : ∀ word, Reaches spelling? defined (tokensOf equation.toList) word →
    IsKnown spelling? defined word
  acyclic : ∀ name text, Reaches spelling? defined (tokensOf equation.toList) name →
    Defines spelling? defined name text → ¬ Reaches spelling? defined (tokensOf text.toList) name

end

section

variable {spelling? : String → Option String} {defined : Definitions}

/-! ## The number of rounds -/

/-- The word is expanded after this many rounds. -/
def Ends (spelling? : String → Option String) (defined : Definitions) : Nat → Token → Prop
  | 0, word => ∀ text, ¬ Defines spelling? defined word text
  | rounds + 1, word => ∀ text, Defines spelling? defined word text →
      ∀ inner ∈ tokensOf text.toList, Ends spelling? defined rounds inner

theorem Meaning.not_defines {token word : Token}
    (meaning : Meaning spelling? defined token (.token word)) (text : String) :
    ¬ Defines spelling? defined token text := by
  intro defines
  cases meaning.unique (.equation defines)

theorem ends_of_not_defines {word : Token} (kept : ∀ text, ¬ Defines spelling? defined word text)
    (rounds : Nat) : Ends spelling? defined rounds word := by
  cases rounds with
  | zero => exact kept
  | succ rounds => exact fun text defines => absurd defines (kept text)

/-- A round takes one off the number of rounds. -/
theorem ends_succ_iff (spelling : IsSpelling spelling?) {token : Token} {piece : Piece}
    (meaning : Meaning spelling? defined token piece) (rounds : Nat) :
    Ends spelling? defined (rounds + 1) token ↔
      ∀ inner ∈ piece.tokens, Ends spelling? defined rounds inner := by
  cases piece with
  | token word =>
    refine iff_of_true (ends_of_not_defines meaning.not_defines _) fun inner member => ?_
    obtain rfl := List.mem_singleton.1 member
    exact ends_of_not_defines (meaning.again spelling defined).not_defines rounds
  | expansion equation =>
    obtain ⟨text, defines, rfl⟩ := meaning.defines
    have bracket : ∀ {c : Char}, isMark c = true → Ends spelling? defined rounds [c] :=
      fun mark => ends_of_not_defines (IsMark.singleton mark).meaning.not_defines rounds
    simp only [Piece.tokens, List.forall_mem_cons, List.forall_mem_append, Ends]
    constructor
    · intro ends
      exact ⟨⟨bracket (by decide), ends text defines⟩, bracket (by decide),
        fun _ member => absurd member List.not_mem_nil⟩
    · rintro ⟨⟨_, ends⟩, _⟩ other defines'
      obtain rfl : text = other := Option.some.inj (defines.found.symm.trans defines'.found)
      exact ends

theorem ends_round_iff (spelling : IsSpelling spelling?) {tokens : List Token}
    (known : ∀ token ∈ tokens, (Scope.chart spelling? defined).Knows token) (rounds : Nat) :
    (∀ token ∈ tokens, Ends spelling? defined (rounds + 1) token) ↔
      ∀ token ∈ (Scope.chart spelling? defined).round tokens,
        Ends spelling? defined rounds token := by
  rw [Scope.round, List.forall_mem_flatMap]
  exact forall₂_congr fun token member =>
    ends_succ_iff spelling (meaning_iff.2 ⟨known token member, rfl⟩) rounds

/-! ## Expansions -/

namespace Expansion

theorem kept_iff {token word : Token} (meaning : Meaning spelling? defined token (.token word))
    {rest : List Token} {text : List Char} :
    Expansion spelling? defined (token :: rest) text ↔
      ∃ more, Expansion spelling? defined rest more ∧ text = word ++ more := by
  constructor
  · intro expansion
    cases expansion with
    | kept other next =>
      obtain rfl := Piece.token.inj (meaning.unique other)
      exact ⟨_, next, rfl⟩
    | expanded other _ _ => cases meaning.unique other
  · rintro ⟨more, next, rfl⟩
    exact .kept meaning next

theorem expanded_iff {token : Token} {equation : List Char}
    (meaning : Meaning spelling? defined token (.expansion equation)) {rest : List Token}
    {text : List Char} :
    Expansion spelling? defined (token :: rest) text ↔
      ∃ inner more, Expansion spelling? defined (tokensOf equation) inner ∧
        Expansion spelling? defined rest more ∧ text = '(' :: inner ++ ')' :: more := by
  constructor
  · intro expansion
    cases expansion with
    | kept other _ => cases meaning.unique other
    | expanded other inside next =>
      obtain rfl := Piece.expansion.inj (meaning.unique other)
      exact ⟨_, _, inside, next, rfl⟩
  · rintro ⟨inner, more, inside, next, rfl⟩
    exact .expanded meaning inside next

theorem nil_iff {text : List Char} : Expansion spelling? defined [] text ↔ text = [] := by
  constructor
  · intro expansion
    cases expansion
    rfl
  · rintro rfl
    exact .nil

theorem append_iff {front back : List Token} {text : List Char} :
    Expansion spelling? defined (front ++ back) text ↔
      ∃ first second, Expansion spelling? defined front first ∧
        Expansion spelling? defined back second ∧ text = first ++ second := by
  constructor
  · intro expansion
    induction front generalizing text with
    | nil => exact ⟨[], text, .nil, expansion, rfl⟩
    | cons token front ih =>
      rw [List.cons_append] at expansion
      cases expansion with
      | kept meaning next =>
        obtain ⟨first, second, left, right, rfl⟩ := ih next
        exact ⟨_, second, .kept meaning left, right, (List.append_assoc _ _ _).symm⟩
      | expanded meaning inside next =>
        obtain ⟨first, second, left, right, rfl⟩ := ih next
        exact ⟨_, second, .expanded meaning inside left, right,
          (List.append_assoc ('(' :: _) (')' :: _) _).symm⟩
  · rintro ⟨first, second, left, right, rfl⟩
    induction left with
    | nil => exact right
    | kept meaning _ ih =>
      rw [List.append_assoc]
      exact .kept meaning ih
    | expanded meaning inside _ _ ih =>
      rw [List.append_assoc]
      exact .expanded meaning inside ih

/-- Tokens have one expansion at most. -/
theorem unique {tokens : List Token} {first second : List Char}
    (left : Expansion spelling? defined tokens first)
    (right : Expansion spelling? defined tokens second) : first = second := by
  induction left generalizing second with
  | nil => exact (nil_iff.1 right).symm
  | kept meaning _ ih =>
    obtain ⟨more, next, rfl⟩ := (kept_iff meaning).1 right
    rw [ih next]
  | expanded meaning _ _ ihInside ih =>
    obtain ⟨inner, more, inside, next, rfl⟩ := (expanded_iff meaning).1 right
    rw [ihInside inside, ih next]

/-- All words of an expansion are known, and an equation among them has a
shorter expansion. -/
theorem mem {tokens : List Token} {text : List Char}
    (expansion : Expansion spelling? defined tokens text) {token : Token}
    (member : token ∈ tokens) : ∃ piece, Meaning spelling? defined token piece ∧
      ∀ equation, piece = .expansion equation →
        ∃ inner, Expansion spelling? defined (tokensOf equation) inner ∧
          inner.length < text.length := by
  induction expansion with
  | nil => cases member
  | @kept token word rest text meaning next ih =>
    rcases List.mem_cons.1 member with rfl | member
    · exact ⟨_, meaning, fun equation same => by cases same⟩
    · obtain ⟨piece, other, shorter⟩ := ih member
      refine ⟨piece, other, fun equation same => ?_⟩
      obtain ⟨inner, inside, less⟩ := shorter equation same
      refine ⟨inner, inside, ?_⟩
      rw [List.length_append]
      omega
  | @expanded token equation inner rest text meaning inside next _ ih =>
    rcases List.mem_cons.1 member with rfl | member
    · refine ⟨_, meaning, fun equation' same => ?_⟩
      obtain rfl := Piece.expansion.inj same
      refine ⟨inner, inside, ?_⟩
      simp only [List.cons_append, List.length_cons, List.length_append]
      omega
    · obtain ⟨piece, other, shorter⟩ := ih member
      refine ⟨piece, other, fun equation' same => ?_⟩
      obtain ⟨inner', inside', less⟩ := shorter equation' same
      refine ⟨inner', inside', ?_⟩
      simp only [List.cons_append, List.length_cons, List.length_append]
      omega

end Expansion

/-! ## Rounds until nothing is left -/

/-- Nothing is left to expand if every piece is a token. -/
theorem isFlat_iff {tokens : List Token}
    (known : ∀ token ∈ tokens, (Scope.chart spelling? defined).Knows token) :
    (tokens.map (Scope.chart spelling? defined).pieceOf).any Piece.isExpansion = false ↔
      ∀ token ∈ tokens, ∃ word, Meaning spelling? defined token (.token word) := by
  rw [List.any_map, List.any_eq_false]
  refine forall₂_congr fun token member => ?_
  have meaning := meaning_iff.2 ⟨known token member, rfl⟩
  rw [Function.comp_apply]
  cases piece : (Scope.chart spelling? defined).pieceOf token with
  | token word =>
    rw [piece] at meaning
    exact iff_of_true Bool.false_ne_true ⟨word, meaning⟩
  | expansion equation =>
    rw [piece] at meaning
    refine iff_of_false (fun token => token rfl) ?_
    rintro ⟨word, other⟩
    cases meaning.unique other

/-- The text of the pieces is the expansion, if nothing is left to expand. -/
theorem expansion_of_flat {tokens : List Token}
    (flat : ∀ token ∈ tokens, ∃ word, Meaning spelling? defined token (.token word)) :
    Expansion spelling? defined tokens
      (textOf (tokens.map (Scope.chart spelling? defined).pieceOf)) := by
  induction tokens with
  | nil => exact .nil
  | cons token rest ih =>
    obtain ⟨⟨word, meaning⟩, flat⟩ := List.forall_mem_cons.1 flat
    rw [List.map_cons, textOf, List.flatMap_cons, (meaning_iff.1 meaning).2]
    exact .kept meaning (ih flat)

/-- A round does not change what tokens expand to. -/
theorem expansion_round_iff (spelling : IsSpelling spelling?) {tokens : List Token}
    (known : ∀ token ∈ tokens, (Scope.chart spelling? defined).Knows token) {text : List Char} :
    Expansion spelling? defined ((Scope.chart spelling? defined).round tokens) text ↔
      Expansion spelling? defined tokens text := by
  induction tokens generalizing text with
  | nil => rfl
  | cons token rest ih =>
    obtain ⟨here, known⟩ := List.forall_mem_cons.1 known
    have meaning := meaning_iff.2 ⟨here, rfl⟩
    rw [round_cons]
    cases piece : (Scope.chart spelling? defined).pieceOf token with
    | token word =>
      rw [piece] at meaning
      rw [Piece.tokens, List.singleton_append, Expansion.kept_iff (meaning.again spelling defined),
        Expansion.kept_iff meaning]
      simp only [ih known]
    | expansion equation =>
      rw [piece] at meaning
      have opening : Meaning spelling? defined ['('] (.token ['(']) :=
        (IsMark.singleton (by decide)).meaning
      have closing : Meaning spelling? defined [')'] (.token [')']) :=
        (IsMark.singleton (by decide)).meaning
      rw [Piece.tokens, List.append_assoc, List.cons_append, Expansion.kept_iff opening,
        Expansion.expanded_iff meaning]
      simp only [Expansion.append_iff, List.singleton_append, Expansion.kept_iff closing, ih known]
      constructor
      · rintro ⟨_, ⟨inner, _, inside, ⟨more, next, rfl⟩, rfl⟩, rfl⟩
        exact ⟨inner, more, inside, next, rfl⟩
      · rintro ⟨inner, more, inside, next, rfl⟩
        exact ⟨_, ⟨inner, _, inside, ⟨more, next, rfl⟩, rfl⟩, rfl⟩

/-- Tokens that have an expansion are known. -/
theorem Expansion.knows {tokens : List Token} {text : List Char}
    (expansion : Expansion spelling? defined tokens text) :
    ∀ token ∈ tokens, (Scope.chart spelling? defined).Knows token := by
  intro token member
  obtain ⟨piece, meaning, _⟩ := expansion.mem member
  exact (meaning_iff.1 meaning).1

/-- The tokens of a text that is left when nothing is left to expand: each of
them stands for itself, whatever is defined. -/
structure Final (spelling? : String → Option String) (tokens : List Token) : Prop where
  separated : Separated tokens
  formed : Formed false false tokens
  itself : ∀ token ∈ tokens, ∀ others, Meaning spelling? others token (.token token)

/-- The defined equations are in order. -/
def InOrder (spelling? : String → Option String) (defined : Definitions) : Prop :=
  ∀ word text, Defines spelling? defined word text → Formed false false (tokensOf text.toList)

section

variable (spelling : IsSpelling spelling?) (inOrder : InOrder spelling? defined)
  {tokens : List Token} (separated : Separated tokens) (formed : Formed false false tokens)
  (known : ∀ token ∈ tokens, (Scope.chart spelling? defined).Knows token)

include spelling inOrder separated formed known in
/-- With a round left, the tokens after the round are checked and go on. -/
theorem settle_succ
    (notFlat : (tokens.map (Scope.chart spelling? defined).pieceOf).any Piece.isExpansion = true)
    {rounds : Nat} {text : List Char} :
    settle (.chart spelling? defined) (rounds + 1)
        (tokens.map (Scope.chart spelling? defined).pieceOf) = .ok text ↔
      (∀ token ∈ (Scope.chart spelling? defined).round tokens,
        (Scope.chart spelling? defined).Knows token) ∧
        settle (.chart spelling? defined) rounds
          (((Scope.chart spelling? defined).round tokens).map
            (Scope.chart spelling? defined).pieceOf) = .ok text := by
  have again := tokensOf_textOf spelling separated known
  have formed' := formed.round spelling inOrder known
  rw [settle, if_pos notFlat]
  simp only [bind_eq_ok, checkText_eq_ok_iff, again]
  constructor
  · rintro ⟨_, ⟨_, known', rfl⟩, next⟩
    exact ⟨known', next⟩
  · rintro ⟨known', next⟩
    exact ⟨_, ⟨formed', known', rfl⟩, next⟩

theorem settle_flat {scope : Scope} {pieces : List Piece}
    (flat : pieces.any Piece.isExpansion = false) (rounds : Nat) :
    settle scope rounds pieces = .ok (textOf pieces) := by
  cases rounds <;> rw [settle, if_neg (Bool.eq_false_iff.1 flat)]

include known in
/-- Without anything to expand, any number of rounds is enough. -/
theorem settle_flat_iff
    (flat : (tokens.map (Scope.chart spelling? defined).pieceOf).any Piece.isExpansion = false)
    {rounds : Nat} {text : List Char} :
    settle (.chart spelling? defined) rounds
        (tokens.map (Scope.chart spelling? defined).pieceOf) = .ok text ↔
      (∀ token ∈ tokens, Ends spelling? defined rounds token) ∧
        Expansion spelling? defined tokens text := by
  have kept := (isFlat_iff known).1 flat
  rw [settle_flat flat, Except.ok.injEq]
  constructor
  · rintro rfl
    refine ⟨fun token member => ?_, expansion_of_flat kept⟩
    obtain ⟨_, meaning⟩ := kept token member
    exact ends_of_not_defines meaning.not_defines _
  · rintro ⟨_, expansion⟩
    exact (expansion_of_flat kept).unique expansion

include spelling inOrder separated formed known in
/-- The rounds end with a text exactly if they are enough for every token, and
the text is the expansion then. -/
theorem settle_eq_ok_iff {rounds : Nat} {text : List Char} :
    settle (.chart spelling? defined) rounds
        (tokens.map (Scope.chart spelling? defined).pieceOf) = .ok text ↔
      (∀ token ∈ tokens, Ends spelling? defined rounds token) ∧
        Expansion spelling? defined tokens text := by
  induction rounds generalizing tokens with
  | zero =>
    cases flat : (tokens.map (Scope.chart spelling? defined).pieceOf).any Piece.isExpansion with
    | false => exact settle_flat_iff known flat
    | true =>
      rw [settle, if_pos flat]
      refine iff_of_false (fun stopped => by cases stopped) ?_
      rintro ⟨ends, _⟩
      refine absurd ((isFlat_iff known).2 fun token member => ?_) (by rw [flat]; decide)
      have meaning := meaning_iff.2 ⟨known token member, rfl⟩
      cases piece : (Scope.chart spelling? defined).pieceOf token with
      | token word => exact ⟨word, piece ▸ meaning⟩
      | expansion equation =>
        rw [piece] at meaning
        obtain ⟨text', defines, _⟩ := meaning.defines
        exact absurd defines (ends token member text')
  | succ rounds ih =>
    cases flat : (tokens.map (Scope.chart spelling? defined).pieceOf).any Piece.isExpansion with
    | false => exact settle_flat_iff known flat
    | true =>
      have separated' := separated_round spelling separated known
      have formed' := formed.round spelling inOrder known
      rw [settle_succ spelling inOrder separated formed known flat, ends_round_iff spelling known,
        ← expansion_round_iff spelling known]
      constructor
      · rintro ⟨known', next⟩
        exact (ih separated' formed' known').1 next
      · rintro ⟨ends, expansion⟩
        have known' := expansion.knows
        exact ⟨known', (ih separated' formed' known').2 ⟨ends, expansion⟩⟩

include spelling inOrder separated formed known in
/-- If nothing is left to expand, a round gives the tokens of the final text. -/
theorem final_round
    (flat : ∀ token ∈ tokens, ∃ word, Meaning spelling? defined token (.token word)) :
    Final spelling? ((Scope.chart spelling? defined).round tokens) ∧
      ((Scope.chart spelling? defined).round tokens).flatten =
        textOf (tokens.map (Scope.chart spelling? defined).pieceOf) := by
  refine ⟨⟨separated_round spelling separated known, formed.round spelling inOrder known, ?_⟩, ?_⟩
  · intro kept member others
    obtain ⟨token, inTokens, inPiece⟩ := List.mem_flatMap.1 member
    obtain ⟨word, meaning⟩ := flat token inTokens
    rw [(meaning_iff.1 meaning).2] at inPiece
    obtain rfl := List.mem_singleton.1 inPiece
    exact meaning.again spelling others
  · rw [Scope.round, textOf, List.flatMap_map, ← List.flatMap_id, List.flatMap_assoc]
    refine List.flatMap_congr fun token member => ?_
    obtain ⟨word, meaning⟩ := flat token member
    rw [(meaning_iff.1 meaning).2, Piece.tokens, Piece.text, List.flatMap_id,
      List.flatten_singleton]

include spelling separated known in
/-- Tokens that settle have nothing to expand, or settle after a round, of which one is left. -/
theorem settle_cases {rounds : Nat} {text : List Char}
    (settled : settle (.chart spelling? defined) rounds
      (tokens.map (Scope.chart spelling? defined).pieceOf) = .ok text) :
    ((∀ token ∈ tokens, ∃ word, Meaning spelling? defined token (.token word)) ∧
      textOf (tokens.map (Scope.chart spelling? defined).pieceOf) = text) ∨
    ∃ fewer, rounds = fewer + 1 ∧
      Formed false false ((Scope.chart spelling? defined).round tokens) ∧
      (∀ token ∈ (Scope.chart spelling? defined).round tokens,
        (Scope.chart spelling? defined).Knows token) ∧
      settle (.chart spelling? defined) fewer
        (((Scope.chart spelling? defined).round tokens).map
          (Scope.chart spelling? defined).pieceOf) = .ok text := by
  cases flat : (tokens.map (Scope.chart spelling? defined).pieceOf).any Piece.isExpansion with
  | false =>
    exact .inl ⟨(isFlat_iff known).1 flat,
      Except.ok.inj ((settle_flat flat _).symm.trans settled)⟩
  | true =>
    cases rounds with
    | zero =>
      rw [settle, if_pos flat] at settled
      cases settled
    | succ fewer =>
      rw [settle, if_pos flat] at settled
      simp only [bind_eq_ok, checkText_eq_ok_iff, tokensOf_textOf spelling separated known]
        at settled
      obtain ⟨_, ⟨formed', known', rfl⟩, next⟩ := settled
      exact .inr ⟨fewer, rfl, formed', known', next⟩

include spelling separated formed known in
/-- What tokens without anything to expand have, and tokens whose round has it, all tokens have
that settle. -/
theorem settle_induction {motive : List Token → Prop} {text : List Char}
    (last : ∀ {tokens}, Separated tokens → Formed false false tokens →
      (∀ token ∈ tokens, (Scope.chart spelling? defined).Knows token) →
      (∀ token ∈ tokens, ∃ word, Meaning spelling? defined token (.token word)) →
      textOf (tokens.map (Scope.chart spelling? defined).pieceOf) = text → motive tokens)
    (before : ∀ {tokens}, (∀ token ∈ tokens, (Scope.chart spelling? defined).Knows token) →
      motive ((Scope.chart spelling? defined).round tokens) → motive tokens)
    {rounds : Nat}
    (settled : settle (.chart spelling? defined) rounds
      (tokens.map (Scope.chart spelling? defined).pieceOf) = .ok text) : motive tokens := by
  induction rounds using Nat.strong_induction_on generalizing tokens with
  | _ rounds ih =>
    rcases settle_cases spelling separated known settled with
      ⟨flat, joined⟩ | ⟨fewer, rfl, formed', known', next⟩
    · exact last separated formed known flat joined
    · exact before known (ih fewer (Nat.lt_succ_self fewer)
        (separated_round spelling separated known) formed' known' next)

include spelling inOrder separated formed known in
/-- The rounds end with the text of final tokens. -/
theorem exists_final {rounds : Nat} {text : List Char}
    (settled : settle (.chart spelling? defined) rounds
      (tokens.map (Scope.chart spelling? defined).pieceOf) = .ok text) :
    ∃ final, Final spelling? final ∧ final.flatten = text := by
  refine settle_induction
    (motive := fun _ => ∃ final, Final spelling? final ∧ final.flatten = text)
    spelling separated formed known ?_ ?_ settled
  · rintro tokens separated formed known flat rfl
    exact ⟨_, final_round spelling inOrder separated formed known flat⟩
  · exact fun _ final => final

end

/-! ## Names that lead back to themselves -/

/-- A name has a meaning exactly if it is known. -/
theorem isKnown_iff {word : Token} (isName : IsName word) :
    IsKnown spelling? defined word ↔ (Scope.chart spelling? defined).Knows word := by
  rw [IsKnown, Option.isSome_iff_exists, Option.isSome_iff_exists]
  constructor
  · intro known _
    cases spelled : spelling? (String.ofList word) with
    | some name => exact ⟨_, resolve_keyword spelled⟩
    | none =>
      obtain ⟨_, spelled'⟩ | ⟨text, found⟩ := known
      · rw [spelled] at spelled'
        cases spelled'
      · exact ⟨_, Defines.resolve ⟨isName, spelled, found⟩⟩
  · intro known
    obtain ⟨_, resolved⟩ := known isName
    rcases resolve_eq_ok resolved with ⟨name, spelled, _⟩ | ⟨text, _, found, _⟩
    · exact .inl ⟨name, spelled⟩
    · exact .inr ⟨text, found⟩

/-- Every token is known if every word that the tokens lead to is. -/
theorem knows_of_reaches {tokens : List Token}
    (known : ∀ word, Reaches spelling? defined tokens word → IsKnown spelling? defined word) :
    ∀ token ∈ tokens, (Scope.chart spelling? defined).Knows token :=
  fun token member isName => (isKnown_iff isName).1 (known token (.here member isName)) isName

/-- Every word that tokens with an expansion lead to has a meaning, and an
equation among them has a shorter expansion. -/
theorem Expansion.reached {tokens : List Token} {text : List Char}
    (expansion : Expansion spelling? defined tokens text) {word : Token}
    (reaches : Reaches spelling? defined tokens word) :
    ∃ piece, Meaning spelling? defined word piece ∧
      ∀ equation, piece = .expansion equation →
        ∃ inner, Expansion spelling? defined (tokensOf equation) inner ∧
          inner.length < text.length := by
  induction reaches generalizing text with
  | here member _ => exact expansion.mem member
  | through member defines _ ih =>
    obtain ⟨piece, meaning, shorter⟩ := expansion.mem member
    obtain ⟨inner, inside, less⟩ := shorter _ (meaning.unique (.equation defines))
    obtain ⟨piece', meaning', shorter'⟩ := ih inside
    refine ⟨piece', meaning', fun equation same => ?_⟩
    obtain ⟨inner', inside', less'⟩ := shorter' equation same
    exact ⟨inner', inside', less'.trans less⟩

/-- No name leads back to itself if there is an expansion, which would have to be
longer than itself. -/
theorem Expansion.acyclic {tokens : List Token} {text : List Char}
    (expansion : Expansion spelling? defined tokens text) {name : Token} {equation : String}
    (reaches : Reaches spelling? defined tokens name)
    (defines : Defines spelling? defined name equation) :
    ¬ Reaches spelling? defined (tokensOf equation.toList) name := by
  intro back
  obtain ⟨piece, meaning, shorter⟩ := expansion.reached reaches
  obtain ⟨inner, inside, _⟩ := shorter _ (meaning.unique (.equation defines))
  obtain ⟨piece', meaning', shorter'⟩ := inside.reached back
  obtain ⟨inner', inside', less⟩ := shorter' _ (meaning'.unique (.equation defines))
  rw [inside.unique inside'] at less
  exact Nat.lt_irrefl _ less

/-- Tokens expand if each of them does. -/
theorem exists_expansion {tokens : List Token}
    (each : ∀ token ∈ tokens, ∃ text, Expansion spelling? defined [token] text) :
    ∃ text, Expansion spelling? defined tokens text := by
  induction tokens with
  | nil => exact ⟨[], .nil⟩
  | cons token rest ih =>
    obtain ⟨⟨first, here⟩, each⟩ := List.forall_mem_cons.1 each
    obtain ⟨second, next⟩ := ih each
    exact ⟨first ++ second, Expansion.append_iff.2 ⟨first, second, here, next, rfl⟩⟩

theorem mem_of_find? {name text : String} (found : defined.find? name = some text) :
    (name, text) ∈ defined := by
  obtain ⟨front, back, same, _⟩ := List.lookup_eq_some_iff.1 found
  rw [same]
  exact List.mem_append_right front List.mem_cons_self

/-- A name that has not been seen on the way leaves room for a longer way. -/
theorem lengthen {seen : List Token} (different : (seen.map String.ofList).Nodup)
    (among : seen.map String.ofList ⊆ defined.map Prod.fst) {name : Token} {text : String}
    (defines : Defines spelling? defined name text) (unseen : name ∉ seen) :
    ((name :: seen).map String.ofList).Nodup ∧
      (name :: seen).map String.ofList ⊆ defined.map Prod.fst ∧
        seen.length + 1 ≤ defined.length := by
  have different' : ((name :: seen).map String.ofList).Nodup := by
    have injective : Function.Injective String.ofList := fun _ _ => String.ofList_injective
    rw [List.map_cons, List.nodup_cons, List.mem_map_of_injective injective]
    exact ⟨unseen, different⟩
  have among' : (name :: seen).map String.ofList ⊆ defined.map Prod.fst := by
    rw [List.map_cons, List.cons_subset]
    exact ⟨List.mem_map.2 ⟨_, mem_of_find? defines.found, rfl⟩, among⟩
  refine ⟨different', among', ?_⟩
  have enough := (different'.subperm among').length_le
  rwa [List.length_map, List.length_map, List.length_cons] at enough

/-- Without a circle, every token is expanded after as many rounds as there are
definitions that have not been seen on the way to it. -/
theorem expansion_of_acyclic {tokens : List Token}
    (known : ∀ word, Reaches spelling? defined tokens word → IsKnown spelling? defined word)
    (acyclic : ∀ name text, Reaches spelling? defined tokens name →
      Defines spelling? defined name text →
        ¬ Reaches spelling? defined (tokensOf text.toList) name)
    (seen : List Token) (different : (seen.map String.ofList).Nodup)
    (among : seen.map String.ofList ⊆ defined.map Prod.fst)
    (unseen : ∀ word, Reaches spelling? defined tokens word → word ∉ seen)
    (rounds : Nat) (room : rounds + seen.length = defined.length) :
    (∀ token ∈ tokens, Ends spelling? defined rounds token) ∧
      ∃ text, Expansion spelling? defined tokens text := by
  induction rounds generalizing tokens seen with
  | zero =>
    have kept : ∀ token ∈ tokens, ∃ word, Meaning spelling? defined token (.token word) := by
      intro token member
      have meaning := meaning_iff.2 ⟨knows_of_reaches known token member, rfl⟩
      cases piece : (Scope.chart spelling? defined).pieceOf token with
      | token word => exact ⟨word, piece ▸ meaning⟩
      | expansion equation =>
        obtain ⟨text, defines, _⟩ := (piece ▸ meaning).defines
        obtain ⟨_, _, less⟩ :=
          lengthen different among defines (unseen token (.here member defines.isName))
        omega
    refine ⟨fun token member => ?_, _, expansion_of_flat kept⟩
    obtain ⟨word, meaning⟩ := kept token member
    exact meaning.not_defines
  | succ rounds ih =>
    have each : ∀ token ∈ tokens, Ends spelling? defined (rounds + 1) token ∧
        ∃ text, Expansion spelling? defined [token] text := by
      intro token member
      have meaning := meaning_iff.2 ⟨knows_of_reaches known token member, rfl⟩
      cases piece : (Scope.chart spelling? defined).pieceOf token with
      | token word =>
        rw [piece] at meaning
        exact ⟨ends_of_not_defines meaning.not_defines _, _, .kept meaning .nil⟩
      | expansion equation =>
        rw [piece] at meaning
        obtain ⟨text, defines, rfl⟩ := meaning.defines
        have reached : Reaches spelling? defined tokens token := .here member defines.isName
        obtain ⟨different', among', _⟩ := lengthen different among defines (unseen token reached)
        have further : ∀ {word : Token}, Reaches spelling? defined (tokensOf text.toList) word →
            Reaches spelling? defined tokens word := .through member defines
        have unseen' : ∀ word, Reaches spelling? defined (tokensOf text.toList) word →
            word ∉ token :: seen := by
          intro word reaches
          refine List.not_mem_cons_of_ne_of_not_mem ?_ (unseen word (further reaches))
          rintro rfl
          exact acyclic word text reached defines reaches
        obtain ⟨ends, inner, inside⟩ := ih (fun word reaches => known word (further reaches))
          (fun name text reaches => acyclic name text (further reaches))
          (token :: seen) different' among' unseen' (by rw [List.length_cons]; omega)
        refine ⟨fun other defines' => ?_, _, .expanded meaning inside .nil⟩
        obtain rfl : text = other := Option.some.inj (defines.found.symm.trans defines'.found)
        exact ends
    exact ⟨fun token member => (each token member).1,
      exists_expansion fun token member => (each token member).2⟩

/-! ## Evaluation -/

/-- Only nothing expands to nothing. -/
theorem Expansion.eq_nil_iff (spelling : IsSpelling spelling?) {tokens : List Token}
    (separated : Separated tokens) {text : List Char}
    (expansion : Expansion spelling? defined tokens text) : text = [] ↔ tokens = [] := by
  cases expansion with
  | nil => exact iff_of_true rfl rfl
  | expanded _ _ _ => exact iff_of_false (List.cons_ne_nil _ _) (List.cons_ne_nil _ _)
  | kept meaning next =>
    refine iff_of_false (fun empty => ?_) (List.cons_ne_nil _ _)
    obtain ⟨empty, -⟩ := List.append_eq_nil_iff.1 empty
    rcases separated.head with mark | plain
    · obtain rfl := Piece.token.inj (meaning.unique mark.meaning)
      obtain ⟨c, _, same⟩ := mark
      rw [same] at empty
      cases empty
    · exact (meaning.separable spelling plain).nonempty empty

/-- An equation is evaluated to its expansion, if its tokens are in order and the
rounds are enough. -/
theorem evaluate_eq_ok_iff (spelling : IsSpelling spelling?) (inOrder : InOrder spelling? defined)
    {equation text : String} :
    evaluate (.chart spelling? defined) equation = .ok text ↔
      (Formed false false (tokensOf equation.toList) ∧ tokensOf equation.toList ≠ []) ∧
        (∀ token ∈ tokensOf equation.toList, Ends spelling? defined defined.length token) ∧
          Expansion spelling? defined (tokensOf equation.toList) text.toList := by
  have separated := separated_tokensOf equation.toList
  rw [evaluate]
  simp only [bind_eq_ok, checkText_eq_ok_iff, Scope.size]
  constructor
  · rintro ⟨_, ⟨formed, known, rfl⟩, out, settled, final⟩
    obtain ⟨ends, expansion⟩ :=
      (settle_eq_ok_iff spelling inOrder separated formed known).1 settled
    have nonempty := (expansion.eq_nil_iff spelling separated).not
    by_cases empty : out = []
    · rw [if_pos (List.isEmpty_iff.2 empty)] at final
      cases final
    · rw [if_neg (List.isEmpty_iff.not.2 empty)] at final
      obtain rfl := Except.ok.inj final
      rw [String.toList_ofList]
      exact ⟨⟨formed, nonempty.1 empty⟩, ends, expansion⟩
  · rintro ⟨⟨formed, nonempty⟩, ends, expansion⟩
    have known := expansion.knows
    refine ⟨_, ⟨formed, known, rfl⟩, text.toList,
      (settle_eq_ok_iff spelling inOrder separated formed known).2 ⟨ends, expansion⟩, ?_⟩
    have full := (expansion.eq_nil_iff spelling separated).not.2 nonempty
    rw [if_neg (List.isEmpty_iff.not.2 full), String.ofList_toList]

/-- In the block of definitions every word is a keyword. -/
theorem evaluate_definitions (equation : String) :
    evaluate .definitions equation = evaluate (.chart some []) equation := by
  have same : ∀ word, Scope.definitions.resolve word = (Scope.chart some []).resolve word := by
    intro word
    simp only [Scope.resolve, String.toList_ofList]
  exact evaluate_congr same rfl equation

theorem not_defines_nil (word : Token) (text : String) : ¬ Defines spelling? [] word text := by
  rintro ⟨_, _, found⟩
  cases found

theorem inOrder_nil : InOrder spelling? [] :=
  fun word text defines => absurd defines (not_defines_nil word text)

/-- A text is accepted in the block of definitions exactly if its tokens are in
order and there is one. -/
theorem accepted_iff {text : String} :
    Accepted text ↔ Formed false false (tokensOf text.toList) ∧ tokensOf text.toList ≠ [] := by
  simp only [Accepted, evaluate_definitions, evaluate_eq_ok_iff isSpelling_some inOrder_nil]
  constructor
  · rintro ⟨_, accepted, _⟩
    exact accepted
  · intro accepted
    have known : ∀ token ∈ tokensOf text.toList, (Scope.chart some []).Knows token :=
      fun token _ isName => (isKnown_iff isName).1 (.inl rfl) isName
    have kept : ∀ token ∈ tokensOf text.toList, ∃ word, Meaning some [] token (.token word) := by
      intro token member
      have meaning := meaning_iff.2 ⟨known token member, rfl⟩
      cases piece : (Scope.chart some []).pieceOf token with
      | token word => exact ⟨word, piece ▸ meaning⟩
      | expansion equation =>
        obtain ⟨text', defines, _⟩ := (piece ▸ meaning).defines
        exact absurd defines (not_defines_nil token text')
    have expansion := expansion_of_flat kept
    generalize textOf _ = out at expansion
    refine ⟨String.ofList out, accepted, fun token _ => ?_, ?_⟩
    · exact ends_of_not_defines (not_defines_nil token) _
    · rw [String.toList_ofList]
      exact expansion

/-- Definitions whose texts were accepted are in order. -/
theorem inOrder_of_accepted (accepted : ∀ entry ∈ defined, Accepted entry.2) :
    InOrder spelling? defined :=
  fun _ _ defines => (accepted_iff.1 (accepted _ (mem_of_find? defines.found))).1

theorem Reaches.of_cons {rest : List Token} {word : Token}
    (reaches : Reaches spelling? defined rest word) (token : Token) :
    Reaches spelling? defined (token :: rest) word := by
  cases reaches with
  | here member isName => exact .here (List.mem_cons_of_mem token member) isName
  | through member defines next => exact .through (List.mem_cons_of_mem token member) defines next

theorem Reaches.isName {tokens : List Token} {word : Token}
    (reaches : Reaches spelling? defined tokens word) : IsName word := by
  induction reaches with
  | here _ isName => exact isName
  | through _ _ _ ih => exact ih

/-- An equation that is accepted is meaningful. -/
theorem meaningful_of_expansion {equation : String} {text : List Char}
    (accepted : Accepted equation)
    (expansion : Expansion spelling? defined (tokensOf equation.toList) text) :
    Meaningful spelling? defined equation where
  accepted := accepted
  known := by
    intro word reaches
    obtain ⟨piece, meaning, _⟩ := expansion.reached reaches
    exact (isKnown_iff reaches.isName).2 (meaning_iff.1 meaning).1
  acyclic := fun _ _ reaches defines => expansion.acyclic reaches defines

/-- A meaningful equation expands within as many rounds as there are
definitions. -/
theorem Meaningful.expansion {equation : String}
    (meaningful : Meaningful spelling? defined equation) :
    (∀ token ∈ tokensOf equation.toList, Ends spelling? defined defined.length token) ∧
      ∃ text, Expansion spelling? defined (tokensOf equation.toList) text :=
  expansion_of_acyclic meaningful.known meaningful.acyclic [] List.nodup_nil (List.nil_subset _)
    (fun _ _ => List.not_mem_nil) defined.length rfl

/-- An equation is evaluated exactly if it is meaningful, to its expansion. -/
theorem evaluate_eq_ok_iff_meaningful (spelling : IsSpelling spelling?)
    (accepted : ∀ entry ∈ defined, Accepted entry.2) {equation text : String} :
    evaluate (.chart spelling? defined) equation = .ok text ↔
      Meaningful spelling? defined equation ∧
        Expansion spelling? defined (tokensOf equation.toList) text.toList := by
  rw [evaluate_eq_ok_iff spelling (inOrder_of_accepted accepted), ← accepted_iff]
  constructor
  · rintro ⟨accepted, _, expansion⟩
    exact ⟨meaningful_of_expansion accepted expansion, expansion⟩
  · rintro ⟨meaningful, expansion⟩
    exact ⟨meaningful.accepted, meaningful.expansion.1, expansion⟩

/-- An equation is evaluated to the text of final tokens. -/
theorem exists_final_of_evaluate (spelling : IsSpelling spelling?)
    (accepted : ∀ entry ∈ defined, Accepted entry.2) {equation text : String}
    (evaluated : evaluate (.chart spelling? defined) equation = .ok text) :
    ∃ final, Final spelling? final ∧ final ≠ [] ∧ final.flatten = text.toList := by
  rw [evaluate] at evaluated
  simp only [bind_eq_ok, checkText_eq_ok_iff] at evaluated
  obtain ⟨_, ⟨formed, known, rfl⟩, out, settled, last⟩ := evaluated
  obtain ⟨final, isFinal, rfl⟩ := exists_final spelling (inOrder_of_accepted accepted)
    (separated_tokensOf equation.toList) formed known settled
  cases final with
  | nil => cases last
  | cons token rest =>
    refine ⟨token :: rest, isFinal, List.cons_ne_nil _ _, ?_⟩
    have full : (token :: rest).flatten ≠ [] := by
      have nonempty : token ≠ [] := by
        rcases isFinal.separated.head with ⟨_, _, rfl⟩ | plain
        · exact List.cons_ne_nil _ _
        · exact plain.nonempty
      rw [List.flatten_cons]
      exact fun empty => nonempty (List.append_eq_nil_iff.1 empty).1
    rw [if_neg (List.isEmpty_iff.not.2 full)] at last
    rw [← Except.ok.inj last, String.toList_ofList]

/-- The text of final tokens stays as it is. -/
theorem evaluate_final {final : List Token} (isFinal : Final spelling? final)
    (nonempty : final ≠ []) {text : String} (joined : final.flatten = text.toList)
    (others : Definitions) : evaluate (.chart spelling? others) text = .ok text := by
  have again : tokensOf text.toList = final := joined ▸ isFinal.separated.tokensOf_flatten
  have known : ∀ token ∈ final, (Scope.chart spelling? others).Knows token :=
    fun token member => (meaning_iff.1 (isFinal.itself token member others)).1
  have pieces : final.map (Scope.chart spelling? others).pieceOf = final.map Piece.token :=
    List.map_congr_left fun token member =>
      (meaning_iff.1 (isFinal.itself token member others)).2
  have flat : (final.map Piece.token).any Piece.isExpansion = false := by
    rw [List.any_map, List.any_eq_false]
    exact fun _ _ => Bool.false_ne_true
  have same : textOf (final.map Piece.token) = text.toList := by
    rw [textOf, List.flatMap_map, ← joined, ← List.flatMap_id]
    rfl
  have full : text.toList ≠ [] := by
    intro empty
    rw [empty] at again
    exact nonempty again.symm
  have checked : checkText (.chart spelling? others) text.toList =
      .ok (final.map Piece.token) := by
    rw [checkText_eq_ok_iff, again, pieces]
    exact ⟨isFinal.formed, known, rfl⟩
  rw [evaluate, checked]
  change (settle _ _ _ >>= _) = _
  rw [settle_flat flat, same]
  change (if _ then _ else _) = _
  rw [if_neg (List.isEmpty_iff.not.2 full), String.ofList_toList]

/-- The value of an equation is its own value, whatever is defined. -/
theorem evaluate_again (spelling : IsSpelling spelling?)
    (accepted : ∀ entry ∈ defined, Accepted entry.2) {equation text : String}
    (evaluated : evaluate (.chart spelling? defined) equation = .ok text) (others : Definitions) :
    evaluate (.chart spelling? others) text = .ok text := by
  obtain ⟨final, isFinal, nonempty, joined⟩ :=
    exists_final_of_evaluate spelling accepted evaluated
  exact evaluate_final isFinal nonempty joined others

/-- What is kept of a definition is accepted as well. -/
theorem accepted_of_evaluate {equation text : String}
    (evaluated : evaluate .definitions equation = .ok text) : Accepted text := by
  rw [evaluate_definitions] at evaluated
  have again := evaluate_again isSpelling_some (fun _ member => absurd member List.not_mem_nil)
    evaluated []
  exact ⟨text, (evaluate_definitions text).trans again⟩

/-! ## Circles -/

/-- A token after a round stands for itself, or comes from a defined equation. -/
theorem mem_round (spelling : IsSpelling spelling?) {tokens : List Token}
    (known : ∀ token ∈ tokens, (Scope.chart spelling? defined).Knows token) {inner : Token}
    (member : inner ∈ (Scope.chart spelling? defined).round tokens) :
    Meaning spelling? defined inner (.token inner) ∨
      ∃ token ∈ tokens, ∃ text, Defines spelling? defined token text ∧
        inner ∈ tokensOf text.toList := by
  obtain ⟨token, inTokens, inPiece⟩ := List.mem_flatMap.1 member
  have meaning := meaning_iff.2 ⟨known token inTokens, rfl⟩
  cases piece : (Scope.chart spelling? defined).pieceOf token with
  | token kept =>
    rw [piece] at inPiece meaning
    obtain rfl := List.mem_singleton.1 inPiece
    exact .inl (meaning.again spelling defined)
  | expansion equation =>
    rw [piece] at inPiece meaning
    obtain ⟨text, defines, rfl⟩ := meaning.defines
    simp only [Piece.tokens, List.cons_append, List.mem_cons, List.mem_append,
      List.not_mem_nil, or_false] at inPiece
    rcases inPiece with rfl | inside | rfl
    · exact .inl (IsMark.singleton (by decide)).meaning
    · exact .inr ⟨token, inTokens, text, defines, inside⟩
    · exact .inl (IsMark.singleton (by decide)).meaning

/-- A round leads to known words only, if the tokens do. -/
theorem isKnown_of_reaches_round (spelling : IsSpelling spelling?) {tokens : List Token}
    (known : ∀ word, Reaches spelling? defined tokens word → IsKnown spelling? defined word)
    {word : Token}
    (reaches : Reaches spelling? defined ((Scope.chart spelling? defined).round tokens) word) :
    IsKnown spelling? defined word := by
  have knows := knows_of_reaches known
  cases reaches with
  | here member isName =>
    rcases mem_round spelling knows member with meaning | ⟨token, inTokens, text, defines, inside⟩
    · exact (isKnown_iff isName).2 (meaning_iff.1 meaning).1
    · exact known word (.through inTokens defines (.here inside isName))
  | through member defines next =>
    rcases mem_round spelling knows member with meaning | ⟨token, inTokens, text, defines', inside⟩
    · exact absurd defines (meaning.not_defines _)
    · exact known word (.through inTokens defines' (.through inside defines next))

theorem any_isExpansion_of_stopped {scope : Scope} {rounds : Nat} {pieces : List Piece}
    {mistake : Mistake} (stopped : settle scope rounds pieces = .error mistake) :
    pieces.any Piece.isExpansion = true := by
  by_contra flat
  rw [settle_flat (Bool.eq_false_iff.2 flat)] at stopped
  cases stopped

/-- If every word that the tokens lead to is known, only a circle stops the
rounds. -/
theorem settle_error (spelling : IsSpelling spelling?) (inOrder : InOrder spelling? defined)
    {tokens : List Token} (separated : Separated tokens) (formed : Formed false false tokens)
    (known : ∀ word, Reaches spelling? defined tokens word → IsKnown spelling? defined word)
    {rounds : Nat} {mistake : Mistake}
    (stopped : settle (.chart spelling? defined) rounds
      (tokens.map (Scope.chart spelling? defined).pieceOf) = .error mistake) :
    mistake = .circular := by
  induction rounds generalizing tokens with
  | zero =>
    have expands := any_isExpansion_of_stopped stopped
    rw [settle, if_pos expands] at stopped
    exact (Except.error.inj stopped).symm
  | succ rounds ih =>
    have expands := any_isExpansion_of_stopped stopped
    have knows := knows_of_reaches known
    have known' : ∀ word, Reaches spelling? defined
        ((Scope.chart spelling? defined).round tokens) word → IsKnown spelling? defined word :=
      fun _ => isKnown_of_reaches_round spelling known
    have formed' := formed.round spelling inOrder knows
    have checked := checkText_eq_ok_iff.2 (by
      rw [tokensOf_textOf spelling separated knows]
      exact ⟨formed', knows_of_reaches known', rfl⟩)
    rw [settle, if_pos expands, checked] at stopped
    exact ih (separated_round spelling separated knows) formed' known' stopped

/-- An equation in order whose words are all known is evaluated, or there is a
circle. -/
theorem evaluate_error (spelling : IsSpelling spelling?)
    (accepted : ∀ entry ∈ defined, Accepted entry.2) {equation : String}
    (inOrder : Accepted equation)
    (known : ∀ word, Reaches spelling? defined (tokensOf equation.toList) word →
      IsKnown spelling? defined word)
    {mistake : Mistake} (stopped : evaluate (.chart spelling? defined) equation = .error mistake) :
    mistake = .circular := by
  obtain ⟨formed, nonempty⟩ := accepted_iff.1 inOrder
  have separated := separated_tokensOf equation.toList
  have knows := knows_of_reaches known
  have checked := checkText_eq_ok_iff.2 ⟨formed, knows, rfl⟩
  rw [evaluate, checked] at stopped
  cases settled : settle (.chart spelling? defined) (Scope.chart spelling? defined).size
      ((tokensOf equation.toList).map (Scope.chart spelling? defined).pieceOf) with
  | error other =>
    obtain rfl := settle_error spelling (inOrder_of_accepted accepted) separated formed known settled
    change (settle _ _ _ >>= _) = _ at stopped
    rw [settled] at stopped
    exact (Except.error.inj stopped).symm
  | ok text =>
    obtain ⟨_, expansion⟩ := (settle_eq_ok_iff spelling (inOrder_of_accepted accepted) separated
      formed knows).1 settled
    have full := (expansion.eq_nil_iff spelling separated).not.2 nonempty
    change (settle _ _ _ >>= _) = _ at stopped
    rw [settled] at stopped
    change (if _ then _ else _) = _ at stopped
    rw [if_neg (List.isEmpty_iff.not.2 full)] at stopped
    cases stopped

/-! ## Definitions that agree -/

section

variable {others : Definitions} {tokens : List Token}

/-- With other definitions that agree on all names that tokens lead to, nothing else is reached. -/
theorem Reaches.of_agree {word : Token} (reaches : Reaches spelling? others tokens word)
    (same : ∀ name, Reaches spelling? defined tokens name →
      others.find? (String.ofList name) = defined.find? (String.ofList name)) :
    Reaches spelling? defined tokens word := by
  induction reaches with
  | here member isName => exact .here member isName
  | @through tokens name word text member defines next ih =>
    obtain ⟨isName, noKeyword, found⟩ := defines
    have defines' : Defines spelling? defined name text :=
      ⟨isName, noKeyword, (same name (.here member isName)).symm.trans found⟩
    exact .through member defines' (ih fun name' reaches => same name' (.through member defines' reaches))

/-- The expansion depends only on what is defined for the names that the tokens
lead to. -/
theorem Expansion.agree {text : List Char} (expansion : Expansion spelling? defined tokens text)
    (same : ∀ name, Reaches spelling? defined tokens name →
      others.find? (String.ofList name) = defined.find? (String.ofList name)) :
    Expansion spelling? others tokens text := by
  induction expansion with
  | nil => exact .nil
  | @kept token word rest text meaning _ ih =>
    have meaning' : Meaning spelling? others token (.token word) := by
      cases meaning with
      | plain notWord => exact .plain notWord
      | function isWord named => exact .function isWord named
      | keyword isName spelled => exact .keyword isName spelled
    exact .kept meaning' (ih fun name reaches => same name (reaches.of_cons token))
  | @expanded token equation inner rest text meaning _ _ ihInside ih =>
    obtain ⟨equation, defines, rfl⟩ := meaning.defines
    have found := same token (.here List.mem_cons_self defines.isName)
    refine .expanded (.equation ⟨defines.isName, defines.noKeyword, found.trans defines.found⟩)
      (ihInside fun name reaches => same name (.through List.mem_cons_self defines reaches))
      (ih fun name reaches => same name (reaches.of_cons token))

end

/-- An equation is evaluated to the same text with all definitions that agree on
the names that it leads to. -/
theorem evaluate_agree (spelling : IsSpelling spelling?) {others : Definitions}
    (accepted : ∀ entry ∈ defined, Accepted entry.2) (accepted' : ∀ entry ∈ others, Accepted entry.2)
    {equation : String}
    (same : ∀ name, Reaches spelling? defined (tokensOf equation.toList) name →
      others.find? (String.ofList name) = defined.find? (String.ofList name)) {text : String}
    (evaluated : evaluate (.chart spelling? defined) equation = .ok text) :
    evaluate (.chart spelling? others) equation = .ok text := by
  rw [evaluate_eq_ok_iff_meaningful spelling accepted] at evaluated
  rw [evaluate_eq_ok_iff_meaningful spelling accepted']
  obtain ⟨meaningful, expansion⟩ := evaluated
  have expansion' := expansion.agree same
  exact ⟨meaningful_of_expansion meaningful.accepted expansion', expansion'⟩

/-- With different names, an equation is found exactly if it is defined. -/
theorem find?_eq_some_iff (different : (defined.map Prod.fst).Nodup) {name text : String} :
    defined.find? name = some text ↔ (name, text) ∈ defined := by
  refine ⟨mem_of_find?, fun member => ?_⟩
  induction defined with
  | nil => cases member
  | cons entry defined ih =>
    obtain ⟨key, value⟩ := entry
    rw [List.map_cons, List.nodup_cons] at different
    rw [Definitions.find?, List.lookup_cons]
    rcases List.mem_cons.1 member with same | member
    · obtain ⟨rfl, rfl⟩ := Prod.mk.inj same
      rw [beq_self_eq_true]
    · have other : (name == key) = false := by
        refine beq_eq_false_iff_ne.2 fun same => different.1 ?_
        rw [← same]
        exact List.mem_map.2 ⟨_, member, rfl⟩
      rw [other]
      exact ih different.2 member

/-- The order of definitions with different names does not matter. -/
theorem evaluate_perm {others : Definitions} (reordered : others.Perm defined)
    (different : (defined.map Prod.fst).Nodup) (equation : String) :
    evaluate (.chart spelling? others) equation = evaluate (.chart spelling? defined) equation := by
  have found : ∀ name, others.find? name = defined.find? name := by
    intro name
    refine Option.ext fun text => ?_
    rw [find?_eq_some_iff ((reordered.map Prod.fst).nodup_iff.2 different),
      find?_eq_some_iff different, reordered.mem_iff]
  have size : (Scope.chart spelling? others).size = (Scope.chart spelling? defined).size :=
    reordered.length_eq
  have same : ∀ word, (Scope.chart spelling? others).resolve word =
      (Scope.chart spelling? defined).resolve word := by
    intro word
    simp only [Scope.resolve, found]
  exact evaluate_congr same size equation

end

/-! ## The meaning of an equation -/

/-- With keywords of a range and any definitions whose texts were accepted, an
equation is evaluated exactly if it is in order itself, every word that it leads
to is known and no name leads back to itself. Its value is its full expansion,
without blanks. A circle among known words is found as such. And neither the
order of the definitions matters nor those that the equation does not lead to. -/
theorem equation_means_its_expansion (tables : Tables) (range : DataRange)
    (defined : Definitions) (accepted : ∀ entry ∈ defined, Accepted entry.2) (equation : String) :
    ((∃ text, evaluate (.chart (spellingIn tables range) defined) equation = .ok text) ↔
      Meaningful (spellingIn tables range) defined equation) ∧
    (∀ text, evaluate (.chart (spellingIn tables range) defined) equation = .ok text ↔
      Meaningful (spellingIn tables range) defined equation ∧
        Expansion (spellingIn tables range) defined (tokensOf equation.toList) text.toList) ∧
    (∀ text, evaluate (.chart (spellingIn tables range) defined) equation = .ok text →
      ∀ c ∈ text.toList, isBlank c = false) ∧
    (Accepted equation →
      (∀ word, Reaches (spellingIn tables range) defined (tokensOf equation.toList) word →
        IsKnown (spellingIn tables range) defined word) →
      (∃ name text, Reaches (spellingIn tables range) defined (tokensOf equation.toList) name ∧
        Defines (spellingIn tables range) defined name text ∧
          Reaches (spellingIn tables range) defined (tokensOf text.toList) name) →
      evaluate (.chart (spellingIn tables range) defined) equation = .error .circular) ∧
    (∀ others : Definitions, (∀ entry ∈ others, Accepted entry.2) →
      (∀ name, Reaches (spellingIn tables range) defined (tokensOf equation.toList) name →
        others.find? (String.ofList name) = defined.find? (String.ofList name)) →
      ∀ text, evaluate (.chart (spellingIn tables range) others) equation = .ok text ↔
        evaluate (.chart (spellingIn tables range) defined) equation = .ok text) ∧
    (∀ others : Definitions, others.Perm defined → (defined.map Prod.fst).Nodup →
      evaluate (.chart (spellingIn tables range) others) equation =
        evaluate (.chart (spellingIn tables range) defined) equation) := by
  have spelling := isSpelling_spellingIn tables range
  have value : ∀ {text : String},
      evaluate (.chart (spellingIn tables range) defined) equation = .ok text ↔
        Meaningful (spellingIn tables range) defined equation ∧
          Expansion (spellingIn tables range) defined (tokensOf equation.toList) text.toList :=
    evaluate_eq_ok_iff_meaningful spelling accepted
  refine ⟨?_, fun text => value, ?_, ?_, ?_, ?_⟩
  · constructor
    · rintro ⟨text, evaluated⟩
      exact (value.1 evaluated).1
    · intro meaningful
      obtain ⟨_, text, expansion⟩ := meaningful.expansion
      exact ⟨String.ofList text, value.2 ⟨meaningful, String.toList_ofList ▸ expansion⟩⟩
  · intro text evaluated c member
    obtain ⟨final, isFinal, _, joined⟩ := exists_final_of_evaluate spelling accepted evaluated
    rw [← joined, ← isFinal.separated.withoutBlanks_flatten] at member
    simpa only [Bool.not_eq_true'] using (List.mem_filter.1 member).2
  · rintro inOrder known ⟨name, text, reaches, defines, back⟩
    cases evaluated : evaluate (.chart (spellingIn tables range) defined) equation with
    | error mistake => rw [evaluate_error spelling accepted inOrder known evaluated]
    | ok text' => exact absurd back ((value.1 evaluated).1.acyclic name text reaches defines)
  · intro others accepted' same text
    refine ⟨fun evaluated => ?_, evaluate_agree spelling accepted accepted' same⟩
    exact evaluate_agree spelling accepted' accepted
      (fun name reaches => (same name (reaches.of_agree same)).symm) evaluated
  · intro others reordered different
    exact evaluate_perm reordered different equation

/-- An equation that uses another one, which uses a keyword. -/
theorem nested_equation_expands :
    (∀ entry ∈ [("Twice", "2*Half"), ("Half", "TEMP/2")], Accepted entry.2) ∧
      Meaningful (spellingIn ⟨[⟨"Temp", "temp", "tempdata.json", .temp, "C"⟩], [], []⟩ .recent)
        [("Twice", "2*Half"), ("Half", "TEMP/2")] "SQRT( Twice )" ∧
      Expansion (spellingIn ⟨[⟨"Temp", "temp", "tempdata.json", .temp, "C"⟩], [], []⟩ .recent)
        [("Twice", "2*Half"), ("Half", "TEMP/2")] (tokensOf "SQRT( Twice )".toList)
        "sqrt((2*(Temp/2)))".toList := by
  have accepted : ∀ entry ∈ [("Twice", "2*Half"), ("Half", "TEMP/2")], Accepted entry.2 := by
    intro entry member
    rcases List.mem_pair.1 member with rfl | rfl
    · exact ⟨"2*Half", by decide +kernel⟩
    · exact ⟨"TEMP/2", by decide +kernel⟩
  exact ⟨accepted, ((equation_means_its_expansion _ .recent _ accepted _).2.1 _).1
    (by decide +kernel)⟩

end Meteogram.Equation
