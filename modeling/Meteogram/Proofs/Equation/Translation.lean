import Meteogram.Equation.Script
import Meteogram.Proofs.Equation.Occurrences
import Meteogram.Proofs.Equation.Tokens
import Meteogram.Proofs.Number.RealText
import Meteogram.Proofs.Text.Runs

/-!
# The text of a page is translated token by token

A page computes an equation by the text that comes of renaming the functions and of
replacing one variable after the other, each time in the whole text. `Written` says
which lists of tokens such a text is made of, and `rewritten` what each single token
becomes. Renaming the functions rewrites the tokens with no variable
(`renameFunctions_flatten`), and each variable adds its own tokens to those that are
rewritten (`replaceWord_rewritten`), whatever stands in the text already. So the
order of the variables makes no difference to the others, and the whole text is the
tokens rewritten one by one (`pageText_flatten`).
-/

set_option autoImplicit false

namespace Meteogram.Equation

open Meteogram.Text

/-! ## The tokens of a text -/

/-- A token may stand in front of this one, or at the end. Words stand in front of
marks and functions in front of their arguments, but behind the value of a running
total anything may follow. -/
inductive Stands : Token → Option Token → Prop where
  | mark {c : Char} {next : Option Token} (marked : isMark c = true) : Stands [c] next
  | total {next : Option Token} : Stands sumValue next
  | function {function : Function} : Stands function.name.toList (some ['('])
  | name {word : Token} {next : Option Token} (identifier : isIdentifier word = true)
      (noFunction : ∀ function : Function, word ≠ function.name.toList)
      (apart : ∀ neighbour ∈ next, IsMark neighbour) : Stands word next
  | number {c : Char} {cs : List Char} {next : Option Token} (noLetter : isLetter c = false)
      (noBar : c ≠ '_') (numeral : (c :: cs).all Number.isNumeralChar = true)
      (apart : ∀ neighbour ∈ next, IsMark neighbour) : Stands (c :: cs) next

/-- The tokens make up a text that a page may compute. -/
inductive Written : List Token → Prop where
  | nil : Written []
  | cons {token : Token} {rest : List Token} (stands : Stands token rest.head?)
      (next : Written rest) : Written (token :: rest)

theorem Written.tail {token : Token} {rest : List Token} (written : Written (token :: rest)) :
    Written rest := by
  cases written with
  | cons _ next => exact next

theorem Written.of_append_right {front back : List Token} (written : Written (front ++ back)) :
    Written back := by
  induction front with
  | nil => exact written
  | cons token front ih => exact ih written.tail

/-- What may stand in front of a token that is no opening bracket may stand at the
end. -/
theorem Stands.at_end {token next : Token} (stands : Stands token (some next))
    (notOpening : next ≠ ['(']) : Stands token none := by
  generalize following : some next = next? at stands
  cases stands with
  | mark marked => exact .mark marked
  | total => exact .total
  | function => exact absurd (Option.some.inj following) notOpening
  | name identifier noFunction _ =>
    exact .name identifier noFunction fun _ member => by cases member
  | number noLetter noBar numeral _ =>
    exact .number noLetter noBar numeral fun _ member => by cases member

theorem Written.of_append_left {front back : List Token} {token : Token}
    (written : Written (front ++ token :: back)) (notOpening : token ≠ ['(']) :
    Written front := by
  induction front with
  | nil => exact .nil
  | cons first front ih =>
    cases written with
    | cons stands next =>
      refine .cons ?_ (ih next)
      cases front with
      | nil => exact stands.at_end notOpening
      | cons second more => exact stands

/-- The names of functions are words of two letters or more. -/
theorem functionName_letters (function : Function) :
    2 ≤ function.name.toList.length ∧ function.name.toList.all Char.isLower = true := by
  cases function <;> decide

theorem not_isMark_functionName (function : Function) : ¬ IsMark function.name.toList := by
  rintro ⟨mark, _, same⟩
  have long := (functionName_letters function).1
  rw [same, List.length_singleton] at long
  exact absurd long (by decide)

/-- The value of a running total may take the place of a function. -/
theorem Written.replace {front back after : List Token} {function : Function}
    (written : Written (front ++ function.name.toList :: back)) (behind : Written after) :
    Written (front ++ sumValue :: after) := by
  induction front with
  | nil => exact .cons .total behind
  | cons token front ih =>
    cases written with
    | cons stands next =>
      refine .cons ?_ (ih next)
      cases front with
      | cons second more => exact stands
      | nil =>
        change Stands token (some function.name.toList) at stands
        generalize following : some function.name.toList = next? at stands
        cases stands with
        | mark marked => exact .mark marked
        | total => exact .total
        | function =>
          have same := Option.some.inj following
          cases function <;> cases same
        | name _ _ apart =>
          exact absurd (apart _ following.symm) (not_isMark_functionName function)
        | number _ _ _ apart =>
          exact absurd (apart _ following.symm) (not_isMark_functionName function)

/-! ## What a token becomes -/

/-- What a token becomes on a page with these variables: a function takes its name
there, and a variable becomes its value at the current index. -/
def rewritten (names : List (List Char)) (token : Token) : List Char :=
  match Function.all.find? fun function => function.name.toList == token with
  | some function => (function.scriptName?.getD function.name).toList
  | none =>
    match names.find? fun name => keysOf name == keysOf token with
    | some name => indexed name
    | none => token

/-- The name of a variable can be told from all other words of a page. -/
structure IsVariableName (name : List Char) : Prop where
  identifier : isIdentifier (keysOf name) = true
  noIndex : keysOf name ≠ keysOf ['i']
  noModule : keysOf name ≠ keysOf "Math".toList
  noFunction : ∀ function : Function, keysOf name ≠ keysOf function.name.toList

section

variable {names : List (List Char)}

theorem rewritten_function (function : Function) :
    rewritten names function.name.toList = (function.scriptName?.getD function.name).toList := by
  cases function <;> rfl

theorem find?_function_eq_none {token : Token}
    (noFunction : ∀ function : Function, token ≠ function.name.toList) :
    (Function.all.find? fun function => function.name.toList == token) = none :=
  List.find?_eq_none.2 fun function _ same => noFunction function (beq_iff_eq.1 same).symm

theorem rewritten_name {name : List Char} {token : Token}
    (noFunction : ∀ function : Function, token ≠ function.name.toList)
    (found : (names.find? fun name => keysOf name == keysOf token) = some name) :
    rewritten names token = indexed name := by
  rw [rewritten, find?_function_eq_none noFunction]
  dsimp only
  rw [found]

theorem rewritten_other {token : Token}
    (noFunction : ∀ function : Function, token ≠ function.name.toList)
    (missed : (names.find? fun name => keysOf name == keysOf token) = none) :
    rewritten names token = token := by
  rw [rewritten, find?_function_eq_none noFunction]
  dsimp only
  rw [missed]

/-- A token with a character that no identifier has stays what it is. -/
theorem rewritten_of_mem (proper : ∀ name ∈ names, IsVariableName name) {token : Token} {c : Char}
    (member : c ∈ token) (other : isWordChar c = false) : rewritten names token = token := by
  refine rewritten_other ?_ ?_
  · rintro function rfl
    have small := List.all_eq_true.1 (functionName_letters function).2 c member
    have bounds := (isLower_iff c).1 small
    have name : isNameChar c = true := (isNameChar_iff c).2 (by omega)
    exact absurd ((isWordChar_of_isNameChar name).symm.trans other) Bool.noConfusion
  · refine List.find?_eq_none.2 fun name inNames same => ?_
    have identifier := (proper name inNames).identifier
    rw [beq_iff_eq.1 same] at identifier
    have inWords := List.all_eq_true.1 (all_isWordChar_of_keys identifier) c member
    exact absurd (inWords.symm.trans other) Bool.noConfusion

theorem rewritten_mark (proper : ∀ name ∈ names, IsVariableName name) {c : Char}
    (marked : isMark c = true) : rewritten names [c] = [c] := by
  refine rewritten_of_mem proper (List.mem_singleton_self c) ?_
  rcases isMark_cases marked with rfl | rfl | rfl | rfl | rfl | rfl | rfl <;> decide

theorem rewritten_total (proper : ∀ name ∈ names, IsVariableName name) :
    rewritten names sumValue = sumValue :=
  rewritten_of_mem (c := '[') proper (by decide) (by decide)

/-- A token that cannot begin an identifier stays what it is. -/
theorem rewritten_number (proper : ∀ name ∈ names, IsVariableName name) {c : Char}
    {cs : List Char} (noLetter : isLetter c = false) (noBar : c ≠ '_') :
    rewritten names (c :: cs) = c :: cs := by
  refine rewritten_other ?_ ?_
  · intro function same
    have letter : function.name.toList.head?.map isLetter = some true := by
      cases function <;> decide
    rw [← same, List.head?_cons, Option.map_some, noLetter] at letter
    cases letter
  · refine List.find?_eq_none.2 fun name inNames same => ?_
    have identifier := (proper name inNames).identifier
    rw [beq_iff_eq.1 same, keysOf, List.map_cons, isIdentifier, Bool.and_eq_true,
      Bool.and_eq_true, Bool.not_eq_true'] at identifier
    rcases isLetter_of_start identifier.1.1 identifier.1.2 with letter | bar
    · exact absurd (letter.symm.trans noLetter) Bool.noConfusion
    · exact noBar bar

end

/-! ## What follows a token -/

/-- The text is nothing behind the last token, and begins with the next one if that
is a mark. -/
structure Follows (next : Option Token) (text : List Char) : Prop where
  ends : next = none → text = []
  marks : ∀ mark, next = some [mark] → isMark mark = true → ∃ more, text = mark :: more

/-- The text of tokens follows the token in front of them, if marks are kept. -/
theorem follows_flatten {change : Token → List Char}
    (kept : ∀ mark, isMark mark = true → change [mark] = [mark]) (rest : List Token) :
    Follows rest.head? (rest.map change).flatten := by
  cases rest with
  | nil => exact ⟨fun _ => rfl, fun _ same => by cases same⟩
  | cons token rest =>
    refine ⟨fun same => (by cases same), fun mark same marked => ?_⟩
    obtain rfl := Option.some.inj same
    exact ⟨_, by rw [List.map_cons, List.flatten_cons, kept mark marked, List.singleton_append]⟩

theorem follows_tokens (rest : List Token) : Follows rest.head? rest.flatten := by
  have follows : Follows rest.head? (rest.map id).flatten := follows_flatten (fun _ _ => rfl) rest
  rwa [List.map_id] at follows

theorem isMark_opens {c : Char} (marked : isMark c = true) :
    isSolid c = false ∧ isWordChar c = false ∧ (c == '[') = false ∧ isLetter c = false := by
  rcases isMark_cases marked with rfl | rfl | rfl | rfl | rfl | rfl | rfl <;> decide

section

variable {next : Option Token} {text : List Char}

theorem Follows.isMark_head (follows : Follows next text)
    (apart : ∀ neighbour ∈ next, IsMark neighbour) : ∀ c ∈ text.head?, isMark c = true := by
  intro c member
  cases next with
  | none =>
    rw [follows.ends rfl] at member
    cases member
  | some neighbour =>
    obtain ⟨mark, marked, rfl⟩ := apart neighbour rfl
    obtain ⟨more, rfl⟩ := follows.marks mark rfl marked
    obtain rfl := Option.some.inj member
    exact marked

theorem isWordChar_head (marks : ∀ c ∈ text.head?, isMark c = true) :
    ∀ c ∈ text.head?, isWordChar c = false :=
  fun c member => (isMark_opens (marks c member)).2.1

theorem isSolid_head (marks : ∀ c ∈ text.head?, isMark c = true) :
    ∀ c ∈ text.head?, isSolid c = false :=
  fun c member => (isMark_opens (marks c member)).1

theorem closesWord_of_isMark (marks : ∀ c ∈ text.head?, isMark c = true) :
    closesWord text = true := by
  cases text with
  | nil => rfl
  | cons c cs =>
    obtain ⟨_, other, noIndex, _⟩ := isMark_opens (marks c rfl)
    rw [closesWord, other, noIndex]
    rfl

end

/-! ## Replacing a variable -/

theorem indexed_append (name after : List Char) : indexed name ++ after =
    name ++ '[' :: (['i'] ++ ']' :: '[' :: (['1'] ++ ']' :: after)) := by
  rw [indexed, List.append_assoc]
  rfl

section

variable {word : List Char} (new : List Char)

/-- Nothing is replaced in a value at the current index. -/
theorem replaceFrom_indexed (identifier : isIdentifier (keysOf word) = true)
    (noIndex : keysOf word ≠ keysOf ['i']) {name : List Char} (nonempty : name ≠ [])
    (inWords : name.all isWordChar = true) (after : List Char) :
    replaceFrom word new none 0 (indexed name ++ after) =
      indexed name ++ replaceFrom word new none 0 after := by
  have bracket : ∀ (before : Option Char) (text : List Char),
      replaceFrom word new before 0 ('[' :: text) = '[' :: replaceFrom word new none 0 text :=
    fun before text => replaceFrom_opening identifier new (by decide) before text
  have bracket' : ∀ (before : Option Char) (text : List Char),
      replaceFrom word new before 0 (']' :: text) = ']' :: replaceFrom word new none 0 text :=
    fun before text => replaceFrom_opening identifier new (by decide) before text
  have noDigit : keysOf word ≠ keysOf ['1'] := by
    intro same
    rw [same] at identifier
    exact absurd identifier (by decide)
  have indexes : ∀ text, closesWord ('[' :: text) ≠ true := fun text => by
    rw [closesWord]
    decide
  rw [indexed_append, indexed_append]
  rw [replaceFrom_run identifier new nonempty inWords fun c member => by
      obtain rfl := Option.some.inj member; decide,
    if_neg (fun both => indexes _ both.2), bracket,
    replaceFrom_run identifier new (List.cons_ne_nil _ _) (by decide) fun c member => by
      obtain rfl := Option.some.inj member; decide,
    if_neg (fun both => noIndex both.1), bracket', bracket,
    replaceFrom_run identifier new (List.cons_ne_nil _ _) (by decide) fun c member => by
      obtain rfl := Option.some.inj member; decide,
    if_neg (fun both => noDigit both.1), bracket']

/-- Nothing is replaced in the name that a function has on a page. -/
theorem replaceFrom_function (proper : IsVariableName word) (function : Function)
    {after : List Char} (marks : ∀ c ∈ after.head?, isMark c = true) :
    replaceFrom word new none 0 ((function.scriptName?.getD function.name).toList ++ after) =
      (function.scriptName?.getD function.name).toList ++ replaceFrom word new none 0 after := by
  have identifier := proper.identifier
  have script : ∀ name : List Char, name.all isWordChar = true →
      replaceFrom word new none 0 ("Math".toList ++ ('.' :: name) ++ after) =
        "Math".toList ++ ('.' :: name) ++ replaceFrom word new none 0 after := by
    intro name inWords
    have solid : ('.' :: name).all isSolid = true := by
      rw [List.all_cons]
      exact List.all_eq_true.2 fun c member =>
        isSolid_of_isWordChar (List.all_eq_true.1 inWords c member)
    rw [List.append_assoc, replaceFrom_run identifier new (by decide) (by decide) fun c member => by
        obtain rfl := Option.some.inj member; decide,
      if_neg (fun both => proper.noModule both.1), replaceFrom_solid new opensWord_inWord solid,
      replaceFrom_apart identifier new (isSolid_head marks), List.append_assoc]
  cases function with
  | sum =>
    have noSum := proper.noFunction .sum
    change replaceFrom word new none 0 ("sum".toList ++ after) = "sum".toList ++ _
    rw [replaceFrom_run identifier new (by decide) (by decide) (isWordChar_head marks),
      if_neg (fun both => noSum both.1), replaceFrom_apart identifier new (isSolid_head marks)]
  | squareRoot => exact script "sqrt".toList (by decide)
  | exponential => exact script "exp".toList (by decide)
  | logarithm => exact script "log".toList (by decide)
  | power => exact script "pow".toList (by decide)
  | maximum => exact script "max".toList (by decide)
  | minimum => exact script "min".toList (by decide)

end

section

variable {names : List (List Char)} {name : List Char}

theorem isSolid_of_isNumeralChar {cs : List Char}
    (numeral : cs.all Number.isNumeralChar = true) : cs.all isSolid = true := by
  refine List.all_eq_true.2 fun c member => ?_
  rcases Number.isWordChar_of_isNumeralChar (List.all_eq_true.1 numeral c member) with
    inWords | rfl
  · exact isSolid_of_isWordChar inWords
  · decide

/-- Replacing a variable rewrites one token more. -/
theorem Stands.replaceFrom {token : Token} {next : Option Token} (stands : Stands token next)
    (proper : ∀ other ∈ names, IsVariableName other) (proper' : IsVariableName name)
    {text : List Char} (follows : Follows next text) :
    replaceFrom name (indexed name) none 0 (rewritten names token ++ text) =
      rewritten (names ++ [name]) token ++ Equation.replaceFrom name (indexed name) none 0 text := by
  have identifier := proper'.identifier
  have more : ∀ other ∈ names ++ [name], IsVariableName other :=
    List.forall_mem_append.2 ⟨proper, List.forall_mem_singleton.2 proper'⟩
  cases stands with
  | mark marked =>
    rw [rewritten_mark proper marked, rewritten_mark more marked, List.singleton_append,
      replaceFrom_opening identifier _ (isMark_opens marked).1, List.singleton_append]
  | total =>
    rw [rewritten_total proper, rewritten_total more]
    have nonempty : "sumResult".toList ≠ [] := by decide
    exact replaceFrom_indexed _ identifier proper'.noIndex nonempty (by decide) text
  | function =>
    rw [rewritten_function, rewritten_function]
    refine replaceFrom_function _ proper' _ (follows.isMark_head ?_)
    intro neighbour member
    obtain rfl := Option.some.inj member
    exact .singleton (by decide)
  | name ownIdentifier noFunction apart =>
    have marks := follows.isMark_head apart
    cases found : names.find? fun other => keysOf other == keysOf token with
    | some other =>
      have member := List.mem_of_find?_eq_some found
      have identifier' := (proper other member).identifier
      have nonempty : other ≠ [] := by
        rintro rfl
        cases identifier'
      have again : ((names ++ [name]).find? fun other => keysOf other == keysOf token) =
          some other := by
        rw [List.find?_append, found]
        rfl
      rw [rewritten_name noFunction found, rewritten_name noFunction again]
      exact replaceFrom_indexed _ identifier proper'.noIndex nonempty
        (all_isWordChar_of_keys identifier') text
    | none =>
      have inWords : token.all isWordChar = true := List.all_eq_true.2 fun c member =>
        isWordChar_of_isNameChar (List.all_eq_true.1 (isIdentifier_all ownIdentifier) c member)
      rw [rewritten_other noFunction found, replaceFrom_run identifier _
        (isIdentifier_ne_nil ownIdentifier) inWords (isWordChar_head marks),
        replaceFrom_apart identifier _ (isSolid_head marks)]
      congr 1
      by_cases same : keysOf name = keysOf token
      · have here : ((names ++ [name]).find? fun other => keysOf other == keysOf token) =
            some name := by
          rw [List.find?_append, found, List.find?_singleton, beq_iff_eq.2 same]
          rfl
        rw [if_pos ⟨same, closesWord_of_isMark marks⟩, rewritten_name noFunction here]
      · rw [if_neg fun both => same both.1, rewritten_other noFunction]
        rw [List.find?_append, found, List.find?_singleton, beq_eq_false_iff_ne.2 same]
        rfl
  | number noLetter noBar numeral apart =>
    rw [rewritten_number proper noLetter noBar, rewritten_number more noLetter noBar,
      replaceFrom_numeral identifier _ noLetter noBar (isSolid_of_isNumeralChar numeral),
      replaceFrom_apart identifier _ (isSolid_head (follows.isMark_head apart))]

/-- Replacing a variable in a text rewrites the tokens of the variable. -/
theorem replaceWord_rewritten {tokens : List Token} (written : Written tokens)
    (proper : ∀ other ∈ names, IsVariableName other) (proper' : IsVariableName name) :
    replaceWord name (indexed name) (tokens.map (rewritten names)).flatten =
      (tokens.map (rewritten (names ++ [name]))).flatten := by
  rw [replaceWord]
  induction written with
  | nil => simp only [List.map_nil, List.flatten_nil, replaceFrom,
      occursHere_nil proper'.identifier, Bool.and_false, Bool.false_eq_true, if_false]
  | @cons token rest stands _ ih =>
    have follows := follows_flatten (fun _ => rewritten_mark proper) rest
    rw [List.map_cons, List.map_cons, List.flatten_cons, List.flatten_cons,
      stands.replaceFrom proper proper' follows, ih]

/-- Replacing variables one after the other rewrites the tokens of all of them. -/
theorem foldl_replaceWord {tokens : List Token} (written : Written tokens)
    (proper : ∀ other ∈ names, IsVariableName other) {more : List String}
    (proper' : ∀ other ∈ more, IsVariableName other.toList) :
    more.foldl (fun text name => replaceWord name.toList (indexed name.toList) text)
        (tokens.map (rewritten names)).flatten =
      (tokens.map (rewritten (names ++ more.map String.toList))).flatten := by
  induction more generalizing names with
  | nil => rw [List.map_nil, List.append_nil, List.foldl_nil]
  | cons first more ih =>
    obtain ⟨here, proper'⟩ := List.forall_mem_cons.1 proper'
    have next : ∀ other ∈ names ++ [first.toList], IsVariableName other :=
      List.forall_mem_append.2 ⟨proper, List.forall_mem_singleton.2 here⟩
    rw [List.foldl_cons, replaceWord_rewritten written proper here, ih next proper', List.map_cons,
      List.append_assoc, List.singleton_append]

theorem mem_longestFirst {names : List String} {name : String} :
    name ∈ longestFirst names ↔ name ∈ names :=
  (List.mergeSort_perm names _).mem_iff

/-- Where functions are renamed, replacing the variables rewrites all tokens. -/
theorem indexNames_rewritten {tokens : List Token} (written : Written tokens)
    {names : List String} (proper : ∀ name ∈ names, IsVariableName name.toList) :
    indexNames names (tokens.map (rewritten [])).flatten =
      (tokens.map (rewritten ((longestFirst names).map String.toList))).flatten := by
  have sorted : ∀ name ∈ longestFirst names, IsVariableName name.toList :=
    fun name member => proper name (mem_longestFirst.1 member)
  rw [indexNames, foldl_replaceWord written (fun _ member => absurd member List.not_mem_nil) sorted,
    List.nil_append]

end

/-! ## Renaming functions -/

/-- A text that begins with no call of a function with another name on a page. -/
theorem callHere?_eq_none {text : List Char}
    (noCall : ∀ function : Function, function ≠ .sum → ∀ after,
      text ≠ function.name.toList ++ '(' :: after) (before : Option Char) :
    callHere? before text = none := by
  rw [callHere?]
  split
  · refine List.findSome?_eq_none_iff.2 fun function _ => ?_
    cases scriptName : function.scriptName? with
    | none => rfl
    | some name =>
      have notSum : function ≠ .sum := by
        rintro rfl
        cases scriptName
      rw [Option.bind_eq_bind, Option.bind_some]
      refine Option.bind_eq_none_iff.2 fun after found => ?_
      have same := eq_append_of_afterPrefix? found
      rw [List.append_assoc, List.singleton_append] at same
      exact absurd same (noCall function notSum after)
  · rfl

theorem callHere?_call {function : Function} (notSum : function ≠ .sum) (after : List Char) :
    callHere? none (function.name.toList ++ '(' :: after) =
      some ((function.scriptName?.getD function.name).toList ++ ['('],
        function.name.toList.length + 1) := by
  cases function with
  | sum => exact absurd rfl notSum
  | squareRoot | exponential | logarithm | power | maximum | minimum => rfl

theorem callHere?_of_not_letter {c : Char} (noLetter : isLetter c = false) (before : Option Char)
    (after : List Char) : callHere? before (c :: after) = none := by
  refine callHere?_eq_none (fun function _ rest same => ?_) before
  have letter : function.name.toList.head?.map isLetter = some true := by
    cases function <;> decide
  obtain ⟨first, more, split⟩ : ∃ first more, function.name.toList = first :: more := by
    cases function <;> exact ⟨_, _, rfl⟩
  rw [split] at letter same
  rw [List.head?_cons, Option.map_some, ← (List.cons.inj same).1, noLetter] at letter
  cases letter

/-- A word that is no function, or the running total, is not called by another
name. -/
theorem callHere?_of_word {word after : List Char} (inWords : word.all isWordChar = true)
    (noFunction : ∀ function : Function, function ≠ .sum → word ≠ function.name.toList)
    (apart : ∀ c ∈ after.head?, isWordChar c = false) (before : Option Char) :
    callHere? before (word ++ after) = none := by
  refine callHere?_eq_none (fun function notSum rest same => ?_) before
  have letters : function.name.toList.all isWordChar = true := by cases function <;> decide
  have opening : ∀ c ∈ ('(' :: rest).head?, isWordChar c = false := by
    intro c member
    obtain rfl := Option.some.inj member
    decide
  exact noFunction function notSum (append_unique inWords letters apart opening same).1

section

variable {c : Char} {cs after : List Char} {before : Option Char}

theorem renameFrom_missed (missed : callHere? before (c :: cs) = none) :
    renameFrom before 0 (c :: cs) = c :: renameFrom (some c) 0 cs := by
  rw [renameFrom.eq_def]
  dsimp only
  rw [missed]

theorem callHere?_of_not_opens (closed : opensWord before = false) (text : List Char) :
    callHere? before text = none := by
  rw [callHere?, closed]
  rfl

theorem renameFrom_congr {other : Option Char} (same : opensWord before = opensWord other)
    (text : List Char) : renameFrom before 0 text = renameFrom other 0 text := by
  cases text with
  | nil => rfl
  | cons c cs =>
    rw [renameFrom.eq_def, renameFrom.eq_def]
    dsimp only
    rw [callHere?, callHere?, same]

theorem renameFrom_solid (closed : opensWord before = false) {run : List Char}
    (solid : run.all isSolid = true) (after : List Char) :
    renameFrom before 0 (run ++ after) = run ++ renameFrom inWord 0 after := by
  induction run generalizing before with
  | nil => exact renameFrom_congr closed after
  | cons c cs ih =>
    rw [List.all_cons, Bool.and_eq_true] at solid
    have closed' : opensWord (some c) = false := by rw [opensWord_some, solid.1, Bool.not_true]
    rw [List.cons_append, renameFrom_missed (callHere?_of_not_opens closed _),
      ih closed' solid.2, List.cons_append]

theorem renameFrom_opening (opening : isSolid c = false) (before : Option Char)
    (after : List Char) : renameFrom before 0 (c :: after) = c :: renameFrom none 0 after := by
  have noLetter : isLetter c = false := Bool.eq_false_iff.2 fun letter => by
    rw [isSolid_of_isWordChar (isWordChar_of_isLetter letter)] at opening
    cases opening
  have opens : opensWord (some c) = opensWord none := by rw [opensWord_some, opening]; rfl
  rw [renameFrom_missed (callHere?_of_not_letter noLetter before after), renameFrom_congr opens]

/-- A run that is no call is kept. -/
theorem renameFrom_run {run : List Char} (nonempty : run ≠ []) (solid : run.all isSolid = true)
    (noCall : callHere? none (run ++ after) = none) :
    renameFrom none 0 (run ++ after) = run ++ renameFrom inWord 0 after := by
  cases run with
  | nil => exact absurd rfl nonempty
  | cons c cs =>
    rw [List.all_cons, Bool.and_eq_true] at solid
    have closed : opensWord (some c) = false := by rw [opensWord_some, solid.1, Bool.not_true]
    rw [List.cons_append] at noCall ⊢
    rw [renameFrom_missed noCall, renameFrom_solid closed solid.2, List.cons_append]

theorem renameFrom_apart {text : List Char} (apart : ∀ c ∈ text.head?, isSolid c = false) :
    renameFrom inWord 0 text = renameFrom none 0 text := by
  cases text with
  | nil => rfl
  | cons c cs => rw [renameFrom_opening (apart c rfl), renameFrom_opening (apart c rfl)]

/-- The rest of a call is left out, up to its opening bracket. -/
theorem renameFrom_skip (run : List Char) (c : Char) (after : List Char) :
    renameFrom before (run.length + 1) (run ++ c :: after) = renameFrom (some c) 0 after := by
  induction run generalizing before with
  | nil => rw [List.nil_append, List.length_nil, renameFrom]
  | cons d run ih => rw [List.cons_append, List.length_cons, renameFrom, ih]

end

theorem renameFrom_call {function : Function} (notSum : function ≠ .sum) (after : List Char) :
    renameFrom none 0 (function.name.toList ++ '(' :: after) =
      (function.scriptName?.getD function.name).toList ++ '(' :: renameFrom none 0 after := by
  have call := callHere?_call notSum after
  cases split : function.name.toList with
  | nil => cases function <;> cases split
  | cons c cs =>
    rw [split, List.cons_append] at call
    have opens : opensWord (some '(') = opensWord none := rfl
    rw [List.cons_append, renameFrom.eq_def]
    dsimp only
    rw [call]
    dsimp only
    rw [List.length_cons, Nat.add_sub_cancel, renameFrom_skip, renameFrom_congr opens,
      List.append_assoc, List.singleton_append]

/-- Nothing is renamed in the value of a running total. -/
theorem renameFrom_total (after : List Char) :
    renameFrom none 0 (sumValue ++ after) = sumValue ++ renameFrom none 0 after := by
  have word : ∀ (word text : List Char), word ≠ [] → word.all isWordChar = true →
      (∀ function : Function, word ≠ function.name.toList) →
      (∀ c ∈ text.head?, isSolid c = false) →
      renameFrom none 0 (word ++ text) = word ++ renameFrom none 0 text := by
    intro word text nonempty inWords noFunction apart
    have solid : word.all isSolid = true := List.all_eq_true.2 fun c member =>
      isSolid_of_isWordChar (List.all_eq_true.1 inWords c member)
    rw [renameFrom_run nonempty solid, renameFrom_apart apart]
    exact callHere?_of_word inWords (fun function _ => noFunction function)
      (fun c member => isWordChar_of_not_isSolid (apart c member)) none
  have head : ∀ (c : Char) (text : List Char), isSolid c = false →
      ∀ d ∈ (c :: text).head?, isSolid d = false := by
    intro c text opening d member
    obtain rfl := Option.some.inj member
    exact opening
  have bracket : ∀ text, renameFrom none 0 ('[' :: text) = '[' :: renameFrom none 0 text :=
    renameFrom_opening (by decide) none
  have bracket' : ∀ text, renameFrom none 0 (']' :: text) = ']' :: renameFrom none 0 text :=
    renameFrom_opening (by decide) none
  have split : ∀ text, sumValue ++ text = "sumResult".toList ++
      '[' :: (['i'] ++ ']' :: '[' :: (['1'] ++ ']' :: text)) := fun _ => rfl
  have others : (∀ function : Function, "sumResult".toList ≠ function.name.toList) ∧
      (∀ function : Function, ['i'] ≠ function.name.toList) ∧
      ∀ function : Function, ['1'] ≠ function.name.toList := by
    refine ⟨?_, ?_, ?_⟩ <;> intro function <;> cases function <;> decide
  rw [split, split, word _ _ (by decide) (by decide) others.1 (head _ _ (by decide)), bracket,
    word _ _ (by decide) (by decide) others.2.1 (head _ _ (by decide)), bracket', bracket,
    word _ _ (by decide) (by decide) others.2.2 (head _ _ (by decide)), bracket']

/-- Renaming the functions rewrites one token. -/
theorem Stands.renameFrom {token : Token} {next : Option Token} (stands : Stands token next)
    {text : List Char} (follows : Follows next text) :
    renameFrom none 0 (token ++ text) =
      rewritten [] token ++ Equation.renameFrom none 0 text := by
  have none : ∀ other ∈ ([] : List (List Char)), IsVariableName other :=
    fun _ member => absurd member List.not_mem_nil
  cases stands with
  | mark marked =>
    rw [rewritten_mark none marked, List.singleton_append,
      renameFrom_opening (isMark_opens marked).1, List.singleton_append]
  | total => rw [rewritten_total none, renameFrom_total]
  | @function function =>
    obtain ⟨more, rfl⟩ := follows.marks '(' rfl (by decide)
    rw [rewritten_function, renameFrom_opening (by decide)]
    by_cases isSum : function = .sum
    · have opening : ∀ c ∈ ('(' :: more).head?, isSolid c = false := by
        intro c member
        obtain rfl := Option.some.inj member
        decide
      rw [isSum, renameFrom_run (by decide) (by decide), renameFrom_apart opening,
        renameFrom_opening (by decide)]
      · rfl
      · refine callHere?_of_word (by decide) (fun function notSum same => ?_)
          (fun c member => isWordChar_of_not_isSolid (opening c member)) _
        cases function <;> first | exact notSum rfl | cases same
    · exact renameFrom_call isSum more
  | name identifier noFunction apart =>
    have marks := follows.isMark_head apart
    have inWords : token.all isWordChar = true := List.all_eq_true.2 fun c member =>
      isWordChar_of_isNameChar (List.all_eq_true.1 (isIdentifier_all identifier) c member)
    have solid : token.all isSolid = true := List.all_eq_true.2 fun c member =>
      isSolid_of_isWordChar (List.all_eq_true.1 inWords c member)
    have noCall := callHere?_of_word inWords (fun function _ => noFunction function)
      (isWordChar_head marks) Option.none
    rw [rewritten_other noFunction rfl, renameFrom_run (isIdentifier_ne_nil identifier) solid noCall,
      renameFrom_apart (isSolid_head marks)]
  | number noLetter noBar numeral apart =>
    have noCall := callHere?_of_not_letter noLetter Option.none
    rw [rewritten_number none noLetter noBar, renameFrom_run (List.cons_ne_nil _ _)
      (isSolid_of_isNumeralChar numeral) (noCall _),
      renameFrom_apart (isSolid_head (follows.isMark_head apart))]

/-- Renaming the functions of a text rewrites its tokens. -/
theorem renameFunctions_flatten {tokens : List Token} (written : Written tokens) :
    renameFunctions tokens.flatten = (tokens.map (rewritten [])).flatten := by
  rw [renameFunctions]
  induction written with
  | nil => rfl
  | @cons token rest stands _ ih =>
    rw [List.flatten_cons, List.map_cons, List.flatten_cons,
      stands.renameFrom (follows_tokens rest), ih]

/-- On a page an equation is rewritten token by token. -/
theorem pageText_flatten {tokens : List Token} (written : Written tokens) {names : List String}
    (proper : ∀ name ∈ names, IsVariableName name.toList) :
    pageText names tokens.flatten =
      (tokens.map (rewritten ((longestFirst names).map String.toList))).flatten := by
  rw [pageText, renameFunctions_flatten written, indexNames_rewritten written proper]

end Meteogram.Equation
