import Meteogram.Proofs.Equation.PageText

/-!
# Rewriting an equation twice

A rewritten text is rewritten to itself (`rewriting_is_idempotent`), whatever text it
came from. The reason is that everything that rewriting looks for is a whole run of word
characters at which a word may begin, judged by the run and the character behind it: a
function called by its own name, or a variable with no index behind it. A text without
such runs is `Quiet`. What is put in for a run brings no new one and changes nothing at
the edges, so each replacement keeps the text as quiet as it was and silences its own
variable. Neither the order of the variables matters nor names that agree ignoring case.
-/

set_option autoImplicit false

namespace Meteogram.Equation

open Meteogram.Text

/-! ## Quiet texts -/

/-- No run of word characters at which a word may begin is busy, as judged by the run and
the character behind it. At the start of the text a word may begin if `opens` holds. -/
inductive Quiet (busy : List Char → Option Char → Prop) : (opens : Bool) → List Char → Prop where
  | nil {opens : Bool} : Quiet busy opens []
  | mark {opens : Bool} {c : Char} {rest : List Char} (opening : isSolid c = false)
      (next : Quiet busy true rest) : Quiet busy opens (c :: rest)
  | solid {c : Char} {rest : List Char} (solid : isSolid c = true) (next : Quiet busy false rest) :
      Quiet busy false (c :: rest)
  | point {rest : List Char} (next : Quiet busy false rest) : Quiet busy true ('.' :: rest)
  | run {run after : List Char} (nonempty : run ≠ []) (inRun : run.all isWordChar = true)
      (apart : ∀ c ∈ after.head?, isWordChar c = false) (idle : ¬ busy run after.head?)
      (next : Quiet busy false after) : Quiet busy true (run ++ after)

namespace Quiet

variable {busy other : List Char → Option Char → Prop} {opens : Bool} {text : List Char}

theorem mono (fewer : ∀ run next, other run next → busy run next) (quiet : Quiet busy opens text) :
    Quiet other opens text := by
  induction quiet with
  | nil => exact .nil
  | mark opening _ ih => exact .mark opening ih
  | solid solid _ ih => exact .solid solid ih
  | point _ ih => exact .point ih
  | run nonempty inRun apart idle _ ih =>
    exact .run nonempty inRun apart (fun isBusy => idle (fewer _ _ isBusy)) ih

/-- A text that goes on outside of words is as quiet where a word may begin. -/
theorem reopen (quiet : Quiet busy false text) (apart : ∀ c ∈ text.head?, isWordChar c = false) :
    Quiet busy true text := by
  cases quiet with
  | nil => exact .nil
  | mark opening next => exact .mark opening next
  | @solid c _ solid next =>
    rw [isSolid, apart c rfl, Bool.false_or, beq_iff_eq] at solid
    rw [solid]
    exact .point next

/-- Inside a word nothing begins. -/
theorem inside {run after : List Char} (solid : run.all isSolid = true)
    (quiet : Quiet busy false after) : Quiet busy false (run ++ after) := by
  induction run with
  | nil => exact quiet
  | cons c run ih =>
    rw [List.all_cons, Bool.and_eq_true] at solid
    exact .solid solid.1 (ih solid.2)

end Quiet

/-- Every text falls into runs of word characters and what is between them. -/
theorem quiet_of_never (text : List Char) (opens : Bool) : Quiet (fun _ _ => False) opens text := by
  match text with
  | [] => exact .nil
  | c :: rest =>
    by_cases opening : isSolid c = false
    · exact .mark opening (quiet_of_never rest true)
    · have solid : isSolid c = true := by simpa using opening
      cases opens with
      | false => exact .solid solid (quiet_of_never rest false)
      | true =>
        by_cases inWords : isWordChar c = true
        · obtain ⟨more, after, split, inRun, apart⟩ := exists_run isWordChar rest
          have shorter : after.length ≤ rest.length := by simp [split]
          rw [split, ← List.cons_append]
          refine .run (List.cons_ne_nil c more) ?_ apart id (quiet_of_never after false)
          rw [List.all_cons, inWords, inRun, Bool.true_and]
        · rw [isSolid, Bool.eq_false_iff.2 inWords, Bool.false_or, beq_iff_eq] at solid
          rw [solid]
          exact .point (quiet_of_never rest false)
termination_by text.length
decreasing_by all_goals simp only [List.length_cons]; omega

/-! ## What rewriting looks for -/

/-- The run is the name of a function with another name on a page, and it is called. -/
def IsCall (run : List Char) (next : Option Char) : Prop :=
  next = some '(' ∧ ∃ function : Function, function ≠ .sum ∧ run = function.name.toList

/-- The run is the variable in any letter case, and no index stands behind it. -/
def IsUnindexed (name run : List Char) (next : Option Char) : Prop :=
  keysOf name = keysOf run ∧ closesWord next.toList = true

/-- The run is rewritten on a page with these variables. -/
def IsRewritten (names : List String) (run : List Char) (next : Option Char) : Prop :=
  IsCall run next ∨ ∃ name ∈ names, IsUnindexed name.toList run next

theorem closesWord_head? (text : List Char) : closesWord text.head?.toList = closesWord text := by
  cases text <;> rfl

/-- The name is an ASCII identifier, and not that of the index. -/
structure IsIndexable (name : String) : Prop where
  identifier : isIdentifier name.toList = true
  notSmall : name ≠ "i"
  notCapital : name ≠ "I"

theorem eq_index_of_keysOf {c : Char} (ascii : c.toNat < 128)
    (same : keysOf [c] = keysOf ['i']) : c = 'i' ∨ c = 'I' := by
  have key : c.toLower.toNat = 105 := by
    have keys := (List.cons.inj same).1
    rw [caselessKey_of_ascii ascii] at keys
    rw [keys]
    decide
  rw [toNat_toLower] at key
  split at key
  · exact .inr (Char.toNat_inj.1 (by show c.toNat = 73; omega))
  · exact .inl (Char.toNat_inj.1 key)

namespace IsIndexable

variable {name : String} (indexable : IsIndexable name)

include indexable

theorem keys : isIdentifier (keysOf name.toList) = true :=
  isIdentifier_keysOf indexable.identifier

theorem noIndex : keysOf name.toList ≠ keysOf ['i'] := by
  intro same
  obtain ⟨c, single⟩ : ∃ c, name.toList = [c] := by
    rw [← List.length_eq_one_iff]
    have lengths := congrArg List.length same
    rwa [keysOf, keysOf, List.length_map, List.length_map] at lengths
  have member : c ∈ name.toList := by rw [single]; exact List.mem_singleton_self c
  have ascii := isIdentifier_ascii indexable.identifier c member
  rw [single] at same
  rcases eq_index_of_keysOf ascii same with rfl | rfl
  · exact indexable.notSmall (String.toList_inj.1 single)
  · exact indexable.notCapital (String.toList_inj.1 single)

theorem noOne : keysOf name.toList ≠ keysOf ['1'] := by
  intro same
  have identifier := indexable.keys
  rw [same] at identifier
  exact absurd identifier (by decide)

end IsIndexable

/-- Nothing in a value at the current index is rewritten: the name has an index behind it,
and neither the index nor the number is a name. -/
theorem not_isRewritten_indexed {names : List String}
    (indexable : ∀ name ∈ names, IsIndexable name) (run : List Char) :
    ¬ IsRewritten names run (some '[') ∧ ¬ IsRewritten names ['i'] (some ']') ∧
      ¬ IsRewritten names ['1'] (some ']') := by
  have noCall : ∀ (run : List Char) (c : Char), c ≠ '(' → ¬ IsCall run (some c) :=
    fun _ _ other call => other (Option.some.inj call.1)
  refine ⟨?_, ?_, ?_⟩
  · rintro (call | ⟨name, _, _, closes⟩)
    · exact noCall _ _ (by decide) call
    · exact absurd closes (by decide)
  · rintro (call | ⟨name, member, same, _⟩)
    · exact noCall _ _ (by decide) call
    · exact (indexable name member).noIndex same
  · rintro (call | ⟨name, member, same, _⟩)
    · exact noCall _ _ (by decide) call
    · exact (indexable name member).noOne same

/-! ## Variables -/

section

variable {word : List Char} (identifier : isIdentifier (keysOf word) = true)
  {busy : List Char → Option Char → Prop} {opens : Bool} {text : List Char}

include identifier

/-- Inside a word, replacing leaves the next character. -/
theorem head?_replaceFrom (new : List Char) {before : Option Char}
    (closed : opensWord before = false) (text : List Char) :
    (replaceFrom word new before 0 text).head? = text.head? := by
  cases text with
  | nil => simp only [replaceFrom, occursHere_nil identifier, Bool.and_false, Bool.false_eq_true,
      if_false]
  | cons c cs => rw [replaceFrom_missed new (occursHere_of_not_opens closed _), List.head?_cons,
      List.head?_cons]

/-- Replacing a variable by its value at the current index silences the variable, and keeps
all other runs as quiet as they were. -/
theorem Quiet.replaceFrom_indexed (atName : ¬ busy word (some '['))
    (atIndex : ¬ busy ['i'] (some ']')) (atOne : ¬ busy ['1'] (some ']'))
    (quiet : Quiet (fun run next => busy run next ∧ ¬ IsUnindexed word run next) opens text)
    {before : Option Char} (same : opensWord before = opens) :
    Quiet busy opens (replaceFrom word (indexed word) before 0 text) := by
  induction quiet generalizing before with
  | nil =>
    simp only [replaceFrom, occursHere_nil identifier, Bool.and_false, Bool.false_eq_true, if_false]
    exact .nil
  | mark opening _ ih =>
    rw [replaceFrom_opening identifier _ opening]
    exact .mark opening (ih rfl)
  | @solid c rest solid _ ih =>
    rw [replaceFrom_missed _ (occursHere_of_not_opens same _)]
    exact .solid solid (ih (by rw [opensWord_some, solid, Bool.not_true]))
  | point _ ih =>
    rw [replaceFrom_missed _ (occursHere_of_not_isWordChar identifier (by decide) _ _)]
    exact .point (ih (by decide))
  | @run run after nonempty inRun apart idle _ ih =>
    have opens : opensWord before = opensWord none := same
    have next := ih opensWord_inWord
    have head := head?_replaceFrom identifier (indexed word) opensWord_inWord after
    have apart' : ∀ c ∈ (replaceFrom word (indexed word) inWord 0 after).head?,
        isWordChar c = false := by rw [head]; exact apart
    have bracket : ∀ (c : Char) (rest : List Char), isWordChar c = false →
        ∀ d ∈ (c :: rest).head?, isWordChar d = false := by
      intro c rest outside d member
      obtain rfl := Option.some.inj member
      exact outside
    rw [replaceFrom_congr _ opens, replaceFrom_run identifier _ nonempty inRun apart]
    split
    · rw [indexed_append]
      refine .run (isIdentifier_ne_nil identifier ∘ fun empty => by rw [empty]; rfl)
        (all_isWordChar_of_keys identifier) (bracket _ _ (by decide)) atName (.mark (by decide) ?_)
      refine .run (List.cons_ne_nil _ _) (by decide) (bracket _ _ (by decide)) atIndex
        (.mark (by decide) (.mark (by decide) ?_))
      exact .run (List.cons_ne_nil _ _) (by decide) (bracket _ _ (by decide)) atOne
        (.mark (by decide) (next.reopen apart'))
    · next missed =>
      refine .run nonempty inRun apart' (fun isBusy => idle ⟨head ▸ isBusy, ?_⟩) next
      rintro ⟨keys, closes⟩
      exact missed ⟨keys, closesWord_head? after ▸ closes⟩

/-- Where a variable is not met nothing is replaced. -/
theorem Quiet.replaceFrom_eq (new : List Char) (quiet : Quiet (IsUnindexed word) opens text)
    {before : Option Char} (same : opensWord before = opens) :
    replaceFrom word new before 0 text = text := by
  induction quiet generalizing before with
  | nil => simp only [replaceFrom, occursHere_nil identifier, Bool.and_false, Bool.false_eq_true,
      if_false]
  | mark opening _ ih => rw [replaceFrom_opening identifier _ opening, ih rfl]
  | solid solid _ ih =>
    rw [replaceFrom_missed _ (occursHere_of_not_opens same _),
      ih (by rw [opensWord_some, solid, Bool.not_true])]
  | point _ ih =>
    rw [replaceFrom_missed _ (occursHere_of_not_isWordChar identifier (by decide) _ _),
      ih (by decide)]
  | @run run after nonempty inRun apart idle _ ih =>
    have opens : opensWord before = opensWord none := same
    have missed : ¬ (keysOf word = keysOf run ∧ closesWord after = true) := fun both =>
      idle ⟨both.1, (closesWord_head? after).trans both.2⟩
    rw [replaceFrom_congr _ opens, replaceFrom_run identifier _ nonempty inRun apart,
      if_neg missed, ih opensWord_inWord]

end

/-! ## Functions -/

section

variable {opens : Bool} {text : List Char} {before : Option Char}

/-- Inside a word, renaming leaves the next character. -/
theorem head?_renameFrom (closed : opensWord before = false) (text : List Char) :
    (renameFrom before 0 text).head? = text.head? := by
  cases text with
  | nil => rfl
  | cons c cs => rw [renameFrom_missed (callHere?_of_not_opens closed _), List.head?_cons,
      List.head?_cons]

/-- A run of word characters is renamed only if it is a call. -/
theorem callHere?_of_not_isCall {run after : List Char} (inRun : run.all isWordChar = true)
    (apart : ∀ c ∈ after.head?, isWordChar c = false) (noCall : ¬ IsCall run after.head?)
    (before : Option Char) : callHere? before (run ++ after) = none := by
  refine callHere?_eq_none (fun function notSum rest same => noCall ?_) before
  have letters : function.name.toList.all isWordChar = true := by cases function <;> decide
  have opening : ∀ c ∈ ('(' :: rest).head?, isWordChar c = false := by
    intro c member
    obtain rfl := Option.some.inj member
    decide
  obtain ⟨isName, behind⟩ := append_unique inRun letters apart opening same
  exact ⟨by rw [behind, List.head?_cons], function, notSum, isName⟩

/-- On a page a function belongs to the module `Math`. -/
theorem exists_scriptName {function : Function} (notSum : function ≠ .sum) :
    ∃ tail : List Char, tail.all isSolid = true ∧
      (function.scriptName?.getD function.name).toList = "Math".toList ++ '.' :: tail := by
  cases function with
  | sum => exact absurd rfl notSum
  | squareRoot | exponential | logarithm | power | maximum | minimum =>
    exact ⟨_, by decide, rfl⟩

/-- No function is called by its own name once the functions are renamed. -/
theorem quiet_renameFrom (quiet : Quiet (fun _ _ => False) opens text)
    (same : opensWord before = opens) : Quiet IsCall opens (renameFrom before 0 text) := by
  induction quiet generalizing before with
  | nil => exact .nil
  | mark opening _ ih =>
    rw [renameFrom_opening opening]
    exact .mark opening (ih rfl)
  | solid solid _ ih =>
    rw [renameFrom_missed (callHere?_of_not_opens same _)]
    exact .solid solid (ih (by rw [opensWord_some, solid, Bool.not_true]))
  | point _ ih =>
    rw [renameFrom_missed (callHere?_of_not_letter (by decide) _ _)]
    exact .point (ih (by decide))
  | @run run after nonempty inRun apart _ _ ih =>
    have opens : opensWord before = opensWord none := same
    have next := ih opensWord_inWord
    have solid : run.all isSolid = true := List.all_eq_true.2 fun c member =>
      isSolid_of_isWordChar (List.all_eq_true.1 inRun c member)
    rw [renameFrom_congr opens]
    by_cases call : IsCall run after.head?
    · obtain ⟨opening, function, notSum, rfl⟩ := call
      obtain ⟨rest, rfl⟩ := List.head?_eq_some_iff.1 opening
      obtain ⟨tail, solidTail, scriptName⟩ := exists_scriptName notSum
      rw [renameFrom_call notSum, scriptName, List.append_assoc, List.cons_append]
      rw [renameFrom_opening (by decide)] at next
      refine .run (by decide) (by decide) (fun c member => ?_) (fun call => ?_)
        (.solid (by decide) (next.inside solidTail))
      · obtain rfl := Option.some.inj member
        decide
      · exact absurd (Option.some.inj call.1) (by decide)
    · have noCall := callHere?_of_not_isCall inRun apart call none
      have head := head?_renameFrom opensWord_inWord after
      rw [renameFrom_run nonempty solid noCall]
      exact .run nonempty inRun (by rw [head]; exact apart) (by rw [head]; exact call) next

/-- Where no function is called by its own name nothing is renamed. -/
theorem Quiet.renameFrom_eq (quiet : Quiet IsCall opens text) (same : opensWord before = opens) :
    renameFrom before 0 text = text := by
  induction quiet generalizing before with
  | nil => rfl
  | mark opening _ ih => rw [renameFrom_opening opening, ih rfl]
  | solid solid _ ih =>
    rw [renameFrom_missed (callHere?_of_not_opens same _),
      ih (by rw [opensWord_some, solid, Bool.not_true])]
  | point _ ih =>
    rw [renameFrom_missed (callHere?_of_not_letter (by decide) _ _), ih (by decide)]
  | @run run after nonempty inRun apart idle _ ih =>
    have opens : opensWord before = opensWord none := same
    have solid : run.all isSolid = true := List.all_eq_true.2 fun c member =>
      isSolid_of_isWordChar (List.all_eq_true.1 inRun c member)
    rw [renameFrom_congr opens,
      renameFrom_run nonempty solid (callHere?_of_not_isCall inRun apart idle none),
      ih opensWord_inWord]

end

/-! ## The text of a page -/

section

variable {names : List String} {text : List Char}

/-- Replacing variables one after the other silences them all. -/
theorem quiet_foldl_replaceWord {done : List String} (indexable : ∀ name ∈ names, IsIndexable name)
    (before : ∀ name ∈ done, IsIndexable name) (quiet : Quiet (IsRewritten done) true text) :
    Quiet (IsRewritten (done ++ names)) true (names.foldl
      (fun text name => replaceWord name.toList (indexed name.toList) text) text) := by
  induction names generalizing done text with
  | nil => rwa [List.append_nil]
  | cons name names ih =>
    obtain ⟨here, indexable⟩ := List.forall_mem_cons.1 indexable
    have all : ∀ other ∈ done ++ [name], IsIndexable other := by
      simp only [List.mem_append, List.mem_singleton, or_imp, forall_and, forall_eq]
      exact ⟨before, here⟩
    obtain ⟨atName, atIndex, atOne⟩ := not_isRewritten_indexed all name.toList
    have others : ∀ run next, IsRewritten (done ++ [name]) run next ∧
        ¬ IsUnindexed name.toList run next → IsRewritten done run next := by
      rintro run next ⟨call | ⟨other, member, unindexed⟩, notHere⟩
      · exact .inl call
      · rcases List.mem_append.1 member with inDone | isHere
        · exact .inr ⟨other, inDone, unindexed⟩
        · obtain rfl := List.mem_singleton.1 isHere
          exact absurd unindexed notHere
    have step : Quiet (IsRewritten (done ++ [name])) true
        (replaceWord name.toList (indexed name.toList) text) :=
      (quiet.mono others).replaceFrom_indexed here.keys atName atIndex atOne rfl
    rw [List.foldl_cons, List.append_cons]
    exact ih indexable all step

/-- Nothing is left to rewrite in a rewritten text. -/
theorem quiet_pageText (indexable : ∀ name ∈ names, IsIndexable name) (text : List Char) :
    Quiet (IsRewritten names) true (pageText names text) := by
  have calls : Quiet (IsRewritten []) true (renameFunctions text) := by
    refine (quiet_renameFrom (quiet_of_never text true) rfl).mono fun run next rewritten => ?_
    rcases rewritten with call | ⟨_, member, _⟩
    · exact call
    · cases member
  have sorted : ∀ name ∈ longestFirst names, IsIndexable name := fun name member =>
    indexable name (mem_longestFirst.1 member)
  refine (quiet_foldl_replaceWord sorted (fun _ member => (by cases member)) calls).mono ?_
  rintro run next (call | ⟨name, member, unindexed⟩)
  · exact .inl call
  · exact .inr ⟨name, mem_longestFirst.2 member, unindexed⟩

/-- A text in which nothing is left to rewrite stays as it is. -/
theorem Quiet.pageText_eq (indexable : ∀ name ∈ names, IsIndexable name)
    (quiet : Quiet (IsRewritten names) true text) : pageText names text = text := by
  have calls : renameFunctions text = text :=
    (quiet.mono fun _ _ call => .inl call).renameFrom_eq rfl
  have sorted : ∀ name ∈ longestFirst names, name ∈ names := fun _ member =>
    mem_longestFirst.1 member
  rw [pageText, calls, indexNames]
  generalize longestFirst names = order at sorted
  induction order with
  | nil => rfl
  | cons name order ih =>
    obtain ⟨here, sorted⟩ := List.forall_mem_cons.1 sorted
    have silent : Quiet (IsUnindexed name.toList) true text :=
      quiet.mono fun _ _ unindexed => .inr ⟨name, here, unindexed⟩
    rw [List.foldl_cons, replaceWord, silent.replaceFrom_eq (indexable name here).keys _ rfl]
    exact ih sorted

theorem pageText_pageText (indexable : ∀ name ∈ names, IsIndexable name) (text : List Char) :
    pageText names (pageText names text) = pageText names text :=
  (quiet_pageText indexable text).pageText_eq indexable

end

/-! ## The whole equation -/

/-- A text in which no running total is called has none to take out. -/
theorem splitSum_of_not_hasPart {text : List Char} (noSum : hasPart sumCall text = false) :
    splitSum text = .ok (none, text) := by
  have missed : splitAtPart? sumCall text = none := by
    induction text with
    | nil => rfl
    | cons c cs ih =>
      rw [hasPart, Bool.or_eq_false_iff] at noSum
      rw [splitAtPart?_of_none (Option.not_isSome_iff_eq_none.1 (Bool.eq_false_iff.1 noSum.1)),
        ih noSum.2]
      rfl
  rw [splitSum, missed]

/-- A rewritten text without a call of a running total is rewritten to itself, without a
word. -/
theorem codeOf_pageText {names : List String} (indexable : ∀ name ∈ names, IsIndexable name)
    {text : List Char} (noSum : hasPart sumCall (pageText names text) = false) :
    codeOf (pageText names text) names = Report.value ⟨none, pageText names text⟩ := by
  rw [codeOf, splitSum_of_not_hasPart noSum]
  change (Report.value _).andThen _ = _
  rw [Report.value_andThen]
  dsimp only
  rw [noSum, pageText_pageText indexable]
  rfl

/-- Every equation whose running total is closed is rewritten, and rewriting what came of
it, the expression or what the running total adds up, changes nothing any more. -/
theorem rewriting_is_idempotent {names : List String} (indexable : ∀ name ∈ names, IsIndexable name)
    {equation : List Char} (closed : ∃ parts, splitSum equation = .ok parts) :
    ∃ code, (codeOf equation names).outcome = .ok code ∧
      (hasPart sumCall code.expression = false →
        codeOf code.expression names = Report.value ⟨none, code.expression⟩) ∧
      ∀ sum, code.sum? = some sum → hasPart sumCall sum = false →
        codeOf sum names = Report.value ⟨none, sum⟩ := by
  obtain ⟨⟨inner, rest⟩, split⟩ := closed
  refine ⟨_, outcome_codeOf split names, codeOf_pageText indexable, ?_⟩
  intro sum isSum noSum
  obtain ⟨text, _, rfl⟩ := Option.map_eq_some_iff.1 isSum
  exact codeOf_pageText indexable noSum

/-- A variable named like the module of the functions, next to two that differ in letter
case only. -/
theorem module_name_is_rewritten_once :
    ∃ code, (codeOf "ln(TEMP)/max(Math,1)".toList ["Temp", "temp", "Math"]).outcome = .ok code ∧
      code.expression = "Math[i][1].log(Temp[i][1])/Math[i][1].max(Math[i][1],1)".toList ∧
      codeOf code.expression ["Temp", "temp", "Math"] = Report.value ⟨none, code.expression⟩ := by
  have indexable : ∀ name ∈ ["Temp", "temp", "Math"], IsIndexable name := by
    intro name member
    simp only [List.mem_cons, List.not_mem_nil, or_false] at member
    rcases member with rfl | rfl | rfl <;> exact ⟨by decide, by decide, by decide⟩
  have noSum : splitSum "ln(TEMP)/max(Math,1)".toList =
      .ok (none, "ln(TEMP)/max(Math,1)".toList) := rfl
  have order : longestFirst ["Temp", "temp", "Math"] = ["Temp", "temp", "Math"] :=
    List.mergeSort_of_pairwise (by decide)
  have page : pageText ["Temp", "temp", "Math"] "ln(TEMP)/max(Math,1)".toList =
      "Math[i][1].log(Temp[i][1])/Math[i][1].max(Math[i][1],1)".toList := by
    rw [pageText, indexNames, order]
    decide
  obtain ⟨code, rewritten, expression, -⟩ := rewriting_is_idempotent indexable ⟨_, noSum⟩
  obtain rfl := Except.ok.inj ((outcome_codeOf noSum _).symm.trans rewritten)
  exact ⟨_, rewritten, page, expression (by rw [page]; decide)⟩

end Meteogram.Equation
