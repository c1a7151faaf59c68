import Meteogram.Proofs.Equation.Rewriting

/-!
# Variables are indexed all at once

A page replaces one variable after the other by its value at the current index, each time in the
text that the ones before have left. It comes to the same as replacing all of them at once in the
text as it was (`IndexedAtOnce`), because a name stands somewhere only as a whole run of word
characters. What is put in for a name is passed over by the other names, and leaves the places
behind it as they were (`indexInTurn_run`). So the order of the variables makes no difference
(`variables_are_indexed_at_once`), if no two of them agree ignoring case, and if none is the index
itself.
-/

set_option autoImplicit false

namespace Meteogram.Equation

open Meteogram.Text

/-! ## All at once -/

/-- The name is written here in any letter case, with no word character or point in front of it and
no word character or opening square bracket behind it. -/
structure StandsHere (name : String) (before : Option Char) (run after : List Char) : Prop where
  written : keysOf name.toList = keysOf run
  opens : opensWord before = true
  closes : closesWord after = true

/-- The second text is the first one with each of the names, wherever it stands in the first text
behind the character `before`, replaced by its value at the current index, and with everything else
as it was. -/
inductive IndexedAtOnce (names : List String) : Option Char → List Char → List Char → Prop where
  | nil {before : Option Char} : IndexedAtOnce names before [] []
  | name {before : Option Char} {name : String} {run after result : List Char}
      (member : name ∈ names) (here : StandsHere name before run after)
      (next : IndexedAtOnce names run.getLast? after result) :
      IndexedAtOnce names before (run ++ after) (indexed name.toList ++ result)
  | other {before : Option Char} {c : Char} {rest result : List Char}
      (noName : ∀ name ∈ names, ∀ run after, c :: rest = run ++ after →
        ¬ StandsHere name before run after)
      (next : IndexedAtOnce names (some c) rest result) :
      IndexedAtOnce names before (c :: rest) (c :: result)

section

variable {names : List String} {before : Option Char} {text after result : List Char}

/-- Only the names count, not their order. -/
theorem IndexedAtOnce.of_mem_iff {others : List String} (same : ∀ name, name ∈ names ↔ name ∈ others)
    (indexed : IndexedAtOnce names before text result) :
    IndexedAtOnce others before text result := by
  induction indexed with
  | nil => exact .nil
  | name member here _ ih => exact .name ((same _).1 member) here ih
  | other noName _ ih =>
    refine .other ?_ ih
    intro name member
    exact noName name ((same name).2 member)

theorem IndexedAtOnce.congr {other : Option Char} (same : opensWord before = opensWord other)
    (indexed : IndexedAtOnce names before text result) : IndexedAtOnce names other text result := by
  cases indexed with
  | nil => exact .nil
  | name member here next => exact .name member ⟨here.written, same ▸ here.opens, here.closes⟩ next
  | other noName next =>
    refine .other ?_ next
    intro name member run after split here
    exact noName name member run after split ⟨here.written, same ▸ here.opens, here.closes⟩

/-- Inside a word everything stays as it is. -/
theorem IndexedAtOnce.inside (closed : opensWord before = false) {run : List Char}
    (solid : run.all isSolid = true) (next : IndexedAtOnce names inWord after result) :
    IndexedAtOnce names before (run ++ after) (run ++ result) := by
  induction run generalizing before with
  | nil => exact next.congr (opensWord_inWord.trans closed.symm)
  | cons c run ih =>
    rw [List.all_cons, Bool.and_eq_true] at solid
    refine .other ?_ (ih (by rw [opensWord_some, solid.1, Bool.not_true]) solid.2)
    intro name _ run' after' _ here
    rw [here.opens] at closed
    cases closed

theorem StandsHere.apart {name : String} {run : List Char} (here : StandsHere name before run after) :
    ∀ c ∈ after.head?, isWordChar c = false := by
  intro c isHead
  obtain ⟨rest, rfl⟩ := List.head?_eq_some_iff.1 isHead
  have closes := here.closes
  rw [closesWord, Bool.not_eq_true', Bool.or_eq_false_iff] at closes
  exact closes.1

variable (indexable : ∀ name ∈ names, IsIndexable name)

include indexable

theorem StandsHere.inRun {name : String} (member : name ∈ names) {run : List Char}
    (here : StandsHere name before run after) : run.all isWordChar = true := by
  have identifier := (indexable name member).keys
  rw [here.written] at identifier
  exact all_isWordChar_of_keys identifier

theorem StandsHere.run_ne_nil {name : String} (member : name ∈ names) {run : List Char}
    (here : StandsHere name before run after) : run ≠ [] := by
  rintro rfl
  exact isIdentifier_ne_nil (indexable name member).keys here.written

/-- A name stands only where a whole run of word characters is written. -/
theorem StandsHere.run_eq {name : String} (member : name ∈ names) {run other behind : List Char}
    (here : StandsHere name before run after) (inOther : other.all isWordChar = true)
    (apart : ∀ c ∈ behind.head?, isWordChar c = false) (same : run ++ after = other ++ behind) :
    run = other ∧ after = behind :=
  append_unique (here.inRun indexable member) inOther here.apart apart same

/-- No name begins with a character outside of words. -/
theorem not_standsHere {c : Char} (outside : isWordChar c = false) {rest : List Char} :
    ∀ name ∈ names, ∀ run after, c :: rest = run ++ after → ¬ StandsHere name before run after := by
  intro name member run after split here
  have noRun : ([] : List Char).all isWordChar = true := rfl
  have apart : ∀ d ∈ (c :: rest).head?, isWordChar d = false := by simpa using outside
  obtain ⟨empty, _⟩ := here.run_eq indexable member noRun apart split.symm
  exact here.run_ne_nil indexable member empty

omit indexable

/-- There is one such text at most, if no two names agree ignoring case. -/
theorem IndexedAtOnce.unique (indexable : ∀ name ∈ names, IsIndexable name)
    (distinct : ∀ first ∈ names, ∀ second ∈ names,
      keysOf first.toList = keysOf second.toList → first = second)
    (first : IndexedAtOnce names before text result) {other : List Char}
    (second : IndexedAtOnce names before text other) : result = other := by
  induction first generalizing other with
  | nil =>
    generalize same : ([] : List Char) = text at second
    cases second with
    | nil => rfl
    | name member here _ =>
      exact absurd (List.append_eq_nil_iff.1 same.symm).1 (here.run_ne_nil indexable member)
    | other => cases same
  | @name before name run after result member here next ih =>
    generalize same : run ++ after = text at second
    cases second with
    | nil => exact absurd (List.append_eq_nil_iff.1 same).1 (here.run_ne_nil indexable member)
    | @name _ name' run' after' result' member' here' next' =>
      obtain ⟨rfl, rfl⟩ :=
        here.run_eq indexable member (here'.inRun indexable member') here'.apart same
      obtain rfl := distinct name member name' member' (here.written.trans here'.written.symm)
      rw [ih next']
    | other noName _ => exact absurd here (noName name member run after same.symm)
  | @other before c rest result noName _ ih =>
    generalize same : c :: rest = text at second
    cases second with
    | nil => cases same
    | @name _ name' run' after' _ member' here' _ =>
      exact absurd here' (noName name' member' run' after' same)
    | other _ next' =>
      obtain ⟨rfl, rfl⟩ := List.cons.inj same
      rw [ih next']

end

/-! ## One after the other -/

/-- The text after each name in turn is replaced by its value at the current index, behind the
character `before`. -/
def indexInTurn (order : List String) (before : Option Char) (text : List Char) : List Char :=
  order.foldl (fun text name => replaceFrom name.toList (indexed name.toList) before 0 text) text

theorem indexNames_eq (names : List String) (text : List Char) :
    indexNames names text = indexInTurn (longestFirst names) none text := rfl

section

variable {order : List String} {before : Option Char} {after : List Char}

theorem indexInTurn_cons (name : String) (order : List String) (before : Option Char)
    (text : List Char) : indexInTurn (name :: order) before text =
      indexInTurn order before (replaceFrom name.toList (indexed name.toList) before 0 text) := rfl

theorem indexInTurn_congr {other : Option Char} (same : opensWord before = opensWord other)
    (text : List Char) : indexInTurn order before text = indexInTurn order other text := by
  simp only [indexInTurn, replaceFrom_congr _ same]

/-- A character at which none of the names begins, whatever follows, stays as it is. -/
theorem indexInTurn_passed {c : Char}
    (passed : ∀ name ∈ order, ∀ rest, occursHere name.toList before (c :: rest) = false)
    (rest : List Char) :
    indexInTurn order before (c :: rest) = c :: indexInTurn order (some c) rest := by
  induction order generalizing rest with
  | nil => rfl
  | cons name order ih =>
    obtain ⟨here, passed⟩ := List.forall_mem_cons.1 passed
    rw [indexInTurn_cons, replaceFrom_missed _ (here rest), ih passed, indexInTurn_cons]

theorem IsIndexable.ne_nil {name : String} (indexable : IsIndexable name) : name.toList ≠ [] := by
  intro empty
  have identifier := indexable.identifier
  rw [empty] at identifier
  cases identifier

/-- Between words it makes no difference whether a word stands in front. -/
theorem IsIndexable.replaceFrom_reopen {name : String} (indexable : IsIndexable name)
    (new : List Char) (apart : ∀ c ∈ after.head?, isWordChar c = false) :
    replaceFrom name.toList new none 0 after = replaceFrom name.toList new inWord 0 after := by
  cases after with
  | nil => simp [replaceFrom, occursHere_nil indexable.keys]
  | cons c rest =>
    have missed := fun before => occursHere_of_not_isWordChar indexable.keys (apart c rfl) before rest
    rw [replaceFrom_missed _ (missed none), replaceFrom_missed _ (missed inWord)]

variable (indexable : ∀ name ∈ order, IsIndexable name)

include indexable

theorem indexInTurn_nil : indexInTurn order before [] = [] := by
  induction order with
  | nil => rfl
  | cons name order ih =>
    obtain ⟨here, indexable⟩ := List.forall_mem_cons.1 indexable
    have kept : replaceFrom name.toList (indexed name.toList) before 0 [] = [] := by
      simp [replaceFrom, occursHere_nil here.keys]
    rw [indexInTurn_cons, kept, ih indexable]

/-- What is put in for a name is passed over by all of them. -/
theorem indexInTurn_indexed {word : String} (isWord : IsIndexable word)
    (apart : ∀ c ∈ after.head?, isWordChar c = false) :
    indexInTurn order none (indexed word.toList ++ after) =
      indexed word.toList ++ indexInTurn order inWord after := by
  induction order generalizing after with
  | nil => rfl
  | cons name order ih =>
    obtain ⟨here, indexable⟩ := List.forall_mem_cons.1 indexable
    have head := head?_replaceFrom here.keys (indexed name.toList) opensWord_inWord after
    have passed := replaceFrom_indexed (indexed name.toList) here.keys here.noIndex isWord.ne_nil
      (all_isWordChar_of_keys isWord.keys) after
    rw [indexInTurn_cons, passed, here.replaceFrom_reopen _ apart, ih indexable (by rwa [head]),
      indexInTurn_cons]

/-- A run of word characters becomes the value of the name that it is, or stays as it is. -/
theorem indexInTurn_run {run : List Char} (nonempty : run ≠ []) (inRun : run.all isWordChar = true)
    (apart : ∀ c ∈ after.head?, isWordChar c = false) :
    (∃ name ∈ order, StandsHere name none run after ∧ indexInTurn order none (run ++ after) =
        indexed name.toList ++ indexInTurn order inWord after) ∨
      (∀ name ∈ order, ¬ StandsHere name none run after) ∧
        indexInTurn order none (run ++ after) = run ++ indexInTurn order inWord after := by
  induction order generalizing after with
  | nil => exact .inr ⟨fun _ member => absurd member List.not_mem_nil, rfl⟩
  | cons name order ih =>
    obtain ⟨here, indexable⟩ := List.forall_mem_cons.1 indexable
    -- The names that follow judge the run by the character behind it, which stays.
    have head := head?_replaceFrom here.keys (indexed name.toList) opensWord_inWord after
    have apart' : ∀ c ∈ (replaceFrom name.toList (indexed name.toList) inWord 0 after).head?,
        isWordChar c = false := by rwa [head]
    have closes : closesWord (replaceFrom name.toList (indexed name.toList) inWord 0 after) =
        closesWord after := by rw [← closesWord_head?, head, closesWord_head?]
    rw [indexInTurn_cons, replaceFrom_run here.keys _ nonempty inRun apart]
    split
    · next found =>
      refine .inl ⟨name, List.mem_cons_self, ⟨found.1, rfl, found.2⟩, ?_⟩
      rw [indexInTurn_indexed indexable here apart', indexInTurn_cons]
    · next missed =>
      rcases ih indexable apart' with ⟨other, member, stands, value⟩ | ⟨none', value⟩
      · refine .inl ⟨other, List.mem_cons_of_mem _ member, ?_, value⟩
        exact ⟨stands.written, rfl, closes ▸ stands.closes⟩
      · refine .inr ⟨List.forall_mem_cons.2 ⟨?_, ?_⟩, value⟩
        · intro stands
          exact missed ⟨stands.written, stands.closes⟩
        · intro other member stands
          exact none' other member ⟨stands.written, rfl, closes.symm ▸ stands.closes⟩

/-- Replacing the names in turn replaces them all at once. -/
theorem indexedAtOnce_indexInTurn {opens : Bool} {text : List Char}
    (quiet : Quiet (fun _ _ => False) opens text) (same : opensWord before = opens) :
    IndexedAtOnce order before text (indexInTurn order before text) := by
  -- The text is gone through run by run; what the names could busy themselves with is left open.
  induction quiet generalizing before with
  | nil =>
    rw [indexInTurn_nil indexable]
    exact .nil
  | @mark _ c rest opening _ ih =>
    have outside := isWordChar_of_not_isSolid opening
    rw [indexInTurn_passed fun name member rest =>
      occursHere_of_not_isWordChar (indexable name member).keys outside before rest]
    exact .other (not_standsHere indexable outside) (ih (by rw [opensWord_some, opening]; rfl))
  | @solid c rest solid _ ih =>
    rw [indexInTurn_passed fun name member rest => occursHere_of_not_opens same _]
    refine .other ?_ (ih (by rw [opensWord_some, solid]; rfl))
    intro name member run after _ here
    exact absurd (here.opens.symm.trans same) Bool.noConfusion
  | @point rest _ ih =>
    have outside : isWordChar '.' = false := by decide
    rw [indexInTurn_passed fun name member rest =>
      occursHere_of_not_isWordChar (indexable name member).keys outside before rest]
    exact .other (not_standsHere indexable outside) (ih (by decide))
  | @run run after nonempty inRun apart _ _ ih =>
    have opens : opensWord before = opensWord none := same
    have next := ih opensWord_inWord
    rw [indexInTurn_congr opens]
    refine IndexedAtOnce.congr opens.symm ?_
    rcases indexInTurn_run indexable nonempty inRun apart with ⟨name, member, here, value⟩ |
      ⟨noName, value⟩
    · rw [value]
      refine .name member here (next.congr ?_)
      have last := List.all_eq_true.1 inRun _ (List.getLast_mem nonempty)
      rw [opensWord_inWord, List.getLast?_eq_some_getLast nonempty, opensWord_some,
        isSolid_of_isWordChar last, Bool.not_true]
    · rw [value]
      cases run with
      | nil => exact absurd rfl nonempty
      | cons c run =>
        have solid := fun d member => isSolid_of_isWordChar (List.all_eq_true.1 inRun d member)
        refine .other ?_ (next.inside ?_ ?_)
        · intro name member run' after' split here
          obtain ⟨rfl, rfl⟩ := here.run_eq indexable member inRun apart split.symm
          exact noName name member here
        · rw [opensWord_some, solid c List.mem_cons_self, Bool.not_true]
        · exact List.all_eq_true.2 fun d member => solid d (List.mem_cons_of_mem c member)

end

/-! ## The order of the variables -/

/-- The variables of a text, whose names are ASCII identifiers, differ in more than letter case and
are not that of the index, are replaced by their values at the current index all at once. There is
one text only that comes of that, whatever the order of the variables. -/
theorem variables_are_indexed_at_once {names : List String}
    (indexable : ∀ name ∈ names, IsIndexable name)
    (distinct : names.Pairwise fun first second => sameWord first second = false)
    (text : List Char) :
    (∀ result, indexNames names text = result ↔ IndexedAtOnce names none text result) ∧
      ∀ order : List String, order.Perm names → indexNames order text = indexNames names text := by
  have atOnce : ∀ order : List String, order.Perm names →
      IndexedAtOnce names none text (indexNames order text) := by
    intro order reordered
    have same : ∀ name, name ∈ longestFirst order ↔ name ∈ names :=
      fun name => mem_longestFirst.trans reordered.mem_iff
    have sorted : ∀ name ∈ longestFirst order, IsIndexable name :=
      fun name member => indexable name ((same name).1 member)
    rw [indexNames_eq]
    exact (indexedAtOnce_indexInTurn sorted (quiet_of_never text true) rfl).of_mem_iff same
  have apart : ∀ first ∈ names, ∀ second ∈ names,
      keysOf first.toList = keysOf second.toList → first = second := by
    intro first isFirst second isSecond keys
    have ascii := fun name member => isIdentifier_ascii (indexable name member).identifier
    have agree := sameWord_of_keysOf (ascii first isFirst) (ascii second isSecond) keys
    have symmetric : Std.Symm fun first second : String => sameWord first second = false :=
      ⟨fun first second differ => sameWord_comm first second ▸ differ⟩
    by_contra different
    have differ := distinct.forall isFirst isSecond different
    rw [agree] at differ
    cases differ
  constructor
  · intro result
    constructor
    · rintro rfl
      exact atOnce names (.refl _)
    · intro indexed
      exact (atOnce names (.refl _)).unique indexable apart indexed
  · intro order reordered
    exact (atOnce order reordered).unique indexable apart (atOnce names (.refl _))

/-- Names that are parts of each other, in a text with one of them in front of an index, one behind
a point, and one written with the kelvin sign. -/
theorem parts_of_names_are_indexed_at_once :
    (∀ name ∈ ["Risk1", "Risk", "SK"], IsIndexable name) ∧
      ["Risk1", "Risk", "SK"].Pairwise (fun first second => sameWord first second = false) ∧
      IndexedAtOnce ["Risk1", "Risk", "SK"] none "RIS\u212A1-risk*sk.Risk+Risk[0]".toList
        "Risk1[i][1]-Risk[i][1]*SK[i][1].Risk+Risk[0]".toList ∧
      indexNames ["SK", "Risk1", "Risk"] "RIS\u212A1-risk*sk.Risk+Risk[0]".toList =
        indexNames ["Risk1", "Risk", "SK"] "RIS\u212A1-risk*sk.Risk+Risk[0]".toList := by
  have indexable : ∀ name ∈ ["Risk1", "Risk", "SK"], IsIndexable name := by
    intro name member
    simp only [List.mem_cons, List.not_mem_nil, or_false] at member
    rcases member with rfl | rfl | rfl <;> exact ⟨by decide, by decide, by decide⟩
  have distinct : ["Risk1", "Risk", "SK"].Pairwise
      (fun first second => sameWord first second = false) := by decide
  obtain ⟨only, reordered⟩ := variables_are_indexed_at_once indexable distinct
    "RIS\u212A1-risk*sk.Risk+Risk[0]".toList
  have sorted : longestFirst ["Risk1", "Risk", "SK"] = ["Risk1", "Risk", "SK"] :=
    List.mergeSort_of_pairwise (by decide)
  refine ⟨indexable, distinct, (only _).1 ?_, reordered _ (by decide)⟩
  rw [indexNames, sorted]
  decide

end Meteogram.Equation
