import Meteogram.Equation.Occurrence
import Meteogram.Proofs.Text.Identifier

/-!
# Where an identifier occurs

A text is passed over in runs. No identifier begins behind a word character or a
point (`occursFrom_solid`), none contains a character that is neither
(`occursFrom_opening`), and at the start of a run of word characters it occurs
exactly if it is the whole run and may end there (`occursFrom_run`). The same three
steps say what replacing an identifier does to a text.
-/

set_option autoImplicit false

namespace Meteogram.Equation

open Meteogram.Text

/-! ## Runs of a text -/

/-- No word begins behind this character. -/
def isSolid (c : Char) : Bool :=
  isWordChar c || c == '.'

/-- A place inside a word. -/
abbrev inWord : Option Char := some '_'

theorem opensWord_some (c : Char) : opensWord (some c) = !isSolid c := rfl

theorem opensWord_inWord : opensWord inWord = false := by decide

theorem isSolid_of_isWordChar {c : Char} (inWords : isWordChar c = true) : isSolid c = true := by
  rw [isSolid, inWords, Bool.true_or]

theorem isWordChar_of_not_isSolid {c : Char} (opening : isSolid c = false) :
    isWordChar c = false := by
  rw [isSolid, Bool.or_eq_false_iff] at opening
  exact opening.1

section

variable {word : List Char} (identifier : isIdentifier (keysOf word) = true)

/-! ## One place -/

/-- A word in front of other characters is met exactly by the words with its
keys. -/
theorem closesWord_afterWord? (names : (keysOf word).all isNameChar = true) {run after : List Char}
    (inRun : run.all isWordChar = true) (apart : ∀ c ∈ after.head?, isWordChar c = false) :
    ((afterWord? word (run ++ after)).map closesWord).getD false =
      (decide (keysOf word = keysOf run) && closesWord after) := by
  induction word generalizing run with
  | nil =>
    cases run with
    | nil => simp only [afterWord?, List.nil_append, Option.map_some, Option.getD_some, keysOf,
        List.map_nil, decide_true, Bool.true_and]
    | cons c cs =>
      rw [List.all_cons, Bool.and_eq_true] at inRun
      simp only [afterWord?, List.cons_append, Option.map_some, Option.getD_some, closesWord,
        inRun.1, keysOf, List.map_nil, List.map_cons, Bool.true_or, Bool.not_true,
        List.nil_eq, reduceCtorEq, decide_false, Bool.false_and]
  | cons w ws ih =>
    rw [keysOf, List.map_cons, List.all_cons, Bool.and_eq_true] at names
    cases run with
    | nil =>
      have missed : afterWord? (w :: ws) after = none := by
        cases after with
        | nil => rfl
        | cons c cs =>
          have other := not_isNameChar_key (apart c rfl)
          rw [afterWord?, if_neg]
          intro same
          rw [← same, names.1] at other
          cases other
      rw [List.nil_append, missed, keysOf, keysOf, List.map_cons, List.map_nil]
      rfl
    | cons c cs =>
      rw [List.all_cons, Bool.and_eq_true] at inRun
      rw [List.cons_append, afterWord?]
      by_cases same : caselessKey w = caselessKey c
      · rw [if_pos same, ih names.2 inRun.2]
        refine congrArg (· && closesWord after) (decide_eq_decide.2 ?_)
        simp only [keysOf, List.map_cons, same, List.cons.injEq, true_and]
      · rw [if_neg same]
        simp only [keysOf, List.map_cons, same, List.cons.injEq, false_and, decide_false,
          Bool.false_and, Option.map_none, Option.getD_none]

include identifier

/-- At the start of a run of word characters an identifier occurs exactly if it is
the whole run. -/
theorem occursHere_run {run after : List Char} (inRun : run.all isWordChar = true)
    (apart : ∀ c ∈ after.head?, isWordChar c = false) (before : Option Char) :
    occursHere word before (run ++ after) =
      (opensWord before && (decide (keysOf word = keysOf run) && closesWord after)) := by
  rw [occursHere, closesWord_afterWord? (isIdentifier_all identifier) inRun apart]

theorem occursHere_nil (before : Option Char) : occursHere word before [] = false := by
  have never : keysOf word ≠ keysOf [] := isIdentifier_ne_nil identifier
  rw [← List.nil_append [], occursHere_run identifier rfl (fun _ member => by cases member),
    decide_eq_false never, Bool.false_and, Bool.and_false]

/-- No identifier begins with a character that is neither a letter nor the
underscore. -/
theorem occursHere_of_not_start {c : Char} (noLetter : isLetter c = false) (noBar : c ≠ '_')
    (before : Option Char) (after : List Char) : occursHere word before (c :: after) = false := by
  cases word with
  | nil => cases identifier
  | cons w ws =>
    rw [keysOf, List.map_cons, isIdentifier, Bool.and_eq_true, Bool.and_eq_true,
      Bool.not_eq_true'] at identifier
    have missed : afterWord? (w :: ws) (c :: after) = none := by
      rw [afterWord?, if_neg]
      intro same
      rw [same] at identifier
      rcases isLetter_of_start identifier.1.1 identifier.1.2 with letter | bar
      · exact absurd (letter.symm.trans noLetter) Bool.noConfusion
      · exact noBar bar
    rw [occursHere, missed]
    exact Bool.and_false _

theorem occursHere_of_not_isWordChar {c : Char} (other : isWordChar c = false)
    (before : Option Char) (after : List Char) : occursHere word before (c :: after) = false := by
  refine occursHere_of_not_start identifier (Bool.eq_false_iff.2 fun letter => ?_) ?_ before after
  · rw [isWordChar_of_isLetter letter] at other
    cases other
  · rintro rfl
    exact absurd other (by decide)

omit identifier

theorem occursHere_of_not_opens {before : Option Char} (closed : opensWord before = false)
    (text : List Char) : occursHere word before text = false := by
  rw [occursHere, closed, Bool.false_and]

theorem occursHere_congr {before other : Option Char} (same : opensWord before = opensWord other)
    (text : List Char) : occursHere word before text = occursHere word other text := by
  rw [occursHere, occursHere, same]

/-! ## Finding an identifier -/

theorem occursFrom_congr {before other : Option Char} (same : opensWord before = opensWord other)
    (text : List Char) : occursFrom word before text = occursFrom word other text := by
  cases text <;> rw [occursFrom, occursFrom, occursHere_congr same]

/-- Inside a word nothing begins. -/
theorem occursFrom_solid {before : Option Char} (closed : opensWord before = false)
    {run : List Char} (solid : run.all isSolid = true) (after : List Char) :
    occursFrom word before (run ++ after) = occursFrom word inWord after := by
  induction run generalizing before with
  | nil => exact occursFrom_congr closed after
  | cons c cs ih =>
    rw [List.all_cons, Bool.and_eq_true] at solid
    have closed' : opensWord (some c) = false := by rw [opensWord_some, solid.1, Bool.not_true]
    rw [List.cons_append, occursFrom, occursHere_of_not_opens closed, Bool.false_or,
      ih closed' solid.2]

include identifier

/-- A character outside of words is passed over, and a word may begin behind it. -/
theorem occursFrom_opening {c : Char} (opening : isSolid c = false) (before : Option Char)
    (after : List Char) : occursFrom word before (c :: after) = occursFrom word none after := by
  have opens : opensWord (some c) = opensWord none := by rw [opensWord_some, opening]; rfl
  rw [occursFrom, occursHere_of_not_isWordChar identifier (isWordChar_of_not_isSolid opening),
    Bool.false_or, occursFrom_congr opens]

/-- A run of word characters is an occurrence as a whole or not at all. -/
theorem occursFrom_run {run after : List Char} (nonempty : run ≠ [])
    (inRun : run.all isWordChar = true) (apart : ∀ c ∈ after.head?, isWordChar c = false) :
    occursFrom word none (run ++ after) =
      (decide (keysOf word = keysOf run) && closesWord after || occursFrom word inWord after) := by
  have here := occursHere_run identifier inRun apart none
  cases run with
  | nil => exact absurd rfl nonempty
  | cons c cs =>
    rw [List.all_cons, Bool.and_eq_true] at inRun
    have closed : opensWord (some c) = false := by
      rw [opensWord_some, isSolid_of_isWordChar inRun.1, Bool.not_true]
    have solid : cs.all isSolid = true := List.all_eq_true.2 fun d member =>
      isSolid_of_isWordChar (List.all_eq_true.1 inRun.2 d member)
    rw [List.cons_append] at here ⊢
    rw [occursFrom, here, occursFrom_solid closed solid]
    rfl

/-- A run that cannot begin an identifier is passed over. -/
theorem occursFrom_numeral {c : Char} {cs : List Char} (noLetter : isLetter c = false)
    (noBar : c ≠ '_') (solid : (c :: cs).all isSolid = true) (after : List Char) :
    occursFrom word none (c :: cs ++ after) = occursFrom word inWord after := by
  rw [List.all_cons, Bool.and_eq_true] at solid
  have closed : opensWord (some c) = false := by rw [opensWord_some, solid.1, Bool.not_true]
  rw [List.cons_append, occursFrom, occursHere_of_not_start identifier noLetter noBar,
    Bool.false_or, occursFrom_solid closed solid.2]

/-- Between words it makes no difference whether a word stands in front. -/
theorem occursFrom_apart {text : List Char} (apart : ∀ c ∈ text.head?, isSolid c = false) :
    occursFrom word inWord text = occursFrom word none text := by
  cases text with
  | nil => rw [occursFrom, occursFrom, occursHere_nil identifier, occursHere_nil identifier]
  | cons c cs =>
    rw [occursFrom_opening identifier (apart c rfl), occursFrom_opening identifier (apart c rfl)]

omit identifier

/-! ## Replacing an identifier -/

variable (new : List Char)

theorem replaceFrom_congr {before other : Option Char} (same : opensWord before = opensWord other)
    (text : List Char) : replaceFrom word new before 0 text = replaceFrom word new other 0 text := by
  cases text <;> simp only [replaceFrom, occursHere_congr same]

theorem replaceFrom_missed {before : Option Char} {c : Char} {cs : List Char}
    (missed : occursHere word before (c :: cs) = false) :
    replaceFrom word new before 0 (c :: cs) = c :: replaceFrom word new (some c) 0 cs := by
  rw [replaceFrom.eq_def]
  dsimp only
  rw [missed, if_neg Bool.false_ne_true]

theorem replaceFrom_found {w : Char} {ws : List Char} {before : Option Char} {c : Char}
    {cs : List Char} (found : occursHere (w :: ws) before (c :: cs) = true) :
    replaceFrom (w :: ws) new before 0 (c :: cs) =
      new ++ replaceFrom (w :: ws) new (some c) ws.length cs := by
  rw [replaceFrom.eq_def]
  dsimp only
  rw [found, if_pos rfl]

theorem replaceFrom_solid {before : Option Char} (closed : opensWord before = false)
    {run : List Char} (solid : run.all isSolid = true) (after : List Char) :
    replaceFrom word new before 0 (run ++ after) = run ++ replaceFrom word new inWord 0 after := by
  induction run generalizing before with
  | nil => exact replaceFrom_congr new closed after
  | cons c cs ih =>
    rw [List.all_cons, Bool.and_eq_true] at solid
    have closed' : opensWord (some c) = false := by rw [opensWord_some, solid.1, Bool.not_true]
    rw [List.cons_append, replaceFrom_missed new (occursHere_of_not_opens closed _),
      ih closed' solid.2, List.cons_append]

/-- The rest of an occurrence is left out. -/
theorem replaceFrom_skip {before : Option Char} (closed : opensWord before = false)
    {run : List Char} (solid : run.all isSolid = true) (after : List Char) :
    replaceFrom word new before run.length (run ++ after) =
      replaceFrom word new inWord 0 after := by
  induction run generalizing before with
  | nil => exact replaceFrom_congr new closed after
  | cons c cs ih =>
    rw [List.all_cons, Bool.and_eq_true] at solid
    have closed' : opensWord (some c) = false := by rw [opensWord_some, solid.1, Bool.not_true]
    rw [List.cons_append, List.length_cons, replaceFrom, ih closed' solid.2]

include identifier

theorem replaceFrom_opening {c : Char} (opening : isSolid c = false) (before : Option Char)
    (after : List Char) :
    replaceFrom word new before 0 (c :: after) = c :: replaceFrom word new none 0 after := by
  have opens : opensWord (some c) = opensWord none := by rw [opensWord_some, opening]; rfl
  have missed := occursHere_of_not_isWordChar identifier (isWordChar_of_not_isSolid opening)
    before after
  rw [replaceFrom_missed new missed, replaceFrom_congr new opens]

/-- A run of word characters is replaced as a whole or not at all. -/
theorem replaceFrom_run {run after : List Char} (nonempty : run ≠ [])
    (inRun : run.all isWordChar = true) (apart : ∀ c ∈ after.head?, isWordChar c = false) :
    replaceFrom word new none 0 (run ++ after) =
      (if keysOf word = keysOf run ∧ closesWord after = true then new else run) ++
        replaceFrom word new inWord 0 after := by
  have here := occursHere_run identifier inRun apart none
  cases run with
  | nil => exact absurd rfl nonempty
  | cons c cs =>
    rw [List.all_cons, Bool.and_eq_true] at inRun
    have closed : opensWord (some c) = false := by
      rw [opensWord_some, isSolid_of_isWordChar inRun.1, Bool.not_true]
    have solid : cs.all isSolid = true := List.all_eq_true.2 fun d member =>
      isSolid_of_isWordChar (List.all_eq_true.1 inRun.2 d member)
    rw [List.cons_append] at here ⊢
    by_cases matching : keysOf word = keysOf (c :: cs) ∧ closesWord after = true
    · rw [decide_eq_true matching.1, matching.2] at here
      rw [if_pos matching]
      cases word with
      | nil => cases identifier
      | cons w ws =>
        have length : ws.length = cs.length := by
          have lengths := congrArg List.length matching.1
          simpa only [keysOf, List.length_map, List.length_cons, Nat.add_right_cancel_iff]
            using lengths
        rw [replaceFrom_found new here, length, replaceFrom_skip new closed solid]
    · have missed : occursHere word none (c :: (cs ++ after)) = false := by
        rw [here, Bool.and_eq_false_imp]
        intro _
        rw [Bool.and_eq_false_imp, decide_eq_true_eq]
        exact fun same => Bool.eq_false_iff.2 fun closes => matching ⟨same, closes⟩
      rw [if_neg matching, replaceFrom_missed new missed, replaceFrom_solid new closed solid,
        List.cons_append]

theorem replaceFrom_numeral {c : Char} {cs : List Char} (noLetter : isLetter c = false)
    (noBar : c ≠ '_') (solid : (c :: cs).all isSolid = true) (after : List Char) :
    replaceFrom word new none 0 (c :: cs ++ after) =
      c :: cs ++ replaceFrom word new inWord 0 after := by
  rw [List.all_cons, Bool.and_eq_true] at solid
  have closed : opensWord (some c) = false := by rw [opensWord_some, solid.1, Bool.not_true]
  have missed := occursHere_of_not_start identifier noLetter noBar none (cs ++ after)
  rw [List.cons_append, replaceFrom_missed new missed, replaceFrom_solid new closed solid.2,
    List.cons_append]

theorem replaceFrom_apart {text : List Char} (apart : ∀ c ∈ text.head?, isSolid c = false) :
    replaceFrom word new inWord 0 text = replaceFrom word new none 0 text := by
  cases text with
  | nil => simp only [replaceFrom, occursHere_nil identifier]
  | cons c cs =>
    rw [replaceFrom_opening identifier new (apart c rfl),
      replaceFrom_opening identifier new (apart c rfl)]

end

end Meteogram.Equation
