import Meteogram.Definition.Parse
import Meteogram.Proofs.Equation.Expansion

/-!
# What readers keep and what they give

A reader is described by what holds of its value and of the state that it ends
in, if it does not stop (`Gives`). The rules follow the ways in which readers are
put together. The property of states that all readers of definitions keep is
`Sound`: the words that are left are the last ones of the definitions, and the
equations that were defined are in order.
-/

set_option autoImplicit false

namespace Meteogram.Definition

open Reader

/-! ## Rules for readers -/

section

variable {α β : Type} {P : State → Prop}

/-- Started in this state, the reader ends in a state with the property `P` and
with a value that has the property `Q`, if it does not stop. -/
def GivesFrom (P : State → Prop) (state : State) (reader : Reader α) (Q : α → Prop) : Prop :=
  ∀ value last, reader state = .ok value last → P last ∧ Q value

/-- From every state with the property `P`, the reader ends in such a state and
with a value that has the property `Q`, if it does not stop. -/
def Gives (P : State → Prop) (reader : Reader α) (Q : α → Prop) : Prop :=
  ∀ state, P state → GivesFrom P state reader Q

/-- A sequence ends if both readers do. -/
theorem bind_ok_iff {reader : Reader α} {next : α → Reader β} {state last : State} {value : β} :
    (reader >>= next) state = .ok value last ↔
      ∃ first between, reader state = .ok first between ∧ next first between = .ok value last := by
  change EStateM.bind reader next state = _ ↔ _
  rw [EStateM.bind]
  cases reader state with
  | ok first between =>
    refine ⟨fun ends => ⟨first, between, rfl, ends⟩, ?_⟩
    rintro ⟨_, _, same, ends⟩
    obtain ⟨rfl, rfl⟩ := EStateM.Result.ok.inj same
    exact ends
  | error stop between =>
    refine ⟨fun ends => (by cases ends), ?_⟩
    rintro ⟨_, _, same, _⟩
    cases same

theorem GivesFrom.bind {state : State} {reader : Reader α} {Q : α → Prop}
    (first : GivesFrom P state reader Q) {next : α → Reader β} {R : β → Prop}
    (then_ : ∀ value, Q value → Gives P (next value) R) :
    GivesFrom P state (reader >>= next) R := by
  intro value last ends
  obtain ⟨a, between, ends, ends'⟩ := bind_ok_iff.1 ends
  obtain ⟨kept, holds⟩ := first a between ends
  exact then_ a holds between kept value last ends'

theorem GivesFrom.get_bind {state : State} {next : State → Reader β} {R : β → Prop}
    (then_ : GivesFrom P state (next state) R) : GivesFrom P state (get >>= next) R :=
  fun value last ends => then_ value last ends

namespace Gives

theorem bind {reader : Reader α} {Q : α → Prop} (first : Gives P reader Q)
    {next : α → Reader β} {R : β → Prop} (then_ : ∀ value, Q value → Gives P (next value) R) :
    Gives P (reader >>= next) R :=
  fun state kept => (first state kept).bind then_

theorem pure {Q : α → Prop} {value : α} (holds : Q value) :
    Gives P (Pure.pure value : Reader α) Q := by
  intro state kept _ _ ends
  obtain ⟨rfl, rfl⟩ := EStateM.Result.ok.inj ends
  exact ⟨kept, holds⟩

/-- A reader that looks at the state goes on from that state. -/
theorem get_bind {next : State → Reader β} {R : β → Prop}
    (then_ : ∀ state, P state → GivesFrom P state (next state) R) :
    Gives P (get >>= next) R :=
  fun state kept => (then_ state kept).get_bind

theorem modify {change : State → State} (keeps : ∀ state, P state → P (change state)) :
    Gives P (modify change : Reader Unit) (fun _ => True) := by
  intro state kept _ _ ends
  obtain ⟨rfl, rfl⟩ := EStateM.Result.ok.inj ends
  exact ⟨keeps state kept, trivial⟩

theorem throw (stop : Stop) {Q : α → Prop} : Gives P (throw stop : Reader α) Q :=
  fun _ _ _ _ ends => by cases ends

theorem refuse (flaw : Flaw) {Q : α → Prop} : Gives P (Reader.refuse flaw : Reader α) Q :=
  throw _

theorem refuse_bind (flaw : Flaw) {next : α → Reader β} {R : β → Prop} :
    Gives P (Reader.refuse flaw >>= next) R :=
  fun _ _ _ _ ends => by cases ends

theorem ofExcept {outcome : Except Fault α} {Q : α → Prop}
    (holds : ∀ value, outcome = .ok value → Q value) : Gives P (Reader.ofExcept outcome) Q := by
  cases outcome with
  | error fault => exact throw _
  | ok value => exact pure (holds value rfl)

theorem ite {condition : Prop} [Decidable condition] {first second : Reader α} {Q : α → Prop}
    (yes : condition → Gives P first Q) (no : ¬ condition → Gives P second Q) :
    Gives P (if condition then first else second) Q := by
  by_cases holds : condition
  · rw [if_pos holds]
    exact yes holds
  · rw [if_neg holds]
    exact no holds

theorem weaken {reader : Reader α} {Q R : α → Prop} (gives : Gives P reader Q)
    (weaker : ∀ value, Q value → R value) : Gives P reader R :=
  fun state kept value last ends =>
    (gives state kept value last ends).imp_right (weaker value)

/-- Behind a check that stops the reader, the condition does not hold. -/
theorem guard {condition : Prop} [Decidable condition] {flaw : Flaw} {next : α → Reader β}
    {go : Reader β} {R : β → Prop} (no : ¬ condition → Gives P go R) :
    Gives P (if condition then Reader.refuse flaw >>= next else go) R :=
  ite (fun _ => refuse_bind flaw) no

end Gives

/-- A repetition keeps what each step keeps. -/
theorem gives_repeatUpTo {condition : State → Bool} {step : β → Reader β} {Q : β → Prop}
    (each : ∀ value, Q value → Gives P (step value) Q) (fuel : Nat) {value : β} (holds : Q value) :
    Gives P (repeatUpTo condition step fuel value) Q := by
  induction fuel generalizing value with
  | zero => exact Gives.pure holds
  | succ fuel ih =>
    rw [repeatUpTo]
    refine Gives.get_bind fun state kept => ?_
    by_cases goes : condition state = true
    · rw [if_pos goes]
      exact (each value holds).bind (fun _ holds' => ih holds') state kept
    · rw [if_neg goes]
      exact Gives.pure holds state kept

theorem gives_repeatWhile {condition : State → Bool} {step : β → Reader β} {Q : β → Prop}
    (each : ∀ value, Q value → Gives P (step value) Q) {value : β} (holds : Q value) :
    Gives P (repeatWhile condition step value) Q :=
  Gives.get_bind fun state kept => gives_repeatUpTo each (state.rest.length + 1) holds state kept

end

/-! ## What all readers keep -/

/-- The words that are left are the last ones of all words, and the equations
that were defined are in order. -/
structure Sound (all : List String) (state : State) : Prop where
  left : state.rest <:+ all
  accepted : ∀ entry ∈ state.equations, Equation.Accepted entry.2

section

variable {all : List String}

theorem Sound.next {state : State} (sound : Sound all state) (more : state.next ≠ "") :
    state.next ∈ all := by
  rw [State.next] at more ⊢
  cases rest : state.rest with
  | nil => rw [rest] at more; exact absurd rfl more
  | cons word words => exact sound.left.subset (by rw [rest]; exact List.mem_cons_self)

theorem Sound.skip {state : State} (sound : Sound all state) : Sound all state.skip := by
  obtain ⟨last, rest, equations, panels, log⟩ := state
  cases rest with
  | nil => exact sound
  | cons word words => exact ⟨(List.suffix_cons word words).trans sound.left, sound.accepted⟩

theorem gives_skip : Gives (Sound all) skip fun _ => True :=
  Gives.modify fun _ => Sound.skip

theorem gives_warn (text : String) : Gives (Sound all) (Reader.warn text) fun _ => True :=
  Gives.modify fun _ sound => ⟨sound.left, sound.accepted⟩

theorem gives_complain (text : String) : Gives (Sound all) (Reader.complain text) fun _ => True :=
  Gives.modify fun _ sound => ⟨sound.left, sound.accepted⟩

theorem gives_take : Gives (Sound all) take fun _ => True := by
  refine Gives.get_bind fun state sound => ?_
  cases state.rest with
  | nil => exact Gives.refuse _ state sound
  | cons word _ => exact gives_skip.bind (fun _ _ => Gives.pure trivial) state sound

theorem gives_takeKeyword (keyword : String) :
    Gives (Sound all) (takeKeyword keyword) fun _ => True := by
  refine Gives.bind (Q := fun _ => True) ?_ fun found _ => ?_
  · exact Gives.get_bind fun state sound => Gives.pure trivial state sound
  · exact Gives.ite (fun _ => gives_skip.bind fun _ _ => Gives.pure trivial)
      fun _ => Gives.pure trivial

theorem gives_takeUntil (condition : String → Bool) :
    Gives (Sound all) (takeUntil condition) fun _ => True :=
  gives_repeatWhile (fun _ _ => gives_take.bind fun _ _ => Gives.pure trivial) trivial

theorem gives_takeWhole? (word : String) : Gives (Sound all) (takeWhole? word) fun _ => True := by
  rw [takeWhole?]
  split
  · exact Gives.pure trivial
  · exact Gives.pure trivial
  · exact Gives.throw _

end

end Meteogram.Definition
