import Meteogram.Definition.Flaw
import Meteogram.Definition.Words
import Meteogram.Equation.Check
import Meteogram.Ini.Value
import Meteogram.Station.Site

/-!
# Readers of chart definitions

A reader takes words from the front of what is left of the definitions. It may
stop at a flaw, or at a fault that is none of the definitions; the equations and
connections that were read until then are kept.
-/

set_option autoImplicit false

namespace Meteogram.Definition

/-- What the readers work on and keep. -/
structure State where
  /-- The word that was read last. -/
  last : String := ""
  /-- The words that are left. -/
  rest : List String
  /-- The equations of the block in front of the charts. -/
  equations : Equation.Definitions := []
  /-- The chart that each panel of the dashboard opens. -/
  panels : List String := noPanels
  /-- The messages, the first one first. -/
  log : List Message := []

/-- Why a reader stops. -/
inductive Stop where
  | flaw (flaw : Flaw)
  | fault (fault : Fault)
  deriving DecidableEq, Repr

/-- A reader of definitions. -/
abbrev Reader (α : Type) := EStateM Stop State α

namespace Reader

variable {α β : Type}

/-- Stops at a flaw. -/
def refuse (flaw : Flaw) : Reader α := throw (.flaw flaw)

/-- Goes on if the outcome is a value, and stops at its fault. -/
def ofExcept : Except Fault α → Reader α
  | .ok a => pure a
  | .error fault => throw (.fault fault)

/-- Logs a warning. -/
def warn (text : String) : Reader Unit :=
  modify fun state => { state with log := state.log ++ [⟨.warning, text⟩] }

/-- Logs an error and goes on. -/
def complain (text : String) : Reader Unit :=
  modify fun state => { state with log := state.log ++ [⟨.error, text⟩] }

end Reader

namespace State

/-- The next word; there is an empty one at the end. -/
def next (state : State) : String := state.rest.headD ""

/-- The next word is this keyword, in any letter case. -/
def isAt (state : State) (keyword : String) : Bool :=
  Text.sameWord state.next keyword

/-- The next word is one of these keywords. -/
def isAtAny (state : State) (keywords : List String) : Bool :=
  keywords.any state.isAt

/-- The state behind the next word. -/
def skip (state : State) : State :=
  match state.rest with
  | [] => state
  | word :: rest => { state with last := word, rest }

end State

open Reader

/-- The next word is this keyword. -/
def isAt (keyword : String) : Reader Bool := do
  return (← get).isAt keyword

/-- Passes over the next word. -/
def skip : Reader Unit := modify State.skip

/-- Takes the next word. -/
def take : Reader String := do
  match (← get).rest with
  | [] => refuse .unexpectedEnd
  | word :: _ => do
    skip
    return word

/-- Takes the next word if it is this keyword. -/
def takeKeyword (keyword : String) : Reader Bool := do
  if ← isAt keyword then
    skip
    return true
  else return false

/-- Repeats a step as long as the condition holds, `fuel` times at most. -/
def repeatUpTo {β : Type} (condition : State → Bool) (step : β → Reader β) :
    Nat → β → Reader β
  | 0, b => pure b
  | fuel + 1, b => do
    if condition (← get) then repeatUpTo condition step fuel (← step b)
    else return b

/-- Repeats a step as long as the condition holds. Each step takes a word, so
there are no more steps than words. -/
def repeatWhile {β : Type} (condition : State → Bool) (step : β → Reader β) (b : β) :
    Reader β := do
  repeatUpTo condition step ((← get).rest.length + 1) b

/-- Takes the words in front of the next one of which the condition holds. -/
def takeUntil (condition : String → Bool) : Reader (List String) :=
  repeatWhile (fun state => !state.rest.isEmpty && !condition state.next)
    (fun taken => return taken ++ [← take]) []

/-- A whole number. -/
def wholeNumber (word : String) : Except Fault Int :=
  match Ini.wholeOf word with
  | .ok none => .error .invalidValue
  | .ok (some number) => .ok number
  | .error fault => .error fault

/-- A whole number, or nothing if the word is not of the form of one. -/
def takeWhole? (word : String) : Reader (Option Int) :=
  match wholeNumber word with
  | .ok number => return some number
  | .error .invalidValue => return none
  | .error fault => throw (.fault fault)

end Meteogram.Definition
