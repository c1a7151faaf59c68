import Meteogram.Equation.Token
import Meteogram.Text.Case

/-!
# Functions of equations

The functions that an equation may call, and what they are called on a page.
-/

set_option autoImplicit false

namespace Meteogram.Equation

/-- A function of equations. -/
inductive Function where
  /-- The running total of a series. -/
  | sum
  | squareRoot
  | exponential
  | logarithm
  | power
  | maximum
  | minimum
  deriving DecidableEq, Repr

namespace Function

/-- All functions. -/
def all : List Function :=
  [.sum, .squareRoot, .exponential, .logarithm, .power, .maximum, .minimum]

/-- The name of a function. -/
def name : Function → String
  | sum => "sum"
  | squareRoot => "sqrt"
  | exponential => "exp"
  | logarithm => "ln"
  | power => "pow"
  | maximum => "max"
  | minimum => "min"

/-- The function takes more than one argument. -/
def takesComma : Function → Bool
  | power | maximum | minimum => true
  | _ => false

/-- What a function is called on a page; the running total has no other name
there. -/
def scriptName? : Function → Option String
  | sum => none
  | squareRoot => some "Math.sqrt"
  | exponential => some "Math.exp"
  | logarithm => some "Math.log"
  | power => some "Math.pow"
  | maximum => some "Math.max"
  | minimum => some "Math.min"

/-- The function that a word names, in any letter case. -/
def ofWord? (word : String) : Option Function :=
  all.find? fun function => Text.sameWord function.name word

end Function

end Meteogram.Equation
