import Meteogram.Ini.Document
import Meteogram.Number.Fixed
import Meteogram.Text.Case

/-!
# Reading values

The texts of settings read as whole numbers, real numbers and switches. A whole
number may also be written as a real one, of which the fraction is dropped, and
a number may be absent. Where a section stands in the place of a text, it can be
shown, but it is not read.
-/

set_option autoImplicit false

namespace Meteogram.Ini

open Meteogram.Number

/-- The text says that there is no number. -/
def isAbsent (text : String) : Bool :=
  let low := Text.lower text
  low == "" || low == "none"

/-- A real number without its fraction. -/
def wholePart (number : Binary64) : Except Fault Int :=
  match number.truncate? with
  | some whole => .ok whole
  | none => .error (if number = .nan then .invalidValue else .outOfRange)

/-- The whole number that a text stands for, or the real number without its
fraction. -/
def wholeOf (text : String) : Except Fault (Option Int) :=
  if isAbsent text then .ok none
  else
    match readInt? text with
    | some number => .ok (some number)
    | none =>
      match Binary64.read? text with
      | none => .error .invalidValue
      | some number => (wholePart number).map some

/-- The real number that a text stands for. -/
def realOf (text : String) : Except Fault (Option Binary64) :=
  if isAbsent text then .ok none
  else
    match Binary64.read? text with
    | none => .error .invalidValue
    | some number => .ok (some number)

/-- The switch that a text stands for: a word, or a number that is not zero. -/
def flagOf (text : String) : Except Fault Bool :=
  let low := Text.lower text
  if ["true", "yes", "y"].contains low then .ok true
  else if ["false", "no", "n"].contains low then .ok false
  else
    match readInt? text with
    | none => .error .invalidValue
    | some number => .ok (number != 0)

namespace Value

/-- The value as a whole number. -/
def toWhole : Value → Except Fault (Option Int)
  | .missing => .ok none
  | .flag value => .ok (some (if value then 1 else 0))
  | .whole value => .ok (some value)
  | .real value => (wholePart value).map some
  | .text value => wholeOf value
  | .group _ => .error .unsuitableKind

/-- The value as a real number. -/
def toReal : Value → Except Fault (Option Binary64)
  | .missing => .ok none
  | .flag value => .ok (some (if value then .one else .zero))
  | .whole value => .ok (some (.ofDecimal (value < 0) value.natAbs 0))
  | .real value => .ok (some value)
  | .text value => realOf value
  | .group _ => .error .unsuitableKind

/-- The value as a switch. A section is none, and is shown to say so. -/
def toFlag : Value → Except Fault Bool
  | .missing => .error .invalidValue
  | .flag value => .ok value
  | .whole value => .ok (value != 0)
  | .real value => (wholePart value).map fun whole => whole != 0
  | .text value => flagOf value
  | .group shown => do
    let _ ← shown
    .error .invalidValue

/-- The value as a text that other texts can be added to. -/
def toText : Value → Except Fault String
  | .text value => .ok value
  | _ => .error .unsuitableKind

theorem toText_eq_ok_iff {value : Value} {text : String} :
    value.toText = .ok text ↔ value = .text text := by
  cases value <;> simp [toText]

/-- The value inside a text. -/
def shown : Value → Except Fault String
  | .missing => .ok "None"
  | .flag value => .ok (if value then "True" else "False")
  | .whole value => .ok (toString value)
  | .real value => .ok value.text
  | .text value => .ok value
  | .group shown => shown

end Value

end Meteogram.Ini
