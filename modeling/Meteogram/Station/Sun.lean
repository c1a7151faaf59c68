import Meteogram.Fault
import Meteogram.Number.Binary64

/-!
# The sun

The greatest solar radiation of a day under a clear sky, at noon, in watts per
square metre. It needs the functions of the machine on real numbers, which have
no values outside their domains.
-/

set_option autoImplicit false

namespace Meteogram.Station

open Meteogram.Number

/-- A whole number as a real number of the machine, if it is not too large. -/
def realOfWhole (n : Int) : Except Fault Float :=
  match Binary64.ofDecimal (n < 0) n.natAbs 0 with
  | .infinite _ => .error .outOfRange
  | number => .ok number.toFloat

/-- A function of the machine that has no value for infinite numbers. -/
def onFinite (function : Float → Float) (x : Float) : Except Fault Float :=
  if x.isInf then .error .invalidValue else .ok (function x)

/-- The angle with this sine. -/
def arcSine (x : Float) : Except Fault Float :=
  if x > 1.0 || x < -1.0 then .error .invalidValue else .ok x.asin

/-- The exponential, if it can be represented. -/
def exponential (x : Float) : Except Fault Float :=
  let y := x.exp
  if y.isInf && !x.isInf then .error .outOfRange else .ok y

/-- One degree in radians. -/
def degree : Float := 3.141592653589793 / 180.0

/-- What is added to leave room above the maximum. -/
def solarMargin : Int := 50

/-- The greatest solar radiation on a day of the year, and a margin above it. -/
def solarMaximum (latitude : Option Binary64) (dayOfYear : Int) : Except Fault Int := do
  let season := 0.986 * (← realOfWhole (dayOfYear + 284)) * degree
  let clarity := 0.796 - 0.01 * season.sin
  let distance := 1.0 + 0.034 * ((← realOfWhole (dayOfYear - 2)) * degree).cos
  let declination := 23.45 * season.sin * degree
  match latitude with
  | none => .error .unsuitableKind
  | some latitude =>
    let angle := latitude.toFloat * degree
    let sine ← onFinite Float.sin angle
    let cosine ← onFinite Float.cos angle
    let height := (← arcSine (sine * declination.sin + cosine * declination.cos)).sin
    if height == 0.0 then .error .divisionByZero
    else
      let strength := (← exponential (-0.13 / height)) * height
      match (Binary64.ofFloat (1375.0 * clarity * distance * strength)).truncate? with
      | some maximum => return maximum + solarMargin
      | none => .error .invalidValue

end Meteogram.Station
