import Meteogram.Number.Power
import Meteogram.Text.Case

/-!
# Axes

A series is drawn against the axis of its category. A chart needs the set of
the categories of its series, and such sets are kept as bit masks: the mask of a
union is the union of the masks.

A mask may have bits that belong to no category; no axis can be drawn for a
series whose mask is not that of exactly one category.
-/

set_option autoImplicit false

namespace Meteogram

/-- The categories of axes. -/
inductive Axis where
  | temp
  | pressure
  | rain
  | rainRate
  | wind
  | direction
  | humidity
  | solar
  | uv
  | hours
  | distance
  | height
  | degreeDays
  | evapotranspiration
  | free
  | airQuality
  | partsPerMillion
  | soilMoisture
  deriving DecidableEq, Repr

/-- A set of categories. -/
structure AxisSet where
  /-- One bit for each category in the set. -/
  mask : Nat
  deriving DecidableEq, Repr

namespace Axis

/-- All categories, in the order of their bits. -/
def all : List Axis :=
  [.temp, .pressure, .rain, .rainRate, .wind, .direction, .humidity, .solar, .uv, .hours, .distance,
    .height, .degreeDays, .evapotranspiration, .free, .airQuality, .partsPerMillion, .soilMoisture]

/-- The number of the bit of a category. -/
def index : Axis → Nat
  | temp => 0
  | pressure => 1
  | rain => 2
  | rainRate => 3
  | wind => 4
  | direction => 5
  | humidity => 6
  | solar => 7
  | uv => 8
  | hours => 9
  | distance => 10
  | height => 11
  | degreeDays => 12
  | evapotranspiration => 13
  | free => 14
  | airQuality => 15
  | partsPerMillion => 16
  | soilMoisture => 17

/-- The name of a category: the keyword for it in chart definitions, and the
identity of its axis on a page. -/
def name : Axis → String
  | temp => "Temp"
  | pressure => "Pressure"
  | rain => "Rain"
  | rainRate => "Rrate"
  | wind => "Wind"
  | direction => "Direction"
  | humidity => "Humidity"
  | solar => "Solar"
  | uv => "UV"
  | hours => "Hours"
  | distance => "Distance"
  | height => "Height"
  | degreeDays => "DegreeDays"
  | evapotranspiration => "EVT"
  | free => "Free"
  | airQuality => "AQ"
  | partsPerMillion => "ppm"
  | soilMoisture => "SoilMoisture"

/-- The set of this category alone. -/
def set (axis : Axis) : AxisSet := ⟨Number.twoTo axis.index⟩

/-- The categories that a definition may choose for an equation: all but the
wind direction. -/
def choices : List Axis :=
  [.temp, .wind, .distance, .height, .hours, .solar, .uv, .rain, .rainRate, .pressure, .humidity,
    .degreeDays, .evapotranspiration, .free, .airQuality, .partsPerMillion, .soilMoisture]

/-- The category that a keyword chooses, in any letter case. -/
def ofKeyword? (word : String) : Option Axis :=
  choices.find? fun axis => Text.sameWord axis.name word

end Axis

/-- The number of ones among the binary digits of a number. -/
def countOnes (n : Nat) : Nat :=
  if n = 0 then 0 else n % 2 + countOnes (n / 2)
termination_by n

namespace AxisSet

/-- The empty set. -/
def empty : AxisSet := ⟨0⟩

instance : EmptyCollection AxisSet := ⟨empty⟩

/-- The categories of both sets. -/
def union (first second : AxisSet) : AxisSet := ⟨first.mask ||| second.mask⟩

instance : Union AxisSet := ⟨union⟩

/-- All categories of `part` are in the set. The empty set is part of every
set. -/
def includes (whole part : AxisSet) : Bool :=
  whole.mask &&& part.mask == part.mask

/-- The number of categories in the set. -/
def count (axes : AxisSet) : Nat := countOnes axes.mask

/-- The one category of the set, if there is exactly one and it is known. -/
def single? (axes : AxisSet) : Option Axis :=
  Axis.all.find? fun axis => axis.set == axes

/-- The union of all sets of a list. -/
def unionAll (sets : List AxisSet) : AxisSet :=
  sets.foldl (· ∪ ·) ∅

/-- The number of the bits that the known categories take. -/
def knownBits : Nat := 18

/-- The set that a number stands for. A negative number is counted back from the
number of sets of known categories, or from the first power of two above it if it
is beyond that. -/
def ofInt (n : Int) : AxisSet :=
  if n ≥ 0 then ⟨n.toNat⟩
  else if n.natAbs ≤ Number.twoTo knownBits then ⟨Number.twoTo knownBits - n.natAbs⟩
  else ⟨Number.twoTo (n.natAbs.log2 + 1) - n.natAbs⟩

end AxisSet

end Meteogram
