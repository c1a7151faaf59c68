import Meteogram.Chart.Axis
import Meteogram.Number.Binary64

/-!
# Charts

What chart definitions define: outputs, the charts on the page of each output,
and the series of each chart.
-/

set_option autoImplicit false

namespace Meteogram

/-- The span of time that the data of a series covers. -/
inductive DataRange where
  /-- The last days, from the station itself. -/
  | recent
  /-- The last days, from extra sensors. -/
  | extra
  /-- One value for each day. -/
  | daily
  /-- One value for each day; the same data as for `daily` under another name. -/
  | all
  /-- No known span. -/
  | unlisted (number : Int)
  deriving DecidableEq, Repr

namespace DataRange

/-- The number of a range. -/
def number : DataRange → Int
  | recent => 0
  | extra => 1
  | daily => 2
  | all => 3
  | unlisted number => number

/-- The range with this number. -/
def ofNumber (number : Int) : DataRange :=
  if number = 0 then .recent
  else if number = 1 then .extra
  else if number = 2 then .daily
  else if number = 3 then .all
  else .unlisted number

/-- The range covers the last days. -/
def isShort : DataRange → Bool
  | recent | extra => true
  | _ => false

/-- The range has one value for each day. -/
def isByDay : DataRange → Bool
  | daily | all => true
  | _ => false

end DataRange

/-- A series of a chart. -/
structure Series where
  /-- The name of the series, and of the array that holds its data. -/
  keyword : String := ""
  /-- The field of the data file. -/
  field : String := ""
  /-- The data file; an equation has none. -/
  datafile : String := ""
  /-- How the series is drawn. -/
  graphType : String := "spline"
  /-- The categories of its axis. -/
  axes : AxisSet := ∅
  /-- The identity of its axis on the page. -/
  axisId : String := ""
  color : String := ""
  unit : String := ""
  lineWidth : Int := 2
  opacity : Number.Binary64 := .one
  zIndex : Int := 5
  visible : Bool := true
  /-- The number of values that a statistic averages. -/
  period : Int := 0
  /-- The equation that computes the series. -/
  equation : Option String := none
  /-- The series is a statistic of another one. -/
  isStatistic : Bool := false
  range : DataRange := .recent
  deriving DecidableEq, Repr

/-- A chart. -/
structure Chart where
  /-- The name of the chart. -/
  id : String
  title : String := ""
  /-- The range button that is selected at first; -1 is the standard one. -/
  zoom : Int := -1
  hasWindBarbs : Bool := false
  windBarbsBelow : Bool := true
  windBarbColor : String := "black"
  /-- Some series is drawn as points. -/
  hasScatter : Bool := false
  hasInfo : Bool := false
  infoText : String := ""
  /-- The panels of the dashboard that open this chart. -/
  panels : List Int := []
  /-- The categories of all its axes. -/
  axes : AxisSet := ∅
  range : DataRange := .recent
  series : List Series := []
  deriving DecidableEq, Repr

/-- A page and the charts on it. -/
structure Output where
  /-- The name of the file that the page goes to. -/
  filename : String
  charts : List Chart := []
  deriving DecidableEq, Repr

namespace Output

/-- The file of the first page. -/
def firstFilename : String := "cumuluscharts.txt"

end Output

/-- The number of panels on the dashboard. -/
def panelCount : Nat := 24

/-- The panels when no chart is connected to them. -/
def noPanels : List String := List.replicate panelCount ""

end Meteogram
