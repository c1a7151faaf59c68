import Meteogram.Fault

/-!
# Flaws of chart definitions

What can be wrong with chart definitions, and what is said about it.
-/

set_option autoImplicit false

namespace Meteogram.Definition

/-- What is wrong with chart definitions. The last argument is the name of the
chart in which it is wrong. -/
inductive Flaw where
  | noWords
  | unexpectedEnd
  | badEquation (name : String)
  | chartExpected (word : String)
  | duplicateChart (chart : String)
  | titleMissing (chart : String)
  | nothingPlotted (chart : String)
  | endMissing (last chart : String)
  | windBarbsMissing (chart : String)
  | sideMissing (chart : String)
  | unknownStatistic (word chart : String)
  | statisticTypeMissing (chart : String)
  | badPeriod (word chart : String)
  | equationRefused (keyword chart : String)
  | notPlottable (word chart : String)
  | badGraphType (word chart : String)
  | noColumnRange (keyword chart : String)
  | badOpacity (word keyword chart : String)
  | badNumber (setting word keyword chart : String)
  | badAxis (word chart : String)
  | doubleInfo (chart : String)
  | infoNotOpened (chart : String)
  | infoNotClosed (chart : String)
  | doubleOutput (chart : String)
  | columnRangeByDayOnly (keyword chart : String)
  | statisticAlone (keyword chart : String)
  deriving DecidableEq, Repr

namespace Flaw

/-- What is said about a flaw. -/
def text : Flaw → String
  | noWords => "No chart definitions"
  | unexpectedEnd => "Unexpected end of the chart definitions"
  | badEquation name => "Error in equation " ++ name
  | chartExpected word => "Unrecognised keyword '" ++ word ++ "' where Chart should be"
  | duplicateChart chart => "Duplicate chart id '" ++ chart ++ "'"
  | titleMissing chart => "Missing keyword Title in chart '" ++ chart ++ "'"
  | nothingPlotted chart => "Plot or Stats missing in chart '" ++ chart ++ "'"
  | endMissing last chart => "Error at EndChart of chart '" ++ chart ++ "' after '" ++ last ++ "'"
  | windBarbsMissing chart => "Missing WindBarbs after Has in chart '" ++ chart ++ "'"
  | sideMissing chart => "Missing Below or Above after WindBarbs in chart '" ++ chart ++ "'"
  | unknownStatistic word chart =>
    "Invalid variable " ++ word ++ " for statistic in chart '" ++ chart ++ "'"
  | statisticTypeMissing chart =>
    "No statistics definition found in Stats line of '" ++ chart ++ "'"
  | badPeriod word chart => "Invalid Period '" ++ word ++ "' in chart '" ++ chart ++ "'"
  | equationRefused keyword chart =>
    "No valid equation for " ++ keyword ++ " in chart '" ++ chart ++ "'"
  | notPlottable word chart =>
    word ++ " is no plot variable and needs an Eval in chart '" ++ chart ++ "'"
  | badGraphType word chart => "Invalid As type '" ++ word ++ "' in chart '" ++ chart ++ "'"
  | noColumnRange keyword chart =>
    keyword ++ " cannot be plotted As ColumnRange in chart '" ++ chart ++ "'"
  | badOpacity word keyword chart =>
    "Invalid Opacity '" ++ word ++ "' of " ++ keyword ++ " in chart '" ++ chart ++ "'"
  | badNumber setting word keyword chart =>
    "Invalid " ++ setting ++ " '" ++ word ++ "' of " ++ keyword ++ " in chart '" ++ chart ++ "'"
  | badAxis word chart => "Invalid Axis type '" ++ word ++ "' in chart '" ++ chart ++ "'"
  | doubleInfo chart => "Double Info specified on '" ++ chart ++ "'"
  | infoNotOpened chart => "Info specified on '" ++ chart ++ "' but no opening quote found"
  | infoNotClosed chart => "Info specified on '" ++ chart ++ "' but no closing quote found"
  | doubleOutput chart => "Double Output specified on '" ++ chart ++ "'"
  | columnRangeByDayOnly keyword chart =>
    "ColumnRange of " ++ keyword ++ " in chart '" ++ chart ++ "' is only possible for Daily or All"
  | statisticAlone keyword chart =>
    "Statistic of " ++ keyword ++ " in chart '" ++ chart ++ "' needs " ++ keyword ++
      " plotted itself"

/-- The message that the definitions are refused with. -/
def message (flaw : Flaw) : String :=
  "Parsing the chart definitions: " ++ flaw.text

end Flaw

end Meteogram.Definition
