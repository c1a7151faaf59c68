import Meteogram.Chart.Keyword
import Meteogram.Equation.Occurrence
import Meteogram.Fault

/-!
# Variables of a page

A page loads each variable that its charts need once: what is plotted from a
data file, both bounds of a range of columns, and what the equations use. Names
are compared in any letter case, but the bounds of a range of columns are
looked for in their exact spelling.
-/

set_option autoImplicit false

namespace Meteogram.Page

/-- A variable of a page: the array, the field that fills it and the data file
of the field. -/
structure Variable where
  name : String
  field : String
  datafile : String
  deriving DecidableEq, Repr

/-- The first variable of this name, in any letter case. -/
def findVariable? (loaded : List Variable) (name : String) : Option Variable :=
  loaded.find? fun item => Text.sameWord item.name name

/-- Adds a variable unless there is one of its name, in any letter case. -/
def addVariable (loaded : List Variable) (new : Variable) : List Variable :=
  if (findVariable? loaded new.name).isSome then loaded else loaded ++ [new]

/-- Adds a variable unless there is one of exactly its name. -/
def addExact (loaded : List Variable) (new : Variable) : List Variable :=
  if loaded.any fun other => other.name == new.name then loaded
  else loaded ++ [new]

/-! ## What the series need -/

/-- All series of the charts. -/
def allSeries (charts : List Chart) : List Series :=
  charts.flatMap Chart.series

/-- The variable that a series is drawn from, if it comes from a data file. -/
def plottedVariable? (series : Series) : Option Variable :=
  if series.equation.isSome || series.datafile = "" then none
  else some ⟨series.keyword, series.field, series.datafile⟩

/-- What is left of the name of a field without its first three letters. -/
def fieldStem (field : String) : String :=
  String.ofList (field.toList.drop 3)

/-- The two bounds of a range of columns. -/
def boundVariables (series : Series) : List Variable :=
  ["min", "max"].map fun bound =>
    let name := bound ++ fieldStem series.field
    ⟨name, name, series.datafile⟩

/-- The keywords of a table that an equation uses. -/
def usedKeywords (table : List Keyword) (equation : String) : List Keyword :=
  table.filter fun keyword => Equation.occurs keyword.name equation

/-- The variable of a keyword. -/
def ofKeyword (keyword : Keyword) : Variable :=
  ⟨keyword.name, keyword.field, keyword.datafile⟩

/-- The variables of everything that is plotted from a data file. -/
def plottedVariables (charts : List Chart) : List Variable :=
  ((allSeries charts).filterMap plottedVariable?).foldl addVariable []

/-- Adds what a range of columns or an equation needs beyond what is plotted. An
equation over a range without keywords has no variables. -/
def addNeeded (tables : Tables) (loaded : List Variable) (series : Series) :
    Option (List Variable) :=
  match series.equation with
  | none =>
    some (if series.graphType = "columnrange" then
        (boundVariables series).foldl addExact loaded
      else loaded)
  | some equation =>
    (tables.ofRange? series.range).map fun table =>
      ((usedKeywords table equation).map ofKeyword).foldl addVariable loaded

/-- Adds what all the series need. A series that cannot be provided for is
reported, and there are no variables then. -/
def addAllNeeded (tables : Tables) (loaded : List Variable) :
    List Series → Run (Option (List Variable))
  | [] => return some loaded
  | series :: rest =>
    match addNeeded tables loaded series with
    | some more => addAllNeeded tables more rest
    | none => do
      Report.complain ("Internal error: no keywords for range " ++
        toString series.range.number ++ " of " ++ series.keyword)
      return none

/-- The variables that the charts need. -/
def variablesOf (tables : Tables) (charts : List Chart) : Run (Option (List Variable)) :=
  addAllNeeded tables (plottedVariables charts) (allSeries charts)

/-! ## What an equation uses -/

/-- The variables of the page that the equation of a series uses, in the order
of its table. -/
def equationVariables (tables : Tables) (loaded : List Variable) (series : Series) :
    List Variable :=
  match series.equation, tables.ofRange? series.range with
  | some equation, some table =>
    (usedKeywords table equation).filterMap fun keyword => findVariable? loaded keyword.name
  | _, _ => []

/-- The names of the equations that need an array of their own. -/
def equationArrays (loaded : List Variable) (charts : List Chart) : List String :=
  let names := (allSeries charts).filterMap fun series =>
    if series.equation.isSome && (findVariable? loaded series.keyword).isNone then
      some series.keyword
    else none
  names.foldl (fun sofar name => if sofar.contains name then sofar else sofar ++ [name]) []

end Meteogram.Page
