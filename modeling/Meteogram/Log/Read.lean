import Meteogram.Files
import Meteogram.Log.Line

/-!
# Log files

There is one log of days, and a log for each month. A line that cannot be read
is reported with its number and left out; a file that is missing is reported
too.
-/

set_option autoImplicit false

namespace Meteogram.Log

open Text Time

/-! ## Lines of a file -/

/-- The lines of a log file, which a carriage return, a line feed or both
end. -/
def logLines : List Char → List (List Char)
  | [] => []
  | '\r' :: '\n' :: cs => [] :: logLines cs
  | c :: cs => if c = '\r' || c = '\n' then [] :: logLines cs else attach c (logLines cs)

/-- The message about a line that cannot be read. -/
def skippedMessage (path : String) (number : Nat) (fault : Fault) : String :=
  path ++ " line " ++ toString number ++ " skipped" ++
    match fault.message with
    | none => ""
    | some text => ": " ++ text

/-- The line is of the wrong form, and not one whose numbers cannot be
represented. -/
def isSkippable : Fault → Bool
  | .shortLine _ | .invalidValue => true
  | _ => false

/-- Reads lines, of which the first one has this number. -/
def readLines (kind : Kind) (path : String) (number : Nat) :
    List (List Char) → Run (List Entry)
  | [] => return []
  | line :: lines =>
    if line.all isBlank then readLines kind path (number + 1) lines
    else
      match readLine kind (String.ofList line) with
      | .ok entry => do
        return entry :: (← readLines kind path (number + 1) lines)
      | .error fault =>
        if isSkippable fault then do
          Report.complain (skippedMessage path number fault)
          readLines kind path (number + 1) lines
        else Report.fail fault

/-- Reads a log file that is there. -/
def readFile (files : Files) (kind : Kind) (path : String) : Run (List Entry) := do
  let bytes ← Report.ofExcept (files.read path)
  readLines kind path 1 (logLines (decodeLenient bytes))

/-! ## The log of days -/

/-- The name of the log of days. -/
def dayLogName : String := "dayfile.txt"

/-- All days. -/
def readDays (files : Files) (directory : String) : Run (List Entry) := do
  let path := joinName directory dayLogName
  if files.isThere path then readFile files .daily path
  else
    Report.complain ("No day file at " ++ path)
    return []

/-! ## The logs of the months -/

/-- The names of the months in the names of the logs. -/
def monthNames : List String :=
  ["Jan", "Feb", "Mar", "Apr", "May", "Jun", "Jul", "Aug", "Sep", "Oct", "Nov", "Dec"]

/-- The number of a month, counted without a break over the years. -/
def monthNumber (date : Date) : Nat :=
  12 * date.year + (date.month - 1)

/-- The name of the log of a month. There is none without a name for the
month. -/
def monthLogName (names : List String) (number : Nat) : Except Fault String :=
  match names[number % 12]? with
  | none => .error .noMonthName
  | some name => .ok (name ++ twoDigits (number / 12 % 100) ++ "log.txt")

/-- The names of the logs of all months from the first date to the last one. The
months have their standard names if there are no others. -/
def monthLogNames (names : List String) (first last : Date) : Except Fault (List String) :=
  let names := if names.isEmpty then monthNames else names
  (List.range (monthNumber last + 1 - monthNumber first)).mapM fun i =>
    monthLogName names (monthNumber first + i)

/-- The entries of the log of a month. -/
def readMonth (files : Files) (directory name : String) : Run (List Entry) := do
  let path := joinName directory name
  if files.isThere path then readFile files .monthly path
  else
    Report.complain ("Monthly log " ++ path ++ " not found")
    return []

/-- The entries from one moment to another, both included. -/
def readMonths (files : Files) (directory : String) (names : List String)
    (start stop : Moment) : Run (List Entry) := do
  let logs ← Report.ofExcept (monthLogNames names start.date stop.date)
  let entries ← logs.mapM (readMonth files directory)
  return entries.flatten.filter fun entry => start.atMost entry.time && entry.time.atMost stop

end Meteogram.Log
