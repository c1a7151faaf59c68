import Meteogram.Report

/-!
# Faults

The causes that stop a computation of this library. What a fault says to the
user is `Fault.message`; a cause that only a programmer or a broken file can
bring about has no message of its own.
-/

set_option autoImplicit false

namespace Meteogram

/-- The files with settings. -/
inductive SettingsFile where
  /-- The settings of the site. -/
  | site
  /-- The settings of the station. -/
  | station
  /-- The records of the station. -/
  | records
  deriving DecidableEq, Repr

/-- Why a computation stopped. -/
inductive Fault where
  /-- A configuration file that must be there is not. -/
  | missingConfiguration (path : String)
  /-- A configuration file is there and cannot be understood. -/
  | unreadableConfiguration
  /-- The call of the running total in an equation is never closed. -/
  | unclosedSum (equation : String)
  /-- A log line has too few fields. -/
  | shortLine (fields : Nat)
  /-- A text or number is not of the form its place asks for. -/
  | invalidValue
  /-- A value is missing, or is of a kind its place cannot take. -/
  | unsuitableKind
  /-- A section stands where a text is needed. -/
  | sectionForText
  /-- A text stands in the place of the standard settings of a section. -/
  | textForSection (file : SettingsFile)
  /-- A setting cannot be written: it has all kinds of quotation marks. -/
  | unquotable
  /-- A number or a date lies outside what can be represented. -/
  | outOfRange
  /-- A division by zero. -/
  | divisionByZero
  /-- The first series of a chart without series is asked for. -/
  | noSeries
  /-- There is no name for a month. -/
  | noMonthName
  /-- A number has no value with one decimal that is exact enough. -/
  | notRoundable
  /-- A setting refers to a setting that is not there. -/
  | missingReference
  /-- A setting refers to itself. -/
  | circularReference
  /-- A file or its directory does not exist. -/
  | noSuchFile
  /-- A directory stands where a file is read or written. -/
  | isDirectory
  /-- A file stands where a directory is needed. -/
  | notDirectory
  /-- A name is too long for a file. -/
  | nameTooLong
  /-- A file is not UTF-8. -/
  | undecodable
  deriving DecidableEq, Repr

namespace Fault

/-- What a fault says to the user. -/
def message : Fault → Option String
  | missingConfiguration path => some ("Configuration file " ++ path ++ " not found")
  | unreadableConfiguration => some "Unable to read"
  | unclosedSum equation => some ("No closing bracket for sum in '" ++ equation ++ "'")
  | shortLine fields => some ("line too short, " ++ toString fields ++ " fields")
  | _ => none

end Fault

/-- A computation that may log messages and may stop with a fault. -/
abbrev Run (α : Type) := Report Fault α

end Meteogram
