import Meteogram.Data.Update
import Meteogram.Definition.Parse
import Meteogram.Ini.Read
import Meteogram.Ini.Write
import Meteogram.Page.Assembly

/-!
# Commands

The program has two commands: one writes the pages of the charts, the other the
data files that the station does not write. Both read the settings and the chart
definitions first. What a command does to the files, what it prints and how it
ends is one value.
-/

set_option autoImplicit false

namespace Meteogram

open Station (Settings)
open Time (Moment)

/-! ## Settings in files -/

/-- Reads a file with settings. There are none in a directory, nor in a file
that is missing and may be. -/
def readDocument (files : Files) (name : String) (required : Bool) :
    Except Fault Ini.Document :=
  match files.locate name with
  | .file _ bytes => Ini.readBytes bytes
  | .directory _ => .ok {}
  | .vacant _ | .noDirectory _ | .nowhere _ => if required then .error (.missingConfiguration name) else .ok {}

/-- The file with the records of a station, among its data. -/
def standardRecords (stationName : String) : String :=
  joinName (joinName (directoryName stationName) "data") "alltime.ini"

/-- The settings of a site and its station in files. The records of the station
are in their standard file if no other file is given. -/
def readSettings (files : Files) (siteName stationName : String) (recordsName : Option String) :
    Run Settings := do
  let site ← Report.ofExcept (readDocument files siteName false)
  let station ← Report.ofExcept (readDocument files stationName true)
  let records ← Report.ofExcept
    (readDocument files (recordsName.getD (standardRecords stationName)) false)
  Settings.build site station records

/-- Writes the settings of the site to their file, if they have one. -/
def saveSite (settings : Settings) (files : Files) (name : String) : Except Fault Files :=
  if name = "" then .ok files
  else do files.write name (← settings.site.bytes)

/-! ## Pages in files -/

/-- Writes the page of an output. There is nothing to write without a page. -/
def writePage (generator : Page.Generator) (files : Files) (directory filename : String)
    (charts : List Chart) (id : Int) : Run (Option (String × Files)) := do
  match ← Page.generate generator charts filename id with
  | none => return none
  | some page => do
    let name := joinName directory filename
    let files ← Report.ofExcept (files.write name page.toUTF8)
    return some (name, files)

/-! ## Arguments -/

/-- The files and directories that a command is about. -/
structure Places where
  site : String := "cumulusutils.ini"
  station : String := "Cumulus.ini"
  definitions : String := "CUserCharts.def"
  output : String := "."
  deriving DecidableEq, Repr

/-- The commands. -/
inductive Command where
  /-- Writes the pages. -/
  | compile
  /-- Writes the data files, all of them anew if `full` holds. -/
  | userdata (full : Bool)
  deriving DecidableEq, Repr

/-- The settings of an option with a value. -/
def Places.set? (places : Places) (option value : String) : Option Places :=
  if option = "--config" then some { places with site := value }
  else if option = "--cumulus-config" then some { places with station := value }
  else if option = "--defs" then some { places with definitions := value }
  else if option = "--output-dir" then some { places with output := value }
  else none

/-- The option and its value, when an equals sign stands between them. -/
def splitOption (argument : String) : String × Option String :=
  let cs := argument.toList
  match cs.dropWhile fun c => c != '=' with
  | [] => (argument, none)
  | _ :: value => (String.ofList (cs.takeWhile fun c => c != '='), some (String.ofList value))

/-- The argument asks for more messages. -/
def isVerbose (argument : String) : Bool :=
  argument = "--verbose" ||
    match argument.toList with
    | '-' :: 'v' :: more => more.all fun c => c == 'v'
    | _ => false

/-- Reads the options in front of a command, and gives the rest of the arguments
from the command on. -/
def readOptions : List String → Places → Option (Places × List String)
  | [], places => some (places, [])
  | argument :: rest, places =>
    if argument = "--" then some (places, rest)
    else if argument = "-" || !Text.startsWith argument "-" then some (places, argument :: rest)
    else if isVerbose argument then readOptions rest places
    else
      match splitOption argument with
      | (option, some value) =>
        match places.set? option value with
        | some places => readOptions rest places
        | none => none
      | (option, none) =>
        match rest with
        | [] => none
        | value :: rest =>
          match places.set? option value with
          | some places => readOptions rest places
          | none => none

/-- The option that has all data files written anew. -/
def fullOption : String := "--non-incremental"

/-- Reads the arguments of the command that writes data files. -/
def readUserdata : List String → Bool → Option Command
  | [], full => some (.userdata full)
  | argument :: rest, full =>
    if argument = fullOption then readUserdata rest true
    else if argument = "--" && rest.isEmpty then some (.userdata full)
    else none

/-- Reads the arguments of a command. -/
def readCommand (name : String) (arguments : List String) : Option Command :=
  if name = "compile" then
    if arguments = [] || arguments = ["--"] then some .compile else none
  else readUserdata arguments false

/-- The name is that of a command. -/
def isCommandName (name : String) : Bool :=
  name = "compile" || name = "userdata"

/-! ## Help -/

/-- The option that asks how the program is called. -/
def helpOption : String := "--help"

/-- The arguments of a command ask for help, and all options among them are known. -/
def commandAsksForHelp (name : String) (arguments : List String) : Bool :=
  let before := arguments.takeWhile fun argument => argument != "--"
  before.contains helpOption && before.all fun argument =>
    argument = helpOption || argument = "-" || !Text.startsWith argument "-" ||
      (name = "userdata" && argument = fullOption)

/-- The arguments are the name of a command and arguments of it that ask for help. -/
def isHelpOfCommand : List String → Bool
  | [] => false
  | name :: arguments => isCommandName name && commandAsksForHelp name arguments

/-- The arguments ask for help, in front of a command or behind its name. -/
def asksForHelp (asked : Bool) : List String → Bool
  | [] => asked
  | argument :: rest =>
    if argument = helpOption then asksForHelp true rest
    else if argument = "--" then asked || isHelpOfCommand rest
    else if argument = "-" || !Text.startsWith argument "-" then
      asked || isHelpOfCommand (argument :: rest)
    else if isVerbose argument then asksForHelp asked rest
    else
      match splitOption argument with
      | (option, some value) =>
        (({} : Places).set? option value).isSome && asksForHelp asked rest
      | (option, none) =>
        match rest with
        | [] => false
        | value :: rest => (({} : Places).set? option value).isSome && asksForHelp asked rest

/-! ## Ending -/

/-- How a run of the program ends. -/
inductive Ending where
  /-- It has done what it should. -/
  | success (output : String)
  /-- It says what is wrong. -/
  | failure (output : String)
  /-- The arguments are wrong, or they ask for help: the program only says how it is called. -/
  | misuse
  /-- It is stopped by a fault that it says nothing about. -/
  | stopped (fault : Fault)
  deriving DecidableEq, Repr

/-- What a run of the program leaves behind. -/
structure Finished where
  ending : Ending
  log : List Message
  files : Files

/-- The exit code of a run with this ending. It is no error to ask for help. -/
def Ending.exitCode (arguments : List String) : Ending → UInt32
  | .success _ => 0
  | .failure _ | .stopped _ => 1
  | .misuse => if asksForHelp false arguments then 0 else 2

/-- What the program says about something that is wrong. -/
def errorText (message : String) : String := "Error: " ++ message

/-- The run stops at a fault in the settings. It says what is wrong with their
files. -/
def Ending.ofSettingsFault (fault : Fault) : Ending :=
  match fault with
  | .missingConfiguration _ | .unreadableConfiguration =>
    .failure (errorText (fault.message.getD ""))
  | _ => .stopped fault

/-! ## The commands -/

/-- What both commands work on. -/
structure Job where
  places : Places
  files : Files
  now : Moment
  site : Site

/-- Reads the chart definitions. There are no outputs without them. -/
def Job.definitions (job : Job) : Definition.Parsed :=
  let places := job.places
  if job.files.isThere places.definitions then
    match job.files.read places.definitions with
    | .error fault => ⟨.error fault, [], noPanels, []⟩
    | .ok bytes =>
      match String.fromUTF8? bytes with
      | none => ⟨.error .undecodable, [], noPanels, []⟩
      | some text => Definition.parse job.site text
  else ⟨.ok none, [], noPanels, []⟩

/-- The directory of the station's data. -/
def Job.dataDirectory (job : Job) : String :=
  joinName (directoryName (job.files.absoluteName job.places.station)) "data"

/-- Writes the pages of the outputs, counting those that are written. -/
def writePages (generator : Page.Generator) (directory : String) (number written : Nat)
    (files : Files) : List Output → Except Fault Nat × List Message × Files
  | [] => (.ok written, [], files)
  | output :: rest =>
    let report := writePage generator files directory output.filename output.charts number
    match report.outcome with
    | .error fault => (.error fault, report.log, files)
    | .ok (some (_, files)) =>
      let (outcome, log, files) := writePages generator directory (number + 1) (written + 1) files rest
      (outcome, report.log ++ log, files)
    | .ok none =>
      let (outcome, log, files) := writePages generator directory (number + 1) written files rest
      (outcome, report.log ++ ⟨.error, "Nothing written for " ++ output.filename⟩ :: log, files)

/-- Writes the pages of all outputs. -/
def Job.compile (job : Job) (outputs : List Output) (panels : List String) : Finished :=
  match Page.Generator.build job.site panels job.now.date.dayOfYear with
  | .error fault => ⟨.stopped fault, [], job.files⟩
  | .ok generator =>
    let (outcome, log, files) := writePages generator job.places.output 0 0 job.files outputs
    match outcome with
    | .error fault => ⟨.stopped fault, log, files⟩
    | .ok written =>
      let text := "Compiled " ++ toString written ++ " of " ++ toString outputs.length ++ " outputs"
      ⟨if written < outputs.length then .failure text else .success text, log, files⟩

/-- Writes the data files of all outputs, and the end of their window into the
settings. -/
def Job.userdata (job : Job) (outputs : List Output) (full : Bool) : Finished :=
  let update := Data.update job.site.settings job.files (outputs.flatMap Output.charts)
    job.dataDirectory job.places.output job.now full
  match update.outcome with
  | .error fault => ⟨.stopped fault, update.log, update.files⟩
  | .ok stop =>
    let text := Time.write Time.slashMinute stop
    let saved := do
      let settings ← update.settings.setSite "General" "LastUploadTime" text
      saveSite settings update.files job.places.site
    match saved with
    | .error fault => ⟨.stopped fault, update.log, update.files⟩
    | .ok files => ⟨.success ("User data written up to " ++ text), update.log, files⟩

/-- Runs a command. -/
def Job.run (job : Job) (command : Command) : Finished :=
  let parsed := job.definitions
  match parsed.outcome with
  | .error fault => ⟨.stopped fault, parsed.log, job.files⟩
  | .ok none =>
    ⟨.failure (errorText ("No valid chart definitions in " ++ job.places.definitions)), parsed.log,
      job.files⟩
  | .ok (some outputs) =>
    let finished := match command with
      | .compile => job.compile outputs parsed.panels
      | .userdata full => job.userdata outputs full
    { finished with log := parsed.log ++ finished.log }

/-- Runs the program with its arguments. The settings are read before the
arguments of the command are. -/
def runProgram (arguments : List String) (files : Files) (now : Moment) : Finished :=
  match readOptions arguments {} with
  | none | some (_, []) => ⟨.misuse, [], files⟩
  | some (places, name :: more) =>
    if !isCommandName name then ⟨.misuse, [], files⟩
    else
      let settings := readSettings files places.site places.station none
      match settings.outcome with
      | .error fault => ⟨.ofSettingsFault fault, settings.log, files⟩
      | .ok values =>
        match Site.build values with
        | .error fault => ⟨.stopped fault, settings.log, files⟩
        | .ok site =>
          match readCommand name more with
          | none => ⟨.misuse, settings.log, files⟩
          | some command =>
            let finished := Job.run { places, files, now, site } command
            { finished with log := settings.log ++ finished.log }

end Meteogram
