import RabbitRemote.Arguments.Reading
import RabbitRemote.Arguments.Usage
import RabbitRemote.Log.Routing
import RabbitRemote.Setup

namespace RabbitRemote.CommandLine
open Arguments

def logger : String := "nabaztag.cli"

inductive Exit where
  | returned (code : Nat)
  | quit (code : Nat)
deriving DecidableEq, Repr

structure Link where
  limit : Number.Binary64
  requests : List Request
  closings : Nat
deriving DecidableEq, Repr

structure Report where
  exit : Exit
  output : String
  errors : String
  disk : Disk
  links : List Link

-- All that a run does to the world around it. That is there also if a failure ends the run.
structure Course where
  result : Except Failure Exit
  output : String
  errors : String
  disk : Disk
  links : List Link

def Course.report (course : Course) : Except Failure Report :=
  course.result.map fun exit => ⟨exit, course.output, course.errors, course.disk, course.links⟩

-- What a run finds: the home directories, the settings files by their paths, the disk that log files
-- go to, what stands in front of every line of a log, and codecs for charsets not known here.
structure Surroundings where
  homes : Homes
  settingsFile? : Path → Option (List UInt8)
  disk : Disk
  stamp : String
  codecs : Charset.Registry

-- A value of an option named like the token is never shown.
def maskedOption : String := "token"
def mask : String := "********"

def shownOption (option value : String) : String :=
  option ++ " = " ++ (if option = maskedOption && !value.isEmpty then mask else value) ++ "\n"

def shownSection (document : Ini.Document) (name : String) : String :=
  "[" ++ name ++ "]\n" ++
    String.join ((document.items name).map fun (option, value) => shownOption option value) ++ "\n"

def settingsText (settings : Settings) : String :=
  "Configuration loaded from " ++ settings.path.text ++ "\n\n" ++
    String.join (settings.document.sectionNames.map (shownSection settings.document))

def voicesText : String :=
  String.join (Names.voices.map fun (language, voices) =>
    language ++ ": " ++ Value.commaSeparated voices ++ "\n")

abbrev Done := Nat × String

def nothingToDo : Log.Record :=
  ⟨logger, Log.error, "Nothing to do: pass --left and/or --right"⟩

-- No list is a position, and an empty one stands for a place that was left out.
def position : Wish → Value
  | .none => .null
  | .noPlace => .list []
  | .place position => .whole position

def earReport : EarPositions → Done
  | .unknown => (1, "Ear positions unavailable\n")
  | .known left right =>
    (0, "left = " ++ Number.decimalText left ++ "\nright = " ++ Number.decimalText right ++ "\n")

def sent (outcome : Outcome Rabbit Batch.Result) : Outcome Rabbit Done :=
  outcome.andThen fun rabbit _ => .done rabbit (0, "")

def perform (rabbit : Rabbit) (answer : Answer) : Task → Outcome Rabbit Done
  | .say text => sent (Rabbit.thenSend (rabbit.say (.text text)) answer)
  | .bark => sent (Rabbit.thenSend rabbit.bark answer)
  | .ears .none .none => ⟨.ok (1, ""), rabbit, [], [nothingToDo]⟩
  | .ears left right =>
    sent (Rabbit.thenSend (rabbit.moveEars (position left) (position right)) answer)
  | .earPositions =>
    (rabbit.earPositions answer).andThen fun rabbit ears => .done rabbit (earReport ears)
  | _ => .done rabbit (0, "")

structure Performance where
  result : Except Failure Done
  links : List Link
  log : List Log.Record

-- Makes a link to the service and carries out a task over it. The link is closed however the task
-- ends; it stays open only if the charset of the settings is refused.
def performWith (codecs : Charset.Registry) (settings : Settings) (answer : Answer)
    (task : Task) : Performance :=
  match settings.checkCredentials with
  | .error failure => ⟨.error failure, [], []⟩
  | .ok () =>
    match settings.rabbit codecs with
    | .error failure => ⟨.error failure, [⟨settings.limit, [], 0⟩], []⟩
    | .ok rabbit =>
      let outcome := perform rabbit answer task
      let closed := outcome.state.close
      ⟨outcome.result, [⟨settings.limit, outcome.requests, closed.state.closings⟩], outcome.log⟩

def failureRecord (failure : Failure) : Log.Record :=
  ⟨logger, Log.error, "Command failed: " ++ failure.message⟩

-- Runs a task of a rabbit. Announced failures are logged; any other one ends the run.
def runTask (codecs : Charset.Registry) (settings : Settings) (routing : Log.Routing) (disk : Disk)
    (answer : Answer) (task : Task) : Course :=
  let performance := performWith codecs settings answer task
  let course (result : Except Failure Exit) (output : String) (log : List Log.Record) : Course :=
    let (errors, _, after) := routing.deliverAll disk log
    ⟨result, output, errors, after, performance.links⟩
  match performance.result with
  | .ok (code, output) => course (.ok (.returned code)) output performance.log
  | .error failure =>
    if failure.isAnnounced then
      course (.ok (.returned 1)) "" (performance.log ++ [failureRecord failure])
    else course (.error failure) "" performance.log

def findSettings (surroundings : Surroundings) (path : Path) : Except Failure Settings :=
  if surroundings.disk.canLookUp path then
    Settings.load surroundings.homes path (surroundings.settingsFile? path)
  else .error (.nameTooLong path.text)

def runWith (surroundings : Surroundings) (path : Path) (answer : Answer) (task : Task) : Course :=
  match findSettings surroundings path with
  | .error failure => ⟨.error failure, "", "", surroundings.disk, []⟩
  | .ok settings =>
    match (Log.Routing.initial surroundings.stamp).configure surroundings.disk settings.level
        settings.logPath? settings.logsNetwork with
    | (some failure, _, disk) => ⟨.error failure, "", "", disk, []⟩
    | (none, routing, disk) =>
      match task with
      | .showConfig => ⟨.ok (.returned 0), settingsText settings, "", disk, []⟩
      | .voices => ⟨.ok (.returned 0), voicesText, "", disk, []⟩
      | task => runTask surroundings.codecs settings routing disk answer task

def pathOf (homes : Homes) (config? : Option String) : Path :=
  (config?.map Path.ofText).getD (Settings.defaultPath homes)

-- Runs a command line. The service, if it is asked at all, gives the answer.
def course (surroundings : Surroundings) (answer : Answer) (args : List String) : Course :=
  match Arguments.read args with
  | .error (.help stage) =>
    let defaultPath := Settings.defaultPath surroundings.homes
    ⟨.ok (.quit 0), stage.helpText defaultPath.text, "", surroundings.disk, []⟩
  | .error (.misuse stage complaint) =>
    ⟨.ok (.quit 2), "", stage.misuseText complaint, surroundings.disk, []⟩
  | .ok (config?, task) => runWith surroundings (pathOf surroundings.homes config?) answer task

-- A failure that ends a run is all that is reported of it.
def run (surroundings : Surroundings) (answer : Answer) (args : List String) :
    Except Failure Report :=
  (course surroundings answer args).report

end RabbitRemote.CommandLine
