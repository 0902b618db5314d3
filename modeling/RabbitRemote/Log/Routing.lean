import RabbitRemote.Disk
import RabbitRemote.Log.Level

namespace RabbitRemote.Log

-- Where records go: nowhere in particular, to the console, or to the console and a file, which is
-- known by its full name.
inductive Route where
  | unset
  | console
  | consoleAndFile (file : String)
deriving DecidableEq, Repr

-- The levels set for the loggers of the rabbit and of the network, nought where none is set, the
-- route of all records, and what stands in front of their lines, such as a time. A logger comes into
-- being with its first use. What has been decided for a logger and a level holds until the levels are
-- set anew, also if a logger between it and the root comes into being later.
structure Routing where
  rabbit : Int
  network : Int
  route : Route
  stamp : String
  used : List String
  verdicts : Ledger (String × Int) Bool
deriving DecidableEq, Repr

namespace Routing

def rabbitLogger : String := "nabaztag"
def networkLoggers : List String := ["aiohttp.client", "aiohttp.internal"]

def initial (stamp : String) : Routing :=
  ⟨0, 0, .unset, stamp, rabbitLogger :: networkLoggers, []⟩

-- Above all loggers stands the root. It is also meant by an empty name.
def rootName : String := "root"
def rootLevel : Int := warning

def isRoot (logger : String) : Bool := logger.isEmpty || logger = rootName

def ownLevel (routing : Routing) (logger : String) : Int :=
  if logger = rabbitLogger then routing.rabbit
  else if logger ∈ networkLoggers then routing.network
  else 0

-- The loggers above a name, nearest first, as far as they have been used; names are given from their
-- ends. A name ends before a full stop. Of two in a row the first one counts only on the way up from
-- a logger that ends with it.
def loggersAbove (used : List Char → Bool) : List Char → List (List Char)
  | [] => []
  | c :: rest =>
    if c = '.' then
      match rest with
      | [] => []
      | last :: before =>
        if used (last :: before) then (last :: before) :: loggersAbove used (last :: before)
        else loggersAbove used before
    else loggersAbove used rest
termination_by name => name.length

def lineage (routing : Routing) (logger : String) : List String :=
  let used := fun name : List Char => decide (String.ofList name.reverse ∈ routing.used)
  logger :: (loggersAbove used logger.toList.reverse).map fun name => String.ofList name.reverse

def effectiveLevel (routing : Routing) (logger : String) : Int :=
  (((routing.lineage logger).map routing.ownLevel).find? (· ≠ 0)).getD rootLevel

def passes (routing : Routing) (logger : String) (level : Int) : Bool :=
  0 < level && routing.effectiveLevel logger ≤ level

def use (routing : Routing) (logger : String) : Routing :=
  if isRoot logger || logger ∈ routing.used then routing
  else { routing with used := logger :: routing.used }

def judge (routing : Routing) (record : Record) : Bool × Routing :=
  let ready := routing.use record.logger
  let question := (record.logger, record.level)
  match Ledger.get? ready.verdicts question with
  | some verdict => (verdict, ready)
  | none =>
    let verdict := ready.passes record.logger record.level
    (verdict, { ready with verdicts := Ledger.put ready.verdicts question verdict })

def nameOf (logger : String) : String := if isRoot logger then rootName else logger

def line (routing : Routing) (record : Record) : String :=
  routing.stamp ++ levelWord record.level ++ " | " ++ nameOf record.logger ++ " | " ++
    record.message ++ "\n"

def onConsole (routing : Routing) (record : Record) : String :=
  match routing.route with
  | .unset => if warning ≤ record.level then record.message ++ "\n" else ""
  | _ => routing.line record

def onDisk (routing : Routing) (disk : Disk) (record : Record) : Disk :=
  match routing.route with
  | .consoleAndFile file => disk.append file (routing.line record)
  | _ => disk

def deliver (routing : Routing) (disk : Disk) (record : Record) : String × Routing × Disk :=
  match routing.judge record with
  | (true, after) => (routing.onConsole record, after, routing.onDisk disk record)
  | (false, after) => ("", after, disk)

def deliverAll (routing : Routing) (disk : Disk) : List Record → String × Routing × Disk
  | [] => ("", routing, disk)
  | record :: records =>
    let (shown, after, written) := routing.deliver disk record
    let (more, last, final) := deliverAll after written records
    (shown ++ more, last, final)

def networkLevel (logsNetwork : Bool) : Int := if logsNetwork then debug else warning

-- Routes records anew. The console is set up first, then the rabbit's level, the file, and the
-- network's level: a failure leaves in place what came before it.
def configure (routing : Routing) (disk : Disk) (level : String) (path? : Option Path)
    (logsNetwork : Bool) : Option Failure × Routing × Disk :=
  let cleared := { routing with route := .console, verdicts := [] }
  match levelOf level with
  | .error failure => (some failure, cleared, disk)
  | .ok rabbit =>
    let levelled := { cleared with rabbit := rabbit }
    match path? with
    | none => (none, { levelled with network := networkLevel logsNetwork }, disk)
    | some path =>
      match disk.makeDirectories path.parent with
      | (some failure, after) => (some failure, levelled, after)
      | (none, ready) =>
        match ready.touch path with
        | .error failure => (some failure, levelled, ready)
        | .ok after =>
          (none, { levelled with
            network := networkLevel logsNetwork
            route := .consoleAndFile (Disk.fullName (disk.locationOf path)) }, after)

end Routing
end RabbitRemote.Log
