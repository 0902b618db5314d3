import RabbitRemote.CommandLine
import Std.Time.Format

namespace RabbitRemote.Program

def timeStamp : IO String := do
  let now ← Std.Time.PlainDateTime.now
  return now.format "uuuu-MM-dd HH:mm:ss,SSS" ++ " | "

def findHomes : IO Homes := do
  let own := (← IO.getEnv "HOME").getD "/"
  let accounts ← try IO.FS.readFile "/etc/passwd" catch _ => pure ""
  return ⟨own, Homes.accountsOf accounts⟩

def readOctets? (path : Path) : IO (Option (List UInt8)) := do
  try
    let octets ← IO.FS.readBinFile path.text
    return some octets.toList
  catch _ => return none

-- No more codecs are at hand than the ones that are written here.
def noMoreCodecs : Charset.Registry := fun _ => none

def findSurroundings (args : List String) : IO CommandLine.Surroundings := do
  let homes ← findHomes
  let config? := match Arguments.read args with
    | .ok (config?, _) => config?
    | .error _ => none
  let path := CommandLine.pathOf homes config?
  let file? ← readOctets? path
  let working := Path.partsOf (← IO.currentDir).toString.toList
  return ⟨homes, fun asked => if asked = path then file? else none, ⟨working, [], []⟩, ← timeStamp,
    noMoreCodecs⟩

-- The service is asked by way of the standard streams: the address of the request is written to
-- standard error, and the reply is read from standard input.
def ask (requests : List Request) : IO Answer := do
  for request in requests do
    IO.eprintln (RequestUrl.build request.address request.parameters)
  if requests.isEmpty then return .ok []
  let reply ← (← IO.getStdin).read 65536
  return .ok reply.toList

def keepFiles (disk : Disk) : IO Unit := do
  for directory in disk.directories do
    IO.FS.createDirAll directory
  for (name, text) in disk.files do
    IO.FS.withFile name .append fun file => file.putStr text

def finish (report : CommandLine.Report) : IO UInt32 := do
  keepFiles report.disk
  IO.print report.output
  IO.eprint report.errors
  match report.exit with
  | .returned code | .quit code => return UInt32.ofNat code

end RabbitRemote.Program

open RabbitRemote Program

-- What is asked does not depend on the answer, so a first run without one tells it.
def main (args : List String) : IO UInt32 := do
  let surroundings ← findSurroundings args
  let run := fun answer => CommandLine.run surroundings answer args
  match run (.ok []) with
  | .error failure =>
    IO.eprintln failure.message
    return 1
  | .ok draft =>
    let answer ← ask (draft.links.flatMap (·.requests))
    match run answer with
    | .error failure =>
      IO.eprintln failure.message
      return 1
    | .ok report => finish report
