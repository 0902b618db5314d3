import RabbitRemote.Batch.Dispatch
import RabbitRemote.Ini.Reader
import RabbitRemote.Number.RealLiteral
import RabbitRemote.Path
import RabbitRemote.Session

namespace RabbitRemote

structure Settings where
  identity : Identity
  address : String
  limit : Number.Binary64
  charset : String
  level : String
  logPath? : Option Path
  logsNetwork : Bool
  document : Ini.Document
  path : Path

namespace Settings

def defaults : Ini.Document :=
  ⟨[], [
    ("nabaztag", [("mac", ""), ("token", "")]),
    ("service", [("api_uri", Batch.defaultAddress), ("timeout_seconds", "10.0")]),
    ("encoding", [("caller_charset", Codec.defaultName)]),
    ("logging", [("level", "INFO"), ("path", ""), ("log_network", "false")])]⟩

def defaultParts : List String := [".config", "nabaztag", "nabaztag.cfg"]

def defaultPath (homes : Homes) : Path := (Path.ofText homes.own).join defaultParts

def unlessEmpty (text : String) : Option String := if text.isEmpty then none else some text

-- Requests get at least a tenth of a second, also if the limit is a NaN.
def leastLimit : Number.Binary64 := Number.Binary64.ofScientific false 1 (-1)

def limitOf (text : String) : Number.Binary64 :=
  let limit := (Number.readReal? text.toList).getD Session.defaultLimit
  if leastLimit.lt limit then limit else leastLimit

def truthWords : Ledger String Bool :=
  [("1", true), ("yes", true), ("true", true), ("on", true), ("0", false), ("no", false),
    ("false", false), ("off", false)]

def truthOf (text : String) : Except Failure Bool :=
  match Ledger.get? truthWords (Text.lowered text) with
  | some truth => .ok truth
  | none => .error (.notABoolean text)

-- The text of an option, empty if there is none.
def said (document : Ini.Document) (name option : String) : String :=
  (document.get? name option).getD ""

def identityOf (document : Ini.Document) : Identity :=
  { mac := Text.trimmed (said document "nabaztag" "mac")
    token := Text.trimmed (said document "nabaztag" "token")
    voice? := unlessEmpty (Text.trimmed (said document "nabaztag" "voice")) }

def charsetOf (document : Ini.Document) : String :=
  (unlessEmpty (Text.trimmed (said document "encoding" "caller_charset"))).getD Codec.defaultName

def logPathOf (homes : Homes) (document : Ini.Document) : Except Failure (Option Path) :=
  match unlessEmpty (Text.trimmed (said document "logging" "path")) with
  | none => .ok none
  | some text => ((Path.ofText text).expand homes).map some

-- The settings that a document says. A log path without a home is reported before a word that is
-- no truth value.
def ofDocument (homes : Homes) (path : Path) (document : Ini.Document) :
    Except Failure Settings := do
  let logPath? ← logPathOf homes document
  let logsNetwork ← truthOf (said document "logging" "log_network")
  return {
    identity := identityOf document
    address := said document "service" "api_uri"
    limit := limitOf (said document "service" "timeout_seconds")
    charset := charsetOf document
    level := said document "logging" "level"
    logPath? := logPath?
    logsNetwork := logsNetwork
    document := document
    path := path }

-- Loads a file over the defaults. A file that is not there says nothing.
def load (homes : Homes) (path : Path) (file? : Option (List UInt8)) : Except Failure Settings :=
  match file? with
  | none => ofDocument homes path defaults
  | some octets =>
    match defaults.read path.shown octets with
    | .error failure => .error failure
    | .ok document => ofDocument homes path document

end Settings
end RabbitRemote
