import RabbitRemote.Batch.Basic
import RabbitRemote.Codec
import RabbitRemote.Outcome
import RabbitRemote.Reply.Lines

namespace RabbitRemote.Batch

def defaultAddress : String := "http://www.nabaztag.com/vl/FR/api.jsp?"

def logger : String := "nabaztag.message"

def isSent : Value → Bool
  | .null => false
  | .text s => !s.isEmpty
  | .octets bytes => !bytes.isEmpty
  | _ => true

def parameterOf : Value → Except Failure Value
  | .octets bytes => .ok (.octets bytes)
  | value => if value.writable then .ok (.text value.plain) else .error .integerTooLong

def identityParameters (identity : Identity) : List (String × Value) :=
  let voice := identity.voice?.getD ""
  [("sn", .text identity.mac), ("token", .text identity.token)] ++
    (if voice.isEmpty then [] else [("voice", .text voice)])

def fieldParameters (values : Field → Value) : List Field → Except Failure (List (String × Value))
  | [] => .ok []
  | field :: rest =>
    if isSent (values field) then do
      let value ← parameterOf (values field)
      let others ← fieldParameters values rest
      return (field.name, value) :: others
    else fieldParameters values rest

def parameters (batch : Batch) : Except Failure (Ledger String Value) :=
  (fieldParameters batch.values Field.all).map (identityParameters batch.identity ++ ·)

def encodeAll (conversion : Conversion) :
    List (String × Value) → Except Failure (List (String × String))
  | [] => .ok []
  | (name, value) :: rest => do
    let octets ← conversion.outbound value
    let others ← encodeAll conversion rest
    return (name, conversion.escape octets) :: others

def request (batch : Batch) (conversion : Conversion) (address : String) :
    Except Failure Request := do
  let parameters ← batch.parameters
  let encoded ← encodeAll conversion parameters
  return ⟨address, encoded⟩

-- The log tells which fields are sent, but neither address nor token of the rabbit.
def announcement (request : Request) : Log.Record :=
  ⟨logger, Log.info, "Dispatching message fields: " ++ Value.commaSeparated
    ((Ledger.keys request.parameters).filter fun name => name ≠ "sn" && name ≠ "token")⟩

structure Result where
  response : String
  ears : EarPositions
deriving DecidableEq, Repr

-- A reply that cannot be read for ear positions leaves the known ones alone.
def readEars (batch : Batch) (response : String) : Outcome Batch Unit :=
  if batch.asksForEars then
    match Reply.earPositions response.toList with
    | .error failure => .failed batch failure
    | .ok ears =>
      let record : Log.Record := ⟨logger, Log.debug, "Ear positions not found in response"⟩
      ⟨.ok (), { batch with ears := ears }, [], if ears.isKnown then [] else [record]⟩
  else .done batch ()

def firstRejected? (batch : Batch) (response : String) : Option String :=
  (batch.verifiers.find? fun entry => !entry.2 response).map (·.1)

def verify (batch : Batch) (response : String) : Outcome Batch Result :=
  match batch.firstRejected? response with
  | none => .done batch ⟨response, batch.ears⟩
  | some label =>
    ⟨.error (.service label response), batch, [],
      [⟨logger, Log.warning, "Command " ++ Text.quoted label ++
        " was not acknowledged by the service"⟩]⟩

def receive (batch : Batch) (conversion : Conversion) (octets : List UInt8) :
    Outcome Batch Result :=
  let response := Reply.normalised (conversion.inbound octets)
  let told : Outcome Batch Unit :=
    ⟨.ok (), batch, [], [⟨logger, Log.debug, "Service response: " ++ response⟩]⟩
  told.andThen fun batch _ => (batch.readEars response).andThen fun batch _ => batch.verify response

-- Asks the service once, by way of any conversion.
def dispatchBy (batch : Batch) (conversion : Conversion) (address : String) (answer : Answer) :
    Outcome Batch Result :=
  match batch.request conversion address with
  | .error failure => .failed batch failure
  | .ok request =>
    let sent : Outcome Batch (List UInt8) := ⟨answer, batch, [request], [announcement request]⟩
    sent.andThen fun batch octets => batch.receive conversion octets

def dispatch (batch : Batch) (codec : Codec) (address : String) (answer : Answer) :
    Outcome Batch Result :=
  batch.dispatchBy codec address answer

end RabbitRemote.Batch
