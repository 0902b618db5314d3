import RabbitRemote.Batch.Dispatch
import RabbitRemote.Choreography.Score
import RabbitRemote.Reply.Acknowledgement

namespace RabbitRemote

-- A rabbit collects commands until they are sent together. The count of batches tells when the
-- waiting one was replaced by a new one, and the closings how often its link was closed.
structure Rabbit where
  codec : Codec
  address : String
  pending : Batch
  batches : Nat
  closings : Nat

namespace Rabbit

def logger : String := "nabaztag.device"

def new (identity : Identity) (codec : Codec) (address : String) : Rabbit :=
  ⟨codec, address, .empty identity, 1, 0⟩

def identity (rabbit : Rabbit) : Identity := rabbit.pending.identity

def set (rabbit : Rabbit) (field : Batch.Field) (value : Value) : Rabbit :=
  { rabbit with pending := rabbit.pending.set field value }

-- A command is sent only together with the demand that it be acknowledged.
def expect (rabbit : Rabbit) (command : Reply.Command) : Rabbit :=
  { rabbit with pending := rabbit.pending.register command.label command.acknowledgedIn }

def renew (rabbit : Rabbit) : Rabbit :=
  { rabbit with pending := .empty rabbit.identity, batches := rabbit.batches + 1 }

def say (rabbit : Rabbit) (text : Value) : Outcome Rabbit Unit :=
  .done ((rabbit.set .speech text).expect .say) ()

def barkText : String := "ouah ouah"

def bark (rabbit : Rabbit) : Outcome Rabbit Unit := rabbit.say (.text barkText)

def lowestEar : Int := 0
def highestEar : Int := 16

def earPosition (side : Side) : Value → Except Failure Int
  | .whole position =>
    if lowestEar ≤ position ∧ position ≤ highestEar then .ok position
    else .error ((Failure.earOutOfRange side position).showing (.whole position))
  | _ => .error (.notAnEarPosition side)

def fieldOf : Side → Batch.Field
  | .left => .leftEar
  | .right => .rightEar

def commandOf : Side → Reply.Command
  | .left => .leftEar
  | .right => .rightEar

def moveEar (rabbit : Rabbit) (side : Side) (position : Value) : Outcome Rabbit Unit :=
  if position.isNull then .done rabbit ()
  else
    match earPosition side position with
    | .error failure => .failed rabbit failure
    | .ok place => .done ((rabbit.set (fieldOf side) (.whole place)).expect (commandOf side)) ()

-- The left ear is queued before the right one is looked at.
def moveEars (rabbit : Rabbit) (left right : Value) : Outcome Rabbit Unit :=
  (rabbit.moveEar .left left).andThen fun rabbit _ => rabbit.moveEar .right right

def choreography (rabbit : Rabbit) (program : Choreography.Program) (title : Value) :
    Outcome Rabbit Unit :=
  match Choreography.compile program with
  | .error failure => .failed rabbit failure
  | .ok (payload, record?) =>
    let titled := rabbit.set .choreographyTitle title
    ⟨.ok (), (titled.set .choreography (.text payload)).expect .choreography, [], record?.toList⟩

def discard (rabbit : Rabbit) : Outcome Rabbit Unit :=
  let record : Log.Record :=
    ⟨logger, Log.info, "Discarding pending commands for " ++ rabbit.identity.mac⟩
  ⟨.ok (), rabbit.renew, [], if rabbit.pending.isEmpty then [] else [record]⟩

-- Sends the waiting commands. They are dropped only if that succeeds.
def send (rabbit : Rabbit) (answer : Answer) : Outcome Rabbit Batch.Result :=
  let sent := rabbit.pending.dispatch rabbit.codec rabbit.address answer
  let kept := { rabbit with pending := sent.state }
  let after := match sent.result with
    | .ok _ => kept.renew
    | .error _ => kept
  ⟨sent.result, after, sent.requests, sent.log⟩

-- Any text that is not empty asks for the positions.
def earQuery : String := "ok"

def earPositions (rabbit : Rabbit) (answer : Answer) : Outcome Rabbit EarPositions :=
  let query := (Batch.empty rabbit.identity).set .earQuery (.text earQuery)
  let sent := query.dispatch rabbit.codec rabbit.address answer
  ⟨sent.result.map fun _ => sent.state.ears, rabbit, sent.requests, sent.log⟩

def close (rabbit : Rabbit) : Outcome Rabbit Unit :=
  .done { rabbit with closings := rabbit.closings + 1 } ()

def thenSend (queued : Outcome Rabbit Unit) (answer : Answer) : Outcome Rabbit Batch.Result :=
  queued.andThen fun rabbit _ => rabbit.send answer

end Rabbit
end RabbitRemote
