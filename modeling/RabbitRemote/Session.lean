import RabbitRemote.Codec
import RabbitRemote.Number.Shortest
import RabbitRemote.Outcome
import RabbitRemote.RequestUrl
import RabbitRemote.Text.Blank

namespace RabbitRemote

-- A session is opened for a request if none is open. One that was lent is used as it is and stays
-- open when the owner closes.
inductive Session.Phase where
  | closed
  | own
  | lent
deriving DecidableEq, Repr

structure Session where
  limit : Number.Binary64
  phase : Session.Phase
deriving DecidableEq, Repr

namespace Session

def logger : String := "nabaztag.adapters.http_transport"

def defaultLimit : Number.Binary64 := Number.Binary64.ofScientific false 10 0

inductive Conduct where
  | answers (status : Int) (body : List UInt8)
  | refuses (reason : String)
  | breaksOff (reason : String)
  | keepsSilent
deriving DecidableEq, Repr

inductive Event where
  | opened
  | asked (url : String)
  | closed
deriving DecidableEq, Repr

structure Exchange where
  result : Answer
  session : Session
  events : List Event
  log : List Log.Record

def detailOf (body : List UInt8) : String :=
  String.ofList ((Text.trim (Codec.ofService body)).take 200)

def statusText (status : Int) (body : List UInt8) : Failure :=
  if Number.hasText status then
    .transport ("Service request failed with status " ++ Number.decimalText status ++ ": " ++
      detailOf body)
  else .integerTooLong

def brokenText (reason : String) : String := "Service request failed: " ++ reason

def overdueText (limit : Number.Binary64) : String :=
  "Service request timed out after " ++ limit.tenths ++ "s"

-- Only what went wrong on the way is logged here; an answer with an error status is not.
def judge (limit : Number.Binary64) : Conduct → Answer × List Log.Record
  | .answers status body =>
    if 400 ≤ status then (.error (statusText status body), []) else (.ok body, [])
  | .refuses reason | .breaksOff reason =>
    (.error (.transport (brokenText reason)), [⟨logger, Log.warning, brokenText reason⟩])
  | .keepsSilent =>
    (.error (.transport (overdueText limit)), [⟨logger, Log.warning, overdueText limit⟩])

def isOpen (session : Session) : Bool := session.phase ≠ .closed

def ensure (session : Session) : Session × List Event :=
  if session.isOpen then (session, []) else ({ session with phase := .own }, [.opened])

-- Asks once for the address with the parameters. The session stays open whatever happens.
def submit (session : Session) (base : String) (parameters : Ledger String String)
    (conduct : Conduct) : Exchange :=
  let (ready, opening) := session.ensure
  let (result, log) := judge session.limit conduct
  ⟨result, ready, opening ++ [.asked (RequestUrl.build base parameters)], log⟩

def close (session : Session) : Session × List Event :=
  match session.phase with
  | .own => ({ session with phase := .closed }, [.closed])
  | _ => (session, [])

end Session
end RabbitRemote
