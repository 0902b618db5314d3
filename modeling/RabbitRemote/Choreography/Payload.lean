import RabbitRemote.Choreography.Action
import RabbitRemote.Failure
import RabbitRemote.Text.Cut

namespace RabbitRemote.Choreography.Payload

-- A payload is the tempo and six numbers per action, all joined by commas.
def numbers (tempo : Int) (records : List Record) : List Int :=
  tempo :: records.flatMap Record.fields

def write (tempo : Int) (records : List Record) : Except Failure String :=
  let all := numbers tempo records
  if all.all Number.hasText then .ok (",".intercalate (all.map Number.decimalText))
  else .error .integerTooLong

def readPiece (piece : List Char) : Except Failure Int :=
  match Number.readInteger piece with
  | .ok value => .ok value
  | .error fault => .error (.malformedPayload fault (String.ofList piece))

def readPieces : List (List Char) → Except Failure (List Int)
  | [] => .ok []
  | piece :: pieces =>
    match readPiece piece with
    | .error failure => .error failure
    | .ok value => (readPieces pieces).map (value :: ·)

def readRecords : List Int → Except Failure (List Record)
  | time :: code :: p1 :: p2 :: p3 :: p4 :: rest =>
    match ActionKind.ofCode? code with
    | none => .error (.unknownActionKind code)
    | some kind => (readRecords rest).map (⟨time, kind, p1, p2, p3, p4⟩ :: ·)
  | _ => .ok []

-- Reads a payload. Unreadable numbers are reported before a wrong count of them, and that before
-- unknown kinds; each time the first in the text.
def read (payload : String) : Except Failure (Int × List Record) :=
  match readPieces ((Text.cut ',' payload.toList).map Text.trim) with
  | .error failure => .error failure
  | .ok [] => .error (.unevenPayload 0)
  | .ok (tempo :: body) =>
    if body.length % 6 ≠ 0 then .error (.unevenPayload body.length)
    else (readRecords body).map (tempo, ·)

end RabbitRemote.Choreography.Payload
