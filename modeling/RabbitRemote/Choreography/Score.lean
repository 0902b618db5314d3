import RabbitRemote.Choreography.Instruction
import RabbitRemote.Choreography.Payload
import RabbitRemote.Log.Record

namespace RabbitRemote.Choreography

-- What has been written of a choreography. The cursor is the time of the next action; inside a
-- block it stands still.
structure Score where
  tempo? : Option Nat
  cursor : Nat
  inBlock : Bool
  actions : List TimedAction
deriving DecidableEq, Repr

namespace Score

def defaultTempo : Nat := 10

def empty : Score := ⟨none, 0, false, []⟩

def tempo (score : Score) : Nat := score.tempo?.getD defaultTempo

def records (score : Score) : List Record := score.actions.map TimedAction.record

def emit (score : Score) : Except Failure String := Payload.write score.tempo score.records

def advance (score : Score) (ticks : Nat) : Score :=
  if score.inBlock then score else { score with cursor := score.cursor + ticks }

-- All actions of one instruction share its time; the cursor then moves by one tick.
def write (score : Score) (actions : List Action) : Score :=
  advance { score with actions := score.actions ++ actions.map (⟨score.cursor, ·⟩) } 1

end Score

def named {α : Type} (table : Names.Table) (names : Ledger String α) (given : Value) :
    Except Failure α :=
  match Names.find? names given with
  | some meaning => .ok meaning
  | none => .error ((Failure.unknownName table given).showing given)

def isNumber : Value → Bool
  | .whole _ | .real _ => true
  | _ => false

-- The integer part of a number; what is no number counts as nought.
def integerPart : Value → Except Failure Int
  | .whole i => .ok i
  | .real .nan => .error .nanToInteger
  | .real (.infinite _) => .error .infinityToInteger
  | .real x => .ok (x.truncate?.getD 0)
  | _ => .ok 0

def tempoOf : Value → Except Failure Nat
  | .whole i =>
    if 1 ≤ i then .ok i.toNat else .error ((Failure.badTempo (.whole i)).showing (.whole i))
  | given => .error ((Failure.badTempo given).showing given)

def durationOf : Value → Except Failure Nat
  | .whole i =>
    if 0 ≤ i then .ok i.toNat else .error ((Failure.badDuration (.whole i)).showing (.whole i))
  | given => .error ((Failure.badDuration given).showing given)

def angleOf (given : Value) : Except Failure Int :=
  if isNumber given then integerPart given
  else .error ((Failure.badAngle given).showing given)

-- What a colour is read from: the items of a list or tuple that stands alone, or else the arguments.
def shares : List Value → List Value
  | [.list items] | [.tuple items] => items
  | given => given

-- A colour is three numbers or else a name; what follows a name is not looked at.
def colourOf (given : List Value) : Except Failure Rgb :=
  match shares given with
  | [] => .error .noColour
  | first :: others =>
    match others with
    | [second, third] =>
      if isNumber first && isNumber second && isNumber third then do
        let red ← integerPart first
        let green ← integerPart second
        let blue ← integerPart third
        return ⟨red, green, blue⟩
      else named .colour Names.colours first
    | _ => named .colour Names.colours first

-- The ear is looked at first, then the direction, then the angle.
def motorActions (ear angle : Value) (direction? : Option Value) : Except Failure (List Action) := do
  let ears ← named .ear Names.ears ear
  let direction ← named .direction Names.directions (direction?.getD (.text "forward"))
  let degrees ← angleOf angle
  return ears.map fun ear => .motor ear degrees direction

def ledActions (led : Value) (colour : List Value) : Except Failure (List Action) := do
  let place ← named .led Names.leds led
  let rgb ← colourOf colour
  return [.led place rgb]

abbrev Played := Option Failure × Score

def settle (before : Score) : Except Failure Score → Played
  | .ok after => (none, after)
  | .error failure => (some failure, before)

-- After a block the score is in a block iff it was before, however the block ended. Only a block
-- that was played to its end moves the cursor.
def closeBlock (before : Score) (duration : Nat) : Played → Played
  | (none, after) => (none, { after with inBlock := before.inBlock }.advance duration)
  | (some failure, after) => (some failure, { after with inBlock := before.inBlock })

mutual
def play : Instruction → Score → Played
  | .setTempo tempo, score =>
    settle score ((tempoOf tempo).map fun hz => { score with tempo? := some hz })
  | .moveEar ear angle direction?, score =>
    settle score ((motorActions ear angle direction?).map score.write)
  | .setLed led colour, score => settle score ((ledActions led colour).map score.write)
  | .emit, score => settle score (score.emit.map fun _ => score)
  | .group body, score => closeBlock score 1 (playAll body { score with inBlock := true })
  | .repeatFor duration body, score =>
    match durationOf duration with
    | .error failure => (some failure, score)
    | .ok ticks => closeBlock score ticks (playAll body { score with inBlock := true })
  | .attempt body, score => (none, (playAll body score).2)

def playAll : List Instruction → Score → Played
  | [], score => (none, score)
  | instruction :: rest, score =>
    match play instruction score with
    | (none, after) => playAll rest after
    | (some failure, after) => (some failure, after)
end

-- The record shows the cursor. If that is too long to be shown, whatever writes the log goes on
-- without the record; what is compiled does not depend on it.
def compiledRecord? (score : Score) : Option Log.Record :=
  if Number.hasText score.cursor then
    some ⟨"nabaztag.choreography", Log.debug,
      "Compiled choreography: " ++ Number.decimalText score.actions.length ++ " actions over " ++
        Number.decimalText score.cursor ++ " ticks"⟩
  else none

def compile (program : Program) : Except Failure (String × Option Log.Record) :=
  match playAll program Score.empty with
  | (some failure, _) => .error failure
  | (none, score) => score.emit.map fun payload => (payload, compiledRecord? score)

end RabbitRemote.Choreography
