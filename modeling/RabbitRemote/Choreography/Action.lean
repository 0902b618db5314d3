import RabbitRemote.Names

namespace RabbitRemote.Choreography

inductive ActionKind where
  | motor
  | led
deriving DecidableEq, Repr

def ActionKind.code : ActionKind → Int
  | .motor => 0
  | .led => 1

def ActionKind.ofCode? (code : Int) : Option ActionKind :=
  if code = 0 then some .motor else if code = 1 then some .led else none

theorem kind_of_own_code (kind : ActionKind) : ActionKind.ofCode? kind.code = some kind := by
  cases kind <;> rfl

inductive Action where
  | motor (ear : Ear) (angle : Int) (direction : Direction)
  | led (led : Led) (colour : Rgb)
deriving DecidableEq, Repr

structure TimedAction where
  time : Nat
  action : Action
deriving DecidableEq, Repr

-- The six numbers of an action in a payload. A motor's are ear, angle, zero and direction; a lamp's
-- are its place and the three colour shares.
structure Record where
  time : Int
  kind : ActionKind
  p1 : Int
  p2 : Int
  p3 : Int
  p4 : Int
deriving DecidableEq, Repr

def Record.fields (record : Record) : List Int :=
  [record.time, record.kind.code, record.p1, record.p2, record.p3, record.p4]

def TimedAction.record (timed : TimedAction) : Record :=
  match timed.action with
  | .motor ear angle direction => ⟨timed.time, .motor, ear.code, angle, 0, direction.code⟩
  | .led led colour => ⟨timed.time, .led, led.code, colour.red, colour.green, colour.blue⟩

end RabbitRemote.Choreography
