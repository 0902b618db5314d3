import RabbitRemote.Value

namespace RabbitRemote.Choreography

-- A program is a tree of instructions. Arguments are checked when an instruction is played, so a
-- program may hold any values. `attempt` plays its body up to the first failure and forgets that.
inductive Instruction where
  | setTempo (tempo : Value)
  | moveEar (ear angle : Value) (direction? : Option Value)
  | setLed (led : Value) (colour : List Value)
  | emit
  | group (body : List Instruction)
  | repeatFor (duration : Value) (body : List Instruction)
  | attempt (body : List Instruction)
deriving Inhabited

abbrev Program := List Instruction

end RabbitRemote.Choreography
