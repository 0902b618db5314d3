import RabbitRemote.Rabbit

namespace RabbitRemote

namespace Outcome
variable {σ α β : Type}

def map (f : α → β) (outcome : Outcome σ α) : Outcome σ β :=
  ⟨outcome.result.map f, outcome.state, outcome.requests, outcome.log⟩

def succeeded (outcome : Outcome σ α) : Bool :=
  match outcome.result with
  | .ok _ => true
  | .error _ => false

theorem map_succeeded (f : α → β) (outcome : Outcome σ α) :
    (outcome.map f).succeeded = outcome.succeeded := by
  unfold succeeded map
  cases outcome.result <;> rfl

end Outcome

namespace Rabbit

-- What a caller may have a rabbit queue.
inductive Command where
  | say (text : Value)
  | bark
  | moveEars (left right : Value)
  | choreography (program : Choreography.Program) (title : Value)

def queue (rabbit : Rabbit) : Command → Outcome Rabbit Unit
  | .say text => rabbit.say text
  | .bark => rabbit.bark
  | .moveEars left right => rabbit.moveEars left right
  | .choreography program title => rabbit.choreography program title

-- The answer of the service stands beside each operation that may ask it for something.
inductive Operation where
  | queue (command : Command)
  | queueAndSend (command : Command) (answer : Answer)
  | send (answer : Answer)
  | discard
  | askEars (answer : Answer)

-- What an operation gives back to the caller.
inductive Given where
  | nothing
  | response (result : Batch.Result)
  | ears (positions : EarPositions)

def perform (rabbit : Rabbit) : Operation → Outcome Rabbit Given
  | .queue command => (rabbit.queue command).map fun _ => .nothing
  | .queueAndSend command answer => (thenSend (rabbit.queue command) answer).map .response
  | .send answer => (rabbit.send answer).map .response
  | .discard => rabbit.discard.map fun _ => .nothing
  | .askEars answer => (rabbit.earPositions answer).map .ears

-- A failure is caught, and the run goes on from what the failed operation left.
def run (rabbit : Rabbit) : List Operation → Rabbit
  | [] => rabbit
  | operation :: rest => run (rabbit.perform operation).state rest

end Rabbit
end RabbitRemote
