import RabbitRemote.Failure
import RabbitRemote.Ledger
import RabbitRemote.Log.Record

namespace RabbitRemote

structure Request where
  address : String
  parameters : Ledger String String
deriving DecidableEq, Repr

abbrev Answer := Except Failure (List UInt8)

-- What an operation on a state leads to. The state afterwards is there also if the operation failed.
structure Outcome (σ α : Type) where
  result : Except Failure α
  state : σ
  requests : List Request
  log : List Log.Record

namespace Outcome
variable {σ α β : Type}

def done (state : σ) (value : α) : Outcome σ α := ⟨.ok value, state, [], []⟩

def failed (state : σ) (failure : Failure) : Outcome σ α := ⟨.error failure, state, [], []⟩

-- Goes on with the state and the value of a first operation, unless that failed.
def andThen (first : Outcome σ α) (next : σ → α → Outcome σ β) : Outcome σ β :=
  match first.result with
  | .error failure => ⟨.error failure, first.state, first.requests, first.log⟩
  | .ok value =>
    let second := next first.state value
    ⟨second.result, second.state, first.requests ++ second.requests, first.log ++ second.log⟩

theorem done_and_then (state : σ) (value : α) (next : σ → α → Outcome σ β) :
    (done state value).andThen next = next state value := by
  simp [done, andThen]

theorem failed_and_then (state : σ) (failure : Failure) (next : σ → α → Outcome σ β) :
    (failed state failure).andThen next = failed state failure := by
  simp [failed, andThen]

end Outcome
end RabbitRemote
