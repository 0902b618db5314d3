import Mathlib.Data.List.Forall2
import RabbitRemote.Proofs.Batch.LastWrites
import RabbitRemote.Rabbit

namespace RabbitRemote

-- A parameter of the same name, and of the same value unless it is the token.
def SameButToken (parameter counterpart : String × String) : Prop :=
  parameter.1 = counterpart.1 ∧ (parameter.1 ≠ "token" → parameter.2 = counterpart.2)

structure Request.Alike (one other : Request) : Prop where
  address : one.address = other.address
  parameters : List.Forall₂ SameButToken one.parameters other.parameters

-- Two outcomes that only the token tells apart. What else is different about the states afterwards
-- is the change that was there before.
structure Outcome.Alike {σ α : Type} (change : σ → σ) (one other : Outcome σ α) : Prop where
  result : one.result = other.result
  state : other.state = change one.state
  requests : List.Forall₂ Request.Alike one.requests other.requests
  log : one.log = other.log

def Batch.withToken (batch : Batch) (token : String) : Batch :=
  { batch with identity := { batch.identity with token := token } }

def Rabbit.withToken (rabbit : Rabbit) (token : String) : Rabbit :=
  { rabbit with pending := rabbit.pending.withToken token }

theorem same_parameter (parameter : String × String) : SameButToken parameter parameter :=
  ⟨rfl, fun _ => rfl⟩

theorem same_parameters (parameters : List (String × String)) :
    List.Forall₂ SameButToken parameters parameters :=
  List.forall₂_same.mpr fun parameter _ => same_parameter parameter

namespace Outcome
variable {σ α β : Type} {change : σ → σ}

theorem alike_quiet (result : Except Failure α) (state : σ) (log : List Log.Record) :
    Alike change ⟨result, state, [], log⟩ ⟨result, change state, [], log⟩ :=
  ⟨rfl, rfl, .nil, rfl⟩

theorem alike_and_then {one other : Outcome σ α} (begun : Alike change one other)
    {next : σ → α → Outcome σ β}
    (goesOn : ∀ state value, Alike change (next state value) (next (change state) value)) :
    Alike change (one.andThen next) (other.andThen next) := by
  obtain ⟨result, state, requests, log⟩ := begun
  unfold andThen
  rw [← result, state]
  cases one.result with
  | error failure => exact ⟨rfl, rfl, requests, log⟩
  | ok value =>
    obtain ⟨later, stateLater, moreRequests, moreLog⟩ := goesOn one.state value
    refine ⟨later, stateLater, List.rel_append requests moreRequests, ?_⟩
    show one.log ++ _ = other.log ++ _
    rw [log, moreLog]

end Outcome

namespace Batch

-- The parameters that follow the address and the token of the rabbit.
def remainder (batch : Batch) (codec : Codec) : Except Failure (List (String × String)) := do
  let fields ← fieldParameters batch.values Field.all
  encodeAll codec (voiceOf batch.identity ++ fields)

def sentText (text : String) : String := Form.escape (Codec.toService text.toList)

theorem encode_text (codec : Codec) (name text : String) (rest : List (String × Value)) :
    encodeAll codec ((name, .text text) :: rest) =
      (encodeAll codec rest).map fun others => (name, sentText text) :: others := by
  rw [encodeAll]
  cases encodeAll codec rest <;> rfl

-- Any text can be sent, so neither the address nor the token of the rabbit makes a request fail.
theorem request_parted (batch : Batch) (codec : Codec) (address : String) :
    batch.request codec address = (batch.remainder codec).map fun others => ⟨address,
      ("sn", sentText batch.identity.mac) :: ("token", sentText batch.identity.token) :: others⟩ := by
  rw [request, Batch.parameters, remainder, identity_listed]
  cases fieldParameters batch.values Field.all with
  | error failure => rfl
  | ok fields =>
    have front : [("sn", Value.text batch.identity.mac), ("token", .text batch.identity.token)] ++
        voiceOf batch.identity ++ fields = ("sn", .text batch.identity.mac) ::
          ("token", .text batch.identity.token) :: (voiceOf batch.identity ++ fields) := rfl
    simp only [Except.map, front, bind, Except.bind, encode_text]
    cases encodeAll codec (voiceOf batch.identity ++ fields) <;> rfl

variable (token : String)

theorem read_ears_alike (batch : Batch) (response : String) :
    (batch.readEars response).Alike (·.withToken token)
      ((batch.withToken token).readEars response) := by
  unfold readEars
  have asked : (batch.withToken token).asksForEars = batch.asksForEars := rfl
  rw [asked]
  split
  · cases Reply.earPositions response.toList with
    | error failure => exact Outcome.alike_quiet _ batch _
    | ok ears => exact Outcome.alike_quiet _ { batch with ears := ears } _
  · exact Outcome.alike_quiet _ batch _

theorem verify_alike (batch : Batch) (response : String) :
    (batch.verify response).Alike (·.withToken token) ((batch.withToken token).verify response) := by
  unfold verify
  have rejected : (batch.withToken token).firstRejected? response = batch.firstRejected? response :=
    rfl
  rw [rejected]
  cases batch.firstRejected? response with
  | none => exact Outcome.alike_quiet _ batch _
  | some label => exact Outcome.alike_quiet _ batch _

theorem receive_alike (batch : Batch) (conversion : Conversion) (octets : List UInt8) :
    (batch.receive conversion octets).Alike (·.withToken token)
      ((batch.withToken token).receive conversion octets) := by
  unfold receive
  apply Outcome.alike_and_then
  · exact Outcome.alike_quiet _ batch _
  · intro batch _
    apply Outcome.alike_and_then
    · exact read_ears_alike token batch _
    · intro batch _
      exact verify_alike token batch _

-- The token is a parameter of the request, and nothing else depends on it.
theorem dispatch_alike (batch : Batch) (codec : Codec) (address : String) (answer : Answer) :
    (batch.dispatch codec address answer).Alike (·.withToken token)
      ((batch.withToken token).dispatch codec address answer) := by
  have remaining : (batch.withToken token).remainder codec = batch.remainder codec := rfl
  unfold dispatch dispatchBy
  rw [request_parted, request_parted, remaining]
  cases batch.remainder codec with
  | error failure => exact Outcome.alike_quiet _ batch _
  | ok others =>
    apply Outcome.alike_and_then
    · have parameters : List.Forall₂ SameButToken
          (("sn", sentText batch.identity.mac) :: ("token", sentText batch.identity.token) :: others)
          (("sn", sentText batch.identity.mac) :: ("token", sentText token) :: others) :=
        .cons (same_parameter _) (.cons ⟨rfl, absurd rfl⟩ (same_parameters others))
      exact ⟨rfl, rfl, .cons ⟨rfl, parameters⟩ .nil, rfl⟩
    · intro batch octets
      exact receive_alike token batch _ octets

end Batch

namespace Rabbit
variable (rabbit : Rabbit) (token : String)

theorem say_alike (text : Value) :
    (rabbit.say text).Alike (·.withToken token) ((rabbit.withToken token).say text) :=
  Outcome.alike_quiet _ ((rabbit.set .speech text).expect .say) _

theorem move_ear_alike (side : Side) (position : Value) :
    (rabbit.moveEar side position).Alike (·.withToken token)
      ((rabbit.withToken token).moveEar side position) := by
  unfold moveEar
  split
  · exact Outcome.alike_quiet _ rabbit _
  · cases earPosition side position with
    | error failure => exact Outcome.alike_quiet _ rabbit _
    | ok place =>
      let moved := (rabbit.set (fieldOf side) (.whole place)).expect (commandOf side)
      exact Outcome.alike_quiet _ moved _

theorem move_ears_alike (left right : Value) :
    (rabbit.moveEars left right).Alike (·.withToken token)
      ((rabbit.withToken token).moveEars left right) := by
  apply Outcome.alike_and_then
  · exact move_ear_alike rabbit token .left left
  · intro rabbit _
    exact move_ear_alike rabbit token .right right

theorem send_alike (answer : Answer) :
    (rabbit.send answer).Alike (·.withToken token) ((rabbit.withToken token).send answer) := by
  obtain ⟨result, state, requests, log⟩ :=
    Batch.dispatch_alike token rabbit.pending rabbit.codec rabbit.address answer
  have same : (rabbit.withToken token).pending.dispatch (rabbit.withToken token).codec
      (rabbit.withToken token).address answer =
        (rabbit.pending.withToken token).dispatch rabbit.codec rabbit.address answer := rfl
  unfold send
  rw [same]
  refine ⟨result, ?_, requests, log⟩
  dsimp only
  rw [← result, state]
  cases (rabbit.pending.dispatch rabbit.codec rabbit.address answer).result <;> rfl

theorem then_send_alike {one other : Outcome Rabbit Unit}
    (queued : one.Alike (·.withToken token) other) (answer : Answer) :
    (thenSend one answer).Alike (·.withToken token) (thenSend other answer) := by
  apply Outcome.alike_and_then queued
  intro rabbit _
  exact send_alike rabbit token answer

theorem ear_positions_alike (answer : Answer) :
    (rabbit.earPositions answer).Alike (·.withToken token)
      ((rabbit.withToken token).earPositions answer) := by
  let query := (Batch.empty rabbit.identity).set .earQuery (.text earQuery)
  let sent := (query.withToken token).dispatch rabbit.codec rabbit.address answer
  obtain ⟨result, state, requests, log⟩ :=
    Batch.dispatch_alike token query rabbit.codec rabbit.address answer
  have heard : sent.state.ears = (query.dispatch rabbit.codec rabbit.address answer).state.ears := by
    rw [state]
    rfl
  have same : (rabbit.withToken token).earPositions answer =
      ⟨sent.result.map fun _ => sent.state.ears, rabbit.withToken token, sent.requests, sent.log⟩ :=
    rfl
  rw [same, heard, ← result]
  exact ⟨rfl, rfl, requests, log⟩

end Rabbit
end RabbitRemote
