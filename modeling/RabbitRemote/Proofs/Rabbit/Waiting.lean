import RabbitRemote.Proofs.Batch.Endings
import RabbitRemote.Proofs.Rabbit.Replay

namespace RabbitRemote.Rabbit

-- The fields that commands write, in the order of sending.
def commandFields : List Batch.Field :=
  [.rightEar, .leftEar, .speech, .choreography, .choreographyTitle]

theorem only_command_fields {event : Event} {field : Batch.Field} {value : Value}
    (queued : event.queued? field = some value) : field ∈ commandFields := by
  cases event with
  | said text => cases field <;> first | decide | cases queued
  | turned side place => cases side <;> cases field <;> first | decide | cases queued
  | composed payload title => cases field <;> first | decide | cases queued
  | emptied => cases queued

theorem latest_only_command_fields {past : List Event} {field : Batch.Field} {value : Value}
    (found : latest? past field = some value) : field ∈ commandFields := by
  obtain ⟨_, event, _, _, queued, _⟩ := (latest_exact _ _ _).mp found
  exact only_command_fields queued

-- A rabbit as an onlooker knows it: what waits for a field is what was queued latest.
structure Matches (identity : Identity) (codec : Codec) (address : String) (past : List Event)
    (rabbit : Rabbit) : Prop where
  identity : rabbit.identity = identity
  codec : rabbit.codec = codec
  address : rabbit.address = address
  waiting : rabbit.pending.values = latest past

variable {identity : Identity} {codec : Codec} {address : String} {past : List Event}
  {rabbit : Rabbit}

theorem new_matches : Matches identity codec address [] (new identity codec address) :=
  ⟨rfl, rfl, rfl, rfl⟩

theorem never_asks_for_ears (known : Matches identity codec address past rabbit) :
    rabbit.pending.asksForEars = false := by
  have unqueued : latest? past .earQuery = none := by
    cases found : latest? past .earQuery with
    | none => rfl
    | some value => exact absurd (latest_only_command_fields found) (by decide)
  rw [Batch.asksForEars, known.waiting, latest, unqueued]
  rfl

theorem matches_after_queueing {event : Event} {next : Rabbit}
    (known : Matches identity codec address past rabbit) (queueing : event.isEmptied = false)
    (same : (next.identity, next.codec, next.address) =
      (rabbit.identity, rabbit.codec, rabbit.address))
    (written : ∀ field, next.pending.values field =
      (event.queued? field).getD (rabbit.pending.values field)) :
    Matches identity codec address (past ++ [event]) next := by
  simp only [Prod.mk.injEq] at same
  obtain ⟨sameIdentity, sameCodec, sameAddress⟩ := same
  refine ⟨sameIdentity.trans known.identity, sameCodec.trans known.codec,
    sameAddress.trans known.address, ?_⟩
  funext field
  rw [latest, latest_after_queueing _ _ queueing, written, known.waiting, latest]
  cases event.queued? field <;> rfl

theorem renewed_matches (known : Matches identity codec address past rabbit) :
    Matches identity codec address (past ++ [.emptied]) rabbit.renew := by
  refine ⟨known.identity, known.codec, known.address, ?_⟩
  funext field
  rw [latest, latest_after_emptied]
  rfl

theorem happen_matches (known : Matches identity codec address past rabbit) (event : Event) :
    Matches identity codec address (past ++ [event]) (rabbit.happen event) := by
  cases event with
  | said text =>
    refine matches_after_queueing known rfl rfl ?_
    intro field
    cases field <;> rfl
  | turned side place =>
    refine matches_after_queueing known rfl rfl ?_
    intro field
    cases side <;> cases field <;> rfl
  | composed payload title =>
    refine matches_after_queueing known rfl rfl ?_
    intro field
    cases field <;> rfl
  | emptied => exact renewed_matches known

theorem replay_matches (known : Matches identity codec address past rabbit)
    (events : List Event) :
    Matches identity codec address (past ++ events) (rabbit.replay events) := by
  induction events generalizing rabbit past with
  | nil =>
    rw [List.append_nil]
    exact known
  | cons event rest ih =>
    rw [List.append_cons]
    exact ih (happen_matches known event)

theorem queue_matches (known : Matches identity codec address past rabbit) (command : Command) :
    Matches identity codec address (past ++ command.events) (rabbit.queue command).state := by
  rw [queue_replays]
  exact replay_matches known command.events

theorem move_ear_asks_nothing (rabbit : Rabbit) (side : Side) (position : Value) :
    (rabbit.moveEar side position).requests = [] := by
  unfold moveEar
  split
  · rfl
  · cases earPosition side position <;> rfl

theorem queue_asks_nothing (rabbit : Rabbit) (command : Command) :
    (rabbit.queue command).requests = [] := by
  cases command with
  | say text => rfl
  | bark => rfl
  | moveEars left right =>
    have second := fun (rabbit : Rabbit) (_ : Unit) => move_ear_asks_nothing rabbit .right right
    rw [queue, moveEars, Batch.and_then_requests _ _ second]
    exact move_ear_asks_nothing rabbit .left left
  | choreography program title =>
    rw [queue, choreography]
    cases Choreography.compile program <;> rfl

theorem failed_send_keeps_pending {answer : Answer} {failure : Failure}
    (quiet : rabbit.pending.asksForEars = false)
    (failed : (rabbit.send answer).result = .error failure) :
    (rabbit.send answer).state = rabbit := by
  have kept := Batch.dispatch_keeps_batch rabbit.pending rabbit.codec rabbit.address answer quiet
  unfold send at failed ⊢
  dsimp only at failed ⊢
  rw [failed, kept]

theorem send_renews {answer : Answer} {result : Batch.Result}
    (quiet : rabbit.pending.asksForEars = false)
    (accepted : (rabbit.send answer).result = .ok result) :
    (rabbit.send answer).state = rabbit.renew := by
  have kept := Batch.dispatch_keeps_batch rabbit.pending rabbit.codec rabbit.address answer quiet
  unfold send at accepted ⊢
  dsimp only at accepted ⊢
  rw [accepted, kept]

theorem send_replays (known : Matches identity codec address past rabbit) (answer : Answer) :
    (rabbit.send answer).state =
      rabbit.replay (if (rabbit.send answer).succeeded then [.emptied] else []) := by
  have quiet := never_asks_for_ears known
  unfold Outcome.succeeded
  cases sent : (rabbit.send answer).result with
  | error failure => exact failed_send_keeps_pending quiet sent
  | ok result => exact send_renews quiet sent

theorem no_send_after_failure {queued : Outcome Rabbit Unit} {failure : Failure}
    (failed : queued.result = .error failure) (answer : Answer) :
    thenSend queued answer = ⟨.error failure, queued.state, queued.requests, queued.log⟩ := by
  rw [thenSend, Outcome.andThen, failed]

theorem send_after_success {queued : Outcome Rabbit Unit} (done : queued.result = .ok ())
    (answer : Answer) :
    (thenSend queued answer).result = (queued.state.send answer).result ∧
    (thenSend queued answer).state = (queued.state.send answer).state ∧
    (thenSend queued answer).requests =
      queued.requests ++ (queued.state.send answer).requests := by
  rw [thenSend, Outcome.andThen, done]
  exact ⟨rfl, rfl, rfl⟩

theorem perform_replays (known : Matches identity codec address past rabbit)
    (operation : Operation) : (rabbit.perform operation).state =
      rabbit.replay (operation.events (rabbit.perform operation).succeeded) := by
  cases operation with
  | queue command => exact queue_replays rabbit command
  | send answer =>
    rw [perform, Outcome.map_succeeded]
    exact send_replays known answer
  | discard => rfl
  | askEars answer => rfl
  | queueAndSend command answer =>
    have queued := queue_matches known command
    rw [perform, Outcome.map_succeeded, Operation.events, replay_append, ← queue_replays]
    cases done : (rabbit.queue command).result with
    | error failure =>
      rw [no_send_after_failure done]
      rfl
    | ok =>
      obtain ⟨sameResult, sameState, _⟩ := send_after_success done answer
      have sent := send_replays queued answer
      rw [Outcome.succeeded, ← sameResult, ← sameState] at sent
      exact sent

theorem perform_matches (known : Matches identity codec address past rabbit)
    (operation : Operation) :
    Matches identity codec address
      (past ++ operation.events (rabbit.perform operation).succeeded)
      (rabbit.perform operation).state := by
  rw [perform_replays known]
  exact replay_matches known _

-- Nothing happens to a rabbit that its history does not tell.
theorem run_replays (known : Matches identity codec address past rabbit)
    (operations : List Operation) :
    rabbit.run operations = rabbit.replay (history rabbit operations) := by
  induction operations generalizing rabbit past with
  | nil => rfl
  | cons operation rest ih =>
    rw [history, run, replay_append, ← perform_replays known]
    exact ih (perform_matches known operation)

-- What waits after a run is what its history says.
theorem run_matches (known : Matches identity codec address past rabbit)
    (operations : List Operation) :
    Matches identity codec address (past ++ history rabbit operations) (rabbit.run operations) := by
  rw [run_replays known]
  exact replay_matches known _

end RabbitRemote.Rabbit
