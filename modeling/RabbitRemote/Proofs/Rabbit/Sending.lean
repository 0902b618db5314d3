import RabbitRemote.Proofs.Rabbit.Waiting

namespace RabbitRemote.Rabbit

variable {identity : Identity} {codec : Codec} {address : String} {past : List Event}
  {rabbit : Rabbit}

-- A request that carries the identity and then, for each field in the order of sending, the latest
-- value, unless nothing waits or the value is empty.
def CarriesLatest (identity : Identity) (codec : Codec) (address : String) (past : List Event)
    (request : Request) : Prop :=
  request.address = address ∧ ∃ waiting,
    List.Forall₂ (Batch.HeldAs (latest past))
      (commandFields.filter fun field => Batch.isSent (latest past field)) waiting ∧
    List.Forall₂ (Batch.SentAs codec) (Batch.identityParameters identity ++ waiting)
      request.parameters

theorem sent_fields (past : List Event) :
    (Batch.Field.all.filter fun field => Batch.isSent (latest past field)) =
      commandFields.filter fun field => Batch.isSent (latest past field) := by
  have never : ∀ field ∉ commandFields, Batch.isSent (latest past field) = false := by
    intro field other
    cases found : latest? past field with
    | none => rw [latest, found]; rfl
    | some value => exact absurd (latest_only_command_fields found) other
  have first := never .messageId (by decide)
  have second := never .application (by decide)
  have third := never .broadcast (by decide)
  have fourth := never .earQuery (by decide)
  simp [Batch.Field.all, commandFields, List.filter_cons, first, second, third, fourth]

theorem request_carries_latest (known : Matches identity codec address past rabbit)
    (request : Request) :
    rabbit.pending.request rabbit.codec rabbit.address = .ok request ↔
      CarriesLatest identity codec address past request := by
  rw [Batch.request_exact]
  simp only [Batch.parameters_exact, known.waiting, sent_fields, known.codec, known.address]
  have same : rabbit.pending.identity = identity := known.identity
  rw [same]
  constructor
  · rintro ⟨_, encoded, ⟨waiting, rfl, held⟩, sent, rfl⟩
    exact ⟨rfl, waiting, held, sent⟩
  · rintro ⟨rfl, waiting, held, sent⟩
    exact ⟨_, request.parameters, ⟨waiting, rfl, held⟩, sent, rfl⟩

-- What an attempt to send has to show: one request at most, which carries the latest values, and a
-- choreography under its own title. A failed attempt leaves everything as it was, so that the next
-- one asks for the same, whatever the service answers then.
structure Faithful (identity : Identity) (codec : Codec) (address : String) (past : List Event)
    (before : Rabbit) (attempt : Outcome Rabbit Batch.Result) : Prop where
  single : attempt.requests.length ≤ 1
  carries : ∀ request, request ∈ attempt.requests ↔
    CarriesLatest identity codec address past request
  together : (latest? past .choreography = none ∧ latest? past .choreographyTitle = none) ∨
    ∃ before payload title after, past = before ++ .composed payload title :: after ∧
      (∀ later ∈ after, later.isEmptied = false ∧ later.queued? .choreography = none) ∧
      latest? past .choreography = some (.text payload) ∧
      latest? past .choreographyTitle = some title
  kept : ∀ failure, attempt.result = .error failure → attempt.state = before
  repeatable : ∀ failure, attempt.result = .error failure →
    ∀ answer, (attempt.state.send answer).requests = attempt.requests

theorem send_faithful (known : Matches identity codec address past rabbit) (answer : Answer) :
    Faithful identity codec address past rabbit (rabbit.send answer) := by
  have requests : ∀ answer, (rabbit.send answer).requests =
      (rabbit.pending.request rabbit.codec rabbit.address).toOption.toList :=
    fun answer => Batch.dispatch_requests _ _ _ answer
  have kept := @failed_send_keeps_pending rabbit answer
  refine ⟨?_, ?_, choreography_with_own_title past, ?_, ?_⟩
  · rw [requests]
    cases rabbit.pending.request rabbit.codec rabbit.address <;> simp [Except.toOption]
  · intro request
    rw [← request_carries_latest known, requests]
    cases rabbit.pending.request rabbit.codec rabbit.address <;> simp [Except.toOption, eq_comm]
  · intro failure failed
    exact kept (never_asks_for_ears known) failed
  · intro failure failed other
    rw [kept (never_asks_for_ears known) failed, requests, requests]

theorem queue_and_send_faithful (known : Matches identity codec address past rabbit)
    (command : Command) (answer : Answer) (done : (rabbit.queue command).result = .ok ()) :
    Faithful identity codec address (past ++ command.events) (rabbit.queue command).state
      (thenSend (rabbit.queue command) answer) := by
  obtain ⟨sameResult, sameState, sameRequests⟩ := send_after_success done answer
  rw [queue_asks_nothing, List.nil_append] at sameRequests
  obtain ⟨single, carries, together, kept, repeatable⟩ :=
    send_faithful (queue_matches known command) answer
  refine ⟨?_, ?_, together, ?_, ?_⟩
  · rw [sameRequests]
    exact single
  · rw [sameRequests]
    exact carries
  · rw [sameResult, sameState]
    exact kept
  · rw [sameResult, sameState, sameRequests]
    exact repeatable

end RabbitRemote.Rabbit
