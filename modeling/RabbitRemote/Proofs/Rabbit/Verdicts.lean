import RabbitRemote.Proofs.Rabbit.Acknowledged
import RabbitRemote.Proofs.Reply.Positions

namespace RabbitRemote.Rabbit

-- What comes of a send when nothing but texts waits: the service is asked in any case, and what waits
-- is accepted if each of its commands is acknowledged.
structure Decided (past : List Event) (answer : Answer)
    (attempt : Outcome Rabbit Batch.Result) : Prop where
  asked : attempt.requests.length = 1
  accepted : (∃ result, attempt.result = .ok result) ↔ ∃ octets, answer = .ok octets ∧
    ∀ command ∈ demands past,
      command.acknowledgedIn (Reply.normalised (Codec.inbound octets)) = true
  failed : ∀ failure, attempt.result = .error failure →
    answer = .error failure ∨ failure.kind = .service

variable {identity : Identity} {codec : Codec} {address : String} {past : List Event}
  {rabbit : Rabbit}

theorem accepted_exact (demanded : DemandsWaiting past rabbit) (reply : String) :
    rabbit.pending.firstRejected? reply = none ↔
      ∀ command ∈ demands past, command.acknowledgedIn reply = true := by
  simp only [Batch.firstRejected?, Option.map_eq_none_iff, List.find?_eq_none, Prod.forall,
    demanded_exact]
  constructor
  · intro accepted command waits
    simpa using accepted _ _ ((demanded _ _).mpr ⟨command, waits, rfl, rfl⟩)
  · intro acknowledged label verifier entered
    obtain ⟨command, waits, rfl, rfl⟩ := (demanded label verifier).mp entered
    simpa using acknowledged command waits

theorem send_asks_once (textual : ∀ field, Batch.IsTextual (rabbit.pending.values field))
    (answer : Answer) : ∃ request, (rabbit.send answer).requests = [request] :=
  Batch.textual_asks_once textual rabbit.codec rabbit.address answer

theorem send_broken (textual : ∀ field, Batch.IsTextual (rabbit.pending.values field))
    (failure : Failure) : (rabbit.send (.error failure)).result = .error failure := by
  obtain ⟨request, asked⟩ := Batch.request_of_textual textual rabbit.codec rabbit.address
  have sent : (rabbit.send (.error failure)).result =
      (rabbit.pending.dispatchBy rabbit.codec rabbit.address (.error failure)).result := rfl
  rw [sent, Batch.dispatchBy, asked]
  rfl

theorem send_decided (quiet : rabbit.pending.asksForEars = false)
    (demanded : DemandsWaiting past rabbit)
    (textual : ∀ field, Batch.IsTextual (rabbit.pending.values field)) (answer : Answer) :
    Decided past answer (rabbit.send answer) := by
  obtain ⟨request, issued⟩ := send_asks_once textual answer
  have asked : (rabbit.send answer).requests.length = 1 := congrArg List.length issued
  cases answer with
  | error failure =>
    have broken := send_broken textual failure
    exact ⟨asked, by simp [broken], by simp [broken]⟩
  | ok octets =>
    obtain ⟨_, ears, judged⟩ := send_judges quiet (issued ▸ List.mem_singleton_self request)
    have accepted := accepted_exact demanded (Reply.normalised (Codec.inbound octets))
    rw [Batch.verdict] at judged
    refine ⟨asked, ?_, ?_⟩
    · simp only [Except.ok.injEq, exists_eq_left', ← accepted]
      cases rejected : rabbit.pending.firstRejected? (Reply.normalised (Codec.inbound octets)) <;>
        simp [judged, rejected]
    · intro failure failed
      cases rejected : rabbit.pending.firstRejected? (Reply.normalised (Codec.inbound octets)) with
      | none => simp [judged, rejected] at failed
      | some label =>
        rw [judged, rejected] at failed
        cases failed
        exact .inr rfl

-- An event that queues nothing but texts.
def Event.IsTextual (event : Event) : Prop :=
  ∀ field value, event.queued? field = some value → Batch.IsTextual value

theorem latest_textual (textual : ∀ event ∈ past, event.IsTextual) (field : Batch.Field) :
    Batch.IsTextual (latest past field) := by
  unfold latest
  cases found : latest? past field with
  | none => exact ⟨rfl, by simp⟩
  | some value =>
    obtain ⟨before, event, after, parts, queued, _⟩ := (latest_exact _ _ _).mp found
    exact textual event (by simp [parts]) field value queued

theorem said_textual (text : String) : (Event.said (.text text)).IsTextual := by
  intro field value queued
  obtain ⟨_, same⟩ := Option.ite_none_right_eq_some.mp queued
  rw [← Option.some.inj same]
  exact ⟨rfl, by simp⟩

theorem turned_textual (side : Side) {place : Int} (within : 0 ≤ place ∧ place ≤ 16) :
    (Event.turned side place).IsTextual := by
  have short : Number.hasText place = true := Number.has_text_of_small (by omega)
  intro field value queued
  obtain ⟨_, same⟩ := Option.ite_none_right_eq_some.mp queued
  rw [← Option.some.inj same]
  exact ⟨short, by simp⟩

-- For a new rabbit, and a command that it queues without failing.
theorem queue_and_send_decided (identity : Identity) (codec : Codec) (address : String)
    {command : Command} (textual : ∀ event ∈ command.events, event.IsTextual)
    (queued : ((new identity codec address).queue command).result = .ok ()) (answer : Answer) :
    Decided command.events answer
      (thenSend ((new identity codec address).queue command) answer) := by
  obtain ⟨sameResult, _, sameRequests⟩ := send_after_success queued answer
  rw [queue_asks_nothing, List.nil_append] at sameRequests
  have known : Matches identity codec address command.events
      ((new identity codec address).queue command).state := queue_matches new_matches command
  have demanded : DemandsWaiting command.events
      ((new identity codec address).queue command).state := by
    intro label verifier
    rw [queue_replays, verifiers_of_replay]
    exact verifier_exact command.events label verifier
  have waiting : ∀ field, Batch.IsTextual
      (((new identity codec address).queue command).state.pending.values field) := by
    rw [known.waiting]
    exact latest_textual textual
  obtain ⟨asked, accepted, failed⟩ :=
    send_decided (never_asks_for_ears known) demanded waiting answer
  rw [← sameResult] at accepted failed
  rw [← sameRequests] at asked
  exact ⟨asked, accepted, failed⟩

theorem position_refusal {side : Side} {position : Value} {failure : Failure}
    (shown : position.writable = true) (refused : earPosition side position = .error failure) :
    failure.kind = .refusal := by
  unfold earPosition at refused
  split at refused
  · split at refused
    · cases refused
    · rw [Failure.showing, if_pos shown] at refused
      cases refused
      rfl
  · cases refused
    rfl

theorem ear_refusal {side : Side} {position : Value} (rabbit : Rabbit)
    (shown : position.writable = true) (refused : turns? side position = none) :
    ∃ failure, rabbit.moveEar side position = .failed rabbit failure ∧ failure.kind = .refusal := by
  obtain ⟨given, _⟩ := turns_refused refused
  obtain ⟨failure, stopped⟩ := ear_refused rabbit refused
  refine ⟨failure, stopped, ?_⟩
  rw [moveEar, given] at stopped
  cases placed : earPosition side position with
  | ok place => simp [placed, Outcome.done, Outcome.failed] at stopped
  | error reason =>
    simp only [placed, Outcome.failed, Bool.false_eq_true, if_false, Outcome.mk.injEq,
      Except.error.injEq, and_true] at stopped
    exact stopped ▸ position_refusal shown placed

-- Ears whose places can be shown are moved, or refused in words.
theorem move_ears_ends (rabbit : Rabbit) {left right : Value} (leftShown : left.writable = true)
    (rightShown : right.writable = true) :
    ((turns? .left left).isSome = true ∧ (turns? .right right).isSome = true ∧
      (rabbit.moveEars left right).result = .ok ()) ∨
    (¬ ((turns? .left left).isSome = true ∧ (turns? .right right).isSome = true) ∧
      ∃ failure, (rabbit.moveEars left right).result = .error failure ∧ failure.kind = .refusal) := by
  rw [moveEars]
  cases first : turns? .left left with
  | none =>
    obtain ⟨failure, stopped, kind⟩ := ear_refusal rabbit leftShown first
    rw [stopped, Outcome.failed_and_then]
    exact .inr ⟨by simp, failure, rfl, kind⟩
  | some events =>
    rw [ear_replays rabbit first, Outcome.done_and_then]
    cases second : turns? .right right with
    | none =>
      obtain ⟨failure, stopped, kind⟩ := ear_refusal (rabbit.replay events) rightShown second
      rw [stopped]
      exact .inr ⟨by simp, failure, rfl, kind⟩
    | some more =>
      rw [ear_replays _ second]
      exact .inl ⟨rfl, rfl, rfl⟩

def earQueryOf (rabbit : Rabbit) : Batch :=
  (Batch.empty rabbit.identity).set .earQuery (.text earQuery)

theorem ear_query_textual (rabbit : Rabbit) (field : Batch.Field) :
    Batch.IsTextual ((earQueryOf rabbit).values field) := by
  cases field <;> exact ⟨rfl, by intro octets same; cases same⟩

theorem ear_query_asks_once (rabbit : Rabbit) (answer : Answer) :
    ∃ request, (rabbit.earPositions answer).requests = [request] :=
  Batch.textual_asks_once (ear_query_textual rabbit) rabbit.codec rabbit.address answer

-- What the query for the ears gives back is what the reply tells of them.
theorem ear_query_tells (rabbit : Rabbit) (answer : Answer) :
    (rabbit.earPositions answer).result = answer.bind fun octets =>
      Reply.earPositions (Reply.normalised (Codec.inbound octets)).toList := by
  have ended := Batch.dispatch_ends (earQueryOf rabbit) rabbit.codec rabbit.address answer
  have told : (rabbit.earPositions answer).result =
      (((earQueryOf rabbit).dispatchBy rabbit.codec rabbit.address answer).result.map fun _ =>
        ((earQueryOf rabbit).dispatchBy rabbit.codec rabbit.address answer).state.ears) := rfl
  obtain ⟨request, asked⟩ :=
    Batch.request_of_textual (ear_query_textual rabbit) rabbit.codec rabbit.address
  have inbound : rabbit.codec.conversion.inbound = Codec.inbound := rfl
  have asking : (earQueryOf rabbit).asksForEars = true := rfl
  rw [told]
  generalize (earQueryOf rabbit).dispatchBy rabbit.codec rabbit.address answer = sent at ended ⊢
  obtain ⟨result, state, requests, log⟩ := sent
  cases ended with
  | refused refused => cases asked.symm.trans refused
  | unanswered _ broken =>
    subst broken
    rfl
  | illegible _ answered _ unread =>
    subst answered
    rw [inbound] at unread
    simp only [Except.map, Except.bind, unread]
  | rejected _ _ _ rejected => cases rejected
  | accepted _ answered heard _ =>
    subst answered
    rw [Batch.Hears, if_pos asking, inbound] at heard
    simp only [Except.map, Except.bind, heard]

theorem send_keeps_link (rabbit : Rabbit) (answer : Answer) :
    (rabbit.send answer).state.closings = rabbit.closings := by
  unfold send
  dsimp only
  split <;> rfl

theorem replay_keeps_link (rabbit : Rabbit) (events : List Event) :
    (rabbit.replay events).closings = rabbit.closings := by
  induction events generalizing rabbit with
  | nil => rfl
  | cons event rest ih =>
    have here : (rabbit.happen event).closings = rabbit.closings := by cases event <;> rfl
    exact (ih (rabbit.happen event)).trans here

theorem queue_and_send_keeps_link (rabbit : Rabbit) (command : Command) (answer : Answer) :
    (thenSend (rabbit.queue command) answer).state.closings = rabbit.closings := by
  have queued : (rabbit.queue command).state.closings = rabbit.closings := by
    rw [queue_replays, replay_keeps_link]
  cases done : (rabbit.queue command).result with
  | error failure =>
    rw [no_send_after_failure done]
    exact queued
  | ok =>
    obtain ⟨_, sameState, _⟩ := send_after_success done answer
    rw [sameState, send_keeps_link]
    exact queued

end RabbitRemote.Rabbit
