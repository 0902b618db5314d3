import RabbitRemote.Proofs.Batch.HeardEars
import RabbitRemote.Proofs.Rabbit.Demands

namespace RabbitRemote.Rabbit

-- How a batch looks while commands wait in it. Each of them has its field and its acknowledgement,
-- but a text to say may be null, and is then expected without being there.
structure Coherent (batch : Batch) : Prop where
  fields : ∀ field, (batch.values field).isNull = false → field ∈ commandFields
  places : ∀ side, (batch.values (fieldOf side)).isNull = false →
    ∃ place, batch.values (fieldOf side) = .whole place ∧ 0 ≤ place ∧ place ≤ 16
  expected : ∀ command, command ≠ .say →
    ((batch.values (carrier command)).isNull = false ↔
      command.label ∈ Ledger.keys batch.verifiers)
  spoken : (batch.values .speech).isNull = false →
    Reply.Command.say.label ∈ Ledger.keys batch.verifiers
  own : ∀ label verifier, (label, verifier) ∈ batch.verifiers →
    ∃ command : Reply.Command, label = command.label ∧ verifier = command.acknowledgedIn
  single : (Ledger.keys batch.verifiers).Nodup
  titled : (batch.values .choreographyTitle).isNull = false →
    (batch.values .choreography).isNull = false
  readable : (batch.values .choreography).isNull = false → ∃ payload tempo records,
    batch.values .choreography = .text payload ∧
      Choreography.Payload.read payload = .ok (tempo, records) ∧ 1 ≤ tempo
  unheard : batch.ears = .unknown

variable {identity : Identity} {codec : Codec} {address : String} {past : List Event}
  {rabbit : Rabbit}

theorem place_of_queued {event : Event} (possible : event.Possible) (side : Side) {value : Value}
    (queued : event.queued? (fieldOf side) = some value) :
    ∃ place, value = .whole place ∧ 0 ≤ place ∧ place ≤ 16 := by
  cases possible with
  | turned turnedSide within =>
    cases turnedSide <;> cases side <;> cases queued <;> exact ⟨_, rfl, within⟩
  | said => cases side <;> cases queued
  | composed => cases side <;> cases queued
  | emptied => cases queued

theorem payload_of_queued {event : Event} (possible : event.Possible) {value : Value}
    (queued : event.queued? .choreography = some value) : ∃ payload tempo records,
      value = .text payload ∧ Choreography.Payload.read payload = .ok (tempo, records) ∧
        1 ≤ tempo := by
  cases possible with
  | composed compiled title =>
    cases queued
    obtain ⟨tempo, records, read, positive⟩ := Choreography.compiled_is_readable compiled
    exact ⟨_, tempo, records, rfl, read, positive⟩
  | turned side => cases side <;> cases queued
  | said => cases queued
  | emptied => cases queued

theorem source_of_latest {field : Batch.Field} {value : Value}
    (found : latest? past field = some value) :
    ∃ event ∈ past, event.queued? field = some value := by
  obtain ⟨before, event, after, rfl, queued, _⟩ := (latest_exact _ _ _).mp found
  exact ⟨event, by simp, queued⟩

theorem waiting_value {field : Batch.Field} (waits : (latest past field).isNull = false) :
    latest? past field = some (latest past field) := by
  unfold latest at waits ⊢
  cases found : latest? past field with
  | none =>
    rw [found] at waits
    cases waits
  | some value => rfl

-- Apart from a text to say, nothing that is queued is null.
theorem queued_not_null (possible : ∀ event ∈ past, event.Possible) {command : Reply.Command}
    (unsaid : command ≠ .say) (waits : (latest? past (carrier command)).isSome = true) :
    (latest past (carrier command)).isNull = false := by
  obtain ⟨value, found⟩ := Option.isSome_iff_exists.mp waits
  obtain ⟨event, member, queued⟩ := source_of_latest found
  rw [latest, found, Option.getD_some]
  cases command with
  | say => exact absurd rfl unsaid
  | leftEar =>
    obtain ⟨place, rfl, _⟩ := place_of_queued (possible event member) .left queued
    rfl
  | rightEar =>
    obtain ⟨place, rfl, _⟩ := place_of_queued (possible event member) .right queued
    rfl
  | choreography =>
    obtain ⟨payload, _, _, rfl, _⟩ := payload_of_queued (possible event member) queued
    rfl

theorem label_expected (past : List Event) (command : Reply.Command) :
    command.label ∈ Ledger.keys (Ledger.ofList (registered (demands past))) ↔
      (latest? past (carrier command)).isSome = true := by
  constructor
  · intro known
    obtain ⟨⟨label, verifier⟩, entered, named⟩ := List.mem_map.mp known
    obtain ⟨other, waits, same, _⟩ := (verifier_exact past label verifier).mp entered
    obtain rfl := label_distinct (named.symm.trans same)
    exact waits
  · intro waits
    have entered := (verifier_exact past command.label command.acknowledgedIn).mpr
      ⟨command, waits, rfl, rfl⟩
    exact List.mem_map_of_mem entered

theorem happen_unheard (unheard : rabbit.pending.ears = .unknown) (event : Event) :
    (rabbit.happen event).pending.ears = .unknown := by
  cases event with
  | said => exact unheard
  | turned => exact unheard
  | composed => exact unheard
  | emptied => rfl

theorem replay_unheard (unheard : rabbit.pending.ears = .unknown) (events : List Event) :
    (rabbit.replay events).pending.ears = .unknown := by
  induction events generalizing rabbit with
  | nil => exact unheard
  | cons event rest ih => exact ih (happen_unheard unheard event)

theorem replay_coherent (identity : Identity) (codec : Codec) (address : String)
    (possible : ∀ event ∈ past, event.Possible) :
    Coherent ((new identity codec address).replay past).pending := by
  have known : Matches identity codec address past ((new identity codec address).replay past) := by
    simpa using replay_matches new_matches past
  have waiting := known.waiting
  have verifiers := verifiers_of_replay identity codec address past
  refine ⟨?fields, ?places, ?expected, ?spoken, ?own, ?single, ?titled, ?readable, ?unheard⟩
  case fields =>
    intro field
    rw [waiting]
    intro waits
    exact latest_only_command_fields (waiting_value waits)
  case places =>
    intro side
    rw [waiting]
    intro waits
    obtain ⟨event, member, queued⟩ := source_of_latest (waiting_value waits)
    exact place_of_queued (possible event member) side queued
  case expected =>
    intro command unsaid
    rw [waiting, verifiers, label_expected]
    constructor
    · intro waits
      rw [waiting_value waits]
      rfl
    · exact queued_not_null possible unsaid
  case spoken =>
    rw [waiting, verifiers, label_expected]
    intro waits
    have found : latest? past .speech = some (latest past .speech) := waiting_value waits
    rw [carrier, found]
    rfl
  case own =>
    intro label verifier
    rw [verifiers]
    intro entered
    obtain ⟨command, _, named, same⟩ := (verifier_exact past label verifier).mp entered
    exact ⟨command, named, same⟩
  case single =>
    rw [verifiers]
    exact Ledger.keys_of_list_nodup _
  case titled =>
    rw [waiting]
    intro waits
    have title := waiting_value waits
    rcases choreography_with_own_title past with ⟨_, untitled⟩ | ⟨_, _, _, _, _, _, composed, _⟩
    · cases title.symm.trans untitled
    · rw [latest, composed]
      rfl
  case readable =>
    rw [waiting]
    intro waits
    obtain ⟨event, member, queued⟩ := source_of_latest (waiting_value waits)
    exact payload_of_queued (possible event member) queued
  case unheard => exact replay_unheard rfl past

-- A send that succeeds tells no ear positions, for it never asks for any.
theorem send_tells_no_ears (known : Matches identity codec address past rabbit)
    (unheard : rabbit.pending.ears = .unknown) {answer : Answer} {result : Batch.Result}
    (accepted : (rabbit.send answer).result = .ok result) : result.ears = .unknown := by
  have ended := Batch.dispatch_ends rabbit.pending rabbit.codec rabbit.address answer
  have returned : (rabbit.pending.dispatchBy rabbit.codec rabbit.address answer).result =
      .ok result := accepted
  rw [returned] at ended
  obtain ⟨_, _, _, heard⟩ := Batch.returned_ending ended
  rw [Batch.Hears, never_asks_for_ears known, if_neg Bool.false_ne_true] at heard
  exact heard.trans unheard

-- In all that a rabbit can come to, also by way of failures, its pending batch is coherent.
theorem pending_coherent (identity : Identity) (codec : Codec) (address : String)
    (operations : List Operation) :
    let rabbit := (new identity codec address).run operations
    Coherent rabbit.pending ∧
    (∀ answer result, (rabbit.send answer).result = .ok result → result.ears = .unknown) ∧
    ∀ command answer result, (thenSend (rabbit.queue command) answer).result = .ok result →
      result.ears = .unknown := by
  intro rabbit
  have known : Matches identity codec address (history (new identity codec address) operations)
      rabbit := by
    simpa using run_matches new_matches operations
  have coherent : Coherent rabbit.pending := by
    have replayed : rabbit = (new identity codec address).replay
        (history (new identity codec address) operations) := run_replays new_matches operations
    rw [replayed]
    exact replay_coherent identity codec address (history_possible _ operations)
  refine ⟨coherent, ?_, ?_⟩
  · intro answer result accepted
    exact send_tells_no_ears known coherent.unheard accepted
  · intro command answer result accepted
    cases done : (rabbit.queue command).result with
    | error failure =>
      rw [no_send_after_failure done] at accepted
      cases accepted
    | ok =>
      obtain ⟨sameResult, _⟩ := send_after_success done answer
      rw [sameResult] at accepted
      have unheard : (rabbit.queue command).state.pending.ears = .unknown := by
        rw [queue_replays]
        exact replay_unheard coherent.unheard _
      exact send_tells_no_ears (queue_matches known command) unheard accepted

end RabbitRemote.Rabbit
