import RabbitRemote.Proofs.Batch.Endings
import RabbitRemote.Proofs.Choreography.Changes
import RabbitRemote.Proofs.Ledger
import RabbitRemote.Proofs.Rabbit.Waiting

namespace RabbitRemote.Rabbit

-- The field that carries a command.
def carrier : Reply.Command → Batch.Field
  | .say => .speech
  | .leftEar => .leftEar
  | .rightEar => .rightEar
  | .choreography => .choreography

-- The command whose acknowledgement is demanded along with an event.
def Event.demand? : Event → Option Reply.Command
  | .said _ => some .say
  | .turned side _ => some (commandOf side)
  | .composed .. => some .choreography
  | .emptied => none

-- The commands whose acknowledgement was demanded since the rabbit was emptied for the last time.
def demands (past : List Event) : List Reply.Command :=
  ((past.reverse.takeWhile fun event => !event.isEmptied).filterMap Event.demand?).reverse

def registered (commands : List Reply.Command) : List (String × Verifier) :=
  commands.map fun command => (command.label, command.acknowledgedIn)

theorem label_distinct {command other : Reply.Command} (same : command.label = other.label) :
    command = other := by
  cases command <;> cases other <;> first | rfl | exact absurd same (by decide)

theorem demand_exact (event : Event) (command : Reply.Command) :
    event.demand? = some command ↔ (event.queued? (carrier command)).isSome = true := by
  cases event with
  | turned side place =>
    cases side <;> cases command <;> simp [Event.demand?, Event.queued?, commandOf, fieldOf, carrier]
  | _ => cases command <;> simp [Event.demand?, Event.queued?, carrier]

theorem demands_after_emptied (past : List Event) : demands (past ++ [.emptied]) = [] := by
  simp [demands, Event.isEmptied]

theorem demands_after_queueing (past : List Event) {event : Event} {command : Reply.Command}
    (demanded : event.demand? = some command) :
    demands (past ++ [event]) = demands past ++ [command] := by
  have queueing : event.isEmptied = false := by
    cases event <;> first | rfl | cases demanded
  simp [demands, queueing, demanded]

-- A command is demanded exactly if something waits for its field, be it an empty text.
theorem demanded_exact (past : List Event) (command : Reply.Command) :
    command ∈ demands past ↔ (latest? past (carrier command)).isSome = true := by
  rw [demands, List.mem_reverse, List.mem_filterMap, latest?, List.findSome?_isSome_iff]
  simp only [demand_exact]

-- The verifiers that wait are those of the commands in the history.
theorem verifiers_of_replay (identity : Identity) (codec : Codec) (address : String)
    (past : List Event) : ((new identity codec address).replay past).pending.verifiers =
      Ledger.ofList (registered (demands past)) := by
  induction past using List.reverseRecOn with
  | nil => rfl
  | append_singleton past event ih =>
    rw [replay_append]
    cases demanded : event.demand? with
    | none =>
      cases event with
      | emptied =>
        rw [demands_after_emptied]
        rfl
      | _ => cases demanded
    | some command =>
      have last : registered (demands past ++ [command]) =
          registered (demands past) ++ [(command.label, command.acknowledgedIn)] := List.map_append
      rw [demands_after_queueing past demanded, last, Ledger.of_list_snoc, ← ih]
      cases event <;> cases demanded <;> rfl

theorem verifier_exact (past : List Event) (label : String) (verifier : Verifier) :
    (label, verifier) ∈ Ledger.ofList (registered (demands past)) ↔ ∃ command,
      (latest? past (carrier command)).isSome = true ∧ label = command.label ∧
        verifier = command.acknowledgedIn := by
  constructor
  · intro entered
    obtain ⟨command, demanded, same⟩ := List.mem_map.mp (Ledger.entry_of_list entered)
    cases same
    exact ⟨command, (demanded_exact past command).mp demanded, rfl, rfl⟩
  · rintro ⟨command, waits, rfl, rfl⟩
    have demanded := (demanded_exact past command).mpr waits
    have known : command.label ∈ Ledger.keys (Ledger.ofList (registered (demands past))) := by
      rw [Ledger.key_of_list_exact]
      exact List.mem_map_of_mem (List.mem_map_of_mem demanded)
    obtain ⟨⟨label, verifier⟩, entered, named⟩ := List.mem_map.mp known
    obtain ⟨other, _, same⟩ := List.mem_map.mp (Ledger.entry_of_list entered)
    cases same
    rwa [label_distinct named] at entered

-- A choreography that was composed has a payload that can be read.
def Event.Genuine : Event → Prop
  | .composed payload _ => ∃ score, Choreography.Payload.read payload = .ok score
  | _ => True

theorem genuine_of_possible {event : Event} (possible : event.Possible) : event.Genuine := by
  cases possible with
  | composed compiled title =>
    obtain ⟨tempo, records, read, _⟩ := Choreography.compiled_is_readable compiled
    exact ⟨_, read⟩
  | said => trivial
  | turned => trivial
  | emptied => trivial

theorem history_genuine (rabbit : Rabbit) (operations : List Operation) :
    ∀ event ∈ history rabbit operations, event.Genuine :=
  fun event member => genuine_of_possible (history_possible rabbit operations event member)

-- Only a text to say may be empty.
theorem queued_is_sent {event : Event} {command : Reply.Command} {value : Value}
    (genuine : event.Genuine) (queued : event.queued? (carrier command) = some value)
    (unsaid : command ≠ .say) : Batch.isSent value = true := by
  cases event with
  | said text => cases command <;> first | exact absurd rfl unsaid | cases queued
  | turned side place => cases side <;> cases command <;> cases queued <;> rfl
  | composed payload title =>
    obtain ⟨score, read⟩ := genuine
    cases command <;> cases queued
    have filled : payload ≠ "" := by
      intro empty
      rw [empty] at read
      cases read
    simpa [Batch.isSent] using filled
  | emptied => cases queued

end RabbitRemote.Rabbit
