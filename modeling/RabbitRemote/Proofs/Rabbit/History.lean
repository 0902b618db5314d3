import Mathlib.Data.List.Induction
import RabbitRemote.Proofs.Rabbit.Run

namespace RabbitRemote.Rabbit

-- What an onlooker notes down of a run: the values that callers queued, and when the rabbit was
-- emptied, by a send that succeeded or on demand.
inductive Event where
  | said (text : Value)
  | turned (side : Side) (place : Int)
  | composed (payload : String) (title : Value)
  | emptied

namespace Event

def isEmptied : Event → Bool
  | .emptied => true
  | _ => false

def queued? (field : Batch.Field) : Event → Option Value
  | .said text => if field = .speech then some text else none
  | .turned side place => if field = fieldOf side then some (.whole place) else none
  | .composed payload title =>
    if field = .choreography then some (.text payload)
    else if field = .choreographyTitle then some title
    else none
  | .emptied => none

end Event

-- The latest value queued for a field since the rabbit was emptied for the last time.
def latest? (past : List Event) (field : Batch.Field) : Option Value :=
  (past.reverse.takeWhile fun event => !event.isEmptied).findSome? (Event.queued? field)

-- Null where nothing waits.
def latest (past : List Event) (field : Batch.Field) : Value := (latest? past field).getD .null

theorem latest_after_emptied (past : List Event) (field : Batch.Field) :
    latest? (past ++ [.emptied]) field = none := by
  simp [latest?, Event.isEmptied]

theorem latest_after_queueing (past : List Event) {event : Event} (field : Batch.Field)
    (queueing : event.isEmptied = false) :
    latest? (past ++ [event]) field = (event.queued? field).or (latest? past field) := by
  simp only [latest?, List.reverse_append, List.reverse_singleton, List.singleton_append,
    List.takeWhile_cons, queueing, Bool.not_false, if_true, List.findSome?_cons]
  cases event.queued? field <;> rfl

-- Later events that neither empty the rabbit nor queue anything for the field change nothing.
theorem latest_past_others (past later : List Event) (field : Batch.Field)
    (others : ∀ event ∈ later, event.isEmptied = false ∧ event.queued? field = none) :
    latest? (past ++ later) field = latest? past field := by
  induction later using List.reverseRecOn with
  | nil => rw [List.append_nil]
  | append_singleton later event ih =>
    obtain ⟨queueing, nothing⟩ := others event (by simp)
    have before := ih fun sooner member => others sooner (by simp [member])
    rw [← List.append_assoc, latest_after_queueing _ _ queueing, nothing, Option.none_or, before]

theorem latest_exact (past : List Event) (field : Batch.Field) (value : Value) :
    latest? past field = some value ↔ ∃ before event after, past = before ++ event :: after ∧
      event.queued? field = some value ∧
      ∀ later ∈ after, later.isEmptied = false ∧ later.queued? field = none := by
  constructor
  · induction past using List.reverseRecOn with
    | nil =>
      intro found
      cases found
    | append_singleton past last ih =>
      intro found
      -- The last event empties the rabbit, queues the field itself, or is one of the others.
      cases queueing : last.isEmptied with
      | true =>
        cases last with
        | emptied => rw [latest_after_emptied] at found; cases found
        | _ => cases queueing
      | false =>
        rw [latest_after_queueing _ _ queueing] at found
        cases queued : last.queued? field with
        | some newest =>
          rw [queued, Option.some_or] at found
          exact ⟨past, last, [], rfl, queued.trans found, by simp⟩
        | none =>
          rw [queued, Option.none_or] at found
          obtain ⟨before, event, after, rfl, source, others⟩ := ih found
          refine ⟨before, event, after ++ [last], by simp, source, ?_⟩
          intro later member
          rcases List.mem_append.mp member with sooner | final
          · exact others later sooner
          · rw [List.mem_singleton.mp final]
            exact ⟨queueing, queued⟩
  · rintro ⟨before, event, after, rfl, queued, others⟩
    have queueing : event.isEmptied = false := by
      cases event <;> first | rfl | cases queued
    have parted : before ++ event :: after = (before ++ [event]) ++ after := by simp
    rw [parted, latest_past_others _ _ _ others, latest_after_queueing _ _ queueing, queued]
    rfl

theorem composed_of_queued {event : Event} {field : Batch.Field} {value : Value}
    (part : field = .choreography ∨ field = .choreographyTitle)
    (queued : event.queued? field = some value) :
    ∃ payload title, event = .composed payload title := by
  cases event with
  | composed payload title => exact ⟨payload, title, rfl⟩
  | said text => rcases part with rfl | rfl <;> cases queued
  | turned side place => cases side <;> rcases part with rfl | rfl <;> cases queued
  | emptied => cases queued

theorem title_queued_with_choreography (event : Event) :
    event.queued? .choreography = none ↔ event.queued? .choreographyTitle = none := by
  cases event with
  | turned side place => cases side <;> simp [Event.queued?, fieldOf]
  | _ => simp [Event.queued?]

theorem latest_of_composed (before after : List Event) (payload : String) (title : Value)
    (others : ∀ later ∈ after, later.isEmptied = false ∧ later.queued? .choreography = none) :
    latest? (before ++ .composed payload title :: after) .choreography = some (.text payload) ∧
    latest? (before ++ .composed payload title :: after) .choreographyTitle = some title := by
  refine ⟨(latest_exact _ _ _).mpr ?_, (latest_exact _ _ _).mpr ?_⟩
  · exact ⟨before, _, after, rfl, rfl, others⟩
  · refine ⟨before, _, after, rfl, rfl, ?_⟩
    intro later member
    obtain ⟨queueing, nothing⟩ := others later member
    exact ⟨queueing, (title_queued_with_choreography later).mp nothing⟩

-- Choreography and title are those of one and the same call, the last one, or neither waits.
theorem choreography_with_own_title (past : List Event) :
    (latest? past .choreography = none ∧ latest? past .choreographyTitle = none) ∨
    ∃ before payload title after, past = before ++ .composed payload title :: after ∧
      (∀ later ∈ after, later.isEmptied = false ∧ later.queued? .choreography = none) ∧
      latest? past .choreography = some (.text payload) ∧
      latest? past .choreographyTitle = some title := by
  cases queued : latest? past .choreography with
  | some value =>
    obtain ⟨before, event, after, rfl, source, others⟩ := (latest_exact _ _ _).mp queued
    obtain ⟨payload, title, rfl⟩ := composed_of_queued (.inl rfl) source
    have both := latest_of_composed before after payload title others
    exact .inr ⟨before, payload, title, after, rfl, others, queued ▸ both.1, both.2⟩
  | none =>
    cases titled : latest? past .choreographyTitle with
    | none => exact .inl ⟨rfl, rfl⟩
    | some value =>
      obtain ⟨before, event, after, rfl, source, others⟩ := (latest_exact _ _ _).mp titled
      obtain ⟨payload, title, rfl⟩ := composed_of_queued (.inr rfl) source
      have untouched : ∀ later ∈ after,
          later.isEmptied = false ∧ later.queued? .choreography = none := by
        intro later member
        obtain ⟨queueing, untitled⟩ := others later member
        exact ⟨queueing, (title_queued_with_choreography later).mpr untitled⟩
      have both := latest_of_composed before after payload title untouched
      rw [queued] at both
      cases both.1

-- A position that an ear can take.
def position? : Value → Option Int
  | .whole place => if 0 ≤ place ∧ place ≤ 16 then some place else none
  | _ => none

-- Null turns nothing, and anything else that is no position is refused.
def turns? (side : Side) (position : Value) : Option (List Event) :=
  if position.isNull then some [] else (position? position).map fun place => [.turned side place]

theorem position_within {position : Value} {place : Int} (taken : position? position = some place) :
    0 ≤ place ∧ place ≤ 16 := by
  unfold position? at taken
  split at taken
  · rename_i i
    by_cases within : 0 ≤ i ∧ i ≤ 16
    · rw [if_pos within] at taken
      cases taken
      exact within
    · rw [if_neg within] at taken
      cases taken
  · cases taken

theorem null_is_no_position {position : Value} (null : position.isNull = true) :
    position? position = none := by
  cases position with
  | null => rfl
  | _ => cases null

theorem turned_at_most_once {side : Side} {position : Value} {events : List Event}
    (turned : turns? side position = some events) :
    events = [] ∧ position.isNull = true ∨
      ∃ place, position? position = some place ∧ events = [.turned side place] := by
  unfold turns? at turned
  by_cases null : position.isNull = true
  · rw [if_pos null] at turned
    cases turned
    exact .inl ⟨rfl, null⟩
  · rw [if_neg null] at turned
    obtain ⟨place, taken, rfl⟩ := Option.map_eq_some_iff.mp turned
    exact .inr ⟨place, taken, rfl⟩

theorem turns_refused {side : Side} {position : Value} (refused : turns? side position = none) :
    position.isNull = false ∧ position? position = none := by
  unfold turns? at refused
  by_cases null : position.isNull = true
  · rw [if_pos null] at refused
    cases refused
  · rw [if_neg null] at refused
    exact ⟨Bool.eq_false_iff.mpr null, Option.map_eq_none_iff.mp refused⟩

-- What a command queues. The left ear is done before the right one is looked at, and a program
-- that fails leaves nothing.
def Command.events : Command → List Event
  | .say text => [.said text]
  | .bark => [.said (.text barkText)]
  | .moveEars left right =>
    match turns? .left left with
    | none => []
    | some first => first ++ (turns? .right right).getD []
  | .choreography program title =>
    match Choreography.compile program with
    | .ok (payload, _) => [.composed payload title]
    | .error _ => []

-- What an operation adds to the history, which depends on whether its send succeeded.
def Operation.events : Operation → Bool → List Event
  | .queue command, _ => command.events
  | .queueAndSend command _, succeeded => command.events ++ if succeeded then [.emptied] else []
  | .send _, succeeded => if succeeded then [.emptied] else []
  | .discard, _ => [.emptied]
  | .askEars _, _ => []

def history (rabbit : Rabbit) : List Operation → List Event
  | [] => []
  | operation :: rest =>
    let performed := rabbit.perform operation
    operation.events performed.succeeded ++ history performed.state rest

-- What can come up in a history: places that an ear can take, and what a program was compiled to.
inductive Event.Possible : Event → Prop where
  | said (text : Value) : Possible (.said text)
  | turned (side : Side) {place : Int} (within : 0 ≤ place ∧ place ≤ 16) :
      Possible (.turned side place)
  | composed {program : Choreography.Program} {payload : String} {record? : Option Log.Record}
      (compiled : Choreography.compile program = .ok (payload, record?)) (title : Value) :
      Possible (.composed payload title)
  | emptied : Possible .emptied

theorem turns_possible {side : Side} {position : Value} {events : List Event}
    (turned : turns? side position = some events) : ∀ event ∈ events, event.Possible := by
  intro event member
  rcases turned_at_most_once turned with ⟨rfl, _⟩ | ⟨place, taken, rfl⟩
  · cases member
  · rw [List.mem_singleton.mp member]
    exact .turned side (position_within taken)

theorem command_possible (command : Command) : ∀ event ∈ command.events, event.Possible := by
  intro event member
  cases command with
  | say text =>
    rw [List.mem_singleton.mp member]
    exact .said text
  | bark =>
    rw [List.mem_singleton.mp member]
    exact .said _
  | moveEars left right =>
    rw [Command.events] at member
    cases first : turns? .left left with
    | none =>
      rw [first] at member
      cases member
    | some events =>
      rw [first] at member
      rcases List.mem_append.mp member with inFirst | inSecond
      · exact turns_possible first event inFirst
      · cases second : turns? .right right with
        | none =>
          rw [second] at inSecond
          cases inSecond
        | some more =>
          rw [second] at inSecond
          exact turns_possible second event inSecond
  | choreography program title =>
    rw [Command.events] at member
    cases compiled : Choreography.compile program with
    | error failure =>
      rw [compiled] at member
      cases member
    | ok composed =>
      rw [compiled] at member
      rw [List.mem_singleton.mp member]
      exact .composed compiled title

theorem operation_possible (operation : Operation) (succeeded : Bool) :
    ∀ event ∈ operation.events succeeded, event.Possible := by
  have emptied : ∀ event ∈ (if succeeded then [Event.emptied] else []), event.Possible := by
    intro event member
    cases succeeded with
    | false => cases member
    | true =>
      rw [List.mem_singleton.mp member]
      exact .emptied
  intro event member
  cases operation with
  | queue command => exact command_possible command event member
  | queueAndSend command answer =>
    rcases List.mem_append.mp member with queued | sent
    · exact command_possible command event queued
    · exact emptied event sent
  | send answer => exact emptied event member
  | discard =>
    rw [List.mem_singleton.mp member]
    exact .emptied
  | askEars answer => cases member

theorem history_possible (rabbit : Rabbit) (operations : List Operation) :
    ∀ event ∈ history rabbit operations, event.Possible := by
  induction operations generalizing rabbit with
  | nil => simp [history]
  | cons operation rest ih =>
    intro event member
    rcases List.mem_append.mp member with here | later
    · exact operation_possible operation _ event here
    · exact ih _ event later

end RabbitRemote.Rabbit
