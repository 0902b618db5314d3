import RabbitRemote.Proofs.Rabbit.History

namespace RabbitRemote.Rabbit

-- What an event of the history did to the rabbit.
def happen (rabbit : Rabbit) : Event → Rabbit
  | .said text => (rabbit.set .speech text).expect .say
  | .turned side place => (rabbit.set (fieldOf side) (.whole place)).expect (commandOf side)
  | .composed payload title =>
    ((rabbit.set .choreographyTitle title).set .choreography (.text payload)).expect .choreography
  | .emptied => rabbit.renew

def replay (rabbit : Rabbit) (events : List Event) : Rabbit := events.foldl happen rabbit

theorem replay_append (rabbit : Rabbit) (first second : List Event) :
    rabbit.replay (first ++ second) = (rabbit.replay first).replay second := List.foldl_append

theorem position_exact (side : Side) (position : Value) (place : Int) :
    earPosition side position = .ok place ↔ position? position = some place := by
  cases position with
  | whole i =>
    rw [earPosition, position?, lowestEar, highestEar]
    by_cases within : 0 ≤ i ∧ i ≤ 16
    · rw [if_pos within, if_pos within, Except.ok.injEq, Option.some.injEq]
    · simp [if_neg within]
  | _ => simp [earPosition, position?]

theorem ear_replays {side : Side} {position : Value} {events : List Event} (rabbit : Rabbit)
    (turned : turns? side position = some events) :
    rabbit.moveEar side position = .done (rabbit.replay events) () := by
  unfold turns? at turned
  unfold moveEar
  by_cases null : position.isNull = true
  · rw [if_pos null] at turned
    cases turned
    rw [if_pos null]
    rfl
  · rw [if_neg null] at turned
    obtain ⟨place, taken, rfl⟩ := Option.map_eq_some_iff.mp turned
    rw [if_neg null, (position_exact side position place).mpr taken]
    rfl

theorem ear_refused {side : Side} {position : Value} (rabbit : Rabbit)
    (refused : turns? side position = none) :
    ∃ failure, rabbit.moveEar side position = .failed rabbit failure := by
  unfold turns? at refused
  by_cases null : position.isNull = true
  · rw [if_pos null] at refused
    cases refused
  · rw [if_neg null] at refused
    rw [moveEar, if_neg null]
    cases placed : earPosition side position with
    | error failure => exact ⟨failure, rfl⟩
    | ok place =>
      rw [(position_exact side position place).mp placed] at refused
      cases refused

theorem queue_replays (rabbit : Rabbit) (command : Command) :
    (rabbit.queue command).state = rabbit.replay command.events := by
  cases command with
  | say text => rfl
  | bark => rfl
  | moveEars left right =>
    rw [queue, moveEars, Command.events]
    cases first : turns? .left left with
    | none =>
      obtain ⟨failure, stopped⟩ := ear_refused rabbit first
      rw [stopped]
      rfl
    | some events =>
      rw [ear_replays rabbit first, Outcome.done_and_then, replay_append]
      cases second : turns? .right right with
      | none =>
        obtain ⟨failure, stopped⟩ := ear_refused (rabbit.replay events) second
        rw [stopped]
        rfl
      | some more =>
        rw [ear_replays _ second]
        rfl
  | choreography program title =>
    rw [queue, choreography, Command.events]
    cases Choreography.compile program <;> rfl

end RabbitRemote.Rabbit
