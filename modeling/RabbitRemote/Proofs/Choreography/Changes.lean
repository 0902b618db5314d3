import Mathlib.Logic.Relation
import RabbitRemote.Proofs.Choreography.PayloadRoundTrip
import RabbitRemote.Proofs.Fallible

namespace RabbitRemote.Choreography

-- All that instructions ever do to a score. Blocks are entered and left by way of their mark.
inductive Change : Score → Score → Prop where
  | tempo (score : Score) {hz : Nat} (positive : 1 ≤ hz) :
      Change score { score with tempo? := some hz }
  | actions (score : Score) (added : List Action) :
      Change score { score with actions := score.actions ++ added.map (⟨score.cursor, ·⟩) }
  | time (score : Score) (ticks : Nat) : Change score { score with cursor := score.cursor + ticks }
  | mark (score : Score) (inBlock : Bool) : Change score { score with inBlock := inBlock }

abbrev Changes : Score → Score → Prop := Relation.ReflTransGen Change

theorem advance_changes (score : Score) (ticks : Nat) : Changes score (score.advance ticks) := by
  unfold Score.advance
  by_cases standing : score.inBlock = true
  · rw [if_pos standing]
  · rw [if_neg standing]
    exact .single (.time score ticks)

theorem write_changes (score : Score) (added : List Action) :
    Changes score (score.write added) :=
  .head (.actions score added) (advance_changes _ 1)

theorem tempo_positive {given : Value} {hz : Nat} (accepted : tempoOf given = .ok hz) : 1 ≤ hz := by
  unfold tempoOf at accepted
  split at accepted
  · rename_i i
    by_cases positive : 1 ≤ i
    · rw [if_pos positive] at accepted
      cases accepted
      omega
    · rw [if_neg positive] at accepted
      cases accepted
  · cases accepted

theorem settle_changes {α : Type} {score : Score} {result : Except Failure α} {next : α → Score}
    (changed : ∀ value, result = .ok value → Changes score (next value)) :
    Changes score (settle score (result.map next)).2 := by
  cases result with
  | error failure => exact .refl
  | ok value => exact changed value rfl

theorem leave_block_changes (score : Score) (ticks : Nat) (played : Played) :
    Changes played.2 (closeBlock score ticks played).2 := by
  obtain ⟨failure?, after⟩ := played
  have left : Changes after { after with inBlock := score.inBlock } :=
    .single (.mark after score.inBlock)
  cases failure? with
  | some failure => exact left
  | none => exact left.trans (advance_changes _ ticks)

theorem close_block_changes {score : Score} {played : Played} (ticks : Nat)
    (changed : Changes { score with inBlock := true } played.2) :
    Changes score (closeBlock score ticks played).2 := by
  have entered : Changes score played.2 := .head (.mark score true) changed
  exact entered.trans (leave_block_changes score ticks played)

-- One case for each instruction, at any depth and however it ends.
mutual
theorem play_changes : ∀ (instruction : Instruction) (score : Score),
    Changes score (play instruction score).2
  | .setTempo tempo, score => by
    rw [play]
    apply settle_changes
    intro hz accepted
    exact .single (.tempo score (tempo_positive accepted))
  | .moveEar ear angle direction?, score => by
    rw [play]
    apply settle_changes
    intro added _
    exact write_changes score added
  | .setLed led colour, score => by
    rw [play]
    apply settle_changes
    intro added _
    exact write_changes score added
  | .emit, score => by
    rw [play]
    apply settle_changes
    intro payload _
    exact .refl
  | .group body, score => by
    rw [play]
    exact close_block_changes 1 (play_all_changes body _)
  | .repeatFor duration body, score => by
    rw [play]
    cases durationOf duration with
    | error failure => exact .refl
    | ok ticks => exact close_block_changes ticks (play_all_changes body _)
  | .attempt body, score => by
    rw [play]
    exact play_all_changes body score

theorem play_all_changes : ∀ (program : Program) (score : Score),
    Changes score (playAll program score).2
  | [], score => by
    rw [playAll]
  | instruction :: rest, score => by
    have first := play_changes instruction score
    rw [playAll]
    cases played : play instruction score with
    | mk failure? after =>
      rw [played] at first
      cases failure? with
      | some failure => exact first
      | none => exact first.trans (play_all_changes rest after)
end

theorem tempo_stays_positive {before after : Score} (changes : Changes before after)
    (positive : 1 ≤ before.tempo) : 1 ≤ after.tempo := by
  induction changes with
  | refl => exact positive
  | tail _ change ih =>
    cases change with
    | tempo hz => assumption
    | actions => exact ih
    | time => exact ih
    | mark => exact ih

-- What is compiled can be read back, and asks for one event in a second at least.
theorem compiled_is_readable {program : Program} {payload : String} {record? : Option Log.Record}
    (compiled : compile program = .ok (payload, record?)) :
    ∃ tempo records, Payload.read payload = .ok (tempo, records) ∧ 1 ≤ tempo := by
  have changes := play_all_changes program Score.empty
  unfold compile at compiled
  cases played : playAll program Score.empty with
  | mk failure? score =>
    rw [played] at compiled changes
    cases failure? with
    | some failure => cases compiled
    | none =>
      obtain ⟨written, emitted, same⟩ := map_ok.mp compiled
      cases same
      have positive : 1 ≤ score.tempo := tempo_stays_positive changes (by decide)
      exact ⟨score.tempo, score.records, Payload.read_of_written emitted, by omega⟩

end RabbitRemote.Choreography
