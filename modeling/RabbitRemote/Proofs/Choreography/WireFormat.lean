import RabbitRemote.Proofs.Choreography.Changes

namespace RabbitRemote.Choreography

-- What the device relies on in a score, at whatever moment it is looked at.
structure WellFormed (score : Score) : Prop where
  tempo : 1 ≤ score.tempo
  ordered : score.records.Pairwise fun earlier later => earlier.time ≤ later.time
  timely : ∀ record ∈ score.records, 0 ≤ record.time ∧ record.time ≤ score.cursor
  motors : ∀ record ∈ score.records, record.kind = .motor →
    (record.p1 = 0 ∨ record.p1 = 1) ∧ record.p3 = 0 ∧ (record.p4 = 0 ∨ record.p4 = 1)
  lamps : ∀ record ∈ score.records, record.kind = .led → 0 ≤ record.p1 ∧ record.p1 ≤ 4

-- All that was written is still there, in its old place, and time did not go back.
structure Extends (before after : Score) : Prop where
  records : before.records <+: after.records
  cursor : before.cursor ≤ after.cursor

-- The scores that can be looked at while a program is played: before each instruction, inside the
-- blocks, and after each instruction, be it that it failed. What is caught can be looked at too.
mutual
def inside : Instruction → Score → List Score
  | .group body, score => during body { score with inBlock := true }
  | .repeatFor duration body, score =>
    match durationOf duration with
    | .ok _ => during body { score with inBlock := true }
    | .error _ => []
  | .attempt body, score => during body score
  | .setTempo _, _ => []
  | .moveEar _ _ _, _ => []
  | .setLed _ _, _ => []
  | .emit, _ => []

def during : Program → Score → List Score
  | [], score => [score]
  | instruction :: rest, score =>
    score :: inside instruction score ++
      match play instruction score with
      | (none, after) => during rest after
      | (some _, after) => [after]
end

-- Scores one after the other, each made from the one before it by what instructions do.
inductive Path : Score → List Score → Score → Prop where
  | last (score : Score) : Path score [score] score
  | step {before next after : Score} {rest : List Score} (changes : Changes before next)
      (further : Path next rest after) : Path before (before :: rest) after

variable {first middle next last : Score} {states more : List Score}

theorem Path.append (one : Path first states middle) (changes : Changes middle next)
    (two : Path next more last) : Path first (states ++ more) last := by
  induction one with
  | last score => exact .step changes two
  | step before _ ih => exact .step before (ih changes)

theorem Path.changes (path : Path first states last) : ∀ score ∈ states, Changes first score := by
  induction path with
  | last score =>
    intro other member
    rw [List.mem_singleton.mp member]
  | step changes _ ih =>
    intro other member
    rcases List.mem_cons.mp member with here | later
    · rw [here]
    · exact changes.trans (ih other later)

theorem Path.ordered (path : Path first states last) : states.Pairwise Changes := by
  induction path with
  | last score => exact List.pairwise_singleton _ _
  | step changes further ih =>
    apply List.Pairwise.cons
    · intro other member
      exact changes.trans (further.changes other member)
    · exact ih

theorem Path.ends (path : Path first states last) :
    states.head? = some first ∧ states.getLast? = some last := by
  induction path with
  | last score => exact ⟨rfl, rfl⟩
  | step _ _ ih => exact ⟨rfl, by rw [List.getLast?_cons, ih.2]; rfl⟩

-- What is seen inside an instruction stands between the scores before and after it, whatever comes
-- next. Only instructions with a body let one look inside.
mutual
theorem inside_path : ∀ (instruction : Instruction) (score : Score) (rest : List Score)
    (last : Score), Path (play instruction score).2 rest last →
      Path score (score :: inside instruction score ++ rest) last
  | .setTempo tempo, score => by
    intro rest last further
    rw [inside]
    exact .step (play_changes (.setTempo tempo) score) further
  | .moveEar ear angle direction?, score => by
    intro rest last further
    rw [inside]
    exact .step (play_changes (.moveEar ear angle direction?) score) further
  | .setLed led colour, score => by
    intro rest last further
    rw [inside]
    exact .step (play_changes (.setLed led colour) score) further
  | .emit, score => by
    intro rest last further
    rw [inside]
    exact .step (play_changes .emit score) further
  | .group body, score => by
    intro rest last further
    rw [play] at further
    rw [inside]
    have seen := during_path body { score with inBlock := true }
    exact .step (.single (.mark score true)) (seen.append (leave_block_changes score 1 _) further)
  | .repeatFor duration body, score => by
    intro rest last further
    rw [play] at further
    rw [inside]
    cases accepted : durationOf duration with
    | error failure =>
      rw [accepted] at further
      exact .step .refl further
    | ok ticks =>
      rw [accepted] at further
      have seen := during_path body { score with inBlock := true }
      have left := leave_block_changes score ticks (playAll body { score with inBlock := true })
      exact .step (.single (.mark score true)) (seen.append left further)
  | .attempt body, score => by
    intro rest last further
    rw [play] at further
    rw [inside]
    exact .step .refl ((during_path body score).append .refl further)

theorem during_path : ∀ (program : Program) (score : Score),
    Path score (during program score) (playAll program score).2
  | [], score => by
    rw [during, playAll]
    exact .last score
  | instruction :: rest, score => by
    have passing := inside_path instruction score
    rw [during, playAll]
    cases played : play instruction score with
    | mk failure? after =>
      rw [played] at passing
      cases failure? with
      | some failure => exact passing _ _ (.last after)
      | none => exact passing _ _ (during_path rest after)
end

theorem records_after_actions (score : Score) (added : List Action) :
    Score.records { score with actions := score.actions ++ added.map (⟨score.cursor, ·⟩) } =
      score.records ++ added.map fun action => TimedAction.record ⟨score.cursor, action⟩ := by
  simp [Score.records]

theorem time_of_record (timed : TimedAction) : timed.record.time = timed.time := by
  unfold TimedAction.record
  cases timed.action <;> rfl

theorem ear_code_exact (ear : Ear) : ear.code = 0 ∨ ear.code = 1 := by cases ear <;> simp [Ear.code]

theorem direction_code_exact (direction : Direction) :
    direction.code = 0 ∨ direction.code = 1 := by
  cases direction <;> simp [Direction.code]

theorem led_code_within (led : Led) : 0 ≤ led.code ∧ led.code ≤ 4 := by
  cases led <;> simp [Led.code]

theorem motor_record {timed : TimedAction} (motor : timed.record.kind = .motor) :
    (timed.record.p1 = 0 ∨ timed.record.p1 = 1) ∧ timed.record.p3 = 0 ∧
      (timed.record.p4 = 0 ∨ timed.record.p4 = 1) := by
  unfold TimedAction.record at motor ⊢
  cases action : timed.action with
  | motor ear angle direction => exact ⟨ear_code_exact ear, rfl, direction_code_exact direction⟩
  | led led colour => simp [action] at motor

theorem lamp_record {timed : TimedAction} (lamp : timed.record.kind = .led) :
    0 ≤ timed.record.p1 ∧ timed.record.p1 ≤ 4 := by
  unfold TimedAction.record at lamp ⊢
  cases action : timed.action with
  | motor ear angle direction => simp [action] at lamp
  | led led colour => exact led_code_within led

-- What a record says of places and directions comes from the action alone, so it holds of any score;
-- the times are what instructions have to keep.
theorem well_formed_of_times {score : Score} (tempo : 1 ≤ score.tempo)
    (ordered : score.records.Pairwise fun earlier later => earlier.time ≤ later.time)
    (bounded : ∀ record ∈ score.records, record.time ≤ score.cursor) : WellFormed score := by
  refine ⟨tempo, ordered, ?timely, ?motors, ?lamps⟩
  all_goals
    intro record member
    obtain ⟨timed, _, rfl⟩ := List.mem_map.mp member
  case timely =>
    refine ⟨?_, bounded _ member⟩
    rw [time_of_record]
    exact Int.natCast_nonneg _
  case motors => exact motor_record
  case lamps => exact lamp_record

theorem empty_well_formed : WellFormed .empty :=
  well_formed_of_times (by decide) .nil (by simp [Score.records, Score.empty])

theorem change_well_formed (change : Change first next) (known : WellFormed first) :
    WellFormed next := by
  have bounded := fun record member => (known.timely record member).2
  cases change with
  | tempo positive => exact well_formed_of_times positive known.ordered bounded
  | mark inBlock => exact well_formed_of_times known.tempo known.ordered bounded
  | time ticks =>
    refine well_formed_of_times known.tempo known.ordered ?_
    intro record member
    have before := bounded record member
    show record.time ≤ ((first.cursor + ticks : Nat) : Int)
    omega
  | actions added =>
    -- Everything that was there is no later than the cursor, which is the time of what is new.
    have fresh : ∀ record ∈ added.map (fun action => TimedAction.record ⟨first.cursor, action⟩),
        record.time = first.cursor := by
      intro record member
      obtain ⟨action, _, rfl⟩ := List.mem_map.mp member
      exact time_of_record _
    refine well_formed_of_times known.tempo ?_ ?_
    · rw [records_after_actions, List.pairwise_append]
      refine ⟨known.ordered, ?_, ?_⟩
      · apply List.Pairwise.imp_of_mem _ (List.pairwise_of_forall fun _ _ => trivial)
        intro earlier later member memberToo _
        exact Int.le_of_eq ((fresh earlier member).trans (fresh later memberToo).symm)
      · intro earlier member later memberToo
        rw [fresh later memberToo]
        exact bounded earlier member
    · rw [records_after_actions]
      intro record member
      rcases List.mem_append.mp member with old | new
      · exact bounded record old
      · exact Int.le_of_eq (fresh record new)

theorem changes_well_formed (changes : Changes first next) (known : WellFormed first) :
    WellFormed next := by
  induction changes with
  | refl => exact known
  | tail _ change ih => exact change_well_formed change ih

theorem change_extends (change : Change first next) : Extends first next := by
  cases change with
  | tempo positive => exact ⟨List.prefix_refl _, Nat.le_refl _⟩
  | mark inBlock => exact ⟨List.prefix_refl _, Nat.le_refl _⟩
  | time ticks => exact ⟨List.prefix_refl _, Nat.le_add_right _ ticks⟩
  | actions added =>
    refine ⟨?_, Nat.le_refl _⟩
    rw [records_after_actions]
    exact List.prefix_append _ _

theorem changes_extend (changes : Changes first next) : Extends first next := by
  induction changes with
  | refl => exact ⟨List.prefix_refl _, Nat.le_refl _⟩
  | tail _ change ih =>
    have further := change_extends change
    exact ⟨ih.records.trans further.records, Nat.le_trans ih.cursor further.cursor⟩

-- Whatever is played, with whatever arguments, every score that can be looked at on the way is well
-- formed and extends each one before it, from the empty score to the one that is left at the end.
theorem scores_stay_well_formed (program : Program) :
    (during program .empty).head? = some .empty ∧
    (during program .empty).getLast? = some (playAll program .empty).2 ∧
    (∀ score ∈ during program .empty, WellFormed score) ∧
    (during program .empty).Pairwise Extends := by
  have path := during_path program .empty
  refine ⟨path.ends.1, path.ends.2, ?_, ?_⟩
  · intro score member
    exact changes_well_formed (path.changes score member) empty_well_formed
  · exact path.ordered.imp changes_extend

end RabbitRemote.Choreography
