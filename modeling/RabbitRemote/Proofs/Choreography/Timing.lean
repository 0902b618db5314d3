import Mathlib.Algebra.GroupWithZero.Nat
import Mathlib.Data.List.Basic
import RabbitRemote.Choreography.Score

namespace RabbitRemote.Choreography

-- A call that was made while a program was played: what was called, the failure it ended in if it
-- failed, and the calls made inside it. Only blocks have calls inside.
inductive Call where
  | made (instruction : Instruction) (failure? : Option Failure) (inside : List Call)

-- Catching failures is no call: what is played under an `attempt` lies where the `attempt` lies.
-- A block whose duration is refused is a call with nothing inside.
mutual
def callsOf : Instruction → Score → List Call
  | .group body, score =>
    [.made (.group body) (play (.group body) score).1
      (callsOfAll body { score with inBlock := true })]
  | .repeatFor duration body, score =>
    [.made (.repeatFor duration body) (play (.repeatFor duration body) score).1
      (match durationOf duration with
        | .ok _ => callsOfAll body { score with inBlock := true }
        | .error _ => [])]
  | .attempt body, score => callsOfAll body score
  | .setTempo tempo, score => [.made (.setTempo tempo) (play (.setTempo tempo) score).1 []]
  | .moveEar ear angle direction?, score =>
    [.made (.moveEar ear angle direction?) (play (.moveEar ear angle direction?) score).1 []]
  | .setLed led colour, score => [.made (.setLed led colour) (play (.setLed led colour) score).1 []]
  | .emit, score => [.made .emit (play .emit score).1 []]

def callsOfAll : Program → Score → List Call
  | [], _ => []
  | instruction :: rest, score =>
    callsOf instruction score ++
      match play instruction score with
      | (none, after) => callsOfAll rest after
      | (some _, _) => []
end

def Instruction.isLeaf : Instruction → Bool
  | .moveEar .. | .setLed .. => true
  | _ => false

-- How long an instruction lasts if it is played to its end.
def Instruction.ticks : Instruction → Nat
  | .moveEar .. | .setLed .. | .group _ => 1
  | .repeatFor (.whole n) _ => n.toNat
  | _ => 0

def Instruction.leafActions : Instruction → List Action
  | .moveEar ear angle direction? => (motorActions ear angle direction?).toOption.getD []
  | .setLed led colour => (ledActions led colour).toOption.getD []
  | _ => []

-- A call that failed lasts no time, whatever it did before.
def Call.ticks : Call → Nat
  | .made instruction none _ => instruction.ticks
  | .made _ (some _) _ => 0

def elapsed (calls : List Call) : Nat := (calls.map Call.ticks).sum

-- The actions of all leaf calls that succeeded, at any depth and in the order of the calls. A block
-- that failed keeps those of the leaves inside it.
mutual
def Call.actions : Call → List Action
  | .made instruction none inside => instruction.leafActions ++ actionsOf inside
  | .made _ (some _) inside => actionsOf inside

def actionsOf : List Call → List Action
  | [] => []
  | call :: rest => call.actions ++ actionsOf rest
end

-- All actions of one outermost call share the time that had elapsed before it.
def timeline (start : Nat) : List Call → List TimedAction
  | [] => []
  | call :: rest => call.actions.map (⟨start, ·⟩) ++ timeline (start + call.ticks) rest

theorem elapsed_append (earlier later : List Call) :
    elapsed (earlier ++ later) = elapsed earlier + elapsed later := by
  simp [elapsed]

theorem actions_append (earlier later : List Call) :
    actionsOf (earlier ++ later) = actionsOf earlier ++ actionsOf later := by
  induction earlier with
  | nil => simp [actionsOf]
  | cons call rest ih => simp [actionsOf, ih]

theorem timeline_append (start : Nat) (earlier later : List Call) :
    timeline start (earlier ++ later) =
      timeline start earlier ++ timeline (start + elapsed earlier) later := by
  induction earlier generalizing start with
  | nil => simp [timeline, elapsed]
  | cons call rest ih => simp [timeline, elapsed, ih, Nat.add_assoc]

-- What the calls of a stretch do to a score. Inside a block time stands still, so all their actions
-- have the time of the cursor.
structure Follows (before : Score) (calls : List Call) (after : Score) : Prop where
  inBlock : after.inBlock = before.inBlock
  cursor : after.cursor = before.cursor + if before.inBlock then 0 else elapsed calls
  actions : after.actions = before.actions ++
    if before.inBlock then (actionsOf calls).map (⟨before.cursor, ·⟩)
    else timeline before.cursor calls

theorem Follows.refl (score : Score) : Follows score [] score :=
  ⟨rfl, by simp [elapsed], by simp [actionsOf, timeline]⟩

theorem Follows.trans {first middle last : Score} {earlier later : List Call}
    (one : Follows first earlier middle) (two : Follows middle later last) :
    Follows first (earlier ++ later) last := by
  refine ⟨two.inBlock.trans one.inBlock, ?_, ?_⟩
  · rw [two.cursor, one.cursor, one.inBlock, elapsed_append]
    split <;> omega
  · rw [two.actions, one.actions, one.cursor, one.inBlock]
    cases first.inBlock with
    | true => simp [actions_append]
    | false => simp [timeline_append]

-- A call that touches neither cursor nor actions, be it that it failed or that it takes no time.
theorem follows_idle (instruction : Instruction) (failure? : Option Failure) (before after : Score)
    (inBlock : after.inBlock = before.inBlock) (cursor : after.cursor = before.cursor)
    (actions : after.actions = before.actions)
    (idle : failure? = none → instruction.ticks = 0 ∧ instruction.leafActions = []) :
    Follows before [.made instruction failure? []] after := by
  cases failure? with
  | some failure =>
    exact ⟨inBlock, by simp [elapsed, Call.ticks, cursor],
      by simp [actionsOf, Call.actions, timeline, actions]⟩
  | none =>
    obtain ⟨noTicks, noActions⟩ := idle rfl
    exact ⟨inBlock, by simp [elapsed, Call.ticks, noTicks, cursor],
      by simp [actionsOf, Call.actions, noActions, timeline, actions]⟩

theorem follows_write (instruction : Instruction) (score : Score) (oneTick : instruction.ticks = 1) :
    Follows score [.made instruction none []] (score.write instruction.leafActions) := by
  refine ⟨?_, ?_, ?_⟩
  all_goals cases standing : score.inBlock
  all_goals simp [Score.write, Score.advance, standing, elapsed, Call.ticks, oneTick, actionsOf,
    Call.actions, timeline]

theorem follows_block (instruction : Instruction) (ticks : Nat) (score : Score) (inside : List Call)
    (played : Played) (leafless : instruction.leafActions = [])
    (lasting : played.1 = none → instruction.ticks = ticks)
    (body : Follows { score with inBlock := true } inside played.2) :
    Follows score [.made instruction (closeBlock score ticks played).1 inside]
      (closeBlock score ticks played).2 := by
  obtain ⟨failure?, after⟩ := played
  have cursor : after.cursor = score.cursor := by simpa using body.cursor
  have actions : after.actions = score.actions ++ (actionsOf inside).map (⟨score.cursor, ·⟩) := by
    simpa using body.actions
  cases failure? with
  | some failure =>
    exact ⟨rfl, by simp [closeBlock, elapsed, Call.ticks, cursor],
      by simp [closeBlock, actionsOf, Call.actions, timeline, actions]⟩
  | none =>
    have ticks := lasting rfl
    refine ⟨?_, ?_, ?_⟩
    all_goals cases standing : score.inBlock
    all_goals simp [closeBlock, Score.advance, standing, elapsed, Call.ticks, ticks, cursor,
      actions, actionsOf, Call.actions, leafless, timeline]

theorem duration_of_accepted {given : Value} {ticks : Nat} (accepted : durationOf given = .ok ticks)
    (body : Program) : (Instruction.repeatFor given body).ticks = ticks := by
  unfold durationOf at accepted
  split at accepted
  · split at accepted
    · cases accepted; rfl
    · cases accepted
  · cases accepted

theorem settle_follows (instruction : Instruction) (score : Score)
    (actions : Except Failure (List Action)) (oneTick : instruction.ticks = 1)
    (own : instruction.leafActions = actions.toOption.getD []) :
    Follows score [.made instruction (settle score (actions.map score.write)).1 []]
      (settle score (actions.map score.write)).2 := by
  cases actions with
  | error failure => exact follows_idle _ _ _ _ rfl rfl rfl (by simp [settle, Except.map])
  | ok written =>
    have all : instruction.leafActions = written := own
    have followed := follows_write instruction score oneTick
    rwa [all] at followed

-- One case for each instruction; blocks use what holds of their bodies, which are played with the
-- flag set, and everything else is a single call.
mutual
theorem play_follows : ∀ (instruction : Instruction) (score : Score),
    Follows score (callsOf instruction score) (play instruction score).2
  | .setTempo tempo, score => by
    rw [callsOf, play]
    cases tempoOf tempo with
    | error failure => exact follows_idle _ _ _ _ rfl rfl rfl (by simp [settle, Except.map])
    | ok hz => exact follows_idle _ _ _ _ rfl rfl rfl fun _ => ⟨rfl, rfl⟩
  | .moveEar ear angle direction?, score => by
    rw [callsOf, play]
    exact settle_follows _ _ _ rfl rfl
  | .setLed led colour, score => by
    rw [callsOf, play]
    exact settle_follows _ _ _ rfl rfl
  | .emit, score => by
    rw [callsOf, play]
    cases score.emit with
    | error failure => exact follows_idle _ _ _ _ rfl rfl rfl (by simp [settle, Except.map])
    | ok payload => exact follows_idle _ _ _ _ rfl rfl rfl fun _ => ⟨rfl, rfl⟩
  | .group body, score => by
    rw [callsOf, play]
    exact follows_block _ _ _ _ _ rfl (fun _ => rfl) (play_all_follows body _)
  | .repeatFor duration body, score => by
    rw [callsOf, play]
    cases accepted : durationOf duration with
    | error failure => exact follows_idle _ _ _ _ rfl rfl rfl (by simp)
    | ok ticks =>
      exact follows_block _ _ _ _ _ rfl (fun _ => duration_of_accepted accepted body)
        (play_all_follows body _)
  | .attempt body, score => by
    rw [callsOf, play]
    exact play_all_follows body score

theorem play_all_follows : ∀ (program : Program) (score : Score),
    Follows score (callsOfAll program score) (playAll program score).2
  | [], score => by
    rw [callsOfAll, playAll]
    exact .refl score
  | instruction :: rest, score => by
    have first := play_follows instruction score
    rw [callsOfAll, playAll]
    cases played : play instruction score with
    | mk failure? after =>
      rw [played] at first
      cases failure? with
      | some failure => simpa using first
      | none => exact first.trans (play_all_follows rest after)
end

-- The same timeline, each call beside its place in the list.
theorem timeline_by_place (earlier later : List Call) :
    timeline (elapsed earlier) later =
      (later.zipIdx earlier.length).flatMap fun (call, place) =>
        call.actions.map (⟨elapsed ((earlier ++ later).take place), ·⟩) := by
  induction later generalizing earlier with
  | nil => rfl
  | cons call rest ih =>
    have step : elapsed earlier + call.ticks = elapsed (earlier ++ [call]) := by
      simp [elapsed]
    have tail := ih (earlier ++ [call])
    simp only [List.length_append, List.length_singleton, List.append_assoc,
      List.singleton_append] at tail
    simp only [timeline, step, tail, List.zipIdx_cons, List.flatMap_cons, List.take_left]

theorem calls_of_failed {instruction : Instruction} {score : Score} {failure : Failure}
    (failed : (play instruction score).1 = some failure) :
    ∃ inside, callsOf instruction score = [.made instruction (some failure) inside] := by
  cases instruction with
  | attempt body => simp [play] at failed
  | setTempo | moveEar | setLed | emit => exact ⟨[], by rw [callsOf, failed]⟩
  | group | repeatFor => exact ⟨_, by rw [callsOf, failed]⟩

theorem failed_keeps_cursor {instruction : Instruction} {score : Score} {failure : Failure}
    (failed : (play instruction score).1 = some failure) :
    (play instruction score).2.cursor = score.cursor := by
  obtain ⟨inside, called⟩ := calls_of_failed failed
  have followed := (play_follows instruction score).cursor
  rw [called] at followed
  simpa [elapsed, Call.ticks] using followed

theorem settle_failed {before : Score} {result : Except Failure Score} {failure : Failure}
    (failed : (settle before result).1 = some failure) : (settle before result).2 = before := by
  cases result with
  | error _ => rfl
  | ok after => cases failed

theorem failed_leaf_writes_nothing {instruction : Instruction} {score : Score} {failure : Failure}
    (leaf : instruction.isLeaf = true) (failed : (play instruction score).1 = some failure) :
    (play instruction score).2 = score := by
  cases instruction with
  | moveEar | setLed =>
    rw [play] at failed ⊢
    exact settle_failed failed
  | setTempo | emit | group | repeatFor | attempt => cases leaf

theorem refused_duration_plays_nothing {duration : Value} {failure : Failure}
    (refused : durationOf duration = .error failure) (body : Program) (score : Score) :
    play (.repeatFor duration body) score = (some failure, score) := by
  rw [play, refused]

end RabbitRemote.Choreography
