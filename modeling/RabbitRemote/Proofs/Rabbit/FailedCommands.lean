import RabbitRemote.Proofs.Rabbit.Replay

namespace RabbitRemote.Rabbit

-- Both ears are to be moved. The left one can take its place, the right one cannot.
inductive HalfMoves : Command → Int → Prop where
  | ears {left right : Value} {place : Int} (taken : position? left = some place)
      (given : right.isNull = false) (refused : position? right = none) :
      HalfMoves (.moveEars left right) place

-- A command that fails changes nothing that waits.
def Atomic (rabbit : Rabbit) (command : Command) : Prop :=
  ∀ failure, (rabbit.queue command).result = .error failure →
    (rabbit.queue command).state.pending = rabbit.pending

theorem no_half_move {left right : Value} (missed : position? left = none) (place : Int) :
    ¬ HalfMoves (.moveEars left right) place := by
  intro half
  cases half with
  | ears taken => cases missed.symm.trans taken

theorem failed_move_leaves (rabbit : Rabbit) (left right : Value) (failure : Failure)
    (failed : (rabbit.moveEars left right).result = .error failure) :
    ((∀ place, ¬ HalfMoves (.moveEars left right) place) ∧
      (rabbit.moveEars left right).state = rabbit) ∨
    ∃ place, HalfMoves (.moveEars left right) place ∧ (rabbit.moveEars left right).state =
      (rabbit.set .leftEar (.whole place)).expect .leftEar := by
  have replayed : (rabbit.moveEars left right).state =
      rabbit.replay (Command.moveEars left right).events := queue_replays rabbit (.moveEars left right)
  rw [replayed, Command.events]
  cases first : turns? .left left with
  | none =>
    obtain ⟨_, missed⟩ := turns_refused first
    exact .inl ⟨no_half_move missed, rfl⟩
  | some events =>
    cases second : turns? .right right with
    | some more =>
      -- With both ears turned there is nothing that could have failed.
      rw [moveEars, ear_replays rabbit first, Outcome.done_and_then, ear_replays _ second] at failed
      cases failed
    | none =>
      obtain ⟨given, refused⟩ := turns_refused second
      rcases turned_at_most_once first with ⟨rfl, null⟩ | ⟨place, taken, rfl⟩
      · exact .inl ⟨no_half_move (null_is_no_position null), rfl⟩
      · exact .inr ⟨place, .ears taken given refused, rfl⟩

-- A command that fails leaves the rabbit as it was, with one exception: a left ear that could be
-- moved stays queued, its acknowledgement with it, if the right one is then refused.
theorem failed_command_leaves (rabbit : Rabbit) (command : Command) (failure : Failure)
    (failed : (rabbit.queue command).result = .error failure) :
    ((∀ place, ¬ HalfMoves command place) ∧ (rabbit.queue command).state = rabbit) ∨
    ∃ place, HalfMoves command place ∧ (rabbit.queue command).state =
      (rabbit.set .leftEar (.whole place)).expect .leftEar := by
  cases command with
  | say text => cases failed
  | bark => cases failed
  | moveEars left right => exact failed_move_leaves rabbit left right failure failed
  | choreography program title =>
    have whole : ∀ place, ¬ HalfMoves (.choreography program title) place := by
      intro place half
      cases half
    apply Or.inl
    refine ⟨whole, ?_⟩
    rw [queue, choreography] at failed ⊢
    cases composed : Choreography.compile program with
    | error reason => rfl
    | ok result =>
      rw [composed] at failed
      cases failed

theorem failed_command_leaves_left_ear :
    let rabbit := (new ⟨"0013d3", "secret", none⟩ .default Batch.defaultAddress).run
      [.queue (.say (.text "bonjour"))]
    let command : Command := .moveEars (.whole 3) (.whole 17)
    (rabbit.queue command).result = .error (.earOutOfRange .right 17) ∧
    (((∀ place, ¬ HalfMoves command place) ∧ (rabbit.queue command).state = rabbit) ∨
      ∃ place, HalfMoves command place ∧ (rabbit.queue command).state =
        (rabbit.set .leftEar (.whole place)).expect .leftEar) := by
  intro rabbit command
  have failed : (rabbit.queue command).result = .error (.earOutOfRange .right 17) := by
    have short : Number.hasText 17 = true := by decide +kernel
    have shown : (Failure.earOutOfRange .right 17).showing (.whole 17) = .earOutOfRange .right 17 :=
      if_pos short
    exact congrArg Except.error shown
  exact ⟨failed, failed_command_leaves rabbit command _ failed⟩

-- So not every command is atomic: after this one has failed, the left ear waits to be moved.
theorem refused_right_ear_not_atomic :
    ¬ Atomic (new ⟨"0013d3", "secret", none⟩ .default Batch.defaultAddress)
      (.moveEars (.whole 3) (.whole 17)) := by
  intro atomic
  have kept := atomic _ rfl
  have waiting := congrArg (fun batch : Batch => (batch.values .leftEar).isNull) kept
  cases waiting

end RabbitRemote.Rabbit
