import RabbitRemote.Choreography.Score
import RabbitRemote.Proofs.Fallible

namespace RabbitRemote.Choreography

-- A number that is not finite, and what comes of taking its integer part.
inductive Boundless : Value → Failure → Prop where
  | nan : Boundless (.real .nan) .nanToInteger
  | infinity (negative : Bool) : Boundless (.real (.infinite negative)) .infinityToInteger

-- What may come of bad arguments. They are refused in words; but the words show an argument, which
-- may be too long for that, and numbers are taken to integers unasked.
inductive Judged (shown numbers : List Value) (failure : Failure) : Prop where
  | refused (kind : failure.kind = .refusal)
  | unshown {given : Value} (among : given ∈ shown) (long : given.writable = false)
      (same : failure = .integerTooLong)
  | boundless {number : Value} (among : number ∈ numbers) (lost : Boundless number failure)

theorem Judged.mono {shown numbers moreShown moreNumbers : List Value} {failure : Failure}
    (judged : Judged shown numbers failure) (all : ∀ given ∈ shown, given ∈ moreShown)
    (every : ∀ number ∈ numbers, number ∈ moreNumbers) : Judged moreShown moreNumbers failure := by
  cases judged with
  | refused kind => exact .refused kind
  | unshown among long same => exact .unshown (all _ among) long same
  | boundless among lost => exact .boundless (every _ among) lost

theorem showing_judged {refusal : Failure} (kind : refusal.kind = .refusal) (given : Value) :
    Judged [given] [] (refusal.showing given) := by
  unfold Failure.showing
  cases writable : given.writable with
  | true => exact .refused kind
  | false => exact .unshown (by simp) writable rfl

theorem named_judged {α : Type} {table : Names.Table} {names : Ledger String α} {given : Value}
    {failure : Failure} (failed : named table names given = .error failure) :
    Judged [given] [] failure := by
  unfold named at failed
  split at failed
  · cases failed
  · cases failed
    exact showing_judged rfl given

-- Tempo and duration are read alike: a whole number that is not too low.
def wholeFrom (lowest : Int) (refusal : Value → Failure) : Value → Except Failure Nat
  | .whole i => if lowest ≤ i then .ok i.toNat else .error ((refusal (.whole i)).showing (.whole i))
  | given => .error ((refusal given).showing given)

theorem tempo_from_one (given : Value) : tempoOf given = wholeFrom 1 .badTempo given := by
  cases given <;> rfl

theorem duration_from_nought (given : Value) :
    durationOf given = wholeFrom 0 .badDuration given := by
  cases given <;> rfl

theorem whole_judged {lowest : Int} {refusal : Value → Failure}
    (kind : ∀ given, (refusal given).kind = .refusal) {given : Value} {failure : Failure}
    (failed : wholeFrom lowest refusal given = .error failure) : Judged [given] [] failure := by
  unfold wholeFrom at failed
  split at failed
  · split at failed
    · cases failed
    · rw [← Except.error.inj failed]
      exact showing_judged (kind _) _
  · rw [← Except.error.inj failed]
    exact showing_judged (kind _) given

theorem integer_part_lost {given : Value} {failure : Failure}
    (failed : integerPart given = .error failure) : Boundless given failure := by
  unfold integerPart at failed
  split at failed
  · cases failed
  · cases failed
    exact .nan
  · cases failed
    exact .infinity _
  · cases failed
  · cases failed

theorem angle_judged {given : Value} {failure : Failure} (failed : angleOf given = .error failure) :
    Judged [given] [given] failure := by
  unfold angleOf at failed
  split at failed
  · exact .boundless (by simp) (integer_part_lost failed)
  · cases failed
    exact (showing_judged rfl given).mono (by simp) (by simp)

theorem colour_judged {given : List Value} {failure : Failure}
    (failed : colourOf given = .error failure) : Judged (shares given) (shares given) failure := by
  unfold colourOf at failed
  generalize shares given = colour at failed
  split at failed
  · cases failed
    exact .refused rfl
  · split at failed
    · split at failed
      · simp only [bind_failed, pure, Except.pure, reduceCtorEq, and_false, exists_false, or_false]
          at failed
        rcases failed with red | ⟨_, _, green | ⟨_, _, blue⟩⟩
        · exact .boundless (by simp) (integer_part_lost red)
        · exact .boundless (by simp) (integer_part_lost green)
        · exact .boundless (by simp) (integer_part_lost blue)
      · exact (named_judged failed).mono (by simp) (by simp)
    · exact (named_judged failed).mono (by simp) (by simp)

-- The direction that is meant if none is given has a name.
theorem direction_judged {direction? : Option Value} {failure : Failure}
    (failed : named .direction Names.directions (direction?.getD (.text "forward")) =
      .error failure) : Judged direction?.toList [] failure := by
  cases direction? with
  | none => cases failed
  | some direction => exact named_judged failed

theorem motor_judged {ear angle : Value} {direction? : Option Value} {failure : Failure}
    (failed : motorActions ear angle direction? = .error failure) :
    Judged (ear :: angle :: direction?.toList) [angle] failure := by
  simp only [motorActions, bind_failed, pure, Except.pure, reduceCtorEq, and_false, exists_false,
    or_false] at failed
  rcases failed with noEar | ⟨_, _, noDirection | ⟨_, _, noAngle⟩⟩
  · exact (named_judged noEar).mono (by simp) (by simp)
  · refine (direction_judged noDirection).mono ?_ (by simp)
    intro given among
    exact List.mem_cons_of_mem _ (List.mem_cons_of_mem _ among)
  · exact (angle_judged noAngle).mono (by simp) (by simp)

theorem led_judged {led : Value} {colour : List Value} {failure : Failure}
    (failed : ledActions led colour = .error failure) :
    Judged (led :: shares colour) (shares colour) failure := by
  simp only [ledActions, bind_failed, pure, Except.pure, reduceCtorEq, and_false, exists_false,
    or_false] at failed
  rcases failed with noLed | ⟨_, _, noColour⟩
  · exact (named_judged noLed).mono (by simp) (by simp)
  · exact (colour_judged noColour).mono (fun given among => List.mem_cons_of_mem _ among) (by simp)

theorem settle_fails {α : Type} {score : Score} {result : Except Failure α} {next : α → Score}
    {failure : Failure} :
    (settle score (result.map next)).1 = some failure ↔ result = .error failure := by
  cases result <;> simp [settle, Except.map]

theorem close_block_fails (before : Score) (ticks : Nat) (played : Played) :
    (closeBlock before ticks played).1 = played.1 := by
  obtain ⟨failure?, after⟩ := played
  cases failure? <;> rfl

-- Bad arguments are refused in words, with two exceptions: an argument that is too long to be shown,
-- and a number that is not finite where an angle or the shares of a colour stand. A block can also
-- fail by what is played in it.
theorem bad_arguments_judged (score : Score) (failure : Failure) :
    (∀ tempo, (play (.setTempo tempo) score).1 = some failure → Judged [tempo] [] failure) ∧
    (∀ ear angle direction?, (play (.moveEar ear angle direction?) score).1 = some failure →
      Judged (ear :: angle :: direction?.toList) [angle] failure) ∧
    (∀ led colour, (play (.setLed led colour) score).1 = some failure →
      Judged (led :: shares colour) (shares colour) failure) ∧
    (∀ duration body, (play (.repeatFor duration body) score).1 = some failure →
      Judged [duration] [] failure ∨
        (playAll body { score with inBlock := true }).1 = some failure) := by
  refine ⟨?tempo, ?ear, ?led, ?block⟩
  case tempo =>
    intro tempo failed
    rw [play, settle_fails, tempo_from_one] at failed
    exact whole_judged (fun _ => rfl) failed
  case ear =>
    intro ear angle direction? failed
    rw [play, settle_fails] at failed
    exact motor_judged failed
  case led =>
    intro led colour failed
    rw [play, settle_fails] at failed
    exact led_judged failed
  case block =>
    intro duration body failed
    rw [play] at failed
    cases accepted : durationOf duration with
    | error reason =>
      rw [accepted] at failed
      cases failed
      rw [duration_from_nought] at accepted
      exact .inl (whole_judged (fun _ => rfl) accepted)
    | ok ticks =>
      rw [accepted] at failed
      exact .inr ((close_block_fails _ _ _).symm.trans failed)

theorem bad_arguments_judged_in_block :
    let score : Score := ⟨some 25, 7, true, []⟩
    let notANumber : Value := .real .nan
    let endless : Value := .real (.infinite true)
    (play (.setTempo (.truth true)) score).1 = some (.badTempo (.truth true)) ∧
    Judged [.truth true] [] (.badTempo (.truth true)) ∧
    (play (.moveEar (.text "both") notANumber none) score).1 = some .nanToInteger ∧
    Judged [.text "both", notANumber] [notANumber] .nanToInteger ∧
    (play (.setLed (.text "top") [.list [.whole 1, endless, .whole 3]]) score).1 =
      some .infinityToInteger ∧
    Judged [.text "top", .whole 1, endless, .whole 3] [.whole 1, endless, .whole 3]
      .infinityToInteger ∧
    (play (.repeatFor (.whole 2) [.setLed (.text "top") []]) score).1 = some .noColour ∧
    (Judged [.whole 2] [] .noColour ∨
      (playAll [.setLed (.text "top") []] { score with inBlock := true }).1 = some .noColour) := by
  intro score notANumber endless
  have tempo : (play (.setTempo (.truth true)) score).1 = some (.badTempo (.truth true)) := rfl
  have ear : (play (.moveEar (.text "both") notANumber none) score).1 = some .nanToInteger := rfl
  have led : (play (.setLed (.text "top") [.list [.whole 1, endless, .whole 3]]) score).1 =
      some .infinityToInteger := rfl
  have block : (play (.repeatFor (.whole 2) [.setLed (.text "top") []]) score).1 =
      some .noColour := rfl
  exact ⟨tempo, (bad_arguments_judged score _).1 _ tempo,
    ear, (bad_arguments_judged score _).2.1 _ _ _ ear,
    led, (bad_arguments_judged score _).2.2.1 _ _ led,
    block, (bad_arguments_judged score _).2.2.2 _ _ block⟩

def OnlyRefuses (instruction : Instruction) : Prop :=
  ∀ score failure, (play instruction score).1 = some failure → failure.kind = .refusal

-- So not every bad argument is refused in words: neither a number that is not finite, nor a whole
-- number of more figures than can be shown.
theorem numbers_not_refused :
    ¬ OnlyRefuses (.moveEar (.text "left") (.real .nan) none) ∧
    ¬ OnlyRefuses (.setLed (.text "top") [.real (.infinite false), .whole 0, .whole 0]) ∧
    ¬ OnlyRefuses (.setTempo (.whole (-Number.textBound))) ∧
    ¬ OnlyRefuses (.repeatFor (.whole (-Number.textBound)) []) := by
  have endless : (Value.whole (-Number.textBound)).writable = false := by
    have reached : ∀ bound : Nat, decide ((-bound : Int).natAbs < bound) = false := by simp
    exact reached Number.textBound
  have positive : ∀ limit, 0 < Nat.pow 10 limit := fun _ => Nat.pow_pos (by decide)
  have bound : 0 < Number.textBound := by
    delta Number.textBound
    exact positive _
  have low : ¬ (1 ≤ (-Number.textBound : Int)) ∧ ¬ (0 ≤ (-Number.textBound : Int)) := by
    omega
  refine ⟨?ear, ?led, ?tempo, ?block⟩
  case ear =>
    intro refuses
    cases refuses .empty .nanToInteger rfl
  case led =>
    intro refuses
    cases refuses .empty .infinityToInteger rfl
  case tempo =>
    intro refuses
    have failed : (play (.setTempo (.whole (-Number.textBound))) .empty).1 =
        some .integerTooLong := by
      rw [play, settle_fails, tempoOf, if_neg low.1, Failure.showing, endless]
      rfl
    cases refuses _ _ failed
  case block =>
    intro refuses
    have failed : (play (.repeatFor (.whole (-Number.textBound)) []) .empty).1 =
        some .integerTooLong := by
      rw [play, durationOf, if_neg low.2, Failure.showing, endless]
      rfl
    cases refuses _ _ failed

end RabbitRemote.Choreography
