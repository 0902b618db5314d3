import RabbitRemote.Proofs.Choreography.Refusals
import RabbitRemote.Proofs.Choreography.Timing

namespace RabbitRemote.Choreography

-- A program with a hole: among other instructions, inside of blocks, and where failures are caught.
inductive Context where
  | hole
  | among (before : Program) (inner : Context) (after : Program)
  | group (inner : Context)
  | repeatFor (duration : Value) (inner : Context)
  | attempt (inner : Context)

namespace Context

def fill : Context → Program → Program
  | .hole, program => program
  | .among before inner after, program => before ++ (inner.fill program ++ after)
  | .group inner, program => [.group (inner.fill program)]
  | .repeatFor duration inner, program => [.repeatFor duration (inner.fill program)]
  | .attempt inner, program => [.attempt (inner.fill program)]

-- Whether the hole lies in a block, if it is known whether the whole program does.
def inBlock : Context → Bool → Bool
  | .hole, outside => outside
  | .among _ inner _, outside => inner.inBlock outside
  | .group inner, _ => inner.inBlock true
  | .repeatFor _ inner, _ => inner.inBlock true
  | .attempt inner, outside => inner.inBlock outside

end Context

def Played.andThen : Played → (Score → Played) → Played
  | (none, after), next => next after
  | (some failure, after), _ => (some failure, after)

theorem play_all_append (first second : Program) (score : Score) :
    playAll (first ++ second) score = (playAll first score).andThen (playAll second) := by
  induction first generalizing score with
  | nil => simp [playAll, Played.andThen]
  | cons instruction rest ih =>
    rw [List.cons_append, playAll, playAll]
    cases play instruction score with
    | mk failure? after =>
      cases failure? with
      | some failure => rfl
      | none => exact ih after

theorem play_all_single (instruction : Instruction) (score : Score) :
    playAll [instruction] score = play instruction score := by
  rw [playAll]
  cases play instruction score with
  | mk failure? after => cases failure? <;> simp [playAll]

theorem playing_keeps_block (program : Program) (score : Score) :
    (playAll program score).2.inBlock = score.inBlock :=
  (play_all_follows program score).inBlock

-- Programs that agree on every score that the hole can be met with agree in the whole context. What
-- is played before the hole enters and leaves blocks in pairs.
theorem context_congruence {left right : Program} (context : Context) (score : Score)
    (same : ∀ met : Score, met.inBlock = context.inBlock score.inBlock →
      playAll left met = playAll right met) :
    playAll (context.fill left) score = playAll (context.fill right) score := by
  induction context generalizing score with
  | hole => exact same score rfl
  | among before inner after ih =>
    have kept := playing_keeps_block before score
    simp only [Context.fill, play_all_append]
    cases played : playAll before score with
    | mk failure? reached =>
      rw [played] at kept
      cases failure? with
      | some failure => rfl
      | none =>
        have within := ih reached fun met standing => same met (by rw [standing, kept]; rfl)
        simp only [Played.andThen, play_all_append, within]
  | group inner ih =>
    have within := ih { score with inBlock := true } same
    simp only [Context.fill, play_all_single, play, within]
  | repeatFor duration inner ih =>
    have within := ih { score with inBlock := true } same
    simp only [Context.fill, play_all_single, play, within]
  | attempt inner ih =>
    have within := ih score same
    simp only [Context.fill, play_all_single, play, within]

theorem close_standing_block {before : Score} {played : Played} (standing : before.inBlock = true)
    (kept : played.2.inBlock = before.inBlock) (ticks : Nat) :
    closeBlock before ticks played = played := by
  obtain ⟨failure?, after⟩ := played
  have left : { after with inBlock := before.inBlock } = after := by rw [← kept]
  have stands : after.advance ticks = after := if_pos (kept.trans standing)
  cases failure? with
  | some failure => simp only [closeBlock, left]
  | none => simp only [closeBlock, left, stands]

-- Inside of a block, another one is no more than its body.
theorem block_in_block {score : Score} (standing : score.inBlock = true) {n : Int} (counts : 0 ≤ n)
    (body : Program) : playAll [.repeatFor (.whole n) body] score = playAll body score := by
  have entered : { score with inBlock := true } = score := by rw [← standing]
  rw [play_all_single, play, durationOf, if_pos counts]
  dsimp only
  rw [entered]
  exact close_standing_block standing (playing_keeps_block body score) n.toNat

-- How ears are to be turned, whichever they are.
def turning (angle : Value) (direction? : Option Value) : Except Failure (Direction × Int) := do
  let direction ← named .direction Names.directions (direction?.getD (.text "forward"))
  let degrees ← angleOf angle
  return (direction, degrees)

theorem motor_actions_of_known (name : String) {ears : List Ear}
    (known : Ledger.get? Names.ears name = some ears) (angle : Value) (direction? : Option Value) :
    motorActions (.text name) angle direction? =
      (turning angle direction?).map fun (direction, degrees) =>
        ears.map fun ear => .motor ear degrees direction := by
  have found : named .ear Names.ears (.text name) = .ok ears := by
    simp [named, Names.find?, known]
  rw [motorActions, turning, found]
  cases named .direction Names.directions (direction?.getD (.text "forward")) with
  | error failure => rfl
  | ok direction => cases angleOf angle <;> rfl

theorem both_ears_in_group (angle : Value) (direction? : Option Value) (score : Score) :
    playAll [.moveEar (.text "both") angle direction?] score =
      playAll [.group [.moveEar (.text "right") angle direction?,
        .moveEar (.text "left") angle direction?]] score := by
  have both := motor_actions_of_known "both" rfl angle direction?
  have right := motor_actions_of_known "right" rfl angle direction?
  have left := motor_actions_of_known "left" rfl angle direction?
  simp only [play, playAll, both, right, left]
  cases turning angle direction? with
  | error failure => simp [Except.map, settle, closeBlock]
  | ok turned =>
    cases standing : score.inBlock <;>
      simp [Except.map, settle, closeBlock, Score.write, Score.advance, standing]

theorem led_of_colours {given other : List Value} (same : colourOf given = colourOf other)
    (led : Value) (score : Score) :
    playAll [.setLed led given] score = playAll [.setLed led other] score := by
  simp only [play_all_single, play, ledActions, same]

-- Arguments of which a list or a tuple is the only one. It is opened, but no more than once.
def Nested (given : List Value) : Prop := ∃ inner, given = [.list inner] ∨ given = [.tuple inner]

theorem shares_of_plain {given : List Value} (plain : ¬ Nested given) : shares given = given := by
  unfold shares
  split
  · exact absurd ⟨_, .inl rfl⟩ plain
  · exact absurd ⟨_, .inr rfl⟩ plain
  · rfl

theorem colour_of_list {items : List Value} (plain : ¬ Nested items) :
    colourOf [.list items] = colourOf items := by
  have opened : shares [.list items] = shares items := (shares_of_plain plain).symm
  rw [colourOf, opened, ← colourOf]

theorem colour_of_tuple (items : List Value) :
    colourOf [.tuple items] = colourOf [.list items] := rfl

theorem colour_of_known {name : String} {rgb : Rgb}
    (known : Ledger.get? Names.colours name = some rgb) (extras : List Value) :
    colourOf (.text name :: extras) =
      colourOf [.whole rgb.red, .whole rgb.green, .whole rgb.blue] := by
  have found : named .colour Names.colours (.text name) = .ok rgb := by
    simp [named, Names.find?, known]
  have shares : colourOf [.whole rgb.red, .whole rgb.green, .whole rgb.blue] = .ok rgb := rfl
  rw [shares]
  -- With two extras there are three arguments, of which the first is no number.
  rcases extras with _ | ⟨second, _ | ⟨third, _ | ⟨fourth, others⟩⟩⟩ <;> exact found

-- Laws that hold wherever their two sides may stand, with the same failure and the same score in the
-- end: in a block another one is no more than its body; both ears are the right and the left one in a
-- group; a colour may stand in a list, in a tuple or by itself; and a known name is its three shares.
theorem laws_in_every_context (context : Context) (score : Score) :
    (∀ (n : Int) (body : Program), 0 ≤ n → context.inBlock score.inBlock = true →
      playAll (context.fill [.repeatFor (.whole n) body]) score =
        playAll (context.fill body) score) ∧
    (∀ angle direction?,
      playAll (context.fill [.moveEar (.text "both") angle direction?]) score =
        playAll (context.fill [.group [.moveEar (.text "right") angle direction?,
          .moveEar (.text "left") angle direction?]]) score) ∧
    (∀ led items, ¬ Nested items →
      playAll (context.fill [.setLed led [.list items]]) score =
        playAll (context.fill [.setLed led items]) score) ∧
    (∀ led items,
      playAll (context.fill [.setLed led [.tuple items]]) score =
        playAll (context.fill [.setLed led [.list items]]) score) ∧
    (∀ led name rgb extras, Ledger.get? Names.colours name = some rgb →
      playAll (context.fill [.setLed led (.text name :: extras)]) score =
        playAll (context.fill
          [.setLed led [.whole rgb.red, .whole rgb.green, .whole rgb.blue]]) score) := by
  refine ⟨?block, ?ears, ?list, ?tuple, ?name⟩
  case block =>
    intro n body counts inside
    apply context_congruence
    intro met standing
    exact block_in_block (standing.trans inside) counts body
  case ears =>
    intro angle direction?
    apply context_congruence
    intro met _
    exact both_ears_in_group angle direction? met
  case list =>
    intro led items plain
    apply context_congruence
    intro met _
    exact led_of_colours (colour_of_list plain) led met
  case tuple =>
    intro led items
    apply context_congruence
    intro met _
    exact led_of_colours (colour_of_tuple items) led met
  case name =>
    intro led name rgb extras known
    apply context_congruence
    intro met _
    exact led_of_colours (colour_of_known known extras) led met

-- In a block whose last instruction fails, and where that is caught.
theorem laws_where_failures_are_caught :
    let context : Context := .attempt (.among [.setTempo (.whole 25)]
      (.group (.among [.setLed (.text "top") [.text "red"]] .hole [.moveEar (.text "nose") .null none]))
      [.emit])
    let body : Program := [.moveEar (.text "left") (.whole 90) none, .setLed (.text "top") []]
    0 ≤ (3 : Int) ∧ context.inBlock Score.empty.inBlock = true ∧
    playAll (context.fill [.repeatFor (.whole 3) body]) .empty =
      playAll (context.fill body) .empty ∧
    ¬ Nested [.whole 1, .whole 2, .whole 3] ∧
    playAll (context.fill [.setLed (.text "top") [.list [.whole 1, .whole 2, .whole 3]]]) .empty =
      playAll (context.fill [.setLed (.text "top") [.whole 1, .whole 2, .whole 3]]) .empty ∧
    Ledger.get? Names.colours "dim_purple" = some ⟨127, 0, 127⟩ ∧
    playAll (context.fill [.setLed (.text "top") [.text "dim_purple", .null, .whole 4]]) .empty =
      playAll (context.fill
        [.setLed (.text "top") [.whole 127, .whole 0, .whole 127]]) .empty := by
  intro context body
  have laws := laws_in_every_context context .empty
  have plain : ¬ Nested [.whole 1, .whole 2, .whole 3] := by simp [Nested]
  have known : Ledger.get? Names.colours "dim_purple" = some ⟨127, 0, 127⟩ := by decide
  exact ⟨by decide, rfl, laws.1 3 body (by decide) rfl, plain, laws.2.2.1 _ _ plain, known,
    laws.2.2.2.2 _ _ _ _ known⟩

-- The law of lists, for one list in all contexts, and the law of blocks, for one duration.
def OpensList (items : List Value) : Prop :=
  ∀ (context : Context) score led, playAll (context.fill [.setLed led [.list items]]) score =
    playAll (context.fill [.setLed led items]) score

def IsDuration (duration : Value) : Prop :=
  ∀ (context : Context) score body, context.inBlock score.inBlock = true →
    playAll (context.fill [.repeatFor duration body]) score = playAll (context.fill body) score

-- A tuple is opened if it stands alone, so that it does make a difference whether it stands in a list.
-- A truth value is no duration, not even where truth is counted as one.
theorem nested_tuple_and_truth_break_laws :
    ¬ OpensList [.tuple [.whole 0, .whole 0, .whole 255]] ∧ ¬ IsDuration (.truth true) := by
  constructor
  · intro opens
    have same := opens .hole .empty (.text "top")
    have recorded := congrArg (fun played : Played => played.2.actions.length) same
    cases recorded
  · intro counts
    have same := counts (.group .hole) .empty [.moveEar (.text "left") (.whole 90) none] rfl
    have recorded := congrArg (fun played : Played => played.2.actions.length) same
    cases recorded

end RabbitRemote.Choreography
