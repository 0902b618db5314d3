import RabbitRemote.Proofs.Reply.FirstTold

namespace RabbitRemote.Reply

theorem overlong_is_long {text : List Char} (long : Overlong text) :
    Number.figureLimit < text.length := by
  obtain ⟨_, phrase, _, minus, digits, _, _, count, stands⟩ := long
  have room := stands.length_le
  simp only [List.length_append] at room
  omega

-- Positions are read from every reply that holds no number that is too long.
theorem positions_of_legible {text : List Char} (legible : ¬ Overlong text) :
    ∃ ears, earPositions (normalise text) = .ok ears := by
  rw [ear_positions_normalised]
  apply ear_positions_readable
  intro count unreadable
  exact legible (overlong_of_unreadable unreadable)

-- A phrase, perhaps a minus sign, and a digit: enough for a position to be found.
def Tells (text : List Char) (side : Side) : Prop := ∃ phrase ∈ phrases side, ∃ minus digit,
  (minus = [] ∨ minus = ['-']) ∧ Text.isDigit digit = true ∧
    phrase.toList ++ (minus ++ [digit]) <:+: text

theorem told_of_tells {side : Side} {text : List Char} (tells : Tells text side) :
    ∃ place factor figures, Told side (text.drop place) factor figures := by
  obtain ⟨phrase, member, minus, digit, sign, read, before, after, parts⟩ := tells
  have signed : ∃ factor, MinusSign minus factor := by
    rcases sign with rfl | rfl
    · exact ⟨1, .absent⟩
    · exact ⟨-1, .present⟩
  obtain ⟨factor, signed⟩ := signed
  obtain ⟨figure, known⟩ := Option.isSome_iff_exists.mp read
  have begun : leadingFigures (digit :: after) ≠ [] := by simp [leadingFigures, known]
  have here : text.drop before.length = phrase.toList ++ (minus ++ digit :: after) := by
    rw [← parts]
    simp
  exact ⟨before.length, factor, _, phrase, member, _, here, numbered_of_figures signed begun⟩

theorem tells_of_told {side : Side} {text : List Char} {place : Nat} {factor : Int}
    {figures : List Nat} (told : Told side (text.drop place) factor figures) :
    Tells text side := by
  obtain ⟨phrase, member, behind, parts, numbered⟩ := told
  cases numbered with
  | @written sign digits rest _ _ signed figured some longest =>
    cases digits with
    | nil => exact absurd rfl some
    | cons digit more =>
      have stands : phrase.toList ++ (sign ++ [digit]) <:+: text.drop place := by
        rw [parts]
        exact ⟨[], more ++ rest, by simp⟩
      exact ⟨phrase, member, sign, digit, signed.either, figured.digits digit (by simp),
        stands.trans (List.drop_suffix place text).isInfix⟩

-- A position is found wherever one is told.
theorem tells_exact (text : List Char) (side : Side) :
    Tells text side ↔ ∃ value, Reads side text value := by
  constructor
  · intro tells
    obtain ⟨place, _, _, told⟩ := told_of_tells tells
    obtain ⟨factor, figures, first⟩ := first_of_told told
    exact ⟨_, factor, figures, first, rfl⟩
  · rintro ⟨_, factor, figures, ⟨place, told, _⟩, _⟩
    exact tells_of_told told

-- Both positions are known iff each of them is told.
theorem known_exact {text : List Char} (legible : ¬ Overlong text) :
    (∃ left right, earPositions (normalise text) = .ok (.known left right)) ↔
      ∀ side, Tells (normalise text) side := by
  obtain ⟨ears, read⟩ := positions_of_legible legible
  have readable := ((ear_positions_read_exact _ ears).mp read).1
  simp only [ear_positions_read_exact, AsTold, tells_exact]
  constructor
  · rintro ⟨left, right, _, leftRead, rightRead⟩ side
    cases side with
    | left => exact ⟨left, leftRead⟩
    | right => exact ⟨right, rightRead⟩
  · intro told
    obtain ⟨left, leftRead⟩ := told .left
    obtain ⟨right, rightRead⟩ := told .right
    exact ⟨left, right, readable, leftRead, rightRead⟩

end RabbitRemote.Reply
