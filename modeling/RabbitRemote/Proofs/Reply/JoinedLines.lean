import Mathlib.Data.List.DropRight
import RabbitRemote.Proofs.Reply.WideGaps
import RabbitRemote.Proofs.Text.Pieces
import RabbitRemote.Proofs.Text.Trimming

namespace RabbitRemote.Reply

def isFeed (c : Char) : Bool := c == '\n'

-- A text without the line feeds at its two ends.
def withoutEndFeeds (text : List Char) : List Char := (text.dropWhile isFeed).rdropWhile isFeed

theorem end_feeds_exact (text : List Char) : ∃ before after,
    text = before ++ withoutEndFeeds text ++ after ∧
      (∀ c ∈ before, c = '\n') ∧ (∀ c ∈ after, c = '\n') ∧
      (∀ c ∈ (withoutEndFeeds text).head?, c ≠ '\n') ∧
      ∀ c ∈ (withoutEndFeeds text).getLast?, c ≠ '\n' := by
  have feed : ∀ c, isFeed c = true ↔ c = '\n' := fun _ => beq_iff_eq
  have other : ∀ c, isFeed c = false ↔ c ≠ '\n' := fun _ => beq_eq_false_iff_ne
  obtain ⟨before, after, whole, front, back, first, last⟩ := Text.margins_taken_off isFeed text
  simp only [feed, other] at front back first last
  exact ⟨before, after, whole, front, back, first, last⟩

theorem lines_filled (text : List Char) : lines text = Text.filledPieces '\n' (normalise text) := rfl

-- A line feed is blank, so tightness keeps two of them apart.
theorem feeds_single {text : List Char} (tight : Tight text) : ¬ ['\n', '\n'] <:+: text := by
  intro twice
  have pair : Tight ['\n', '\n'] := List.IsChain.infix tight twice
  revert pair
  simp [Tight, Text.isBlank]

theorem filled_without_end_feeds (text : List Char) :
    Text.filledPieces '\n' (withoutEndFeeds text) = Text.filledPieces '\n' text := by
  obtain ⟨before, after, whole, front, back, _⟩ := end_feeds_exact text
  conv => rhs; rw [whole]
  rw [Text.filled_before_margin back, Text.filled_past_margin front]

theorem tight_without_end_feeds {text : List Char} (tight : Tight text) :
    Tight (withoutEndFeeds text) := by
  obtain ⟨before, after, whole, _⟩ := end_feeds_exact text
  exact List.IsChain.infix tight ⟨before, after, whole.symm⟩

theorem lines_join (text : List Char) :
    ['\n'].intercalate (lines text) = withoutEndFeeds (normalise text) := by
  obtain ⟨_, _, _, _, _, first, last⟩ := end_feeds_exact (normalise text)
  rw [lines_filled, ← filled_without_end_feeds]
  exact Text.filled_pieces_join
    (feeds_single (tight_without_end_feeds (normalise_tight text))) first last

theorem lines_of_normalised (text : List Char) : lines (normalise text) = lines text := by
  rw [lines_filled, normalise_twice, lines_filled]

theorem lines_of_joined (text : List Char) :
    lines (['\n'].intercalate (lines text)) = lines text := by
  have tight : Tight (withoutEndFeeds (normalise text)) :=
    tight_without_end_feeds (normalise_tight text)
  rw [lines_join, lines_filled, normalise_of_tight tight, filled_without_end_feeds, lines_filled]

theorem line_exact {text line : List Char} (member : line ∈ lines text) :
    line ≠ [] ∧ '\n' ∉ line := by
  obtain ⟨piece, filled⟩ := List.mem_filter.mp member
  exact ⟨by simpa using filled, Text.separator_in_no_piece _ _ line piece⟩

-- Of a normalised text the lines leave out no more than a line feed in front and one behind, and
-- they can be joined, or normalised again, without being changed by it.
theorem lines_make_up_text (text : List Char) :
    (∀ line ∈ lines text, line ≠ [] ∧ '\n' ∉ line) ∧
    ¬ ['\n', '\n'] <:+: normalise text ∧
    ['\n'].intercalate (lines text) = withoutEndFeeds (normalise text) ∧
    lines (normalise text) = lines text ∧
    lines (['\n'].intercalate (lines text)) = lines text :=
  ⟨fun _ member => line_exact member, feeds_single (normalise_tight text), lines_join text,
    lines_of_normalised text, lines_of_joined text⟩

-- A single line feed parts two lines as a wide gap does; other single blanks stay within a line.
example : lines "\n\nLeft ear\nmoved \t Speech\x0bsent  ".toList =
    ["Left ear".toList, "moved".toList, "Speech\x0bsent".toList] := by decide

end RabbitRemote.Reply
