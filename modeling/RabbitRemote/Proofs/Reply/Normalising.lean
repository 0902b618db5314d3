import RabbitRemote.Reply.Lines

namespace RabbitRemote.Reply

theorem normalise_visible {c : Char} (visible : Text.isBlank c = false) (rest : List Char) :
    normalise (c :: rest) = c :: normalise rest := by
  simp [normalise, closeGaps, visible, Gap.text]

theorem wide_gap_feeds (rest : List Char) : ∃ more, closeGaps .wide rest = '\n' :: more := by
  induction rest with
  | nil => exact ⟨[], rfl⟩
  | cons c rest ih =>
    rw [closeGaps]
    split
    · exact ih
    · exact ⟨_, rfl⟩

theorem normalise_wide {blank other : Char} (here : Text.isBlank blank = true)
    (next : Text.isBlank other = true) (rest : List Char) :
    ∃ more, normalise (blank :: other :: rest) = '\n' :: more := by
  simp only [normalise, closeGaps, here, next, if_true, Gap.extend]
  exact wide_gap_feeds rest

theorem normalise_lone {blank : Char} (here : Text.isBlank blank = true) {rest : List Char}
    (last : ∀ c ∈ rest.head?, Text.isBlank c = false) :
    normalise (blank :: rest) = blank :: normalise rest := by
  cases rest with
  | nil => simp [normalise, closeGaps, here, Gap.extend, Gap.text]
  | cons c rest =>
    have visible := last c rfl
    simp [normalise, closeGaps, here, visible, Gap.extend, Gap.text]

-- Where a blank began a text, a blank begins it still.
theorem normalise_blank {blank : Char} (here : Text.isBlank blank = true) (rest : List Char) :
    ∃ first more, normalise (blank :: rest) = first :: more ∧ Text.isBlank first = true := by
  cases rest with
  | nil => exact ⟨blank, _, normalise_lone here (by simp), here⟩
  | cons c rest =>
    cases next : Text.isBlank c with
    | true =>
      obtain ⟨more, wide⟩ := normalise_wide here next rest
      exact ⟨'\n', more, wide, by decide⟩
    | false => exact ⟨blank, _, normalise_lone here (by simpa using next), here⟩

theorem gap_stays_blank {gap : Gap} {blank : Char} (blanks : ∀ c ∈ gap.text, Text.isBlank c = true)
    (here : Text.isBlank blank = true) : ∀ c ∈ (gap.extend blank).text, Text.isBlank c = true := by
  intro c member
  cases gap with
  | none => rwa [List.mem_singleton.mp member]
  | single other => rw [List.mem_singleton.mp member]; decide
  | wide => rw [List.mem_singleton.mp member]; decide

end RabbitRemote.Reply
