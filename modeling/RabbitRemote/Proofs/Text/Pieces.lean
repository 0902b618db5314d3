import RabbitRemote.Text.Blank
import RabbitRemote.Text.Cut

namespace RabbitRemote.Text

theorem cut_is_split (separator : Char) (text : List Char) :
    cut separator text = text.splitOn separator := by
  induction text with
  | nil => rfl
  | cons c rest ih =>
    rw [cut, List.splitOn_cons_eq_if_modifyHead, ih]
    by_cases same : c = separator
    · simp [same]
    · cases pieces : rest.splitOn separator with
      | nil => exact absurd pieces (List.splitOn_ne_nil _ _)
      | cons piece more => simp [same]

-- Joined pieces come apart again as they were, unless a separator stood inside one of them.
theorem cut_of_joined (separator : Char) (pieces : List (List Char)) (nonempty : pieces ≠ [])
    (whole : ∀ piece ∈ pieces, separator ∉ piece) :
    cut separator ([separator].intercalate pieces) = pieces := by
  rw [cut_is_split]
  exact List.splitOn_intercalate separator whole nonempty

theorem separator_in_no_piece (separator : Char) (text : List Char) :
    ∀ piece ∈ cut separator text, separator ∉ piece := by
  induction text with
  | nil => simp [cut]
  | cons c rest ih =>
    intro piece member
    rw [cut] at member
    split at member
    · rcases List.mem_cons.mp member with rfl | later
      · exact List.not_mem_nil
      · exact ih piece later
    · rename_i differs
      cases pieces : cut separator rest with
      | nil => exact absurd pieces (cut_nonempty _ _)
      | cons first more =>
        rw [pieces] at ih member
        rcases List.mem_cons.mp member with rfl | later
        · have further := ih first List.mem_cons_self
          simp [Ne.symm differs, further]
        · exact ih piece (List.mem_cons_of_mem _ later)

-- The pieces that hold anything.
def filledPieces (separator : Char) (text : List Char) : List (List Char) :=
  (cut separator text).filter fun piece => !piece.isEmpty

theorem filled_at_separator (separator : Char) (before after : List Char) :
    filledPieces separator (before ++ separator :: after) =
      filledPieces separator before ++ filledPieces separator after := by
  have parted : cut separator (before ++ separator :: after) =
      cut separator before ++ cut separator after := by
    simp only [cut_is_split, List.splitOn_append_cons_self]
  rw [filledPieces, parted, List.filter_append]
  rfl

theorem filled_past_margin {separator : Char} {margin : List Char}
    (only : ∀ c ∈ margin, c = separator) (text : List Char) :
    filledPieces separator (margin ++ text) = filledPieces separator text := by
  induction margin with
  | nil => rfl
  | cons c margin ih =>
    rw [only c List.mem_cons_self]
    exact (filled_at_separator separator [] _).trans
      (ih fun d member => only d (List.mem_cons_of_mem _ member))

theorem filled_before_margin {separator : Char} {margin : List Char}
    (only : ∀ c ∈ margin, c = separator) (text : List Char) :
    filledPieces separator (text ++ margin) = filledPieces separator text := by
  cases margin with
  | nil => rw [List.append_nil]
  | cons c margin =>
    have nothing : filledPieces separator margin = [] := by
      have passed := filled_past_margin (fun d member => only d (List.mem_cons_of_mem _ member)) []
      rwa [List.append_nil] at passed
    rw [only c List.mem_cons_self, filled_at_separator, nothing, List.append_nil]

theorem first_piece_filled {separator c : Char} (differs : c ≠ separator) (rest : List Char) :
    ∀ piece ∈ (cut separator (c :: rest)).head?, piece ≠ [] := by
  rw [cut, if_neg differs]
  cases cut separator rest <;> simp

-- Behind the first piece, an empty one is left only by two separators in a row or one at the end.
theorem later_pieces_filled {separator : Char} {text : List Char}
    (single : ¬ [separator, separator] <:+: text)
    (last : ∀ c ∈ text.getLast?, c ≠ separator) :
    ∀ piece ∈ (cut separator text).tail, piece ≠ [] := by
  induction text with
  | nil => simp [cut]
  | cons c rest ih =>
    have behind := ih (fun twice => single (List.infix_cons twice)) fun d member => by
      cases rest with
      | nil => cases member
      | cons => exact last d (by simpa using member)
    rw [cut]
    by_cases same : c = separator
    · rw [if_pos same, List.tail_cons]
      cases rest with
      | nil => exact absurd same (last c rfl)
      | cons d more =>
        have differs : d ≠ separator := by
          rintro rfl
          exact single (same ▸ (List.prefix_append [c, c] more).isInfix)
        have first := first_piece_filled differs more
        cases pieces : cut separator (d :: more) with
        | nil => simp
        | cons front others =>
          rw [pieces] at first behind
          exact List.forall_mem_cons.mpr ⟨first front rfl, behind⟩
    · rw [if_neg same]
      cases pieces : cut separator rest with
      | nil => simp
      | cons front others =>
        rw [pieces] at behind
        exact behind

-- Nothing is lost with the empty pieces if no separator stands at an end or beside another.
theorem filled_pieces_join {separator : Char} {text : List Char}
    (single : ¬ [separator, separator] <:+: text)
    (first : ∀ c ∈ text.head?, c ≠ separator) (last : ∀ c ∈ text.getLast?, c ≠ separator) :
    [separator].intercalate (filledPieces separator text) = text := by
  cases text with
  | nil => rfl
  | cons c rest =>
    have filled : ∀ piece ∈ cut separator (c :: rest), piece ≠ [] := by
      have front := first_piece_filled (first c rfl) rest
      have others := later_pieces_filled single last
      cases pieces : cut separator (c :: rest) with
      | nil => simp
      | cons piece more =>
        rw [pieces] at front others
        exact List.forall_mem_cons.mpr ⟨front piece rfl, others⟩
    have all : filledPieces separator (c :: rest) = cut separator (c :: rest) := by
      rw [filledPieces, List.filter_eq_self]
      intro piece member
      simpa using filled piece member
    rw [all, cut_joins]

theorem mem_of_joined {separator c : Char} {pieces : List (List Char)}
    (member : c ∈ [separator].intercalate pieces) :
    c = separator ∨ ∃ piece ∈ pieces, c ∈ piece := by
  induction pieces with
  | nil => cases member
  | cons piece more ih =>
    cases more with
    | nil =>
      rw [List.intercalate_singleton] at member
      exact .inr ⟨piece, by simp, member⟩
    | cons next rest =>
      rw [List.intercalate_cons_cons] at member
      rcases List.mem_append.mp member with front | later
      · rcases List.mem_append.mp front with here | between
        · exact .inr ⟨piece, by simp, here⟩
        · exact .inl (List.mem_singleton.mp between)
      · rcases ih later with same | ⟨other, inside, there⟩
        · exact .inl same
        · exact .inr ⟨other, List.mem_cons_of_mem _ inside, there⟩

theorem joined_append {separator : Char} {left right : List (List Char)} (filled : left ≠ [])
    (filledToo : right ≠ []) : [separator].intercalate (left ++ right) =
      [separator].intercalate left ++ separator :: [separator].intercalate right := by
  induction left with
  | nil => exact absurd rfl filled
  | cons piece left ih =>
    cases left with
    | nil =>
      rw [List.singleton_append, List.intercalate_cons_of_ne_nil filledToo,
        List.intercalate_singleton, List.append_assoc, List.singleton_append]
    | cons next more =>
      have further := ih (by simp)
      rw [List.cons_append] at further
      rw [List.cons_append, List.cons_append, List.intercalate_cons_cons, further,
        List.intercalate_cons_cons]
      simp only [List.append_assoc]

theorem joined_ends_with_piece (separator : Char) {pieces : List (List Char)}
    (filled : pieces ≠ []) : ∃ front, ∃ piece ∈ pieces,
      [separator].intercalate pieces = front ++ piece := by
  induction pieces with
  | nil => exact absurd rfl filled
  | cons piece more ih =>
    cases more with
    | nil => exact ⟨[], piece, by simp, List.intercalate_singleton⟩
    | cons next rest =>
      obtain ⟨front, last, inside, joined⟩ := ih (by simp)
      refine ⟨piece ++ [separator] ++ front, last, List.mem_cons_of_mem _ inside, ?_⟩
      rw [List.intercalate_cons_cons, joined]
      simp only [List.append_assoc]

theorem ascii_not_blank {c : Char} (low : 0x20 < c.toNat) (high : c.toNat < 0x7F) :
    isBlank c = false := by
  simp [isBlank]
  omega

end RabbitRemote.Text
