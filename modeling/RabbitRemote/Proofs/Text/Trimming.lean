import RabbitRemote.Text.Blank

namespace RabbitRemote.Text

theorem drop_margin (before core : List Char) (margin : ∀ c ∈ before, isBlank c = true)
    (first : ∀ c ∈ core.head?, isBlank c = false) : (before ++ core).dropWhile isBlank = core := by
  rw [List.dropWhile_append_of_pos margin]
  cases core with
  | nil => rfl
  | cons c rest => simp [first c (by simp)]

-- Only margins are taken off: what is left begins and ends with something else, unless it is empty.
theorem trim_of_parts (before core after : List Char) (front : ∀ c ∈ before, isBlank c = true)
    (back : ∀ c ∈ after, isBlank c = true) (first : ∀ c ∈ core.head?, isBlank c = false)
    (last : ∀ c ∈ core.getLast?, isBlank c = false) : trim (before ++ core ++ after) = core := by
  rw [trim, trimStart]
  cases core with
  | nil =>
    have margin : ∀ c ∈ before ++ after, isBlank c = true := by
      intro c member
      rcases List.mem_append.mp member with inFront | behind
      · exact front c inFront
      · exact back c behind
    have nothing := drop_margin (before ++ after) [] margin (by simp)
    rw [List.append_nil] at nothing ⊢
    rw [nothing]
    rfl
  | cons c rest =>
    rw [List.append_assoc, drop_margin before _ front (by simpa using first), trimEnd,
      List.reverse_append, drop_margin after.reverse]
    · rw [List.reverse_reverse]
    · simpa using back
    · intro d member
      rw [List.head?_reverse] at member
      exact last d member

theorem trim_of_unblank (text : List Char) (unblank : ∀ c ∈ text, isBlank c = false) :
    trim text = text := by
  have trimmed := trim_of_parts [] text [] (by simp) (by simp)
    (fun c member => unblank c (List.mem_of_mem_head? member))
    (fun c member => unblank c (List.mem_of_mem_getLast? member))
  simpa using trimmed

-- What is taken off at the back, and where that ends.
theorem back_taken_off (p : Char → Bool) (text : List Char) : ∃ after,
    text = (text.reverse.dropWhile p).reverse ++ after ∧ (∀ c ∈ after, p c = true) ∧
      ∀ c ∈ (text.reverse.dropWhile p).reverse.getLast?, p c = false := by
  refine ⟨(text.reverse.takeWhile p).reverse, ?_, ?_, ?_⟩
  · rw [← List.reverse_append, List.takeWhile_append_dropWhile, List.reverse_reverse]
  · intro c member
    exact List.all_eq_true.mp List.all_takeWhile c (List.mem_reverse.mp member)
  · intro c member
    have kept := List.head?_dropWhile_not p text.reverse
    rw [List.getLast?_reverse] at member
    rw [Option.mem_def.mp member] at kept
    exact kept

theorem margins_taken_off (p : Char → Bool) (text : List Char) :
    let core := ((text.dropWhile p).reverse.dropWhile p).reverse
    ∃ before after, text = before ++ core ++ after ∧ (∀ c ∈ before, p c = true) ∧
      (∀ c ∈ after, p c = true) ∧ (∀ c ∈ core.head?, p c = false) ∧
      ∀ c ∈ core.getLast?, p c = false := by
  intro core
  obtain ⟨after, parted, back, last⟩ := back_taken_off p (text.dropWhile p)
  refine ⟨text.takeWhile p, after, ?_, List.all_eq_true.mp List.all_takeWhile, back, ?_, last⟩
  · rw [List.append_assoc, ← parted, List.takeWhile_append_dropWhile]
  · intro c member
    -- The first character that the back leaves is the first one that the front left.
    have kept := List.head?_dropWhile_not p text
    rw [parted, List.head?_append, Option.mem_def.mp member, Option.some_or] at kept
    exact kept

theorem trim_exact (text : List Char) : ∃ before after, text = before ++ trim text ++ after ∧
    (∀ c ∈ before, isBlank c = true) ∧ (∀ c ∈ after, isBlank c = true) ∧
    (∀ c ∈ (trim text).head?, isBlank c = false) ∧
    ∀ c ∈ (trim text).getLast?, isBlank c = false :=
  margins_taken_off isBlank text

-- Where blanks at the end have been taken off, there is nothing but blanks only if there is nothing.
theorem blank_after_trim_end {text : List Char} (blank : trim (trimEnd text) = []) :
    trimEnd text = [] := by
  obtain ⟨before, after, parted, front, back, _⟩ := trim_exact (trimEnd text)
  rw [blank, List.append_nil] at parted
  obtain ⟨_, _, _, kept⟩ := back_taken_off isBlank text
  cases last : (trimEnd text).getLast? with
  | none => exact List.getLast?_eq_none_iff.mp last
  | some c =>
    have member : c ∈ before ++ after := parted ▸ List.mem_of_getLast? last
    have isBlank : isBlank c = true := by
      rcases List.mem_append.mp member with inFront | behind
      · exact front c inFront
      · exact back c behind
    cases isBlank.symm.trans (kept c last)

theorem trim_end_past_blanks (text : List Char) {margin : List Char}
    (blank : ∀ c ∈ margin, isBlank c = true) : trimEnd (text ++ margin) = trimEnd text := by
  rw [trimEnd, List.reverse_append, List.dropWhile_append_of_pos]
  · rfl
  · intro c member
    exact blank c (List.mem_reverse.mp member)

theorem trim_past_margins (text : List Char) {margin : List Char}
    (blank : ∀ c ∈ margin, isBlank c = true) : trim (margin ++ text) = trim text := by
  rw [trim, trimStart, List.dropWhile_append_of_pos blank]
  rfl

theorem trim_before_margins (text : List Char) {margin : List Char}
    (blank : ∀ c ∈ margin, isBlank c = true) : trim (text ++ margin) = trim text := by
  obtain ⟨before, after, parted, front, back, first, last⟩ := trim_exact text
  have behind : ∀ c ∈ after ++ margin, isBlank c = true := by
    intro c member
    rcases List.mem_append.mp member with own | further
    · exact back c own
    · exact blank c further
  have whole := trim_of_parts before (trim text) (after ++ margin) front behind first last
  rwa [← List.append_assoc, ← parted] at whole

theorem trim_of_trim_end (text : List Char) : trim (trimEnd text) = trim text := by
  obtain ⟨after, parted, blank, _⟩ := back_taken_off isBlank text
  have whole := trim_before_margins (trimEnd text) blank
  rw [trimEnd, ← parted] at whole
  exact whole.symm

theorem trim_twice (text : List Char) : trim (trim text) = trim text := by
  obtain ⟨_, _, _, _, _, first, last⟩ := trim_exact text
  simpa using trim_of_parts [] (trim text) [] (by simp) (by simp) first last

theorem trim_end_of_trim (text : List Char) : trimEnd (trim text) = trim text := by
  obtain ⟨_, _, _, _, _, first, _⟩ := trim_exact text
  have again := trim_twice text
  have front : trimStart (trim text) = trim text := drop_margin [] (trim text) (by simp) first
  rwa [trim, front] at again

-- Behind a front that neither begins nor ends with a blank, blanks are taken off at the back only.
theorem trim_behind_front {front : List Char} (filled : front ≠ [])
    (first : ∀ c ∈ front.head?, isBlank c = false) (last : ∀ c ∈ front.getLast?, isBlank c = false)
    (text : List Char) : trim (front ++ text) = front ++ trimEnd text := by
  obtain ⟨after, parted, blank, kept⟩ := back_taken_off isBlank text
  have whole := trim_of_parts [] (front ++ trimEnd text) after (by simp) blank ?_ ?_
  · rwa [List.nil_append, List.append_assoc, trimEnd, ← parted] at whole
  · intro c member
    cases front with
    | nil => exact absurd rfl filled
    | cons d rest => exact first c member
  · intro c member
    by_cases nothing : trimEnd text = []
    · rw [nothing, List.append_nil] at member
      exact last c member
    · rw [List.getLast?_append, List.getLast?_eq_some_getLast nothing, Option.some_or] at member
      rw [← List.getLast?_eq_some_getLast nothing] at member
      exact kept c member

end RabbitRemote.Text
