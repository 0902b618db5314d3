import Mathlib.Data.List.Induction
import Mathlib.Data.Nat.Digits.Lemmas
import RabbitRemote.Proofs.Number.DecimalReading
import RabbitRemote.Proofs.Text.Trimming

namespace RabbitRemote.Number

-- Digits of any script, with at most one underscore between two of them, and their figures.
inductive Spells : List Char → List Nat → Prop where
  | last {c : Char} {figure : Nat} (read : Text.digit? c = some figure) : Spells [c] [figure]
  | next {c : Char} {figure : Nat} {rest : List Char} {figures : List Nat}
      (read : Text.digit? c = some figure) (more : Spells rest figures) :
      Spells (c :: rest) (figure :: figures)
  | parted {c : Char} {figure : Nat} {rest : List Char} {figures : List Nat}
      (read : Text.digit? c = some figure) (more : Spells rest figures) :
      Spells (c :: '_' :: rest) (figure :: figures)

inductive Sign : List Char → Int → Prop where
  | absent : Sign [] 1
  | plus : Sign ['+'] 1
  | minus : Sign ['-'] (-1)

-- An integer as it may be written: white space, a sign, figures in their places, white space. More
-- figures than the limit are too many, whatever their value.
inductive Literal : List Char → Int → Prop where
  | written {before sign digits after : List Char} {factor : Int} {figures : List Nat}
      (front : ∀ c ∈ before, Text.isBlank c = true) (back : ∀ c ∈ after, Text.isBlank c = true)
      (signed : Sign sign factor) (spelt : Spells digits figures)
      (short : figures.length ≤ figureLimit) :
      Literal (before ++ (sign ++ digits) ++ after) (factor * (Nat.ofDigits 10 figures.reverse : Nat))

theorem figure_not_blank {c : Char} {figure : Nat} (read : Text.digit? c = some figure) :
    Text.isBlank c = false := by
  have apart : ∀ nought ∈ Text.zeroCodes, ∀ further ∈ List.range 10,
      Text.isBlank (Char.ofNat (nought + further)) = false := by
    decide +kernel
  simp only [Text.digit?, Option.map_eq_some_iff] at read
  obtain ⟨nought, found, _⟩ := read
  have near := List.find?_some found
  simp only [Bool.and_eq_true, decide_eq_true_eq] at near
  have further : c.toNat - nought ∈ List.range 10 := by
    rw [List.mem_range]
    omega
  have unblank := apart nought (List.mem_of_find?_eq_some found) _ further
  rwa [Nat.add_sub_cancel' near.1, Char.ofNat_toNat] at unblank

theorem digit_is_no_mark {c : Char} {figure : Nat} (read : Text.digit? c = some figure) :
    c ≠ '_' ∧ c ≠ '+' ∧ c ≠ '-' := by
  have underscore : Text.digit? '_' = none := by decide
  have plus : Text.digit? '+' = none := by decide
  have minus : Text.digit? '-' = none := by decide
  refine ⟨?_, ?_, ?_⟩ <;> (rintro rfl; simp_all)

theorem Spells.starts {digits : List Char} {figures : List Nat} (spelt : Spells digits figures) :
    ∃ c figure rest, digits = c :: rest ∧ Text.digit? c = some figure := by
  cases spelt with
  | last read => exact ⟨_, _, _, rfl, read⟩
  | next read _ => exact ⟨_, _, _, rfl, read⟩
  | parted read _ => exact ⟨_, _, _, rfl, read⟩

theorem Spells.ends {digits : List Char} {figures : List Nat} (spelt : Spells digits figures) :
    ∃ c figure, digits.getLast? = some c ∧ Text.digit? c = some figure := by
  induction spelt with
  | last read => exact ⟨_, _, rfl, read⟩
  | next _ more ih =>
    obtain ⟨c, figure, last, read⟩ := ih
    exact ⟨c, figure, by rw [List.getLast?_cons, last]; rfl, read⟩
  | parted _ more ih =>
    obtain ⟨c, figure, last, read⟩ := ih
    exact ⟨c, figure, by rw [List.getLast?_cons, List.getLast?_cons, last]; rfl, read⟩

theorem Spells.below_ten {digits : List Char} {figures : List Nat} (spelt : Spells digits figures) :
    ∀ figure ∈ figures, figure < 10 := by
  induction spelt with
  | last read => simpa using Text.digit_below_ten _ _ read
  | next read _ ih => simpa using ⟨Text.digit_below_ten _ _ read, ih⟩
  | parted read _ ih => simpa using ⟨Text.digit_below_ten _ _ read, ih⟩

theorem more_figures_of_digit {c : Char} {figure : Nat} (read : Text.digit? c = some figure)
    (rest : List Char) :
    moreFigures (c :: rest) =
      (moreFigures rest).map fun (figures, tail) => (figure :: figures, tail) := by
  have plain := (digit_is_no_mark read).1
  rw [moreFigures.eq_4 _ _ (fun _ _ same _ => plain same) (fun same _ => plain same), read]

theorem more_figures_of_parted {c : Char} {figure : Nat} (read : Text.digit? c = some figure)
    (rest : List Char) : moreFigures ('_' :: c :: rest) = moreFigures (c :: rest) := by
  rw [more_figures_of_digit read, moreFigures, read]

theorem more_figures_of_spelt {digits : List Char} {figures : List Nat}
    (spelt : Spells digits figures) : moreFigures digits = some (figures, []) := by
  induction spelt with
  | last read => rw [more_figures_of_digit read]; rfl
  | next read _ ih => rw [more_figures_of_digit read, ih]; rfl
  | parted read more ih =>
    obtain ⟨d, _, _, rfl, digit⟩ := more.starts
    rw [more_figures_of_digit read, more_figures_of_parted digit, ih]
    rfl

theorem read_figures_of_spelt {digits : List Char} {figures : List Nat}
    (spelt : Spells digits figures) : readFigures digits = some (figures, []) := by
  have more := more_figures_of_spelt spelt
  obtain ⟨c, figure, rest, rfl, read⟩ := spelt.starts
  rw [more_figures_of_digit read] at more
  rw [readFigures, read]
  exact more

-- What is read on after a digit is spelt together with it.
theorem spelt_of_more_figures {text tail : List Char} {figures : List Nat}
    (read : moreFigures text = some (figures, tail)) :
    ∃ further, text = further ++ tail ∧
      ∀ c figure, Text.digit? c = some figure → Spells (c :: further) (figure :: figures) := by
  fun_induction moreFigures text generalizing figures tail with
  | case1 =>
    cases read
    exact ⟨[], rfl, fun _ _ first => .last first⟩
  | case2 d rest digit figure ih =>
    obtain ⟨⟨others, rest'⟩, found, same⟩ := Option.map_eq_some_iff.mp read
    cases same
    obtain ⟨further, rfl, spelt⟩ := ih found
    exact ⟨'_' :: d :: further, rfl, fun _ _ first => .parted first (spelt d _ figure)⟩
  | case3 => cases read
  | case4 => cases read
  | case5 d rest _ _ digit figure ih =>
    obtain ⟨⟨others, rest'⟩, found, same⟩ := Option.map_eq_some_iff.mp read
    cases same
    obtain ⟨further, rfl, spelt⟩ := ih found
    exact ⟨d :: further, rfl, fun _ _ first => .next first (spelt d _ figure)⟩
  | case6 =>
    cases read
    exact ⟨[], rfl, fun _ _ first => .last first⟩

theorem spelt_of_read_figures {text tail : List Char} {figures : List Nat}
    (read : readFigures text = some (figures, tail)) :
    ∃ digits, text = digits ++ tail ∧ Spells digits figures := by
  cases text with
  | nil => cases read
  | cons c rest =>
    rw [readFigures] at read
    cases digit : Text.digit? c with
    | none => rw [digit] at read; cases read
    | some figure =>
      rw [digit] at read
      obtain ⟨⟨others, rest'⟩, found, same⟩ := Option.map_eq_some_iff.mp read
      cases same
      obtain ⟨further, rfl, spelt⟩ := spelt_of_more_figures found
      exact ⟨c :: further, rfl, spelt c figure digit⟩

theorem of_figures_by_place (figures : List Nat) :
    ofFigures figures = Nat.ofDigits 10 figures.reverse := by
  induction figures using List.reverseRecOn with
  | nil => rfl
  | append_singleton front last ih =>
    rw [of_figures_snoc, ih, List.reverse_append, List.reverse_singleton, List.singleton_append,
      Nat.ofDigits_cons]
    omega

theorem read_sign_exact (text : List Char) : ∃ sign, text = sign ++ (readSign text).2 ∧
    Sign sign (if (readSign text).1 then -1 else 1) := by
  unfold readSign
  split
  · exact ⟨['-'], rfl, .minus⟩
  · exact ⟨['+'], rfl, .plus⟩
  · exact ⟨[], rfl, .absent⟩

theorem read_sign_of_signed {sign digits : List Char} {factor : Int} {figures : List Nat}
    (signed : Sign sign factor) (spelt : Spells digits figures) :
    ∃ negative, readSign (sign ++ digits) = (negative, digits) ∧
      factor = if negative then -1 else 1 := by
  cases signed with
  | plus => exact ⟨false, rfl, rfl⟩
  | minus => exact ⟨true, rfl, rfl⟩
  | absent =>
    obtain ⟨c, figure, rest, rfl, read⟩ := spelt.starts
    obtain ⟨_, noPlus, noMinus⟩ := digit_is_no_mark read
    refine ⟨false, ?_, rfl⟩
    rw [List.nil_append, readSign]
    · intro _ same
      exact noMinus (List.cons.inj same).1
    · intro _ same
      exact noPlus (List.cons.inj same).1

theorem signed_ends {sign digits : List Char} {factor : Int} {figures : List Nat}
    (signed : Sign sign factor) (spelt : Spells digits figures) :
    (∀ c ∈ (sign ++ digits).head?, Text.isBlank c = false) ∧
    ∀ c ∈ (sign ++ digits).getLast?, Text.isBlank c = false := by
  constructor
  · intro c member
    cases signed with
    | plus => cases member; decide
    | minus => cases member; decide
    | absent =>
      obtain ⟨first, figure, rest, rfl, read⟩ := spelt.starts
      cases member
      exact figure_not_blank read
  · intro c member
    obtain ⟨last, figure, found, read⟩ := spelt.ends
    rw [List.getLast?_append, found] at member
    cases member
    exact figure_not_blank read

theorem margin_is_blank {c : Char} (margin : isMargin c = true) : Text.isBlank c = true := by
  rw [isMargin, Bool.and_eq_true] at margin
  exact margin.1

theorem no_tail_of_margins {front tail : List Char} (margins : tail.all isMargin = true)
    (last : ∀ c ∈ (front ++ tail).getLast?, Text.isBlank c = false) : tail = [] := by
  cases final : tail.getLast? with
  | none => exact List.getLast?_eq_none_iff.mp final
  | some c =>
    have margin := List.all_eq_true.mp margins c (List.mem_of_getLast? final)
    have unblank := last c (by rw [List.getLast?_append, final]; rfl)
    rw [margin_is_blank margin] at unblank
    cases unblank

theorem literal_of_read {text : List Char} {value : Int}
    (read : readInteger (Text.trim text) = .ok value) : Literal text value := by
  obtain ⟨before, after, parts, front, back, first, last⟩ := Text.trim_exact text
  generalize Text.trim text = core at read parts first last
  rw [readInteger, no_margin_in_front first] at read
  obtain ⟨sign, signed, factor⟩ := read_sign_exact core
  generalize readSign core = unsigned at read signed factor
  dsimp only at read
  cases found : readFigures unsigned.2 with
  | none => rw [found] at read; cases read
  | some pair =>
    obtain ⟨figures, tail⟩ := pair
    obtain ⟨digits, spelling, spelt⟩ := spelt_of_read_figures found
    rw [found] at read
    dsimp only at read
    split at read
    · cases read
    · rename_i fits
      split at read
      · rename_i margins
        have whole : core = sign ++ digits ++ tail := by
          rw [signed, spelling, List.append_assoc]
        have nothing : tail = [] := no_tail_of_margins margins (whole ▸ last)
        cases read
        rw [parts, whole, nothing, List.append_nil, of_figures_by_place]
        have literal := Literal.written front back factor spelt (Nat.le_of_not_lt fits)
        split at literal <;> rename_i minus
        · rw [if_pos minus]
          simpa using literal
        · rw [if_neg minus]
          simpa using literal
      · cases read

theorem read_of_literal {text : List Char} {value : Int} (literal : Literal text value) :
    readInteger (Text.trim text) = .ok value := by
  obtain ⟨front, back, signed, spelt, short⟩ := literal
  obtain ⟨first, last⟩ := signed_ends signed spelt
  obtain ⟨negative, unsigned, rfl⟩ := read_sign_of_signed signed spelt
  rw [Text.trim_of_parts _ _ _ front back first last, readInteger, no_margin_in_front first,
    unsigned]
  dsimp only
  rw [read_figures_of_spelt spelt]
  dsimp only
  rw [if_neg (Nat.not_lt_of_le short), if_pos (by rfl), of_figures_by_place]
  cases negative <;> simp

-- An integer is read from a text without its margins iff the text is a literal of that value.
theorem read_trimmed_exact (text : List Char) (value : Int) :
    readInteger (Text.trim text) = .ok value ↔ Literal text value :=
  ⟨literal_of_read, read_of_literal⟩

-- For any limit, so that its power of ten is never computed.
theorem figures_below {figures : List Nat} {limit : Nat} (below : ∀ figure ∈ figures, figure < 10)
    (short : figures.length ≤ limit) : Nat.ofDigits 10 figures.reverse < Nat.pow 10 limit := by
  have bound : Nat.ofDigits 10 figures.reverse < 10 ^ figures.reverse.length :=
    Nat.ofDigits_lt_base_pow_length (by decide) fun figure member =>
      below figure (List.mem_reverse.mp member)
  rw [List.length_reverse] at bound
  exact Nat.lt_of_lt_of_le bound (Nat.pow_le_pow_right (by decide) short)

theorem Sign.unit {sign : List Char} {factor : Int} (signed : Sign sign factor) :
    factor.natAbs = 1 := by
  cases signed <;> rfl

theorem spelt_has_text {digits : List Char} {figures : List Nat} {value : Int}
    (spelt : Spells digits figures) (short : figures.length ≤ figureLimit)
    (size : value.natAbs = Nat.ofDigits 10 figures.reverse) : hasText value = true := by
  rw [has_text_exact, size]
  exact figures_below spelt.below_ten short

theorem literal_has_text {text : List Char} {value : Int} (literal : Literal text value) :
    hasText value = true := by
  obtain ⟨_, _, signed, spelt, short⟩ := literal
  apply spelt_has_text spelt short
  rw [Int.natAbs_mul, signed.unit, Nat.one_mul, Int.natAbs_natCast]

-- What can be read can also be written.
theorem read_has_text {text : List Char} {value : Int} (read : readInteger text = .ok value) :
    hasText value = true := by
  rw [readInteger] at read
  generalize readSign (text.dropWhile isMargin) = unsigned at read
  dsimp only at read
  cases found : readFigures unsigned.2 with
  | none => rw [found] at read; cases read
  | some pair =>
    obtain ⟨figures, tail⟩ := pair
    obtain ⟨digits, _, spelt⟩ := spelt_of_read_figures found
    rw [found] at read
    dsimp only at read
    split at read
    · cases read
    · rename_i fits
      split at read
      · cases read
        apply spelt_has_text spelt (Nat.le_of_not_lt fits)
        rw [← of_figures_by_place]
        cases unsigned.1 <;> simp
      · cases read

end RabbitRemote.Number
