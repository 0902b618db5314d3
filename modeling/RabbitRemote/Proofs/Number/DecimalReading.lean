import RabbitRemote.Number.IntegerLiteral
import RabbitRemote.Proofs.Text.Pieces

namespace RabbitRemote.Number

theorem digit_code {c : Char} (digit : c.isDigit = true) : 48 ≤ c.toNat ∧ c.toNat ≤ 57 := by
  simp only [Char.isDigit, Bool.and_eq_true, decide_eq_true_eq] at digit
  exact ⟨digit.1, digit.2⟩

theorem digit_not_blank {c : Char} (digit : c.isDigit = true) : Text.isBlank c = false := by
  obtain ⟨low, high⟩ := digit_code digit
  exact Text.ascii_not_blank (by omega) (by omega)

theorem digits_are_digits {n : Nat} {c : Char} (member : c ∈ Nat.toDigits 10 n) :
    c.isDigit = true :=
  Nat.isDigit_of_mem_toDigits (by decide) (by decide) member

theorem decimal_characters {i : Int} {c : Char} (member : c ∈ decimal i) :
    c = '-' ∨ c.isDigit = true := by
  cases i with
  | ofNat n => exact .inr (digits_are_digits member)
  | negSucc n =>
    rcases List.mem_cons.mp member with minus | digit
    · exact .inl minus
    · exact .inr (digits_are_digits digit)

theorem decimal_not_blank {i : Int} {c : Char} (member : c ∈ decimal i) : Text.isBlank c = false := by
  rcases decimal_characters member with rfl | digit
  · decide
  · exact digit_not_blank digit

theorem of_figures_snoc (figures : List Nat) (last : Nat) :
    ofFigures (figures ++ [last]) = 10 * ofFigures figures + last := by
  simp [ofFigures]

theorem figures_of_decimal (n : Nat) : ∃ figures : List Nat,
    Nat.toDigits 10 n = figures.map Nat.digitChar ∧ (∀ figure ∈ figures, figure < 10) ∧
      ofFigures figures = n := by
  induction n using Nat.strongRecOn with
  | ind n ih =>
    by_cases small : n < 10
    · refine ⟨[n], ?_, ?_, ?_⟩
      · simpa using Nat.toDigits_of_lt_base small
      · simpa using small
      · simp [ofFigures]
    · have big : 10 ≤ n := Nat.le_of_not_lt small
      obtain ⟨front, written, below, value⟩ := ih (n / 10) (Nat.div_lt_self (by omega) (by decide))
      refine ⟨front ++ [n % 10], ?_, ?_, ?_⟩
      · rw [Nat.toDigits_of_base_le (by decide) big, written]
        simp
      · intro figure member
        rcases List.mem_append.mp member with old | new
        · exact below figure old
        · have := List.mem_singleton.mp new
          omega
      · rw [of_figures_snoc, value]
        omega

theorem more_figures_of_digits (figures : List Nat) (below : ∀ figure ∈ figures, figure < 10) :
    moreFigures (figures.map Nat.digitChar) = some (figures, []) := by
  induction figures with
  | nil => rfl
  | cons figure rest ih =>
    have small := below figure (by simp)
    have read := Text.digit_of_figure figure small
    have tail := ih fun other member => below other (by simp [member])
    have plain : Nat.digitChar figure ≠ '_' := by
      intro underscore
      rw [underscore] at read
      exact absurd read (by simp [show Text.digit? '_' = none from by decide])
    rw [List.map_cons, moreFigures.eq_4 _ _ (fun _ _ same _ => plain same) (fun same _ => plain same)]
    simp [read, tail]

theorem read_figures_of_digits (n : Nat) : ∃ figures : List Nat,
    readFigures (Nat.toDigits 10 n) = some (figures, []) ∧
      figures.length = (Nat.toDigits 10 n).length ∧ ofFigures figures = n := by
  obtain ⟨figures, written, below, value⟩ := figures_of_decimal n
  refine ⟨figures, ?_, by simp [written], value⟩
  rw [written]
  cases figures with
  | nil => exact absurd written Nat.toDigits_ne_nil
  | cons figure rest =>
    have read := Text.digit_of_figure figure (below figure (by simp))
    have tail := more_figures_of_digits rest fun other member => below other (by simp [member])
    simp [readFigures, read, tail]

-- The bound is never computed: it is unfolded by itself, and the figures are counted for any limit.
theorem has_text_exact (i : Int) : hasText i = true ↔ i.natAbs < Nat.pow 10 figureLimit := by
  delta hasText textBound
  rw [decide_eq_true_eq]

theorem has_text_of_small {i : Int} (small : i.natAbs < 100) : hasText i = true := by
  have room : ∀ limit, 2 ≤ limit → Nat.pow 10 2 ≤ Nat.pow 10 limit :=
    fun _ => Nat.pow_le_pow_right (by decide)
  exact (has_text_exact i).mpr (Nat.lt_of_lt_of_le small (room _ (by decide)))

theorem length_of_digits {n figures : Nat} (positive : 0 < figures)
    (short : n < Nat.pow 10 figures) : (Nat.toDigits 10 n).length ≤ figures :=
  (Nat.length_toDigits_le_iff (by decide) positive).mpr short

theorem figures_within_limit {n : Nat} (short : n < Nat.pow 10 figureLimit) :
    ¬ figureLimit < (Nat.toDigits 10 n).length := by
  have bounded := length_of_digits (by decide) short
  omega

theorem no_margin_in_front {core : List Char} (first : ∀ c ∈ core.head?, Text.isBlank c = false) :
    core.dropWhile isMargin = core := by
  cases core with
  | nil => rfl
  | cons c rest =>
    have inside : isMargin c = false := by simp [isMargin, first c (by simp)]
    simp [inside]

theorem no_margin_before_decimal (i : Int) : (decimal i).dropWhile isMargin = decimal i :=
  no_margin_in_front fun _ member => decimal_not_blank (List.mem_of_mem_head? member)

theorem no_sign_before_digits (n : Nat) :
    readSign (Nat.toDigits 10 n) = (false, Nat.toDigits 10 n) := by
  unfold readSign
  split
  · rename_i rest written
    have digit : '-'.isDigit = true := digits_are_digits (n := n) (by rw [written]; simp)
    exact absurd digit (by decide)
  · rename_i rest written
    have digit : '+'.isDigit = true := digits_are_digits (n := n) (by rw [written]; simp)
    exact absurd digit (by decide)
  · rfl

-- An integer that is short enough to be written is read back as itself.
theorem read_of_decimal (i : Int) (short : hasText i = true) : readInteger (decimal i) = .ok i := by
  have bounded := (has_text_exact i).mp short
  rw [readInteger, no_margin_before_decimal]
  cases i with
  | ofNat n =>
    obtain ⟨figures, read, length, value⟩ := read_figures_of_digits n
    have fits := figures_within_limit (n := n) bounded
    rw [← length] at fits
    simp [decimal, no_sign_before_digits, read, fits, value]
  | negSucc n =>
    obtain ⟨figures, read, length, value⟩ := read_figures_of_digits (n + 1)
    have fits := figures_within_limit (n := n + 1) bounded
    rw [← length] at fits
    simp only [decimal, readSign, read, fits, value]
    rfl

end RabbitRemote.Number
