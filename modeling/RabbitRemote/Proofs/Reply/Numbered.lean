import RabbitRemote.Proofs.Number.Literal
import RabbitRemote.Proofs.Pairing
import RabbitRemote.Reply.EarPositions

namespace RabbitRemote.Reply

-- Digits of any script, with their figures.
def Figured (digits : List Char) (figures : List Nat) : Prop :=
  List.Forall₂ (fun c figure => Text.digit? c = some figure) digits figures

theorem Figured.digits {digits : List Char} {figures : List Nat} (figured : Figured digits figures) :
    ∀ c ∈ digits, Text.isDigit c = true := by
  intro c member
  obtain ⟨figure, _, read⟩ := partner_of_left figured member
  simp [Text.isDigit, read]

inductive MinusSign : List Char → Int → Prop where
  | absent : MinusSign [] 1
  | present : MinusSign ['-'] (-1)

theorem MinusSign.either {sign : List Char} {factor : Int} (signed : MinusSign sign factor) :
    sign = [] ∨ sign = ['-'] := by
  cases signed with
  | absent => exact .inl rfl
  | present => exact .inr rfl

-- A number at the beginning of a text: a minus sign, if there is one, and all the digits that follow.
inductive Numbered : List Char → Int → List Nat → Prop where
  | written {sign digits rest : List Char} {factor : Int} {figures : List Nat}
      (signed : MinusSign sign factor) (figured : Figured digits figures) (some : digits ≠ [])
      (longest : ∀ c ∈ rest.head?, Text.isDigit c = false) :
      Numbered (sign ++ (digits ++ rest)) factor figures

theorem leading_figures_split (text : List Char) : ∃ digits rest, text = digits ++ rest ∧
    Figured digits (leadingFigures text) ∧ ∀ c ∈ rest.head?, Text.isDigit c = false := by
  induction text with
  | nil => exact ⟨[], [], rfl, .nil, by simp⟩
  | cons c text ih =>
    rw [leadingFigures]
    cases read : Text.digit? c with
    | none => exact ⟨[], c :: text, rfl, .nil, by simp [Text.isDigit, read]⟩
    | some figure =>
      obtain ⟨digits, rest, parts, figured, longest⟩ := ih
      exact ⟨c :: digits, rest, by rw [List.cons_append, ← parts], .cons read figured, longest⟩

theorem leading_figures_of_digits {digits rest : List Char} {figures : List Nat}
    (figured : Figured digits figures) (longest : ∀ c ∈ rest.head?, Text.isDigit c = false) :
    leadingFigures (digits ++ rest) = figures := by
  induction figured with
  | nil =>
    cases rest with
    | nil => rfl
    | cons c rest =>
      have unread : Text.digit? c = none := by simpa [Text.isDigit] using longest c rfl
      simp [leadingFigures, unread]
  | cons read _ ih => simp [leadingFigures, read, ih]

def signedFigures (negative : Bool) : List Nat → Option (Bool × List Nat)
  | [] => none
  | figures => some (negative, figures)

theorem signed_figures_exact {negative sign : Bool} {read figures : List Nat} :
    signedFigures negative read = some (sign, figures) ↔
      figures ≠ [] ∧ negative = sign ∧ read = figures := by
  constructor
  · intro found
    cases read with
    | nil => cases found
    | cons first rest =>
      cases found
      exact ⟨by simp, rfl, rfl⟩
  · rintro ⟨some, rfl, rfl⟩
    cases read with
    | nil => exact absurd rfl some
    | cons first rest => rfl

theorem position_behind_minus (rest : List Char) :
    positionHere? ('-' :: rest) = signedFigures true (leadingFigures rest) := rfl

theorem position_unsigned {text : List Char} (unsigned : ∀ rest, text ≠ '-' :: rest) :
    positionHere? text = signedFigures false (leadingFigures text) := by
  unfold positionHere?
  split
  rename_i parted
  split at parted
  · exact absurd rfl (unsigned _)
  · cases parted
    rfl

theorem numbered_of_figures {sign unsigned : List Char} {factor : Int}
    (signed : MinusSign sign factor) (some : leadingFigures unsigned ≠ []) :
    Numbered (sign ++ unsigned) factor (leadingFigures unsigned) := by
  obtain ⟨digits, rest, parts, figured, longest⟩ := leading_figures_split unsigned
  have nonempty : digits ≠ [] := by
    intro nothing
    rw [nothing] at figured
    exact some (List.forall₂_nil_left_iff.mp figured)
  have written := Numbered.written signed figured nonempty longest
  rwa [← parts] at written

theorem numbered_of_position {text : List Char} {negative : Bool} {figures : List Nat}
    (found : positionHere? text = some (negative, figures)) :
    Numbered text (if negative then -1 else 1) figures := by
  by_cases minus : ∃ rest, text = '-' :: rest
  · obtain ⟨rest, rfl⟩ := minus
    rw [position_behind_minus, signed_figures_exact] at found
    obtain ⟨some, rfl, rfl⟩ := found
    exact numbered_of_figures .present some
  · rw [position_unsigned fun rest same => minus ⟨rest, same⟩, signed_figures_exact] at found
    obtain ⟨some, rfl, rfl⟩ := found
    exact numbered_of_figures .absent some

theorem position_of_numbered {text : List Char} {factor : Int} {figures : List Nat}
    (numbered : Numbered text factor figures) : ∃ negative,
      positionHere? text = some (negative, figures) ∧ factor = if negative then -1 else 1 := by
  obtain ⟨signed, figured, some, longest⟩ := numbered
  have read := leading_figures_of_digits figured longest
  have nonempty : figures ≠ [] := by
    intro nothing
    rw [nothing] at figured
    exact some (List.forall₂_nil_right_iff.mp figured)
  cases signed with
  | present =>
    exact ⟨true, signed_figures_exact.mpr ⟨nonempty, rfl, read⟩, rfl⟩
  | absent =>
    rename_i digits rest
    have unsigned : ∀ more, digits ++ rest ≠ '-' :: more := by
      intro more same
      cases figured with
      | nil => exact some rfl
      | cons digit _ => exact (Number.digit_is_no_mark digit).2.2 (List.cons.inj same).1
    refine ⟨false, ?_, rfl⟩
    rw [List.nil_append, position_unsigned unsigned]
    exact signed_figures_exact.mpr ⟨nonempty, rfl, read⟩

end RabbitRemote.Reply
