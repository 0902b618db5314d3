import RabbitRemote.Ini.Reader
import RabbitRemote.Proofs.Text.Pieces
import RabbitRemote.Proofs.Text.Trimming

namespace RabbitRemote

namespace Text
variable {text line : List Char}

theorem ends_unified (plain : '\r' ∉ text) : unifyEnds text = text := by
  induction text with
  | nil => rfl
  | cons c rest ih =>
    have differs : c ≠ '\r' := fun same => plain (same ▸ List.mem_cons_self)
    have later : '\r' ∉ rest := fun member => plain (List.mem_cons_of_mem _ member)
    rw [unifyEnds.eq_3 _ _ (fun _ same _ => differs same), if_neg differs, ih later]

theorem cut_lines_past_line (whole : '\n' ∉ line) (rest : List Char) :
    cutLines (line ++ '\n' :: rest) = (line ++ ['\n']) :: cutLines rest := by
  induction line with
  | nil => simp [cutLines]
  | cons c line ih =>
    have differs : c ≠ '\n' := fun same => whole (same ▸ List.mem_cons_self)
    have further := ih fun member => whole (List.mem_cons_of_mem _ member)
    rw [List.cons_append, cutLines, if_neg differs, further]
    rfl

theorem cut_lines_of_last (whole : '\n' ∉ line) (filled : line ≠ []) : cutLines line = [line] := by
  induction line with
  | nil => exact absurd rfl filled
  | cons c line ih =>
    have differs : c ≠ '\n' := fun same => whole (same ▸ List.mem_cons_self)
    rw [cutLines, if_neg differs]
    cases line with
    | nil => rfl
    | cons d more => rw [ih (fun member => whole (List.mem_cons_of_mem _ member)) (by simp)]

end Text

namespace Ini

-- Names of small letters and underscores mean nothing but themselves.
def IsWord (name : List Char) : Prop := name ≠ [] ∧ ∀ c ∈ name, c.isLower = true ∨ c = '_'

instance (name : List Char) : Decidable (IsWord name) :=
  decidable_of_iff (name ≠ [] ∧ (name.all fun c => c.isLower || c = '_') = true) (by simp [IsWord])

theorem letter_plain {c : Char} (letter : c.isLower = true ∨ c = '_') :
    Text.isBlank c = false ∧ isDelimiter c = false ∧ isCommentMark c = false ∧ c ≠ '[' := by
  rcases letter with lower | rfl
  · refine ⟨?_, ?_, ?_, ?_⟩
    · have within : (decide ('a'.val ≤ c.val) && decide (c.val ≤ 'z'.val)) = true := lower
      have range : 97 ≤ c.toNat ∧ c.toNat ≤ 122 := by
        simpa [UInt32.le_iff_toNat_le] using within
      exact Text.ascii_not_blank (by omega) (by omega)
    · simp only [isDelimiter, Bool.or_eq_false_iff, decide_eq_false_iff_not]
      constructor <;> (rintro rfl; exact absurd lower (by decide))
    · simp only [isCommentMark, Bool.or_eq_false_iff, decide_eq_false_iff_not]
      constructor <;> (rintro rfl; exact absurd lower (by decide))
    · rintro rfl
      exact absurd lower (by decide)
  · decide

theorem space_blank : ∀ c ∈ [' '], Text.isBlank c = true :=
  List.forall_mem_singleton.mpr (by decide)

-- A line that gives a value to an option.
def assignment (name value : List Char) : List Char := name ++ ' ' :: '=' :: ' ' :: value

section
variable {raw margin name : List Char}

theorem line_of_blank (blank : ∀ c ∈ raw, Text.isBlank c = true) : Line.of raw = .blank := by
  have nothing := Text.trim_past_margins [] blank
  rw [List.append_nil] at nothing
  rw [Line.of, nothing]
  rfl

theorem line_of_content {c : Char} {rest : List Char} (first : ∀ d ∈ raw.head?, Text.isBlank d = false)
    (trimmed : Text.trim raw = c :: rest) (plain : isCommentMark c = false) :
    Line.of raw = .content 0 (c :: rest) := by
  have indent : raw.takeWhile Text.isBlank = [] := by
    cases raw with
    | nil => rfl
    | cons d more => rw [List.takeWhile_cons, first d rfl]; rfl
  rw [Line.of, trimmed]
  dsimp only
  rw [plain, indent]
  rfl

theorem line_of_assignment (word : IsWord name) (value : List Char)
    (blank : ∀ c ∈ margin, Text.isBlank c = true) : ∃ said,
    Line.of (assignment name value ++ margin) = .content 0 (name ++ ' ' :: '=' :: said) ∧
      Text.trim said = Text.trim value := by
  obtain ⟨filled, letters⟩ := word
  cases name with
  | nil => exact absurd rfl filled
  | cons c rest =>
    obtain ⟨solid, _, plain, _⟩ := letter_plain (letters c List.mem_cons_self)
    have trimmed : Text.trim (assignment (c :: rest) value ++ margin) =
        c :: rest ++ ' ' :: '=' :: Text.trimEnd (' ' :: value) := by
      have last : ∀ d ∈ (c :: rest ++ [' '] ++ ['=']).getLast?, Text.isBlank d = false := by
        rw [List.getLast?_concat]
        rintro d ⟨⟩
        decide
      have whole := Text.trim_behind_front (by simp) (by simpa using solid) last (' ' :: value)
      rw [Text.trim_before_margins _ blank, assignment]
      simpa using whole
    refine ⟨Text.trimEnd (' ' :: value), line_of_content ?_ trimmed plain, ?_⟩
    · simpa [assignment] using solid
    · rw [Text.trim_of_trim_end]
      exact Text.trim_past_margins value space_blank

theorem entry_of_assignment (word : IsWord name) (said : List Char) :
    Entry.of (name ++ ' ' :: '=' :: said) = .option (String.ofList name) (Text.trim said) := by
  obtain ⟨filled, letters⟩ := word
  have undelimited : ∀ c ∈ name ++ [' '], (!isDelimiter c) = true := by
    intro c member
    rcases List.mem_append.mp member with own | blank
    · simpa using (letter_plain (letters c own)).2.1
    · rw [List.mem_singleton.mp blank]
      decide
  have parted : name ++ ' ' :: '=' :: said = (name ++ [' ']) ++ '=' :: said := by simp
  have option : (name ++ ' ' :: '=' :: said).takeWhile (fun c => !isDelimiter c) = name ++ [' '] := by
    rw [parted, List.takeWhile_append_of_pos undelimited]
    simp [isDelimiter]
  have value : (name ++ ' ' :: '=' :: said).dropWhile (fun c => !isDelimiter c) = '=' :: said := by
    rw [parted, List.dropWhile_append_of_pos undelimited]
    simp [isDelimiter]
  have bare : Text.trimEnd (name ++ [' ']) = name := by
    have whole := Text.trim_of_unblank name fun c member => (letter_plain (letters c member)).1
    have kept := Text.trim_end_of_trim name
    rw [whole] at kept
    rw [Text.trim_end_past_blanks name space_blank, kept]
  unfold Entry.of
  dsimp only
  rw [option, value, bare]
  split
  · rename_i header bracketed
    split at bracketed
    · rename_i rest same
      cases name with
      | nil => exact absurd rfl filled
      | cons c more =>
        obtain ⟨_, _, _, unbracketed⟩ := letter_plain (letters c List.mem_cons_self)
        exact absurd (List.cons.inj same).1 unbracketed
    · cases bracketed
  · rfl

theorem line_of_heading (name : List Char) (blank : ∀ c ∈ margin, Text.isBlank c = true) :
    Line.of ('[' :: name ++ [']'] ++ margin) = .content 0 ('[' :: name ++ [']']) := by
  have last : ∀ d ∈ ('[' :: name ++ [']']).getLast?, Text.isBlank d = false := by
    rw [List.getLast?_concat]
    rintro d ⟨⟩
    decide
  have first : Text.isBlank '[' = false := by decide
  have trimmed := Text.trim_behind_front (by simp) (by simpa using first) last []
  rw [List.append_nil, show Text.trimEnd [] = [] from rfl, List.append_nil] at trimmed
  apply line_of_content
  · simpa using first
  · rw [Text.trim_before_margins _ blank, trimmed]
    rfl
  · decide

theorem entry_of_heading (word : IsWord name) :
    Entry.of ('[' :: name ++ [']']) = .header (String.ofList name) := by
  have inside : bracketed? (name ++ [']']) = some name := by
    rw [bracketed?, List.reverse_append]
    cases turned : name.reverse with
    | nil => exact absurd (List.reverse_eq_nil_iff.mp turned) word.1
    | cons c rest =>
      have whole : (c :: rest).reverse = name := by rw [← turned, List.reverse_reverse]
      simp [whole]
  simp only [Entry.of, List.cons_append, inside]

end

-- The lines of a plain file: nothing, the heading of a section, or an option of a section, by its
-- place, with a value.
inductive PlainLine where
  | blank
  | heading (name : String)
  | entry (place : String × String) (value : List Char)
deriving DecidableEq, Repr

namespace PlainLine

def text : PlainLine → List Char
  | .blank => []
  | .heading name => '[' :: name.toList ++ [']']
  | .entry place value => assignment place.2.toList value

def IsPlain : PlainLine → Prop
  | .blank => True
  | .heading name => IsWord name.toList
  | .entry place value => IsWord place.2.toList ∧ Text.lowered place.2 = place.2 ∧
      ∀ c ∈ value, c ≠ '\r' ∧ c ≠ '\n'

def heading? : PlainLine → Option String
  | .heading name => some name
  | _ => none

def place? : PlainLine → Option (String × String)
  | .entry place _ => some place
  | _ => none

-- The section that the lines behind this one belong to.
def under (line : PlainLine) (current? : Option String) : Option String :=
  line.heading?.or current?

def StandsUnder (line : PlainLine) (current? : Option String) : Prop :=
  ∀ place ∈ line.place?, current? = some place.1

instance (line : PlainLine) (current? : Option String) : Decidable (line.StandsUnder current?) :=
  inferInstanceAs (Decidable (∀ place ∈ line.place?, _))

def said (line : PlainLine) (place : String × String) (before : List Char) : List Char :=
  match line with
  | .entry own value => if own = place then Text.trim value else before
  | _ => before

theorem blank_of_empty {line : PlainLine} (empty : line.text = []) : line = .blank := by
  cases line with
  | blank => rfl
  | heading name => cases empty
  | entry place value => simp [text, assignment] at empty

theorem text_of_one_line {line : PlainLine} (plain : line.IsPlain) :
    ∀ c ∈ line.text, c ≠ '\r' ∧ c ≠ '\n' := by
  have letters {name : List Char} (word : IsWord name) : ∀ c ∈ name, c ≠ '\r' ∧ c ≠ '\n' := by
    intro c member
    obtain ⟨solid, _⟩ := letter_plain (word.2 c member)
    constructor <;> (rintro rfl; exact absurd solid (by decide))
  intro c member
  cases line with
  | blank => cases member
  | heading name =>
    simp only [text, List.cons_append, List.mem_cons, List.mem_append, List.not_mem_nil,
      or_false] at member
    rcases member with rfl | inside | rfl
    · decide
    · exact letters plain c inside
    · decide
  | entry place value =>
    simp only [text, assignment, List.mem_append, List.mem_cons] at member
    rcases member with inside | rfl | rfl | rfl | inside
    · exact letters plain.1 c inside
    · decide
    · decide
    · decide
    · exact plain.2.2 c inside

end PlainLine

end Ini
end RabbitRemote
