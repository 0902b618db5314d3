import RabbitRemote.Proofs.Number.Literal
import RabbitRemote.Proofs.Reply.Normalising
import RabbitRemote.Reply.Acknowledgement
import RabbitRemote.Reply.EarPositions

namespace RabbitRemote.Reply

variable {α : Type}

-- What looks for something at the very beginning of a text.
abbrev Finder (α : Type) := List Char → Option α

-- A steady finder finds the same in front of a text and of what that is normalised to; a solid one
-- finds nothing where a blank stands.
def Steady (finder : Finder α) : Prop := ∀ text, finder (normalise text) = finder text

def Solid (finder : Finder α) : Prop :=
  ∀ blank rest, Text.isBlank blank = true → finder (blank :: rest) = none

-- Looks for a letter first, and then for something behind it.
def letterThen (letter : Char) (finder : Finder α) : Finder α
  | [] => none
  | c :: rest => if c = letter then finder rest else none

def phraseThen (phrase : List Char) (finder : Finder α) : Finder α :=
  fun text => (after? phrase text).bind finder

-- The first find on the way through a text.
def search (finder : Finder α) : List Char → Option α
  | [] => none
  | c :: rest => (finder (c :: rest)).or (search finder rest)

theorem steady_of_visible {finder : Finder α} (solid : Solid finder)
    (visible : ∀ c rest, Text.isBlank c = false → finder (c :: normalise rest) = finder (c :: rest)) :
    Steady finder := by
  intro text
  cases text with
  | nil => rfl
  | cons c rest =>
    cases blank : Text.isBlank c with
    | true =>
      obtain ⟨first, more, normal, still⟩ := normalise_blank blank rest
      rw [normal, solid first more still, solid c rest blank]
    | false => rw [normalise_visible blank, visible c rest blank]

theorem letter_solid {letter : Char} (visible : Text.isBlank letter = false) (finder : Finder α) :
    Solid (letterThen letter finder) := by
  intro blank rest here
  have differs : blank ≠ letter := by
    intro same
    rw [same, visible] at here
    cases here
  exact if_neg differs

theorem letter_steady {letter : Char} (visible : Text.isBlank letter = false) {finder : Finder α}
    (steady : Steady finder) : Steady (letterThen letter finder) := by
  apply steady_of_visible (letter_solid visible finder)
  intro c rest _
  simp only [letterThen, steady rest]

-- A single blank is found again, for what stands behind it is visible; a wide gap could be taken
-- for nothing but the line feed that it becomes.
theorem unbroken_steady {letter : Char} (unbroken : letter ≠ '\n') {finder : Finder α}
    (steady : Steady finder) (solid : Solid finder) : Steady (letterThen letter finder) := by
  intro text
  cases text with
  | nil => rfl
  | cons c rest =>
    cases here : Text.isBlank c with
    | false => simp only [normalise_visible here, letterThen, steady rest]
    | true =>
      cases rest with
      | nil =>
        have lone : normalise [c] = c :: normalise [] := normalise_lone here (by simp)
        simp only [lone, letterThen, steady []]
      | cons d rest =>
        cases next : Text.isBlank d with
        | false =>
          have lone : normalise (c :: d :: rest) = c :: normalise (d :: rest) :=
            normalise_lone here (by simpa using next)
          simp only [lone, letterThen, steady (d :: rest)]
        | true =>
          obtain ⟨more, wide⟩ := normalise_wide here next rest
          simp [wide, letterThen, Ne.symm unbroken, solid d rest next]

theorem phrase_of_nothing (finder : Finder α) : phraseThen [] finder = finder := by
  funext text
  simp [phraseThen, after?]

theorem phrase_of_letters (letter : Char) (phrase : List Char) (finder : Finder α) :
    phraseThen (letter :: phrase) finder = letterThen letter (phraseThen phrase finder) := by
  funext text
  cases text with
  | nil => rfl
  | cons c rest =>
    by_cases same : c = letter
    · simp [phraseThen, letterThen, after?, same]
    · simp [phraseThen, letterThen, after?, same, Ne.symm same]

-- Words with single blanks between them, and no line feeds.
structure Narrow (phrase : List Char) : Prop where
  unbroken : '\n' ∉ phrase
  single : phrase.IsChain fun c d => Text.isBlank c = false ∨ Text.isBlank d = false

theorem Narrow.tail {letter : Char} {phrase : List Char} (narrow : Narrow (letter :: phrase)) :
    Narrow phrase :=
  ⟨fun member => narrow.unbroken (List.mem_cons_of_mem _ member), narrow.single.tail⟩

theorem phrase_solid {phrase : List Char} (nonempty : phrase ≠ [])
    (first : ∀ c ∈ phrase.head?, Text.isBlank c = false) (finder : Finder α) :
    Solid (phraseThen phrase finder) := by
  cases phrase with
  | nil => exact absurd rfl nonempty
  | cons letter phrase =>
    rw [phrase_of_letters]
    exact letter_solid (first letter rfl) _

-- Either the phrase ends with something visible, or what is looked for behind it begins so.
theorem phrase_steady {phrase : List Char} (narrow : Narrow phrase) {finder : Finder α}
    (steady : Steady finder)
    (closed : Solid finder ∨ ∀ c ∈ phrase.getLast?, Text.isBlank c = false) :
    Steady (phraseThen phrase finder) := by
  induction phrase with
  | nil =>
    rw [phrase_of_nothing]
    exact steady
  | cons letter phrase ih =>
    rw [phrase_of_letters]
    have rest : Steady (phraseThen phrase finder) := by
      apply ih narrow.tail
      cases phrase with
      | nil => simp
      | cons d phrase => simpa using closed
    cases blank : Text.isBlank letter with
    | false => exact letter_steady blank rest
    | true =>
      have unbroken : letter ≠ '\n' := fun same => narrow.unbroken (by simp [same])
      apply unbroken_steady unbroken rest
      cases phrase with
      | nil =>
        rw [phrase_of_nothing]
        simpa [blank] using closed
      | cons d phrase =>
        have single := List.isChain_cons_cons.mp narrow.single
        exact phrase_solid (by simp) (by simpa [blank] using single.1) finder

theorem search_past_blanks {finder : Finder α} (solid : Solid finder) {blanks : List Char}
    (blank : ∀ c ∈ blanks, Text.isBlank c = true) (text : List Char) :
    search finder (blanks ++ text) = search finder text := by
  induction blanks with
  | nil => rfl
  | cons c others ih =>
    rw [List.cons_append, search, solid c _ (blank c (by simp)), Option.none_or]
    exact ih fun d member => blank d (by simp [member])

-- The induction is on the text behind a gap: blanks on the way are passed in both texts, and at
-- everything else the finder stands before a text and what that is normalised to.
theorem search_normalised {finder : Finder α} (steady : Steady finder) (solid : Solid finder)
    (text : List Char) : search finder (normalise text) = search finder text := by
  suffices behind : ∀ gap : Gap, (∀ c ∈ gap.text, Text.isBlank c = true) →
      search finder (closeGaps gap text) = search finder text by
    exact behind .none (by simp [Gap.text])
  induction text with
  | nil =>
    intro gap blanks
    have passed := search_past_blanks solid blanks []
    rwa [List.append_nil] at passed
  | cons c rest ih =>
    intro gap blanks
    rw [closeGaps]
    cases here : Text.isBlank c with
    | true =>
      rw [if_pos rfl, ih _ (gap_stays_blank blanks here), search, solid c rest here, Option.none_or]
    | false =>
      have found := steady (c :: rest)
      rw [normalise_visible here, normalise] at found
      rw [if_neg Bool.false_ne_true, search_past_blanks solid blanks, search, search, found,
        ih .none (by simp [Gap.text])]

theorem blank_no_digit {c : Char} (blank : Text.isBlank c = true) : Text.digit? c = none := by
  cases read : Text.digit? c with
  | none => rfl
  | some figure =>
    rw [Number.figure_not_blank read] at blank
    cases blank

theorem leading_figures_normalised (text : List Char) :
    leadingFigures (normalise text) = leadingFigures text := by
  induction text with
  | nil => rfl
  | cons c rest ih =>
    cases blank : Text.isBlank c with
    | true =>
      obtain ⟨first, more, normal, still⟩ := normalise_blank blank rest
      rw [normal, leadingFigures, leadingFigures, blank_no_digit still, blank_no_digit blank]
    | false => rw [normalise_visible blank, leadingFigures, leadingFigures, ih]

theorem position_solid : Solid positionHere? := by
  intro blank rest here
  have unsigned : blank ≠ '-' := by
    intro same
    rw [same] at here
    exact absurd here (by decide)
  simp [positionHere?, unsigned, leadingFigures, blank_no_digit here]

theorem position_steady : Steady positionHere? := by
  apply steady_of_visible position_solid
  intro c rest visible
  have figures := leading_figures_normalised (c :: rest)
  rw [normalise_visible visible] at figures
  by_cases minus : c = '-'
  · simp [positionHere?, minus, leading_figures_normalised]
  · simp [positionHere?, minus, figures]

theorem first_position_search (phrases : List (List Char)) (text : List Char) :
    firstPosition? phrases text =
      search (fun text => phrases.findSome? fun phrase => phraseThen phrase positionHere? text)
        text := by
  induction text with
  | nil => rfl
  | cons c rest ih =>
    rw [firstPosition?, search, ih]
    simp only [phraseThen]
    split
    · rename_i position found
      rw [found, Option.some_or]
    · rename_i nothing
      rw [nothing, Option.none_or]

theorem occurs_search {phrase : List Char} (nonempty : phrase ≠ []) (text : List Char) :
    Text.occurs phrase text = (search (phraseThen phrase fun _ => some ()) text).isSome := by
  induction text with
  | nil => simp [Text.occurs, search, nonempty]
  | cons c rest ih =>
    rw [Text.occurs, search, ih, phraseThen, after?]
    split
    · rename_i begun
      simp [begun]
    · rename_i begun
      simp [begun]

-- A phrase that begins with something visible.
structure Starts (phrase : List Char) : Prop extends Narrow phrase where
  nonempty : phrase ≠ []
  first : ∀ c ∈ phrase.head?, Text.isBlank c = false

-- Checked for the one character that there is, and not for all characters.
theorem visible_exact (c? : Option Char) : (∀ c ∈ c?, Text.isBlank c = false) ↔
    (c?.all fun c => !Text.isBlank c) = true := by
  cases c? <;> simp

theorem starts_exact (phrase : List Char) : Starts phrase ↔
    ('\n' ∉ phrase ∧ phrase.IsChain fun c d => Text.isBlank c = false ∨ Text.isBlank d = false) ∧
      phrase ≠ [] ∧ (phrase.head?.all fun c => !Text.isBlank c) = true := by
  rw [← visible_exact]
  constructor
  · intro starts
    exact ⟨⟨starts.unbroken, starts.single⟩, starts.nonempty, starts.first⟩
  · intro parts
    exact ⟨⟨parts.1.1, parts.1.2⟩, parts.2.1, parts.2.2⟩

instance (phrase : List Char) : Decidable (Starts phrase) :=
  decidable_of_iff _ (starts_exact phrase).symm

theorem phrase_starts (side : Side) : ∀ phrase ∈ (phrases side).map String.toList, Starts phrase := by
  cases side <;> decide

theorem wording_starts (command : Command) : ∀ wording ∈ command.wordings,
    Starts wording.toList ∧ ∀ c ∈ wording.toList.getLast?, Text.isBlank c = false := by
  simp only [visible_exact]
  cases command <;> decide

theorem first_of_steady {finders : List (Finder α)} (steady : ∀ finder ∈ finders, Steady finder) :
    Steady fun text => finders.findSome? fun finder => finder text := by
  intro text
  induction finders with
  | nil => rfl
  | cons finder others ih =>
    have here : finder (normalise text) = finder text := steady finder (by simp) text
    have rest : others.findSome? (fun finder => finder (normalise text)) =
        others.findSome? fun finder => finder text :=
      ih fun other member => steady other (by simp [member])
    simp only [List.findSome?_cons, here, rest]

theorem first_of_solid {finders : List (Finder α)} (solid : ∀ finder ∈ finders, Solid finder) :
    Solid fun text => finders.findSome? fun finder => finder text := by
  intro blank rest here
  apply List.findSome?_eq_none_iff.mpr
  intro finder member
  exact solid finder member blank rest here

theorem first_position_normalised (side : Side) (text : List Char) :
    firstPosition? ((phrases side).map String.toList) (normalise text) =
      firstPosition? ((phrases side).map String.toList) text := by
  let finders : List (Finder (Bool × List Nat)) :=
    ((phrases side).map String.toList).map fun phrase => phraseThen phrase positionHere?
  have searched : ∀ text, firstPosition? ((phrases side).map String.toList) text =
      search (fun text => finders.findSome? fun finder => finder text) text := by
    intro text
    rw [first_position_search]
    simp only [finders, List.findSome?_map, Function.comp_def]
  have steady : ∀ finder ∈ finders, Steady finder := by
    intro finder member
    obtain ⟨phrase, among, rfl⟩ := List.mem_map.mp member
    have starts := phrase_starts side phrase among
    exact phrase_steady starts.toNarrow position_steady (.inl position_solid)
  have solid : ∀ finder ∈ finders, Solid finder := by
    intro finder member
    obtain ⟨phrase, among, rfl⟩ := List.mem_map.mp member
    have starts := phrase_starts side phrase among
    exact phrase_solid starts.nonempty starts.first _
  rw [searched, searched]
  exact search_normalised (first_of_steady steady) (first_of_solid solid) text

theorem ear_positions_normalised (text : List Char) :
    earPositions (normalise text) = earPositions text := by
  have same : ∀ side, positionOf side (normalise text) = positionOf side text := by
    intro side
    rw [positionOf, positionOf, first_position_normalised]
  rw [earPositions, earPositions, same, same]

theorem occurs_normalised {phrase : List Char} (starts : Starts phrase)
    (last : ∀ c ∈ phrase.getLast?, Text.isBlank c = false) (text : List Char) :
    Text.occurs phrase (normalise text) = Text.occurs phrase text := by
  have steady : Steady (phraseThen phrase fun _ => some ()) :=
    phrase_steady starts.toNarrow (fun _ => rfl) (.inr last)
  have solid := phrase_solid starts.nonempty starts.first (fun _ => some ())
  rw [occurs_search starts.nonempty, occurs_search starts.nonempty, search_normalised steady solid]

theorem acknowledged_normalised (command : Command) (text : String) :
    command.acknowledgedIn (normalised text) = command.acknowledgedIn text := by
  unfold Command.acknowledgedIn
  rw [Bool.eq_iff_iff, List.any_eq_true, List.any_eq_true]
  have same : ∀ wording ∈ command.wordings,
      Text.occurs wording.toList (normalised text).toList =
        Text.occurs wording.toList text.toList := by
    intro wording member
    have begun := wording_starts command wording member
    rw [normalised, String.toList_ofList]
    exact occurs_normalised begun.1 begun.2 _
  apply exists_congr
  intro wording
  apply and_congr_right
  intro member
  rw [same wording member]

-- Normalising takes nothing from a reply that is read from it later, and adds nothing: every command
-- is acknowledged as before, and the same positions are found, or the same failure.
theorem normalising_keeps_findings (text : String) :
    (∀ command : Command,
      command.acknowledgedIn (normalised text) = command.acknowledgedIn text) ∧
    earPositions (normalised text).toList = earPositions text.toList := by
  refine ⟨fun command => acknowledged_normalised command text, ?_⟩
  rw [normalised, String.toList_ofList]
  exact ear_positions_normalised text.toList

end RabbitRemote.Reply
