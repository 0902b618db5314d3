import RabbitRemote.Proofs.Reply.Findings
import RabbitRemote.Proofs.Reply.Numbered

namespace RabbitRemote.Reply

variable {α : Type}

-- A position at the beginning of a text: one of the phrases for its side, and a number behind it.
def Told (side : Side) (text : List Char) (factor : Int) (figures : List Nat) : Prop :=
  ∃ phrase ∈ phrases side, ∃ rest, text = phrase.toList ++ rest ∧ Numbered rest factor figures

-- The earliest place at which a position is told. Phrases before it with no number behind them do
-- not count.
def FirstTold (side : Side) (text : List Char) (factor : Int) (figures : List Nat) : Prop :=
  ∃ place, Told side (text.drop place) factor figures ∧
    ∀ sooner < place, ∀ other more, ¬ Told side (text.drop sooner) other more

-- The value of that position: its figures in their places, and its sign.
def Reads (side : Side) (text : List Char) (value : Int) : Prop :=
  ∃ factor figures, FirstTold side text factor figures ∧
    value = factor * (Nat.ofDigits 10 figures.reverse : Nat)

-- A search finds what stands at the earliest place where there is anything to be found.
theorem search_exact {finder : Finder α} (nothing : finder [] = none) (text : List Char)
    (found : α) : search finder text = some found ↔
      ∃ place, finder (text.drop place) = some found ∧
        ∀ sooner < place, finder (text.drop sooner) = none := by
  induction text with
  | nil => simp [search, nothing]
  | cons c rest ih =>
    rw [search]
    cases here : finder (c :: rest) with
    | some other =>
      rw [Option.some_or]
      constructor
      · intro same
        exact ⟨0, here.trans same, by simp⟩
      · rintro ⟨place, there, first⟩
        cases place with
        | zero => exact here.symm.trans there
        | succ place => cases here.symm.trans (first 0 (Nat.succ_pos _))
    | none =>
      rw [Option.none_or, ih]
      constructor
      · rintro ⟨place, there, first⟩
        refine ⟨place + 1, there, ?_⟩
        intro sooner before
        cases sooner with
        | zero => exact here
        | succ sooner => exact first sooner (by omega)
      · rintro ⟨place, there, first⟩
        cases place with
        | zero => cases here.symm.trans there
        | succ place => exact ⟨place, there, fun sooner before => first (sooner + 1) (by omega)⟩

theorem after_exact {phrase text rest : List Char} :
    after? phrase text = some rest ↔ text = phrase ++ rest := by
  unfold after?
  constructor
  · intro stripped
    split at stripped
    · rename_i begun
      obtain ⟨tail, rfl⟩ := List.isPrefixOf_iff_prefix.mp begun
      cases stripped
      rw [List.drop_left]
    · cases stripped
  · rintro rfl
    simp

-- What is looked for at each place of a text.
def positionFinder (side : Side) : Finder (Bool × List Nat) :=
  fun text => ((phrases side).map String.toList).findSome? fun phrase =>
    phraseThen phrase positionHere? text

-- No phrase begins another one of its side.
theorem phrase_alone {side : Side} {text : List Char} {phrase other : String}
    (member : phrase ∈ phrases side) (among : other ∈ phrases side)
    (begun : phrase.toList <+: text) (too : other.toList <+: text) : phrase = other := by
  have apart : ∀ one ∈ phrases side, ∀ two ∈ phrases side,
      one.toList.isPrefixOf two.toList = true → one = two := by
    cases side <;> decide
  rcases List.prefix_or_prefix_of_prefix begun too with shorter | longer
  · exact apart _ member _ among (List.isPrefixOf_iff_prefix.mpr shorter)
  · exact (apart _ among _ member (List.isPrefixOf_iff_prefix.mpr longer)).symm

theorem told_of_finder {side : Side} {text : List Char} {negative : Bool} {figures : List Nat}
    (found : positionFinder side text = some (negative, figures)) :
    ∃ phrase ∈ phrases side, ∃ rest, text = phrase.toList ++ rest ∧
      positionHere? rest = some (negative, figures) := by
  obtain ⟨letters, member, behind⟩ := List.exists_of_findSome?_eq_some found
  obtain ⟨phrase, among, rfl⟩ := List.mem_map.mp member
  obtain ⟨rest, stripped, position⟩ := Option.bind_eq_some_iff.mp behind
  exact ⟨phrase, among, rest, after_exact.mp stripped, position⟩

theorem finder_of_told {side : Side} {text : List Char} {factor : Int} {figures : List Nat}
    (told : Told side text factor figures) : ∃ negative,
      positionFinder side text = some (negative, figures) ∧ factor = if negative then -1 else 1 := by
  obtain ⟨phrase, among, rest, rfl, numbered⟩ := told
  obtain ⟨negative, position, sign⟩ := position_of_numbered numbered
  have here : phraseThen phrase.toList positionHere? (phrase.toList ++ rest) =
      some (negative, figures) := by
    rw [phraseThen, after_exact.mpr rfl, Option.bind_some, position]
  have tells : (positionFinder side (phrase.toList ++ rest)).isSome = true := by
    apply List.findSome?_isSome_iff.mpr
    exact ⟨phrase.toList, List.mem_map_of_mem among, by rw [here]; rfl⟩
  obtain ⟨⟨other, more⟩, found⟩ := Option.isSome_iff_exists.mp tells
  obtain ⟨word, member, behind, parts, same⟩ := told_of_finder found
  have alone : phrase = word := by
    apply phrase_alone among member (List.prefix_append phrase.toList rest)
    rw [parts]
    exact List.prefix_append _ _
  subst alone
  rw [← List.append_cancel_left parts, position] at same
  cases same
  exact ⟨negative, found, sign⟩

theorem told_exact {side : Side} {text : List Char} {negative : Bool} {figures : List Nat} :
    positionFinder side text = some (negative, figures) ↔
      Told side text (if negative then -1 else 1) figures := by
  constructor
  · intro found
    obtain ⟨phrase, among, rest, parts, position⟩ := told_of_finder found
    exact ⟨phrase, among, rest, parts, numbered_of_position position⟩
  · intro told
    obtain ⟨sign, found, factor⟩ := finder_of_told told
    have same : negative = sign := by cases negative <;> cases sign <;> simp at factor ⊢
    rw [same, found]

theorem untold_exact {side : Side} {text : List Char} :
    positionFinder side text = none ↔ ∀ factor figures, ¬ Told side text factor figures := by
  constructor
  · intro nothing factor figures told
    obtain ⟨negative, found, _⟩ := finder_of_told told
    cases nothing.symm.trans found
  · intro untold
    cases found : positionFinder side text with
    | none => rfl
    | some position => exact absurd (told_exact.mp found) (untold _ _)

theorem first_told_exact {side : Side} {text : List Char} {negative : Bool} {figures : List Nat} :
    firstPosition? ((phrases side).map String.toList) text = some (negative, figures) ↔
      FirstTold side text (if negative then -1 else 1) figures := by
  have nothing : positionFinder side [] = none := by cases side <;> rfl
  rw [first_position_search]
  simp only [FirstTold, ← told_exact, ← untold_exact]
  exact search_exact nothing text (negative, figures)

-- A position that is told is read unless it has too many figures.
theorem position_of_first {side : Side} {text : List Char} {factor : Int} {figures : List Nat}
    (first : FirstTold side text factor figures) : positionOf side text =
      if Number.figureLimit < figures.length then .error (.literalTooLong figures.length)
      else .ok (some (factor * (Nat.ofDigits 10 figures.reverse : Nat))) := by
  have signed : ∃ negative : Bool, factor = if negative then -1 else 1 := by
    obtain ⟨place, told, _⟩ := first
    obtain ⟨negative, _, sign⟩ := finder_of_told told
    exact ⟨negative, sign⟩
  obtain ⟨negative, rfl⟩ := signed
  simp only [positionOf, first_told_exact.mpr first, Number.of_figures_by_place]
  cases negative <;> simp

theorem position_of_untold {side : Side} {text : List Char}
    (untold : ∀ factor figures, ¬ FirstTold side text factor figures) :
    positionOf side text = .ok none := by
  unfold positionOf
  cases found : firstPosition? ((phrases side).map String.toList) text with
  | none => rfl
  | some position => exact absurd (first_told_exact.mp found) (untold _ _)

theorem first_of_told {side : Side} {text : List Char} {place : Nat} {factor : Int}
    {figures : List Nat} (told : Told side (text.drop place) factor figures) :
    ∃ factor figures, FirstTold side text factor figures := by
  classical
  have somewhere : ∃ place factor figures, Told side (text.drop place) factor figures :=
    ⟨place, factor, figures, told⟩
  obtain ⟨first, more, here⟩ := Nat.find_spec somewhere
  refine ⟨first, more, Nat.find somewhere, here, ?_⟩
  intro sooner before other rest also
  exact Nat.find_min somewhere before ⟨other, rest, also⟩

theorem told_or_untold (side : Side) (text : List Char) :
    (∃ factor figures, FirstTold side text factor figures) ∨
      ∀ factor figures, ¬ FirstTold side text factor figures := by
  by_cases told : ∃ factor figures, FirstTold side text factor figures
  · exact .inl told
  · exact .inr fun factor figures first => told ⟨factor, figures, first⟩

-- The position of that side has more figures than a number may have.
def TooLong (side : Side) (text : List Char) (count : Nat) : Prop :=
  ∃ factor figures, FirstTold side text factor figures ∧ Number.figureLimit < figures.length ∧
    count = figures.length

-- A phrase, perhaps a minus sign, and digits, more of them than a number may have.
def Overlong (text : List Char) : Prop := ∃ side, ∃ phrase ∈ phrases side, ∃ minus digits,
  (minus = [] ∨ minus = ['-']) ∧ (∀ c ∈ digits, Text.isDigit c = true) ∧
    Number.figureLimit < digits.length ∧ phrase.toList ++ (minus ++ digits) <:+: text

theorem overlong_of_too_long {side : Side} {text : List Char} {count : Nat}
    (long : TooLong side text count) : Overlong text := by
  obtain ⟨_, _, ⟨place, ⟨phrase, member, behind, parts, numbered⟩, _⟩, long, rfl⟩ := long
  cases numbered with
  | @written sign digits rest _ _ signed figured some longest =>
    rw [← figured.length_eq] at long
    have stands : phrase.toList ++ (sign ++ digits) <:+: text.drop place := by
      rw [parts]
      exact ⟨[], rest, by simp⟩
    exact ⟨side, phrase, member, sign, digits, signed.either, figured.digits, long,
      stands.trans (List.drop_suffix place text).isInfix⟩

-- Nothing keeps a position from being read but too many figures.
theorem position_unread_exact (side : Side) (text : List Char) (failure : Failure) :
    positionOf side text = .error failure ↔
      ∃ count, TooLong side text count ∧ failure = .literalTooLong count := by
  constructor
  · intro unread
    rcases told_or_untold side text with ⟨factor, figures, first⟩ | untold
    · rw [position_of_first first] at unread
      split at unread
      · rename_i long
        exact ⟨_, ⟨factor, figures, first, long, rfl⟩, (Except.error.inj unread).symm⟩
      · cases unread
    · rw [position_of_untold untold] at unread
      cases unread
  · rintro ⟨_, ⟨factor, figures, first, long, rfl⟩, rfl⟩
    rw [position_of_first first, if_pos long]

theorem position_read_exact {side : Side} {text : List Char} {position? : Option Int}
    (read : positionOf side text = .ok position?) (value : Int) :
    Reads side text value ↔ position? = some value := by
  have known : ∀ {factor : Int} {figures : List Nat}, FirstTold side text factor figures →
      position? = some (factor * (Nat.ofDigits 10 figures.reverse : Nat)) := by
    intro factor figures first
    rw [position_of_first first] at read
    split at read
    · cases read
    · exact (Except.ok.inj read).symm
  constructor
  · rintro ⟨factor, figures, first, rfl⟩
    exact known first
  · rintro rfl
    rcases told_or_untold side text with ⟨factor, figures, first⟩ | untold
    · exact ⟨factor, figures, first, Option.some.inj (known first)⟩
    · rw [position_of_untold untold] at read
      cases read

-- The left position is read first, so that one that is too long on the right only matters behind a
-- left one that is not.
inductive Unreadable (text : List Char) : Nat → Prop where
  | left {count : Nat} (long : TooLong .left text count) : Unreadable text count
  | right {count : Nat} (readable : ∀ count, ¬ TooLong .left text count)
      (long : TooLong .right text count) : Unreadable text count

theorem overlong_of_unreadable {text : List Char} {count : Nat} (unreadable : Unreadable text count) :
    Overlong text := by
  cases unreadable with
  | left long => exact overlong_of_too_long long
  | right _ long => exact overlong_of_too_long long

-- The ears as they are told: one without the other is not known.
def AsTold (text : List Char) : EarPositions → Prop
  | .known left right => Reads .left text left ∧ Reads .right text right
  | .unknown => ¬ ((∃ left, Reads .left text left) ∧ ∃ right, Reads .right text right)

def together : Option Int → Option Int → EarPositions
  | some left, some right => .known left right
  | _, _ => .unknown

theorem ear_positions_of_sides {text : List Char} {left? right? : Option Int}
    (left : positionOf .left text = .ok left?) (right : positionOf .right text = .ok right?) :
    earPositions text = .ok (together left? right?) := by
  rw [earPositions, left, right]
  cases left? <;> cases right? <;> rfl

theorem ear_positions_as_told {text : List Char} {left? right? : Option Int}
    (left : positionOf .left text = .ok left?) (right : positionOf .right text = .ok right?)
    (ears : EarPositions) : earPositions text = .ok ears ↔ AsTold text ears := by
  have leftTold := position_read_exact left
  have rightTold := position_read_exact right
  rw [ear_positions_of_sides left right]
  cases ears <;> simp only [AsTold, leftTold, rightTold] <;>
    cases left? <;> cases right? <;> simp [together]

theorem position_readable {side : Side} {text : List Char}
    (readable : ∀ count, ¬ TooLong side text count) :
    ∃ position?, positionOf side text = .ok position? := by
  cases found : positionOf side text with
  | ok position? => exact ⟨position?, rfl⟩
  | error failure =>
    obtain ⟨count, long, _⟩ := (position_unread_exact side text failure).mp found
    exact absurd long (readable count)

theorem ear_positions_unread_exact (text : List Char) (failure : Failure) :
    earPositions text = .error failure ↔
      ∃ count, Unreadable text count ∧ failure = .literalTooLong count := by
  constructor
  · intro unread
    rw [earPositions] at unread
    cases left : positionOf .left text with
    | error reason =>
      rw [left] at unread
      cases unread
      obtain ⟨count, long, same⟩ := (position_unread_exact _ _ _).mp left
      exact ⟨count, .left long, same⟩
    | ok left? =>
      cases right : positionOf .right text with
      | error reason =>
        rw [left, right] at unread
        cases unread
        obtain ⟨count, long, same⟩ := (position_unread_exact _ _ _).mp right
        refine ⟨count, .right ?_ long, same⟩
        intro other tooLong
        cases left.symm.trans ((position_unread_exact _ _ _).mpr ⟨other, tooLong, rfl⟩)
      | ok right? =>
        cases unread.symm.trans (ear_positions_of_sides left right)
  · rintro ⟨count, unreadable, rfl⟩
    rw [earPositions]
    cases unreadable with
    | left long => rw [(position_unread_exact _ _ _).mpr ⟨count, long, rfl⟩]; rfl
    | right readable long =>
      obtain ⟨left?, left⟩ := position_readable readable
      rw [left, (position_unread_exact _ _ _).mpr ⟨count, long, rfl⟩]
      rfl

theorem ear_positions_readable {text : List Char} (readable : ∀ count, ¬ Unreadable text count) :
    ∃ ears, earPositions text = .ok ears := by
  cases found : earPositions text with
  | ok ears => exact ⟨ears, rfl⟩
  | error failure =>
    obtain ⟨count, unreadable, _⟩ := (ear_positions_unread_exact text failure).mp found
    exact absurd unreadable (readable count)

theorem ear_positions_read_exact (text : List Char) (ears : EarPositions) :
    earPositions text = .ok ears ↔ (∀ count, ¬ Unreadable text count) ∧ AsTold text ears := by
  have told : (∀ count, ¬ Unreadable text count) →
      (earPositions text = .ok ears ↔ AsTold text ears) := by
    intro readable
    have leftReadable : ∀ count, ¬ TooLong .left text count :=
      fun count long => readable count (.left long)
    obtain ⟨left?, left⟩ := position_readable leftReadable
    obtain ⟨right?, right⟩ := position_readable fun count long =>
      readable count (.right leftReadable long)
    exact ear_positions_as_told left right ears
  constructor
  · intro read
    have readable : ∀ count, ¬ Unreadable text count := by
      intro count unreadable
      cases read.symm.trans ((ear_positions_unread_exact _ _).mpr ⟨count, unreadable, rfl⟩)
    exact ⟨readable, (told readable).mp read⟩
  · rintro ⟨readable, asTold⟩
    exact (told readable).mpr asTold

-- No run of digits in a text is longer than a number may be.
def ShortRuns (text : List Char) : Prop :=
  ∀ run, run <:+: text → (∀ c ∈ run, Text.isDigit c = true) → run.length ≤ Number.figureLimit

theorem legible_of_short_runs {text : List Char} (short : ShortRuns text) : ¬ Overlong text := by
  rintro ⟨_, phrase, _, minus, digits, _, all, long, stands⟩
  have within : digits <:+: phrase.toList ++ (minus ++ digits) :=
    ⟨phrase.toList ++ minus, [], by simp⟩
  exact Nat.not_lt_of_le (short digits (within.trans stands) all) long

-- The positions in a text are those that are told first, each side for itself. They are known
-- together or not at all.
theorem positions_as_first_told (text : List Char) (short : ShortRuns text) :
    (∀ ears, earPositions text = .ok ears ↔ AsTold text ears) ∧
    ∃ ears, earPositions text = .ok ears ∧ ears.left?.isSome = ears.right?.isSome := by
  have readable : ∀ count, ¬ Unreadable text count := by
    intro count unreadable
    exact legible_of_short_runs short (overlong_of_unreadable unreadable)
  constructor
  · intro ears
    rw [ear_positions_read_exact]
    exact and_iff_right readable
  · obtain ⟨ears, read⟩ := ear_positions_readable readable
    exact ⟨ears, read, by cases ears <;> rfl⟩

-- A phrase with no number behind it is passed over, whichever language the next one is in.
theorem first_of_two_languages :
    let text := "Left position = Position gauche = -٣7 Right position = 2, Left position = 5".toList
    ShortRuns text ∧ Reads .left text (-37) ∧ Reads .right text 2 := by
  intro text
  have short : ShortRuns text := by
    intro run within _
    exact Nat.le_trans within.length_le (by decide)
  have read : earPositions text = .ok (.known (-37) 2) := rfl
  exact ⟨short, ((positions_as_first_told text short).1 (.known (-37) 2)).mp read⟩

end RabbitRemote.Reply
