namespace RabbitRemote.Text

-- Cutting keeps empty pieces: a text with n separators has n + 1 pieces.
def cut (separator : Char) : List Char → List (List Char)
  | [] => [[]]
  | c :: rest =>
    if c = separator then [] :: cut separator rest
    else match cut separator rest with
      | [] => [[c]]
      | piece :: pieces => (c :: piece) :: pieces

theorem cut_nonempty (separator : Char) (text : List Char) : cut separator text ≠ [] := by
  cases text with
  | nil => simp [cut]
  | cons c rest =>
    unfold cut
    split
    · simp
    · split <;> simp

theorem cut_joins (separator : Char) (text : List Char) :
    [separator].intercalate (cut separator text) = text := by
  induction text with
  | nil => rfl
  | cons c rest ih =>
    unfold cut
    split
    · rename_i same
      subst same
      cases pieces : cut c rest with
      | nil => exact absurd pieces (cut_nonempty _ _)
      | cons piece more =>
        rw [pieces] at ih
        simp [List.intercalate_cons_cons, ih]
    · cases pieces : cut separator rest with
      | nil => exact absurd pieces (cut_nonempty _ _)
      | cons piece more =>
        rw [pieces] at ih
        cases more with
        | nil => simpa using ih
        | cons next more =>
          simp only [List.intercalate_cons_cons, List.cons_append] at ih ⊢
          rw [ih]

def cutOnce (separator : Char) : List Char → List Char × Option (List Char)
  | [] => ([], none)
  | c :: rest =>
    if c = separator then ([], some rest)
    else let (before, after) := cutOnce separator rest
      (c :: before, after)

-- The characters that fit into a number of octets. A replacement mark stands for one that fits in
-- part only.
def withinOctets (limit : Nat) : List Char → List Char
  | [] => []
  | c :: rest =>
    if c.utf8Size ≤ limit then c :: withinOctets (limit - c.utf8Size) rest
    else if limit = 0 then []
    else [Char.ofNat 0xFFFD]

def occurs (phrase : List Char) : List Char → Bool
  | [] => phrase.isEmpty
  | c :: rest => phrase.isPrefixOf (c :: rest) || occurs phrase rest

theorem occurs_exact (phrase text : List Char) : occurs phrase text = true ↔ phrase <:+: text := by
  induction text with
  | nil => simp [occurs, List.isEmpty_iff]
  | cons c rest ih =>
    rw [occurs, Bool.or_eq_true, ih, List.isPrefixOf_iff_prefix, List.infix_cons_iff]

end RabbitRemote.Text
