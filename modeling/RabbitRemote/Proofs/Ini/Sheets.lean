import RabbitRemote.Ini.Reader
import RabbitRemote.Proofs.Charset.Spelling
import RabbitRemote.Proofs.Ini.PlainLines
import RabbitRemote.Proofs.Ledger

namespace RabbitRemote.Ini

namespace Reader
variable {source : String} {number : Nat} {raw : List Char} {reader : Reader}

theorem options_after_put (reader : Reader) (name other : String) (options : DraftOptions) :
    (reader.putOptions name options).optionsOf other =
      if name = other then options else reader.optionsOf other := by
  unfold putOptions optionsOf
  by_cases shared : name = Document.sharedName
  · subst shared
    by_cases same : other = Document.sharedName
    · simp [same]
    · simp [same, Ne.symm same]
  · by_cases same : name = other
    · subst same
      simp [shared, Ledger.get_put]
    · by_cases sharedToo : other = Document.sharedName
      · simp [shared, sharedToo]
      · simp [shared, sharedToo, same, Ledger.get_put]

-- Putting options into a section leaves all else as it is.
structure Framed (reader after : Reader) : Prop where
  shared : after.shared = reader.shared
  unreadable : after.unreadable = reader.unreadable
  current : after.current? = reader.current?
  headers : after.headers = reader.headers
  assigned : after.assigned = reader.assigned

theorem put_options_framed (reader : Reader) {name : String} (own : name ≠ Document.sharedName)
    (options : DraftOptions) : Framed reader (reader.putOptions name options) := by
  rw [putOptions, if_neg own]
  exact ⟨rfl, rfl, rfl, rfl, rfl⟩

-- What an option says so far, as its lines are joined in the end.
def tells (reader : Reader) (place : String × String) : List Char :=
  Text.trimEnd (['\n'].intercalate ((Ledger.get? (reader.optionsOf place.1) place.2).getD []))

theorem tells_after_options (reader : Reader) (name : String) (place : String × String) :
    (reader.putOptions name (reader.optionsOf name)).tells place = reader.tells place := by
  unfold tells
  rw [options_after_put]
  split
  · rename_i same
    rw [same]
  · rfl

theorem tells_after_lines (reader : Reader) (name option : String) (lines : List (List Char))
    (place : String × String) : (reader.putLines name option lines).tells place =
      if (name, option) = place then Text.trimEnd (['\n'].intercalate lines)
      else reader.tells place := by
  obtain ⟨other, key⟩ := place
  unfold tells putLines
  rw [options_after_put]
  by_cases same : name = other
  · subst same
    by_cases here : option = key
    · simp [here, Ledger.get_put]
    · simp [here, Ledger.get_put]
  · simp [same]

-- Empty lines behind a value are no part of it.
theorem tells_after_blank (reader : Reader) (name option : String) (place : String × String) :
    (reader.continueWith name option []).tells place = reader.tells place := by
  rw [continueWith, tells_after_lines]
  split
  · rename_i same
    subst same
    unfold tells
    cases lines : (Ledger.get? (reader.optionsOf name) option).getD [] with
    | nil => rfl
    | cons first more =>
      rw [Text.joined_append (by simp) (by simp)]
      exact Text.trim_end_past_blanks _ (List.forall_mem_singleton.mpr (by decide))
  · rfl

-- What a plain line makes of a reader.
structure Follows (line : PlainLine) (reader after : Reader) : Prop where
  shared : after.shared = reader.shared
  unreadable : after.unreadable = reader.unreadable
  current : after.current? = line.under reader.current?
  headers : after.headers = line.heading?.toList ++ reader.headers
  assigned : after.assigned = line.place?.toList ++ reader.assigned
  tells : ∀ place, after.tells place = line.said place (reader.tells place)

theorem word_is_section {name : String} (word : IsWord name.toList) :
    name ≠ Document.sharedName := by
  rintro rfl
  exact absurd word (by decide)

theorem blank_read (own : ∀ name ∈ reader.current?, name ≠ Document.sharedName)
    (blank : ∀ c ∈ raw, Text.isBlank c = true) : ∃ after,
      reader.readLine source number raw = .ok after ∧ Follows .blank reader after := by
  unfold readLine
  rw [line_of_blank blank]
  cases current : reader.current? with
  | none => exact ⟨reader, rfl, rfl, rfl, rfl, rfl, rfl, fun _ => rfl⟩
  | some name =>
    cases reader.option? with
    | none => exact ⟨reader, rfl, rfl, rfl, rfl, rfl, rfl, fun _ => rfl⟩
    | some option =>
      obtain ⟨shared, unreadable, stays, headers, assigned⟩ :=
        put_options_framed reader (own name current) _
      exact ⟨_, rfl, shared, unreadable, stays, headers, assigned,
        tells_after_blank reader name option⟩

-- A line that is not indented continues nothing.
theorem content_read {text : List Char} (content : Line.of raw = .content 0 text) :
    reader.readLine source number raw =
      readEntry source number raw text { reader with indent := 0 } := by
  unfold readLine
  rw [content]
  cases reader.current? with
  | none => rfl
  | some name =>
    cases reader.option? with
    | none => rfl
    | some option =>
      dsimp only
      rw [if_neg (Nat.not_lt_zero _)]

theorem heading_read {name : String} {margin : List Char} (word : IsWord name.toList)
    (fresh : name ∉ reader.headers) (blank : ∀ c ∈ margin, Text.isBlank c = true) : ∃ after,
      reader.readLine source number ((PlainLine.heading name).text ++ margin) = .ok after ∧
        Follows (.heading name) reader after := by
  have own := word_is_section word
  have entry := entry_of_heading word
  rw [String.ofList_toList] at entry
  rw [PlainLine.text, content_read (line_of_heading name.toList blank), readEntry, entry]
  dsimp only
  rw [enter, if_neg own, if_neg fresh]
  let entered : Reader := { reader with indent := 0, current? := some name, option? := none }
  obtain ⟨shared, unreadable, current, _, assigned⟩ :=
    put_options_framed entered own (entered.optionsOf name)
  exact ⟨_, rfl, shared, unreadable, current, rfl, assigned, tells_after_options entered name⟩

theorem entry_read {name option : String} {value margin : List Char} (word : IsWord option.toList)
    (small : Text.lowered option = option) (current : reader.current? = some name)
    (own : name ≠ Document.sharedName) (fresh : (name, option) ∉ reader.assigned)
    (blank : ∀ c ∈ margin, Text.isBlank c = true) : ∃ after,
      reader.readLine source number ((PlainLine.entry (name, option) value).text ++ margin) =
        .ok after ∧ Follows (.entry (name, option) value) reader after := by
  let line := PlainLine.entry (name, option) value
  obtain ⟨said, meant, trimmed⟩ := line_of_assignment word value blank
  have content : Line.of (line.text ++ margin) =
      .content 0 (option.toList ++ ' ' :: '=' :: said) := meant
  have filled : option.isEmpty = false := by
    rw [Bool.eq_false_iff]
    intro empty
    exact word.1 (by simpa using empty)
  have entry := entry_of_assignment word said
  rw [String.ofList_toList, trimmed] at entry
  let ready : Reader := { reader with indent := 0 }
  have assigns : ready.assign source number (line.text ++ margin) name option (Text.trim value) =
      .ok { ready.putLines name option [Text.trim value] with
        option? := some option
        assigned := (name, option) :: reader.assigned } := by
    rw [assign, small]
    dsimp only
    rw [filled]
    exact if_neg fresh
  have reads : ready.readEntry source number (line.text ++ margin)
      (option.toList ++ ' ' :: '=' :: said) =
      ready.assign source number (line.text ++ margin) name option (Text.trim value) := by
    have here : ready.current? = some name := current
    clear_value ready
    rw [readEntry, entry, here]
  rw [content_read content]
  obtain ⟨shared, unreadable, stays, headers, _⟩ := put_options_framed ready own _
  refine ⟨_, reads.trans assigns, shared, unreadable, stays, headers, rfl, ?_⟩
  intro place
  have told := tells_after_lines ready name option [Text.trim value] place
  rw [List.intercalate_singleton, Text.trim_end_of_trim] at told
  exact told

theorem plain_line_read {line : PlainLine} {margin : List Char} (plain : line.IsPlain)
    (own : ∀ name ∈ reader.current?, name ≠ Document.sharedName)
    (stands : line.StandsUnder reader.current?)
    (heading : ∀ name ∈ line.heading?, name ∉ reader.headers)
    (place : ∀ place ∈ line.place?, place ∉ reader.assigned)
    (blank : ∀ c ∈ margin, Text.isBlank c = true) : ∃ after,
      reader.readLine source number (line.text ++ margin) = .ok after ∧
        Follows line reader after := by
  cases line with
  | blank => exact blank_read own blank
  | heading name => exact heading_read plain (heading name rfl) blank
  | entry here value =>
    have current := stands here rfl
    exact entry_read plain.1 plain.2.1 current (own _ current) (place here rfl) blank

end Reader

-- Entries stand under the headings of their sections.
def Placed (current? : Option String) : List PlainLine → Prop
  | [] => True
  | line :: rest => line.StandsUnder current? ∧ Placed (line.under current?) rest

instance Placed.decide : (current? : Option String) → (lines : List PlainLine) →
    Decidable (Placed current? lines)
  | _, [] => inferInstanceAs (Decidable True)
  | current?, line :: rest =>
    have := Placed.decide (line.under current?) rest
    inferInstanceAs (Decidable (_ ∧ _))

-- A file of plain lines in which every section and every option comes once at most.
structure Sheet where
  lines : List PlainLine
  plain : ∀ line ∈ lines, line.IsPlain
  placed : Placed none lines
  headings_once : (lines.filterMap PlainLine.heading?).Nodup
  places_once : (lines.filterMap PlainLine.place?).Nodup

def textOf (lines : List PlainLine) : List Char := ['\n'].intercalate (lines.map PlainLine.text)

def Sheet.text (sheet : Sheet) : List Char := textOf sheet.lines

theorem Sheet.text_of_plain_lines (sheet : Sheet) : ∀ c ∈ sheet.text, c ≠ '\r' := by
  intro c member
  rcases Text.mem_of_joined member with feed | ⟨text, inside, here⟩
  · rw [feed]
    decide
  · obtain ⟨line, listed, rfl⟩ := List.mem_map.mp inside
    exact (PlainLine.text_of_one_line (sheet.plain line listed) c here).1

-- What an option says behind some lines.
def saidBy (lines : List PlainLine) (place : String × String) (before : List Char) : List Char :=
  lines.foldl (fun text line => line.said place text) before

theorem said_by_others {lines : List PlainLine} {place : String × String}
    (others : ∀ value, .entry place value ∉ lines) (before : List Char) :
    saidBy lines place before = before := by
  induction lines generalizing before with
  | nil => rfl
  | cons line rest ih =>
    have same : line.said place before = before := by
      cases line with
      | entry own value =>
        apply if_neg
        rintro rfl
        exact others value List.mem_cons_self
      | _ => rfl
    rw [saidBy, List.foldl_cons, same]
    exact ih (fun value member => others value (List.mem_cons_of_mem _ member)) before

theorem said_by_entry {lines : List PlainLine} {place : String × String} {value : List Char}
    (once : (lines.filterMap PlainLine.place?).Nodup) (assigned : .entry place value ∈ lines)
    (before : List Char) : saidBy lines place before = Text.trim value := by
  induction lines generalizing before with
  | nil => cases assigned
  | cons line rest ih =>
    rcases List.mem_cons.mp assigned with rfl | later
    · have others : ∀ other, .entry place other ∉ rest := by
        intro other member
        obtain ⟨fresh, _⟩ := List.nodup_cons.mp once
        exact fresh (List.mem_filterMap.mpr ⟨_, member, rfl⟩)
      have here : PlainLine.said (.entry place value) place before = Text.trim value := if_pos rfl
      rw [saidBy, List.foldl_cons, here]
      exact said_by_others others _
    · have single : (rest.filterMap PlainLine.place?).Nodup :=
        once.sublist ((List.sublist_cons_self line rest).filterMap _)
      exact ih single later _

namespace Reader
variable {source : String} {number : Nat} {reader after : Reader} {line : PlainLine}
  {lines rest : List PlainLine}

-- What a reader can read to the end.
structure Awaits (reader : Reader) (lines : List PlainLine) : Prop where
  plain : ∀ line ∈ lines, line.IsPlain
  own : ∀ name ∈ reader.current?, name ≠ Document.sharedName
  placed : Placed reader.current? lines
  headings : (lines.filterMap PlainLine.heading? ++ reader.headers).Nodup
  places : (lines.filterMap PlainLine.place? ++ reader.assigned).Nodup

theorem filter_map_head {α β : Type} (f : α → Option β) (head : α) (tail : List α) :
    (head :: tail).filterMap f = (f head).toList ++ tail.filterMap f := by
  cases found : f head <;> simp [found]

theorem first_line_read (source : String) (number : Nat) (awaits : reader.Awaits (line :: rest))
    {margin : List Char} (blank : ∀ c ∈ margin, Text.isBlank c = true) : ∃ after,
      reader.readLine source number (line.text ++ margin) = .ok after ∧
        Follows line reader after := by
  have headings := awaits.headings
  have places := awaits.places
  rw [filter_map_head, List.append_assoc] at headings places
  apply plain_line_read (awaits.plain line List.mem_cons_self) awaits.own awaits.placed.1 _ _ blank
  · intro name member known
    have apart := (List.nodup_append.mp headings).2.2
    exact apart name (by simpa using member) name (List.mem_append_right _ known) rfl
  · intro place member known
    have apart := (List.nodup_append.mp places).2.2
    exact apart place (by simpa using member) place (List.mem_append_right _ known) rfl

theorem awaits_rest (awaits : reader.Awaits (line :: rest)) (follows : Follows line reader after) :
    after.Awaits rest := by
  have headings := awaits.headings
  have places := awaits.places
  rw [filter_map_head, List.append_assoc] at headings places
  refine ⟨fun other member => awaits.plain other (List.mem_cons_of_mem _ member), ?_, ?_, ?_, ?_⟩
  · intro name member
    rw [follows.current, PlainLine.under] at member
    cases line with
    | heading heading =>
      cases member
      exact word_is_section (awaits.plain _ List.mem_cons_self)
    | _ => exact awaits.own name member
  · rw [follows.current]
    exact awaits.placed.2
  · rw [follows.headers]
    exact (List.perm_append_comm_assoc _ _ _).nodup headings
  · rw [follows.assigned]
    exact (List.perm_append_comm_assoc _ _ _).nodup places

theorem plain_lines_read (source : String) (number : Nat) (awaits : reader.Awaits lines) : ∃ after,
    readLines source number reader (Text.cutLines (textOf lines)) = .ok after ∧
      after.shared = reader.shared ∧ after.unreadable = reader.unreadable ∧
      ∀ place, after.tells place = saidBy lines place (reader.tells place) := by
  induction lines generalizing number reader with
  | nil => exact ⟨reader, rfl, rfl, rfl, fun _ => rfl⟩
  | cons line rest ih =>
    have whole : '\n' ∉ line.text := fun member =>
      (PlainLine.text_of_one_line (awaits.plain line List.mem_cons_self) _ member).2 rfl
    cases rest with
    | nil =>
      have alone : textOf [line] = line.text := List.intercalate_singleton
      rw [alone]
      by_cases empty : line.text = []
      · -- An empty last line is no line for the reader.
        rw [empty, PlainLine.blank_of_empty empty]
        exact ⟨reader, rfl, rfl, rfl, fun _ => rfl⟩
      · have nothing : ∀ c ∈ [], Text.isBlank c = true := by simp
        obtain ⟨after, read, follows⟩ := first_line_read source number awaits nothing
        rw [List.append_nil] at read
        refine ⟨after, ?_, follows.shared, follows.unreadable, follows.tells⟩
        rw [Text.cut_lines_of_last whole empty, readLines, read]
        rfl
    | cons next more =>
      have parted : textOf (line :: next :: more) =
          line.text ++ '\n' :: textOf (next :: more) := by
        rw [textOf, List.map_cons, List.intercalate_cons_of_ne_nil (by simp), List.append_assoc]
        rfl
      have feed : ∀ c ∈ ['\n'], Text.isBlank c = true :=
        List.forall_mem_singleton.mpr (by decide)
      obtain ⟨middle, first, follows⟩ := first_line_read source number awaits feed
      obtain ⟨after, later, shared, unreadable, told⟩ := ih (number + 1) (awaits_rest awaits follows)
      refine ⟨after, ?_, shared.trans follows.shared, unreadable.trans follows.unreadable, ?_⟩
      · rw [parted, Text.cut_lines_past_line whole, readLines, first]
        exact later
      · intro place
        rw [told, follows.tells]
        rfl

end Reader

namespace Document

theorem settled_option (options : DraftOptions) (option : String) :
    Ledger.get? (Reader.settle options) option = (Ledger.get? options option).map fun lines =>
      String.ofList (Text.trimEnd (['\n'].intercalate lines)) := by
  rw [← Ledger.get_map]
  rfl

theorem said_of_finished {reader : Reader} (unshared : reader.shared = [])
    {place : String × String} (own : place.1 ≠ sharedName) :
    (reader.finish.get? place.1 place.2).getD "" = String.ofList (reader.tells place) := by
  have options : reader.finish.own place.1 = Reader.settle (reader.optionsOf place.1) := by
    rw [Document.own, Reader.finish, Ledger.get_map, Reader.optionsOf, if_neg own]
    cases Ledger.get? reader.sections place.1 <;> rfl
  have nothing : Ledger.get? reader.finish.shared place.2 = none := by
    rw [Reader.finish, unshared]
    rfl
  rw [Document.get?, options, nothing, Option.or_none, settled_option, Reader.tells]
  cases Ledger.get? (reader.optionsOf place.1) place.2 <;> rfl

-- A sheet is read over any document without shared options: what it assigns is told as it stands
-- there, and all else as before.
theorem sheet_read (document : Document) (unshared : document.shared = []) (source : String)
    (sheet : Sheet) : ∃ result,
      document.read source (Charset.Utf8.encode sheet.text) = .ok result ∧
      ∀ place : String × String, place.1 ≠ sharedName →
        (result.get? place.1 place.2).getD "" =
          String.ofList (saidBy sheet.lines place ((Reader.start document).tells place)) := by
  have begun : (Reader.start document).Awaits sheet.lines := by
    refine ⟨sheet.plain, by simp [Reader.start], sheet.placed, ?_, ?_⟩
    · simpa [Reader.start] using sheet.headings_once
    · simpa [Reader.start] using sheet.places_once
  obtain ⟨after, read, shared, unreadable, told⟩ := Reader.plain_lines_read source 1 begun
  have decoded := (Charset.Utf8.decode_exact _ sheet.text).mpr rfl
  have returns : '\r' ∉ sheet.text := fun member => (sheet.text_of_plain_lines _ member) rfl
  have text := FileText.of_text _ _ decoded
  rw [Text.ends_unified returns] at text
  have noneShared : after.shared = [] := by
    rw [shared, Reader.start, unshared]
    rfl
  have readable : after.unreadable.isEmpty = true := by
    rw [unreadable]
    rfl
  refine ⟨after.finish, ?_, ?_⟩
  · rw [Document.read, text]
    dsimp only
    rw [Sheet.text, read]
    dsimp only
    rw [if_pos readable]
  · intro place own
    rw [said_of_finished noneShared own, told]

end Document
end RabbitRemote.Ini
