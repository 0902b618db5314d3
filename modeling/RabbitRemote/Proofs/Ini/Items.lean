import RabbitRemote.Ini.Reader
import RabbitRemote.Proofs.Ledger
import RabbitRemote.Proofs.Text.Trimming

namespace RabbitRemote.Ini
namespace Document

-- An option is looked up among the items: those of the section itself hide the shared ones.
theorem get_among_items (document : Document) (name option : String) :
    Ledger.get? (document.items name) option = document.get? name option := by
  let kept (key : String) : Bool := key ∉ Ledger.keys (document.own name)
  rw [items, get?, Ledger.get_append]
  by_cases own : option ∈ Ledger.keys (document.own name)
  · obtain ⟨value, found⟩ := Ledger.get_of_known own
    rw [found, Option.some_or, Option.some_or]
  · have keeps : kept option = true := by simpa [kept] using own
    have hidden := Ledger.get_filter document.shared kept keeps
    rw [← hidden]

theorem item_owned_or_shared {document : Document} {name : String} {item : String × String}
    (listed : item ∈ document.items name) : item ∈ document.own name ∨ item ∈ document.shared := by
  rw [items] at listed
  rcases List.mem_append.mp listed with own | shared
  · exact .inl own
  · exact .inr (List.mem_filter.mp shared |>.1)

end Document

namespace Reader
variable {source : String} {number : Nat} {raw text : List Char} {reader after : Reader}
  {name : String}

-- Sections never go away again while a file is read.
def Knows (reader : Reader) (name : String) : Prop := name ∈ Ledger.keys reader.sections

theorem put_options_knows (known : reader.Knows name) (other : String) (options : DraftOptions) :
    (reader.putOptions other options).Knows name := by
  unfold putOptions
  split
  · exact known
  · exact Ledger.known_after_put known other options

theorem enter_knows {other : String} (known : reader.Knows name)
    (entered : reader.enter source number other = .ok after) : after.Knows name := by
  unfold enter at entered
  dsimp only at entered
  split at entered
  · cases entered
    exact known
  · split at entered
    · cases entered
    · cases entered
      apply put_options_knows
      exact known

theorem assign_knows {other option : String} {value : List Char} (known : reader.Knows name)
    (assigned : reader.assign source number raw other option value = .ok after) :
    after.Knows name := by
  unfold assign at assigned
  dsimp only at assigned
  split at assigned
  · cases assigned
  · cases assigned
    apply put_options_knows
    split
    · exact known
    · exact known

theorem read_entry_knows (known : reader.Knows name)
    (read : reader.readEntry source number raw text = .ok after) : after.Knows name := by
  unfold readEntry at read
  split at read
  · exact enter_knows known read
  · cases read
  · exact assign_knows known read
  · cases read
    exact known

theorem read_line_knows (known : reader.Knows name)
    (read : reader.readLine source number raw = .ok after) : after.Knows name := by
  unfold readLine at read
  split at read
  · cases read
    exact known
  · cases read
    exact put_options_knows known _ _
  · cases read
    exact known
  · split at read
    · cases read
      exact put_options_knows known _ _
    · apply read_entry_knows _ read
      exact known
  · apply read_entry_knows _ read
    exact known

theorem read_lines_knows {lines : List (List Char)} (known : reader.Knows name)
    (read : Reader.readLines source number reader lines = .ok after) : after.Knows name := by
  induction lines generalizing number reader with
  | nil =>
    cases read
    exact known
  | cons raw rest ih =>
    rw [readLines] at read
    cases first : reader.readLine source number raw with
    | error failure =>
      rw [first] at read
      cases read
    | ok next =>
      rw [first] at read
      exact ih (read_line_knows known first) read

theorem value_of_settled {drafts : DraftOptions} {item : String × String}
    (settled : item ∈ settle drafts) : ∃ text, item.2 = String.ofList (Text.trimEnd text) := by
  obtain ⟨⟨option, lines⟩, _, rfl⟩ := List.mem_map.mp settled
  exact ⟨_, rfl⟩

theorem value_of_finished {item : String × String} (listed : item ∈ reader.finish.items name) :
    ∃ text, item.2 = String.ofList (Text.trimEnd text) := by
  rcases Document.item_owned_or_shared listed with own | shared
  · rw [Document.own] at own
    cases found : Ledger.get? reader.finish.sections name with
    | none =>
      rw [found] at own
      cases own
    | some options =>
      rw [found] at own
      obtain ⟨⟨_, drafts⟩, _, same⟩ := List.mem_map.mp (Ledger.entry_of_get found)
      cases same
      exact value_of_settled own
  · exact value_of_settled shared

end Reader

namespace Document
variable {source : String} {octets : List UInt8} {document result : Document} {name : String}

theorem read_by_lines (read : document.read source octets = .ok result) : ∃ reader,
    Reader.readLines source 1 (Reader.start document) (FileText.ofOctets octets).lines =
      .ok reader ∧ result = reader.finish := by
  unfold Document.read at read
  dsimp only at read
  split at read
  · cases read
  · rename_i reader lines
    split at read
    · cases read
    · split at read
      · cases read
        exact ⟨reader, lines, rfl⟩
      · cases read

theorem section_stays (read : document.read source octets = .ok result)
    (known : name ∈ document.sectionNames) : name ∈ result.sectionNames := by
  obtain ⟨reader, lines, rfl⟩ := read_by_lines read
  have begun : (Reader.start document).Knows name := by
    simpa [Reader.Knows, Reader.start, Ledger.keys, sectionNames] using known
  have ended : reader.Knows name := Reader.read_lines_knows begun lines
  simpa [Reader.Knows, Reader.finish, Ledger.keys, sectionNames] using ended

-- A value that was read is empty as soon as it is blank.
theorem value_not_blank (read : document.read source octets = .ok result)
    {option value : String} (listed : (option, value) ∈ result.items name) (given : value ≠ "") :
    Text.trimmed value ≠ "" := by
  obtain ⟨reader, _, rfl⟩ := read_by_lines read
  obtain ⟨text, (rfl : value = _)⟩ := Reader.value_of_finished listed
  intro blank
  apply given
  have nothing : Text.trim (Text.trimEnd text) = [] := by
    simpa [Text.trimmed] using congrArg String.toList blank
  rw [Text.blank_after_trim_end nothing]

end Document
end RabbitRemote.Ini
