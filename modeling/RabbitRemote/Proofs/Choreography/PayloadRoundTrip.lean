import RabbitRemote.Choreography.Score
import RabbitRemote.Proofs.Number.DecimalReading
import RabbitRemote.Proofs.Text.Pieces
import RabbitRemote.Proofs.Text.Trimming

namespace RabbitRemote.Choreography

namespace Payload

theorem fields_of_records (records : List Record) :
    (records.flatMap Record.fields).length = 6 * records.length := by
  induction records with
  | nil => rfl
  | cons record rest ih =>
    simp only [List.flatMap_cons, List.length_append, List.length_cons, ih]
    simp only [Record.fields, List.length_cons, List.length_nil]
    omega

theorem read_records_of_fields (records : List Record) :
    readRecords (records.flatMap Record.fields) = .ok records := by
  induction records with
  | nil => rfl
  | cons record rest ih =>
    simp only [List.flatMap_cons, Record.fields, List.cons_append, List.nil_append, readRecords,
      kind_of_own_code, ih]
    rfl

theorem read_pieces_of_decimals (numbers : List Int)
    (short : ∀ i ∈ numbers, Number.hasText i = true) :
    readPieces (numbers.map Number.decimal) = .ok numbers := by
  induction numbers with
  | nil => rfl
  | cons i rest ih =>
    have first := Number.read_of_decimal i (short i (by simp))
    have others := ih fun j member => short j (by simp [member])
    simp only [List.map_cons, readPieces, readPiece, first, others]
    rfl

theorem pieces_of_joined_decimals (numbers : List Int) (nonempty : numbers ≠ []) :
    (Text.cut ',' (",".intercalate (numbers.map Number.decimalText)).toList).map Text.trim =
      numbers.map Number.decimal := by
  have texts : (numbers.map Number.decimalText).map String.toList = numbers.map Number.decimal := by
    simp [Number.decimalText, Function.comp_def]
  have commaless : ∀ piece ∈ numbers.map Number.decimal, ',' ∉ piece := by
    intro piece member comma
    obtain ⟨i, _, rfl⟩ := List.mem_map.mp member
    rcases Number.decimal_characters comma with minus | digit
    · exact absurd minus (by decide)
    · exact absurd digit (by decide)
  have apart : Text.cut ',' (",".intercalate (numbers.map Number.decimalText)).toList =
      numbers.map Number.decimal := by
    rw [String.toList_intercalate, texts]
    exact Text.cut_of_joined ',' _ (by simpa using nonempty) commaless
  rw [apart, List.map_map]
  apply List.map_congr_left
  intro i _
  exact Text.trim_of_unblank _ fun c member => Number.decimal_not_blank member

theorem write_succeeds (tempo : Int) (records : List Record) :
    (∃ payload, write tempo records = .ok payload) ↔
      ∀ i ∈ numbers tempo records, Number.hasText i = true := by
  unfold write
  dsimp only
  constructor
  · rintro ⟨payload, written⟩
    split at written
    · rename_i short
      exact List.all_eq_true.mp short
    · cases written
  · intro short
    exact ⟨_, if_pos (List.all_eq_true.mpr short)⟩

theorem read_of_written {tempo : Int} {records : List Record} {payload : String}
    (written : write tempo records = .ok payload) : read payload = .ok (tempo, records) := by
  have short := (write_succeeds tempo records).mp ⟨payload, written⟩
  unfold write at written
  dsimp only at written
  rw [if_pos (List.all_eq_true.mpr short)] at written
  cases written
  have pieces := pieces_of_joined_decimals (numbers tempo records) (by simp [numbers])
  have values := read_pieces_of_decimals (numbers tempo records) short
  have even : (records.flatMap Record.fields).length % 6 = 0 := by
    rw [fields_of_records]
    omega
  rw [read, pieces, values]
  simp only [numbers, even, read_records_of_fields]
  rfl

end Payload

-- Whatever a score holds is read back from its payload, whether it was written to the end or is left
-- over from a failure. Only a number that is too long to be written keeps it from having a payload.
theorem payload_round_trip (score : Score) :
    (∀ payload, score.emit = .ok payload →
      Payload.read payload = .ok (score.tempo, score.records)) ∧
    ((∃ payload, score.emit = .ok payload) ↔
      ∀ i ∈ Payload.numbers score.tempo score.records,
        i.natAbs < Nat.pow 10 Number.figureLimit) := by
  refine ⟨fun payload emitted => Payload.read_of_written emitted, ?_⟩
  rw [Score.emit, Payload.write_succeeds]
  simp only [Number.has_text_exact]

-- A tempo, both ears turned below zero, and a block that breaks off at an unknown lamp.
theorem payload_round_trip_after_failure :
    let score := (playAll [.setTempo (.whole 25), .moveEar (.text "both") (.whole (-90)) none,
      .attempt [.group [.setLed (.text "top") [.text "red"], .setLed (.text "nose") []]]] .empty).2
    score.emit = .ok "25,0,0,0,-90,0,0,0,0,1,-90,0,0,1,1,4,255,0,0" ∧
    Payload.read "25,0,0,0,-90,0,0,0,0,1,-90,0,0,1,1,4,255,0,0" =
      .ok (score.tempo, score.records) := by
  intro score
  have short : (Payload.numbers score.tempo score.records).all Number.hasText = true := by
    decide +kernel
  have emitted : score.emit = .ok "25,0,0,0,-90,0,0,0,0,1,-90,0,0,1,1,4,255,0,0" := by
    have joined : ",".intercalate ((Payload.numbers score.tempo score.records).map
        Number.decimalText) = "25,0,0,0,-90,0,0,0,0,1,-90,0,0,1,1,4,255,0,0" := by
      decide +kernel
    rw [Score.emit, Payload.write, if_pos short, joined]
  exact ⟨emitted, (payload_round_trip score).1 _ emitted⟩

end RabbitRemote.Choreography
