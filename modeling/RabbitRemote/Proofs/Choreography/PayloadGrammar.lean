import RabbitRemote.Proofs.Choreography.PayloadRoundTrip
import RabbitRemote.Proofs.Number.Literal
import RabbitRemote.Proofs.Pairing

namespace RabbitRemote.Choreography.Payload

-- What stands between the commas.
def pieces (payload : String) : List (List Char) := payload.toList.splitOn ','

theorem cut_is_pieces (payload : String) : Text.cut ',' payload.toList = pieces payload :=
  Text.cut_is_split _ _

def Readable (piece : List Char) : Prop := ∃ value, Number.Literal piece value

-- The tempo stands in front of all actions, and the kind second among the six numbers of its action.
def kindCode? (numbers : List Int) (action : Nat) : Option Int := numbers[6 * action + 2]?

def KnownCode (code : Int) : Prop := code = 0 ∨ code = 1

-- The pieces of a payload, and the numbers they stand for.
structure Grammatical (pieces : List (List Char)) (numbers : List Int) : Prop where
  literals : List.Forall₂ Number.Literal pieces numbers
  count : pieces.length % 6 = 1
  kinds : ∀ action code, kindCode? numbers action = some code → KnownCode code

-- The numbers tell the tempo first and then, six by six, the actions.
structure Tells (numbers : List Int) (tempo : Int) (records : List Record) : Prop where
  tempo : numbers.head? = some tempo
  count : numbers.length = 6 * records.length + 1
  actions : ∀ action record, records[action]? = some record →
    (numbers.drop (6 * action + 1)).take 6 = record.fields

-- Why a payload is refused: a piece that is no literal goes before a wrong count of pieces, and that
-- before an unknown kind. Each time the first one is named, and a kind that is named can be written.
inductive Refused (pieces : List (List Char)) : Failure → Prop where
  | unreadable {before after : List (List Char)} {piece : List Char} {fault : Number.LiteralFault}
      (parts : pieces = before ++ piece :: after) (first : ∀ earlier ∈ before, Readable earlier)
      (strange : ¬ Readable piece) :
      Refused pieces (.malformedPayload fault (String.ofList (Text.trim piece)))
  | uneven {numbers : List Int} (literals : List.Forall₂ Number.Literal pieces numbers)
      (count : pieces.length % 6 ≠ 1) : Refused pieces (.unevenPayload (pieces.length - 1))
  | unknown {numbers : List Int} {action : Nat} {code : Int}
      (literals : List.Forall₂ Number.Literal pieces numbers) (count : pieces.length % 6 = 1)
      (first : ∀ earlier < action, ∀ other, kindCode? numbers earlier = some other → KnownCode other)
      (found : kindCode? numbers action = some code) (strange : ¬ KnownCode code)
      (writable : Number.hasText code = true) : Refused pieces (.unknownActionKind code)

theorem known_code_exact (code : Int) : (ActionKind.ofCode? code).isSome = true ↔ KnownCode code := by
  unfold ActionKind.ofCode? KnownCode
  by_cases motor : code = 0
  · simp [motor]
  · by_cases led : code = 1 <;> simp [motor, led]

theorem read_piece_exact (piece : List Char) (value : Int) :
    readPiece (Text.trim piece) = .ok value ↔ Number.Literal piece value := by
  rw [← Number.read_trimmed_exact, readPiece]
  cases Number.readInteger (Text.trim piece) <;> simp

theorem read_pieces_of_cons (piece : List Char) (rest : List (List Char)) (numbers : List Int) :
    readPieces (piece :: rest) = .ok numbers ↔ ∃ value others, readPiece piece = .ok value ∧
      readPieces rest = .ok others ∧ value :: others = numbers := by
  rw [readPieces]
  cases readPiece piece <;> cases readPieces rest <;> simp [Except.map]

theorem refused_pieces_of_cons (piece : List Char) (rest : List (List Char)) (failure : Failure) :
    readPieces (piece :: rest) = .error failure ↔ readPiece piece = .error failure ∨
      ∃ value, readPiece piece = .ok value ∧ readPieces rest = .error failure := by
  rw [readPieces]
  cases readPiece piece <;> cases readPieces rest <;> simp [Except.map]

theorem read_pieces_exact (pieces : List (List Char)) (numbers : List Int) :
    readPieces (pieces.map Text.trim) = .ok numbers ↔
      List.Forall₂ Number.Literal pieces numbers := by
  induction pieces generalizing numbers with
  | nil => simp [readPieces, eq_comm]
  | cons piece rest ih =>
    rw [List.map_cons, read_pieces_of_cons, List.forall₂_cons_left_iff]
    constructor
    · rintro ⟨value, others, first, later, same⟩
      exact ⟨value, others, (read_piece_exact piece value).mp first, (ih others).mp later, same.symm⟩
    · rintro ⟨value, others, first, later, same⟩
      exact ⟨value, others, (read_piece_exact piece value).mpr first, (ih others).mpr later,
        same.symm⟩

theorem unreadable_of_refused {piece : List Char} {failure : Failure}
    (refused : readPiece (Text.trim piece) = .error failure) : ¬ Readable piece ∧
      ∃ fault, failure = .malformedPayload fault (String.ofList (Text.trim piece)) := by
  constructor
  · rintro ⟨value, literal⟩
    rw [(read_piece_exact piece value).mpr literal] at refused
    cases refused
  · unfold readPiece at refused
    split at refused
    · cases refused
    · rename_i fault _
      cases refused
      exact ⟨fault, rfl⟩

theorem first_unreadable {pieces : List (List Char)} {failure : Failure}
    (refused : readPieces (pieces.map Text.trim) = .error failure) : Refused pieces failure := by
  suffices found : ∃ before piece after fault, pieces = before ++ piece :: after ∧
      (∀ earlier ∈ before, Readable earlier) ∧ ¬ Readable piece ∧
      failure = .malformedPayload fault (String.ofList (Text.trim piece)) by
    obtain ⟨_, _, _, _, parts, first, strange, rfl⟩ := found
    exact .unreadable parts first strange
  induction pieces with
  | nil => cases refused
  | cons piece rest ih =>
    rw [List.map_cons, refused_pieces_of_cons] at refused
    rcases refused with here | ⟨value, first, there⟩
    · obtain ⟨strange, fault, told⟩ := unreadable_of_refused here
      exact ⟨[], piece, rest, fault, rfl, by simp, strange, told⟩
    · obtain ⟨before, strange, after, fault, rfl, readable, unreadable, told⟩ := ih there
      refine ⟨piece :: before, strange, after, fault, rfl, ?_, unreadable, told⟩
      intro earlier member
      rcases List.mem_cons.mp member with rfl | among
      · exact ⟨value, (read_piece_exact _ value).mp first⟩
      · exact readable earlier among

-- Being the fields of the records one after the other, said by place.
theorem fields_by_place (body : List Int) (records : List Record) :
    body = records.flatMap Record.fields ↔ body.length = 6 * records.length ∧
      ∀ action record, records[action]? = some record →
        (body.drop (6 * action)).take 6 = record.fields := by
  induction records generalizing body with
  | nil => simp [List.length_eq_zero_iff]
  | cons record rest ih =>
    have six : record.fields.length = 6 := rfl
    constructor
    · rintro rfl
      obtain ⟨_, places⟩ := (ih (rest.flatMap Record.fields)).mp rfl
      refine ⟨fields_of_records _, ?_⟩
      intro action other found
      cases action with
      | zero =>
        cases found
        rw [List.flatMap_cons, Nat.mul_zero, List.drop_zero, ← six, List.take_left]
      | succ action =>
        have step : 6 * (action + 1) = record.fields.length + 6 * action := by
          rw [six]
          omega
        rw [List.flatMap_cons, step, List.drop_length_add_append]
        exact places action other found
    · rintro ⟨count, places⟩
      have front := places 0 record rfl
      rw [Nat.mul_zero, List.drop_zero] at front
      have back : body.drop 6 = rest.flatMap Record.fields := by
        refine (ih _).mpr ⟨?_, ?_⟩
        · rw [List.length_drop, count, List.length_cons]
          omega
        · intro action other found
          rw [List.drop_drop, show 6 + 6 * action = 6 * (action + 1) by omega]
          exact places (action + 1) other found
      rw [List.flatMap_cons, ← front, ← back, List.take_append_drop]

theorem code_in_body (tempo : Int) (body : List Int) (action : Nat) :
    kindCode? (tempo :: body) action = body[6 * action + 1]? := rfl

theorem tells_exact (tempo : Int) (body : List Int) (records : List Record) (other : Int) :
    Tells (tempo :: body) other records ↔ tempo = other ∧ body = records.flatMap Record.fields := by
  rw [fields_by_place]
  constructor
  · rintro ⟨first, count, actions⟩
    refine ⟨Option.some.inj first, ?_, actions⟩
    rw [List.length_cons] at count
    omega
  · rintro ⟨rfl, count, actions⟩
    exact ⟨rfl, by rw [List.length_cons, count], actions⟩

theorem recorded_kinds_known (records : List Record) (action : Nat) (code : Int)
    (found : (records.flatMap Record.fields)[6 * action + 1]? = some code) : KnownCode code := by
  obtain ⟨count, places⟩ := (fields_by_place _ records).mp rfl
  obtain ⟨inside, _⟩ := List.getElem?_eq_some_iff.mp found
  have counted : action < records.length := by omega
  have own := places action records[action] (List.getElem?_eq_getElem counted)
  have second : (((records.flatMap Record.fields).drop (6 * action)).take 6)[1]? = some code := by
    rw [List.getElem?_take_of_lt (by decide), List.getElem?_drop]
    exact found
  rw [own] at second
  cases second
  rw [← known_code_exact, kind_of_own_code]
  rfl

theorem read_records_sound {body : List Int} {records : List Record} (even : body.length % 6 = 0)
    (read : readRecords body = .ok records) : body = records.flatMap Record.fields := by
  fun_induction readRecords body generalizing records with
  | case1 => cases read
  | case2 time code p1 p2 p3 p4 rest kind known ih =>
    cases later : readRecords rest with
    | error failure => rw [later] at read; cases read
    | ok others =>
      rw [later] at read
      cases read
      have short : rest.length % 6 = 0 := by
        simp only [List.length_cons] at even
        omega
      have own : kind.code = code := by
        unfold ActionKind.ofCode? at known
        split at known
        · rename_i motor
          cases known
          exact motor.symm
        · split at known
          · rename_i led
            cases known
            exact led.symm
          · cases known
      rw [List.flatMap_cons, ← ih short later, Record.fields, own]
      rfl
  | case3 short few =>
    cases read
    -- Fewer than six numbers are left, and not one to five of them.
    rcases short with _ | ⟨_, _ | ⟨_, _ | ⟨_, _ | ⟨_, _ | ⟨_, _ | ⟨_, rest⟩⟩⟩⟩⟩⟩
    · rfl
    iterate 5 · exact absurd even (by simp)
    · exact absurd rfl (few _ _ _ _ _ _ _)

theorem first_unknown {body : List Int} {failure : Failure}
    (refused : readRecords body = .error failure) : ∃ action code,
      (∀ earlier < action, ∀ other, body[6 * earlier + 1]? = some other → KnownCode other) ∧
      body[6 * action + 1]? = some code ∧ ¬ KnownCode code ∧
      failure = .unknownActionKind code := by
  fun_induction readRecords body with
  | case1 time code p1 p2 p3 p4 rest unknown =>
    cases refused
    refine ⟨0, code, ?_, rfl, ?_, rfl⟩
    · intro earlier before
      exact absurd before (Nat.not_lt_zero earlier)
    · rw [← known_code_exact, unknown]
      simp
  | case2 time code p1 p2 p3 p4 rest kind known ih =>
    have later : readRecords rest = .error failure := by
      cases others : readRecords rest with
      | error own => rw [others] at refused; cases refused; rfl
      | ok records => rw [others] at refused; cases refused
    obtain ⟨action, strange, first, found, unknown, told⟩ := ih later
    refine ⟨action + 1, strange, ?_, ?_, unknown, told⟩
    · intro earlier before other there
      cases earlier with
      | zero =>
        cases there
        rw [← known_code_exact, known]
        rfl
      | succ earlier =>
        rw [show 6 * (earlier + 1) + 1 = 6 * earlier + 1 + 6 by omega] at there
        exact first earlier (by omega) other there
    · rw [show 6 * (action + 1) + 1 = 6 * action + 1 + 6 by omega]
      exact found
  | case3 => cases refused

theorem read_sound {payload : String} {tempo : Int} {records : List Record}
    (read : Payload.read payload = .ok (tempo, records)) :
    ∃ numbers, Grammatical (pieces payload) numbers ∧ Tells numbers tempo records := by
  rw [Payload.read, cut_is_pieces] at read
  split at read
  · cases read
  · cases read
  · rename_i first body found
    split at read
    · cases read
    · rename_i even
      have even : body.length % 6 = 0 := Decidable.not_not.mp even
      have literals := (read_pieces_exact _ _).mp found
      cases recorded : readRecords body with
      | error failure => rw [recorded] at read; cases read
      | ok known =>
        rw [recorded] at read
        cases read
        have fields := read_records_sound even recorded
        refine ⟨tempo :: body, ⟨literals, ?_, ?_⟩, (tells_exact _ _ _ _).mpr ⟨rfl, fields⟩⟩
        · rw [literals.length_eq, List.length_cons]
          omega
        · intro action code found
          rw [code_in_body, fields] at found
          exact recorded_kinds_known _ action code found

theorem read_complete {payload : String} {numbers : List Int} {tempo : Int} {records : List Record}
    (literals : List.Forall₂ Number.Literal (pieces payload) numbers)
    (told : Tells numbers tempo records) : Payload.read payload = .ok (tempo, records) := by
  have found := (read_pieces_exact _ _).mpr literals
  cases numbers with
  | nil => cases told.tempo
  | cons first body =>
    obtain ⟨rfl, fields⟩ := (tells_exact _ _ _ _).mp told
    have even : body.length % 6 = 0 := by
      rw [fields, fields_of_records]
      omega
    rw [Payload.read, cut_is_pieces, found]
    dsimp only
    rw [if_neg (Decidable.not_not.mpr even), fields, read_records_of_fields]
    rfl

theorem grammatical_tells {pieces : List (List Char)} {numbers : List Int}
    (grammatical : Grammatical pieces numbers) :
    ∃ tempo records, Tells numbers tempo records := by
  have count := grammatical.count
  rw [grammatical.literals.length_eq] at count
  cases numbers with
  | nil => cases count
  | cons tempo body =>
    cases recorded : readRecords body with
    | ok records =>
      rw [List.length_cons] at count
      have fields := read_records_sound (by omega) recorded
      exact ⟨tempo, records, (tells_exact _ _ _ _).mpr ⟨rfl, fields⟩⟩
    | error failure =>
      obtain ⟨action, code, _, found, strange, _⟩ := first_unknown recorded
      exact absurd (grammatical.kinds action code found) strange

theorem member_is_literal {pieces : List (List Char)} {numbers : List Int} {value : Int}
    (literals : List.Forall₂ Number.Literal pieces numbers) (member : value ∈ numbers) :
    ∃ piece, Number.Literal piece value := by
  obtain ⟨piece, _, literal⟩ := partner_of_right literals member
  exact ⟨piece, literal⟩

theorem read_refused {payload : String} {failure : Failure}
    (refused : Payload.read payload = .error failure) :
    Refused (pieces payload) failure := by
  rw [Payload.read, cut_is_pieces] at refused
  split at refused
  · rename_i own found
    cases refused
    exact first_unreadable found
  · rename_i found
    have literals := (read_pieces_exact _ _).mp found
    exact absurd (List.forall₂_nil_right_iff.mp literals) (List.splitOn_ne_nil _ _)
  · rename_i tempo body found
    have literals := (read_pieces_exact _ _).mp found
    have count := literals.length_eq
    rw [List.length_cons] at count
    split at refused
    · rename_i uneven
      cases refused
      rw [show body.length = (pieces payload).length - 1 by omega]
      exact .uneven literals (by omega)
    · rename_i even
      cases recorded : readRecords body with
      | ok records => rw [recorded] at refused; cases refused
      | error own =>
        rw [recorded] at refused
        cases refused
        obtain ⟨action, code, first, found, strange, rfl⟩ := first_unknown recorded
        have member := List.mem_of_getElem? found
        obtain ⟨piece, literal⟩ := member_is_literal literals (List.mem_cons_of_mem tempo member)
        exact .unknown literals (by omega) first found strange (Number.literal_has_text literal)

theorem Refused.is_refusal {pieces : List (List Char)} {failure : Failure}
    (refused : Refused pieces failure) : failure.kind = .refusal := by
  cases refused <;> rfl

-- A payload is read iff it is grammatical, and read as what its numbers tell. Any other one is
-- refused, and nothing else goes wrong.
theorem grammar_exact (payload : String) :
    (∀ tempo records, Payload.read payload = .ok (tempo, records) ↔
      ∃ numbers, Grammatical (pieces payload) numbers ∧ Tells numbers tempo records) ∧
    ((∃ tempo records, Payload.read payload = .ok (tempo, records)) ↔
      ∃ numbers, Grammatical (pieces payload) numbers) ∧
    ((¬ ∃ numbers, Grammatical (pieces payload) numbers) → ∃ failure,
      Payload.read payload = .error failure ∧ Refused (pieces payload) failure ∧
        failure.kind = .refusal) := by
  have accepted : ∀ numbers, Grammatical (pieces payload) numbers →
      ∃ tempo records, Payload.read payload = .ok (tempo, records) := by
    intro numbers grammatical
    obtain ⟨tempo, records, told⟩ := grammatical_tells grammatical
    exact ⟨tempo, records, read_complete grammatical.literals told⟩
  refine ⟨?_, ⟨?_, ?_⟩, ?_⟩
  · intro tempo records
    constructor
    · exact read_sound
    · rintro ⟨numbers, grammatical, told⟩
      exact read_complete grammatical.literals told
  · rintro ⟨tempo, records, read⟩
    obtain ⟨numbers, grammatical, _⟩ := read_sound read
    exact ⟨numbers, grammatical⟩
  · rintro ⟨numbers, grammatical⟩
    exact accepted numbers grammatical
  · intro ungrammatical
    cases read : Payload.read payload with
    | ok result =>
      obtain ⟨numbers, grammatical, _⟩ := read_sound read
      exact absurd ⟨numbers, grammatical⟩ ungrammatical
    | error failure =>
      have refused := read_refused read
      exact ⟨failure, rfl, refused, refused.is_refusal⟩

-- Signs, underscores, blanks and the digits of other scripts.
example : (Payload.read "25, +1_0\t,1,\u0663,255,-0,0").toOption =
    some (25, [⟨10, .led, 3, 255, 0, 0⟩]) := by decide +kernel

end RabbitRemote.Choreography.Payload
