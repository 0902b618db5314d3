import RabbitRemote.Batch.Dispatch
import RabbitRemote.Proofs.Fallible
import RabbitRemote.Proofs.Pairing

namespace RabbitRemote.Batch

theorem ok_of_to_option {α : Type} {input : Except Failure α} {result : α}
    (found : input.toOption = some result) : input = .ok result := by
  cases input with
  | error failure => cases found
  | ok value => exact congrArg Except.ok (Option.some.inj found)

-- A parameter as it is sent: its own name, and its octets escaped.
def SentAs (conversion : Conversion) (parameter : String × Value) (sent : String × String) : Prop :=
  sent.1 = parameter.1 ∧
    ∃ octets, conversion.outbound parameter.2 = .ok octets ∧ sent.2 = conversion.escape octets

-- The parameter of a field that is sent.
def HeldAs (values : Field → Value) (field : Field) (parameter : String × Value) : Prop :=
  parameter.1 = field.name ∧ parameterOf (values field) = .ok parameter.2

theorem encode_all_exact (conversion : Conversion) (parameters : List (String × Value))
    (encoded : List (String × String)) :
    encodeAll conversion parameters = .ok encoded ↔
      List.Forall₂ (SentAs conversion) parameters encoded := by
  induction parameters generalizing encoded with
  | nil => simp [encodeAll, eq_comm]
  | cons parameter rest ih =>
    obtain ⟨name, value⟩ := parameter
    rw [encodeAll]
    simp only [bind_ok, List.forall₂_cons_left_iff]
    constructor
    · rintro ⟨octets, outbound, others, rest, same⟩
      cases same
      exact ⟨(name, conversion.escape octets), others, ⟨rfl, octets, outbound, rfl⟩, (ih _).mp rest, rfl⟩
    · rintro ⟨⟨_, _⟩, others, ⟨rfl, octets, outbound, rfl⟩, rest, rfl⟩
      exact ⟨octets, outbound, others, (ih _).mpr rest, rfl⟩

-- The first parameter that cannot be converted, and why.
def FirstRefused (conversion : Conversion) (parameters : List (String × Value))
    (failure : Failure) : Prop :=
  ∃ before parameter after, parameters = before ++ parameter :: after ∧
    (∀ sooner ∈ before, ∃ octets, conversion.outbound sooner.2 = .ok octets) ∧
    conversion.outbound parameter.2 = .error failure

theorem first_refused_of_error {conversion : Conversion} {parameters : List (String × Value)}
    {failure : Failure} (refused : encodeAll conversion parameters = .error failure) :
    FirstRefused conversion parameters failure := by
  induction parameters with
  | nil => cases refused
  | cons parameter rest ih =>
    rw [encodeAll] at refused
    cases outbound : conversion.outbound parameter.2 with
    | error reason =>
      rw [outbound] at refused
      cases refused
      exact ⟨[], parameter, rest, rfl, by simp, outbound⟩
    | ok octets =>
      cases later : encodeAll conversion rest with
      | error reason =>
        rw [outbound, later] at refused
        cases refused
        obtain ⟨before, other, after, rfl, sooner, here⟩ := ih later
        refine ⟨parameter :: before, other, after, rfl, ?_, here⟩
        intro entry member
        rcases List.mem_cons.mp member with rfl | among
        · exact ⟨octets, outbound⟩
        · exact sooner entry among
      | ok encoded =>
        rw [outbound, later] at refused
        cases refused

theorem encode_all_total (conversion : Conversion) (parameters : List (String × Value))
    (encodable : ∀ parameter ∈ parameters, ∃ octets, conversion.outbound parameter.2 = .ok octets) :
    ∃ encoded, encodeAll conversion parameters = .ok encoded := by
  induction parameters with
  | nil => exact ⟨[], rfl⟩
  | cons parameter rest ih =>
    obtain ⟨octets, outbound⟩ := encodable parameter (by simp)
    obtain ⟨others, encoded⟩ := ih fun other member => encodable other (by simp [member])
    exact ⟨(parameter.1, conversion.escape octets) :: others, by
      rw [encode_all_exact]
      exact .cons ⟨rfl, octets, outbound, rfl⟩ ((encode_all_exact _ _ _).mp encoded)⟩

theorem field_parameters_exact (values : Field → Value) (fields : List Field)
    (parameters : List (String × Value)) :
    fieldParameters values fields = .ok parameters ↔
      List.Forall₂ (HeldAs values) (fields.filter fun field => isSent (values field))
        parameters := by
  induction fields generalizing parameters with
  | nil => simp [fieldParameters, eq_comm]
  | cons field rest ih =>
    unfold fieldParameters
    by_cases sent : isSent (values field) = true
    · simp only [sent, if_true, bind_ok, List.filter_cons_of_pos, List.forall₂_cons_left_iff]
      constructor
      · rintro ⟨value, held, others, rest, same⟩
        cases same
        exact ⟨(field.name, value), others, ⟨rfl, held⟩, (ih _).mp rest, rfl⟩
      · rintro ⟨⟨_, value⟩, others, ⟨rfl, held⟩, rest, rfl⟩
        exact ⟨value, held, others, (ih _).mpr rest, rfl⟩
    · simp only [sent, Bool.false_eq_true, if_false, not_false_eq_true, List.filter_cons_of_neg, ih]

theorem parameters_exact (batch : Batch) (parameters : Ledger String Value) :
    batch.parameters = .ok parameters ↔
      ∃ held, parameters = identityParameters batch.identity ++ held ∧
        List.Forall₂ (HeldAs batch.values)
          (Field.all.filter fun field => isSent (batch.values field)) held := by
  simp only [Batch.parameters, map_ok, field_parameters_exact]
  constructor
  · rintro ⟨held, fields, rfl⟩
    exact ⟨held, rfl, fields⟩
  · rintro ⟨held, rfl, fields⟩
    exact ⟨held, fields, rfl⟩

theorem field_parameters_total {values : Field → Value}
    (renderable : ∀ field, (values field).writable = true) (fields : List Field) :
    ∃ parameters, fieldParameters values fields = .ok parameters := by
  have written : ∀ value : Value, value.writable = true → ∃ other, parameterOf value = .ok other := by
    intro value writable
    unfold parameterOf
    split
    · exact ⟨_, rfl⟩
    · rw [if_pos writable]
      exact ⟨_, rfl⟩
  induction fields with
  | nil => exact ⟨[], rfl⟩
  | cons field rest ih =>
    obtain ⟨others, later⟩ := ih
    obtain ⟨value, here⟩ := written (values field) (renderable field)
    rw [fieldParameters, later, here]
    split
    · exact ⟨_, rfl⟩
    · exact ⟨others, rfl⟩

-- Only an integer that is too long to be written keeps a batch from having parameters.
theorem parameters_total {batch : Batch}
    (renderable : ∀ field, (batch.values field).writable = true) :
    ∃ parameters, batch.parameters = .ok parameters := by
  obtain ⟨held, fields⟩ := field_parameters_total renderable Field.all
  exact ⟨_, map_ok.mpr ⟨held, fields, rfl⟩⟩

theorem keys_as_held {values : Field → Value} {fields : List Field}
    {parameters : List (String × Value)} (held : List.Forall₂ (HeldAs values) fields parameters) :
    Ledger.keys parameters = fields.map Field.name := by
  induction held with
  | nil => rfl
  | cons here _ ih => exact congrArg₂ List.cons here.1 ih

theorem identity_names (identity : Identity) :
    ∀ parameter ∈ identityParameters identity, parameter.1 ∈ ["sn", "token", "voice"] := by
  intro parameter member
  unfold identityParameters at member
  dsimp only at member
  rcases List.mem_append.mp member with fixed | voice
  · simp only [List.mem_cons, List.not_mem_nil, or_false] at fixed
    rcases fixed with rfl | rfl <;> simp
  · split at voice
    · cases voice
    · rw [List.mem_singleton.mp voice]
      simp

theorem identity_names_no_field (identity : Identity) (field : Field) :
    field.name ∉ Ledger.keys (identityParameters identity) := by
  have apart : field.name ∉ ["sn", "token", "voice"] := by cases field <;> decide
  intro named
  obtain ⟨parameter, member, same⟩ := List.mem_map.mp named
  exact apart (same ▸ identity_names identity parameter member)

-- A field is carried under its name exactly if its value is one that is sent.
theorem field_carried {batch : Batch} {parameters : Ledger String Value}
    (written : batch.parameters = .ok parameters) (field : Field) :
    field.name ∈ Ledger.keys parameters ↔ isSent (batch.values field) = true := by
  obtain ⟨waiting, rfl, held⟩ := (parameters_exact batch parameters).mp written
  have parted : Ledger.keys (identityParameters batch.identity ++ waiting) =
      Ledger.keys (identityParameters batch.identity) ++ Ledger.keys waiting := List.map_append
  rw [parted, List.mem_append, keys_as_held held]
  constructor
  · rintro (known | member)
    · exact absurd known (identity_names_no_field _ field)
    · obtain ⟨other, among, same⟩ := List.mem_map.mp member
      rw [← Field.own_name_distinct same]
      exact (List.mem_filter.mp among).2
  · intro sent
    exact .inr (List.mem_map_of_mem (List.mem_filter.mpr ⟨Field.all_complete field, sent⟩))

theorem keys_as_sent {conversion : Conversion} {parameters : List (String × Value)}
    {encoded : List (String × String)}
    (sent : List.Forall₂ (SentAs conversion) parameters encoded) :
    Ledger.keys encoded = Ledger.keys parameters := by
  induction sent with
  | nil => rfl
  | cons here _ ih => exact congrArg₂ List.cons here.1 ih

theorem request_exact (batch : Batch) (conversion : Conversion) (address : String)
    (request : Request) :
    batch.request conversion address = .ok request ↔ ∃ parameters encoded,
      batch.parameters = .ok parameters ∧ List.Forall₂ (SentAs conversion) parameters encoded ∧
        request = ⟨address, encoded⟩ := by
  simp only [Batch.request, bind_ok, encode_all_exact]
  constructor
  · rintro ⟨parameters, held, encoded, sent, same⟩
    cases same
    exact ⟨parameters, encoded, held, sent, rfl⟩
  · rintro ⟨parameters, encoded, held, sent, rfl⟩
    exact ⟨parameters, held, encoded, sent, rfl⟩

theorem read_ears_asks_nothing (batch : Batch) (response : String) :
    (batch.readEars response).requests = [] := by
  unfold readEars
  split
  · cases Reply.earPositions response.toList <;> rfl
  · rfl

theorem verify_asks_nothing (batch : Batch) (response : String) :
    (batch.verify response).requests = [] := by
  unfold verify
  cases batch.firstRejected? response <;> rfl

theorem and_then_requests {σ α β : Type} (first : Outcome σ α) (next : σ → α → Outcome σ β)
    (silent : ∀ state value, (next state value).requests = []) :
    (first.andThen next).requests = first.requests := by
  unfold Outcome.andThen
  cases first.result with
  | error failure => rfl
  | ok value => simp [silent]

-- The answer is only read: nothing more is asked of the service.
theorem receive_asks_nothing (batch : Batch) (conversion : Conversion) (octets : List UInt8) :
    (batch.receive conversion octets).requests = [] := by
  unfold receive
  rw [and_then_requests]
  intro batch _
  rw [and_then_requests _ _ fun batch _ => verify_asks_nothing batch _]
  exact read_ears_asks_nothing batch _

theorem dispatch_by_requests (batch : Batch) (conversion : Conversion) (address : String)
    (answer : Answer) :
    (batch.dispatchBy conversion address answer).requests =
      (batch.request conversion address).toOption.toList := by
  unfold dispatchBy
  cases batch.request conversion address with
  | error failure => rfl
  | ok request => exact and_then_requests _ _ fun batch octets => receive_asks_nothing batch _ octets

theorem dispatch_requests (batch : Batch) (codec : Codec) (address : String) (answer : Answer) :
    (batch.dispatch codec address answer).requests =
      (batch.request codec address).toOption.toList :=
  dispatch_by_requests batch codec address answer

-- A value that goes out as a text, so that the charset of the caller is never asked.
def IsTextual (value : Value) : Prop := value.writable = true ∧ ∀ octets, value ≠ .octets octets

theorem text_of_textual {value parameter : Value} (textual : IsTextual value)
    (sent : parameterOf value = .ok parameter) : parameter = .text value.plain := by
  obtain ⟨writable, unlike⟩ := textual
  unfold parameterOf at sent
  split at sent
  · exact absurd rfl (unlike _)
  · rw [if_pos writable] at sent
    cases sent
    rfl

theorem identity_is_text (identity : Identity) :
    ∀ parameter ∈ identityParameters identity, ∃ text, parameter.2 = .text text := by
  intro parameter member
  have fixed : ∀ parameter ∈ [("sn", Value.text identity.mac), ("token", Value.text identity.token)],
      ∃ text, parameter.2 = .text text := by
    simp
  unfold identityParameters at member
  dsimp only at member
  rcases List.mem_append.mp member with own | voice
  · exact fixed parameter own
  · split at voice
    · cases voice
    · rw [List.mem_singleton.mp voice]
      exact ⟨_, rfl⟩

theorem held_is_text {values : Field → Value} (textual : ∀ field, IsTextual (values field))
    {fields : List Field} {held : List (String × Value)}
    (waiting : List.Forall₂ (HeldAs values) fields held) :
    ∀ parameter ∈ held, ∃ text, parameter.2 = .text text := by
  intro parameter member
  obtain ⟨field, _, _, taken⟩ := partner_of_right waiting member
  exact ⟨_, text_of_textual (textual field) taken⟩

-- Texts are never refused on their way.
theorem request_of_textual {batch : Batch} (textual : ∀ field, IsTextual (batch.values field))
    (codec : Codec) (address : String) :
    ∃ request, batch.request codec address = .ok request := by
  obtain ⟨parameters, written⟩ := parameters_total fun field => (textual field).1
  obtain ⟨held, rfl, waiting⟩ := (parameters_exact batch parameters).mp written
  have encodable : ∀ parameter ∈ identityParameters batch.identity ++ held,
      ∃ octets, codec.conversion.outbound parameter.2 = .ok octets := by
    intro parameter member
    have text : ∃ text, parameter.2 = .text text := by
      rcases List.mem_append.mp member with fixed | own
      · exact identity_is_text _ parameter fixed
      · exact held_is_text textual waiting parameter own
    obtain ⟨text, said⟩ := text
    rw [said]
    exact ⟨_, rfl⟩
  obtain ⟨encoded, sent⟩ := encode_all_total codec.conversion _ encodable
  rw [Batch.request, written]
  simp [bind, Except.bind, sent, pure, Except.pure]

theorem textual_asks_once {batch : Batch} (textual : ∀ field, IsTextual (batch.values field))
    (codec : Codec) (address : String) (answer : Answer) :
    ∃ request, (batch.dispatch codec address answer).requests = [request] := by
  obtain ⟨request, asked⟩ := request_of_textual textual codec address
  rw [dispatch_requests, asked]
  exact ⟨request, rfl⟩

end RabbitRemote.Batch
