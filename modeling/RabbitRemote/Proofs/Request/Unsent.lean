import RabbitRemote.Proofs.Batch.Endings

namespace RabbitRemote

namespace Charset

theorem look_up_known (others : Registry) {name : String} {coding : Coding}
    (known : find? name = some coding) : lookUp others name = some coding.reading := by
  rw [lookUp, known]

theorem decoder_says_why {charset : Charset} {octets : List UInt8} {unread : Unread}
    (ill : charset.decoder octets = .error unread) :
    ∃ fault : Fault, unread = .undecodable fault.reason.text := by
  unfold decoder at ill
  split at ill
  · cases ill
  · rename_i fault _
    exact ⟨fault, (Except.error.inj ill).symm⟩

end Charset

namespace Codec
variable {others : Charset.Registry} {name : String} {codec : Codec} {octets : List UInt8}
  {failure : Failure}

theorem accepted_name_exact (others : Charset.Registry) (name : String) (codec : Codec) :
    named others name = .ok codec ↔ name.contains (Char.ofNat 0) = false ∧
      Charset.lookUp others name = some codec.reading ∧ codec.name = name := by
  obtain ⟨own, reading⟩ := codec
  unfold named
  cases clean : name.contains (Char.ofNat 0) with
  | true => simp
  | false => cases Charset.lookUp others name <;> simp [eq_comm, and_comm]

-- What may become of octets under a name that is accepted: they are found to be no text, or the codec
-- fails in a way of its own, or the name is that of a transformation, which gives no text whatever
-- the octets are. If there are none, nothing of this is found out.
inductive Fails (others : Charset.Registry) (name : String) (octets : List UInt8) :
    Failure → Prop where
  | undecodable {decode : List UInt8 → Except Charset.Unread (List Char)} {reason : String}
      (known : Charset.lookUp others name = some (.text decode)) (nonempty : octets ≠ [])
      (ill : decode octets = .error (.undecodable reason)) :
      Fails others name octets (.undecodable name reason)
  | codecFailed {decode : List UInt8 → Except Charset.Unread (List Char)} {message : String}
      (known : Charset.lookUp others name = some (.text decode)) (nonempty : octets ≠ [])
      (ill : decode octets = .error (.failed message)) :
      Fails others name octets (.codecFailed message)
  | textless (known : Charset.lookUp others name = some .transformation) (nonempty : octets ≠ []) :
      Fails others name octets (.noTextCharset name)

theorem Fails.refused_or_not_text (fails : Fails others name octets failure) :
    failure.kind = .refusal ∨
    (∃ decode message, Charset.lookUp others name = some (.text decode) ∧
      decode octets = .error (.failed message) ∧ failure = .codecFailed message) ∨
    Charset.lookUp others name = some .transformation ∧ failure = .noTextCharset name := by
  cases fails with
  | undecodable => exact .inl rfl
  | codecFailed known _ ill => exact .inr (.inl ⟨_, _, known, ill, rfl⟩)
  | textless known => exact .inr (.inr ⟨known, rfl⟩)

theorem Fails.refused_of_known {charset : Charset}
    (known : Charset.find? name = some (.text charset)) (fails : Fails others name octets failure) :
    failure.kind = .refusal := by
  have found := Charset.look_up_known others known
  cases fails with
  | undecodable => rfl
  | codecFailed named _ ill =>
    cases found.symm.trans named
    obtain ⟨_, why⟩ := Charset.decoder_says_why ill
    cases why
  | textless named => cases found.symm.trans named

theorem transformation_fails (reading : codec.reading = .transformation) (nonempty : octets ≠ []) :
    codec.outbound (.octets octets) = .error failure ↔ failure = .noTextCharset codec.name := by
  cases octets with
  | nil => exact absurd rfl nonempty
  | cons octet more => simp only [outbound, reading, Except.error.injEq, eq_comm]

theorem decoding_fails {decode : List UInt8 → Except Charset.Unread (List Char)}
    (reading : codec.reading = .text decode) (nonempty : octets ≠ []) :
    codec.outbound (.octets octets) = .error failure ↔
      ∃ unread, decode octets = .error unread ∧ failure = codec.unreadFailure unread := by
  cases octets with
  | nil => exact absurd rfl nonempty
  | cons octet more =>
    simp only [outbound, reading]
    cases decode (octet :: more) <;> simp [eq_comm]

theorem octets_fail_exactly (accepted : named others name = .ok codec) (octets : List UInt8)
    (failure : Failure) :
    codec.outbound (.octets octets) = .error failure ↔ Fails others name octets failure := by
  obtain ⟨_, known, rfl⟩ := (accepted_name_exact others name codec).mp accepted
  by_cases nonempty : octets = []
  · rw [nonempty]
    constructor
    · intro failed
      cases failed
    · intro fails
      cases fails <;> contradiction
  · cases reading : codec.reading with
    | transformation =>
      rw [reading] at known
      rw [transformation_fails reading nonempty]
      constructor
      · rintro rfl
        exact .textless known nonempty
      · intro fails
        cases fails with
        | undecodable text | codecFailed text => cases known.symm.trans text
        | textless => rfl
    | text decode =>
      rw [reading] at known
      rw [decoding_fails reading nonempty]
      constructor
      · rintro ⟨unread, ill, rfl⟩
        cases unread with
        | undecodable reason => exact .undecodable known nonempty ill
        | failed message => exact .codecFailed known nonempty ill
      · intro fails
        cases fails with
        | undecodable text _ ill | codecFailed text _ ill =>
          cases known.symm.trans text
          exact ⟨_, ill, rfl⟩
        | textless none => cases known.symm.trans none

end Codec

namespace Batch

theorem parameter_unwritten {value : Value} {failure : Failure}
    (failed : parameterOf value = .error failure) :
    value.writable = false ∧ failure = .integerTooLong := by
  unfold parameterOf at failed
  split at failed
  · cases failed
  · split at failed
    · cases failed
    · rename_i unwritable
      cases failed
      exact ⟨by simpa using unwritable, rfl⟩

theorem field_parameters_unwritten {values : Field → Value} {fields : List Field}
    {failure : Failure} (failed : fieldParameters values fields = .error failure) :
    ∃ field, (values field).writable = false ∧ failure = .integerTooLong := by
  induction fields with
  | nil => cases failed
  | cons field rest ih =>
    unfold fieldParameters at failed
    split at failed
    · simp only [bind_failed, pure, Except.pure, reduceCtorEq, and_false, exists_false, or_false]
        at failed
      rcases failed with here | ⟨_, _, later⟩
      · exact ⟨field, parameter_unwritten here⟩
      · exact ih later
    · exact ih failed

theorem parameter_taken {value parameter : Value} (taken : parameterOf value = .ok parameter) :
    (∃ text, parameter = .text text) ∨
      ∃ octets, value = .octets octets ∧ parameter = .octets octets := by
  unfold parameterOf at taken
  split at taken
  · cases taken
    exact .inr ⟨_, rfl, rfl⟩
  · split at taken
    · rw [← Except.ok.inj taken]
      exact .inl ⟨_, rfl⟩
    · cases taken

-- A request carries texts, and octets as one of the fields holds them.
theorem text_or_held_octets {batch : Batch} {parameters : Ledger String Value}
    (written : batch.parameters = .ok parameters) : ∀ parameter ∈ parameters,
      (∃ text, parameter.2 = .text text) ∨
        ∃ field octets, batch.values field = .octets octets ∧ parameter.2 = .octets octets := by
  obtain ⟨waiting, rfl, held⟩ := (parameters_exact batch parameters).mp written
  intro parameter member
  rcases List.mem_append.mp member with own | queued
  · exact .inl (identity_is_text _ parameter own)
  · obtain ⟨field, _, _, taken⟩ := partner_of_right held queued
    rcases parameter_taken taken with text | ⟨octets, holds, same⟩
    · exact .inl text
    · exact .inr ⟨field, octets, holds, same⟩

-- Nothing but this keeps a batch from asking the service.
theorem request_fails {batch : Batch} {conversion : Conversion} {address : String}
    {failure : Failure} (failed : batch.request conversion address = .error failure) :
    (∃ field, (batch.values field).writable = false ∧ failure = .integerTooLong) ∨
      (∃ text, conversion.outbound (.text text) = .error failure) ∨
      ∃ field octets, batch.values field = .octets octets ∧
        conversion.outbound (.octets octets) = .error failure := by
  simp only [request, bind_failed, pure, Except.pure, reduceCtorEq, and_false, exists_false,
    or_false] at failed
  rcases failed with unwritten | ⟨parameters, written, refused⟩
  · exact .inl (field_parameters_unwritten (map_failed.mp unwritten))
  · obtain ⟨before, parameter, after, rfl, _, reason⟩ := first_refused_of_error refused
    rcases text_or_held_octets written parameter (by simp) with
      ⟨text, same⟩ | ⟨field, octets, held, same⟩
    · exact .inr (.inl ⟨text, same ▸ reason⟩)
    · exact .inr (.inr ⟨field, octets, held, same ▸ reason⟩)

theorem silent_dispatch_failed {batch : Batch} {conversion : Conversion} {address : String}
    {answer : Answer} (silent : (batch.dispatchBy conversion address answer).requests = []) :
    ∃ failure, (batch.dispatchBy conversion address answer).result = .error failure ∧
      batch.request conversion address = .error failure := by
  rw [dispatch_by_requests] at silent
  cases asked : batch.request conversion address with
  | error failure => exact ⟨failure, by simp [dispatchBy, asked, Outcome.failed], rfl⟩
  | ok request =>
    rw [asked] at silent
    cases silent

end Batch

namespace Codec

-- A codec whose name was accepted takes every text. Octets it refuses in words, with two exceptions:
-- the codec fails in a way of its own, which the charsets that are written here never do, or the name
-- stands for a transformation, which is found out with the first octets only. A batch fails before it
-- asks for no other reason than octets in a field, or a field that is too long to be written.
theorem accepted_codec_fails_exactly {others : Charset.Registry} {name : String} {codec : Codec}
    (accepted : named others name = .ok codec) :
    (∀ text, ∃ sent, codec.outbound (.text text) = .ok sent) ∧
    (∀ octets failure, codec.outbound (.octets octets) = .error failure ↔
      Fails others name octets failure) ∧
    (∀ octets failure, Fails others name octets failure → failure.kind = .refusal ∨
      (∃ decode message, Charset.lookUp others name = some (.text decode) ∧
        decode octets = .error (.failed message) ∧ failure = .codecFailed message) ∨
      Charset.lookUp others name = some .transformation ∧ failure = .noTextCharset name) ∧
    (∀ charset, Charset.find? name = some (.text charset) → ∀ octets failure,
      Fails others name octets failure → failure.kind = .refusal) ∧
    ∀ (batch : Batch) address answer, (batch.dispatch codec address answer).requests = [] →
      ∃ failure, (batch.dispatch codec address answer).result = .error failure ∧
        ((∃ field octets, batch.values field = .octets octets ∧
          Fails others name octets failure) ∨
          ∃ field, (batch.values field).writable = false ∧ failure = .integerTooLong) := by
  refine ⟨fun text => ⟨_, rfl⟩, octets_fail_exactly accepted,
    fun _ _ fails => fails.refused_or_not_text, fun _ known _ _ fails => fails.refused_of_known known,
    ?_⟩
  intro batch address answer silent
  obtain ⟨failure, failed, refused⟩ := Batch.silent_dispatch_failed silent
  refine ⟨failure, failed, ?_⟩
  rcases Batch.request_fails refused with long | ⟨text, untaken⟩ | ⟨field, octets, held, untaken⟩
  · exact .inr long
  · cases untaken
  · exact .inl ⟨field, octets, held, (octets_fail_exactly accepted octets failure).mp untaken⟩

-- Surroundings with one more codec, which reads nothing and never says what is wrong.
def withUndefined : Charset.Registry := fun name =>
  if name = "undefined" then some (.text fun _ => .error (.failed "undefined encoding")) else none

theorem undefined_found : Charset.lookUp withUndefined "undefined" =
    some (.text fun _ => .error (.failed "undefined encoding")) := by
  have unknown : Charset.find? "undefined" = none := by decide +kernel
  have plain : Charset.plain "undefined" = "undefined" := by decide +kernel
  rw [Charset.lookUp, unknown]
  dsimp only
  rw [plain, withUndefined, if_pos rfl]

theorem accepted_transformation_fails :
    let codec : Codec := ⟨"ROT-13", .transformation⟩
    let batch := (Batch.empty ⟨"0013d3", "secret", none⟩).set .speech (.octets [0x61])
    let dispatched := batch.dispatch codec Batch.defaultAddress (.ok [])
    named withUndefined "ROT-13" = .ok codec ∧
    codec.outbound (.octets [0x61]) = .error (.noTextCharset "ROT-13") ∧
    Fails withUndefined "ROT-13" [0x61] (.noTextCharset "ROT-13") ∧
    dispatched.requests = [] ∧
    ∃ failure, dispatched.result = .error failure ∧
      ((∃ field octets, batch.values field = .octets octets ∧
        Fails withUndefined "ROT-13" octets failure) ∨
        ∃ field, (batch.values field).writable = false ∧ failure = .integerTooLong) := by
  intro codec batch dispatched
  have known : Charset.find? "ROT-13" = some .transformation := by decide +kernel
  have accepted : named withUndefined "ROT-13" = .ok codec :=
    (accepted_name_exact _ _ _).mpr ⟨by simp, Charset.look_up_known _ known, rfl⟩
  have untaken : codec.outbound (.octets [0x61]) = .error (.noTextCharset "ROT-13") := rfl
  obtain ⟨_, octets, _, _, dispatches⟩ := accepted_codec_fails_exactly accepted
  have silent : dispatched.requests = [] := rfl
  exact ⟨accepted, untaken, (octets _ _).mp untaken, silent, dispatches batch _ _ silent⟩

-- All that goes wrong with octets under a name is refused in words.
def RefusesInWords (others : Charset.Registry) (name : String) : Prop :=
  ∀ codec, named others name = .ok codec → ∀ octets failure,
    codec.outbound (.octets octets) = .error failure → failure.kind = .refusal

-- Neither a transformation is refused nor what a codec fails with.
theorem octets_not_always_refused :
    ¬ RefusesInWords withUndefined "rot13" ∧ ¬ RefusesInWords withUndefined "undefined" := by
  constructor
  · intro refuses
    have known : Charset.find? "rot13" = some .transformation := by decide +kernel
    have accepted : named withUndefined "rot13" = .ok ⟨"rot13", .transformation⟩ :=
      (accepted_name_exact _ _ _).mpr ⟨by simp, Charset.look_up_known _ known, rfl⟩
    cases refuses _ accepted [0x61] _ rfl
  · intro refuses
    have accepted := (accepted_name_exact _ _ ⟨"undefined", _⟩).mpr ⟨by simp, undefined_found, rfl⟩
    cases refuses _ accepted [0x61] _ rfl

end Codec
end RabbitRemote
