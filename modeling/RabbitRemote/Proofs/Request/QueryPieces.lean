import RabbitRemote.Proofs.Batch.Requests
import RabbitRemote.Proofs.Request.FormDecoding
import RabbitRemote.Proofs.Text.Pieces
import RabbitRemote.Proofs.Text.Trimming
import RabbitRemote.RequestUrl

namespace RabbitRemote

namespace Codec

-- What a value says to its caller: octets are read in the caller's charset, if they can be.
def textOf? (codec : Codec) : Value → Option (List Char)
  | .text text => some text.toList
  | .octets [] => some []
  | .octets octets =>
    match codec.reading with
    | .transformation => none
    | .text decode => (decode octets).toOption
  | _ => none

-- What is left of a character on the way to the service.
def legible (c : Char) : Char := if 0xFF < c.toNat then '?' else c

theorem legible_of_service_octet (c : Char) :
    Char.ofNat (serviceOctet c).toNat = legible c := by
  unfold serviceOctet legible
  by_cases small : c.toNat < 256
  · have within : ¬ 0xFF < c.toNat := by omega
    have octet : (UInt8.ofNat c.toNat).toNat = c.toNat := UInt8.toNat_ofNat_of_lt' small
    rw [if_pos small, if_neg within, octet, Char.ofNat_toNat]
  · have beyond : 0xFF < c.toNat := by omega
    rw [if_neg small, if_pos beyond]
    rfl

theorem inbound_of_service (text : List Char) :
    inbound (toService text) = String.ofList (text.map legible) := by
  rw [inbound, ofService, toService, List.map_map]
  congr 1
  exact List.map_congr_left fun c _ => legible_of_service_octet c

theorem outbound_says_text {codec : Codec} {value : Value} {octets : List UInt8}
    (encoded : codec.outbound value = .ok octets) :
    ∃ text, codec.textOf? value = some text ∧ octets = toService text := by
  unfold outbound at encoded
  split at encoded
  · rename_i text
    cases encoded
    exact ⟨text.toList, rfl, rfl⟩
  · cases encoded
    exact ⟨[], rfl, rfl⟩
  · rename_i caller nonempty
    split at encoded
    · cases encoded
    · rename_i decode reading
      split at encoded
      · rename_i text decoded
        cases encoded
        refine ⟨text, ?_, rfl⟩
        rw [textOf?.eq_3 _ _ nonempty, reading]
        simp [decoded, Except.toOption]
      · cases encoded
  · cases encoded

end Codec

namespace Batch

theorem field_name_lower (field : Field) : ∀ c ∈ field.name.toList, c.isLower = true := by
  apply List.all_eq_true.mp
  cases field <;> decide

theorem identity_name_lower {name : String} (known : name ∈ ["sn", "token", "voice"]) :
    ∀ c ∈ name.toList, c.isLower = true := by
  apply List.all_eq_true.mp
  simp only [List.mem_cons, List.not_mem_nil, or_false] at known
  rcases known with rfl | rfl | rfl <;> decide

theorem held_names_lower {values : Field → Value} {fields : List Field}
    {held : List (String × Value)} (fit : List.Forall₂ (HeldAs values) fields held) :
    ∀ parameter ∈ held, ∀ c ∈ parameter.1.toList, c.isLower = true := by
  intro parameter member
  obtain ⟨field, _, name, _⟩ := partner_of_right fit member
  rw [name]
  exact field_name_lower field

theorem parameter_names_lower {batch : Batch} {parameters : Ledger String Value}
    (built : batch.parameters = .ok parameters) :
    ∀ parameter ∈ parameters, ∀ c ∈ parameter.1.toList, c.isLower = true := by
  obtain ⟨held, rfl, fit⟩ := (parameters_exact _ _).mp built
  intro parameter member
  rcases List.mem_append.mp member with own | queued
  · exact identity_name_lower (identity_names _ parameter own)
  · exact held_names_lower fit parameter queued

theorem parameters_nonempty {batch : Batch} {parameters : Ledger String Value}
    (built : batch.parameters = .ok parameters) : parameters ≠ [] := by
  obtain ⟨held, rfl, _⟩ := (parameters_exact _ _).mp built
  simp [identityParameters]

end Batch

namespace RequestUrl

theorem stripped_exact (base : List Char) : ∃ ends, base = stripped base ++ ends ∧
    (∀ c ∈ ends, isSeparator c = true) ∧
    ∀ c ∈ (stripped base).getLast?, isSeparator c = false :=
  Text.back_taken_off isSeparator base

-- One parameter as it stands in a query.
def piece (sent : String × String) : List Char := sent.1.toList ++ '=' :: sent.2.toList

theorem query_joins_pieces (sent : List (String × String)) :
    (query sent).toList = ['&'].intercalate (sent.map piece) := by
  rw [query, String.toList_intercalate, List.map_map]
  congr 1
  apply List.map_congr_left
  intro parameter _
  simp [piece]

theorem query_comes_apart (sent : List (String × String)) (nonempty : sent ≠ [])
    (whole : ∀ parameter ∈ sent, '&' ∉ piece parameter) :
    Text.cut '&' (query sent).toList = sent.map piece := by
  rw [query_joins_pieces]
  apply Text.cut_of_joined
  · simpa using nonempty
  · intro part member
    obtain ⟨parameter, inside, rfl⟩ := List.mem_map.mp member
    exact whole parameter inside

-- A piece of a query that carries one parameter whole: its name, and its text but for the characters
-- that the service lacks.
def Carries (codec : Codec) (parameter : String × Value) (part : List Char) : Prop :=
  ∃ value, part = parameter.1.toList ++ '=' :: value ∧
    (∀ c ∈ value, c ≠ '&' ∧ c ≠ '=' ∧ c ≠ '?' ∧ c ≠ '#' ∧ Text.isBlank c = false) ∧
    ∃ octets text, Form.unescape? value = some octets ∧ codec.textOf? parameter.2 = some text ∧
      Codec.inbound octets = String.ofList (text.map Codec.legible)

theorem piece_carries {codec : Codec} {parameter : String × Value} {sent : String × String}
    (fit : Batch.SentAs codec parameter sent) : Carries codec parameter (piece sent) := by
  obtain ⟨name, octets, encoded, (escaped : sent.2 = Form.escape octets)⟩ := fit
  obtain ⟨text, said, rfl⟩ := Codec.outbound_says_text encoded
  refine ⟨sent.2.toList, ?_, ?_, Codec.toService text, text, ?_, said, ?_⟩
  · rw [piece, name]
  · intro c member
    rw [escaped] at member
    exact Form.plain_harmless (Form.escaped_plain _ c member)
  · rw [escaped, Form.unescape_of_escaped]
  · exact Codec.inbound_of_service text

-- The pieces hold no mark of an address, as names are letters only.
theorem piece_harmless {codec : Codec} {parameter : String × Value} {sent : String × String}
    (fit : Batch.SentAs codec parameter sent)
    (letters : ∀ c ∈ parameter.1.toList, c.isLower = true) :
    ∀ c ∈ piece sent, c ≠ '&' ∧ c ≠ '?' ∧ c ≠ '#' := by
  obtain ⟨value, same, harmless, _⟩ := piece_carries fit
  intro c member
  rw [same] at member
  rcases List.mem_append.mp member with name | rest
  · have lower := letters c name
    refine ⟨?_, ?_, ?_⟩ <;> (rintro rfl; exact absurd lower (by decide))
  · rcases List.mem_cons.mp rest with rfl | inside
    · decide
    · obtain ⟨noAmpersand, _, noQuestion, noHash, _⟩ := harmless c inside
      exact ⟨noAmpersand, noQuestion, noHash⟩

theorem pieces_harmless {codec : Codec} {parameters : List (String × Value)}
    {sent : List (String × String)} (fit : List.Forall₂ (Batch.SentAs codec) parameters sent)
    (letters : ∀ parameter ∈ parameters, ∀ c ∈ parameter.1.toList, c.isLower = true) :
    ∀ one ∈ sent, ∀ c ∈ piece one, c ≠ '&' ∧ c ≠ '?' ∧ c ≠ '#' := by
  intro one member
  obtain ⟨parameter, among, sent⟩ := partner_of_right fit member
  exact piece_harmless sent (letters parameter among)

theorem query_without_hash (sent : List (String × String))
    (harmless : ∀ one ∈ sent, '#' ∉ piece one) : '#' ∉ (query sent).toList := by
  rw [query_joins_pieces]
  intro member
  rcases Text.mem_of_joined member with ampersand | ⟨part, inside, here⟩
  · exact absurd ampersand (by decide)
  · obtain ⟨one, among, rfl⟩ := List.mem_map.mp inside
    exact harmless one among here

theorem query_nonempty (sent : List (String × String)) (nonempty : sent ≠ []) :
    (query sent).isEmpty = false := by
  have characters : (query sent).toList ≠ [] := by
    rw [query_joins_pieces]
    cases sent with
    | nil => exact absurd rfl nonempty
    | cons first rest =>
      cases rest with
      | nil => simp [piece]
      | cons next more => simp [piece, List.intercalate_cons_cons]
  rw [Bool.eq_false_iff]
  intro empty
  exact characters (by simpa using empty)

theorem build_with_query (base : String) (sent : List (String × String)) (nonempty : sent ≠ []) :
    (build base sent).toList = stripped base.toList ++
      (if '?' ∈ stripped base.toList then '&' else '?') :: (query sent).toList := by
  unfold build
  dsimp only
  rw [query_nonempty sent nonempty]
  by_cases marked : '?' ∈ stripped base.toList
  · simp [marked]
  · simp [marked]

-- Every parameter of a request has its own piece in the query, in order, and nothing that a caller
-- says leaves its piece.
theorem parameters_stay_apart (batch : Batch) (codec : Codec) (base : String) (answer : Answer)
    (parameters : Ledger String Value) (unmarked : '#' ∉ base.toList)
    (built : batch.parameters = .ok parameters)
    (encodable : ∀ parameter ∈ parameters, ∃ octets, codec.outbound parameter.2 = .ok octets) :
    ∃ encoded bare ends query,
      (batch.dispatch codec base answer).requests = [⟨base, encoded⟩] ∧
      base.toList = bare ++ ends ∧ (∀ c ∈ ends, c = '?' ∨ c = '&') ∧
      (∀ c ∈ bare.getLast?, c ≠ '?' ∧ c ≠ '&') ∧
      (build base encoded).toList = bare ++ (if '?' ∈ bare then '&' else '?') :: query ∧
      List.Forall₂ (Carries codec) parameters (Text.cut '&' query) ∧
      '#' ∉ (build base encoded).toList := by
  obtain ⟨encoded, written⟩ := Batch.encode_all_total codec parameters encodable
  have fit := (Batch.encode_all_exact _ _ _).mp written
  have letters := Batch.parameter_names_lower built
  have harmless := pieces_harmless fit letters
  have nonempty : encoded ≠ [] := by
    rintro rfl
    exact Batch.parameters_nonempty built (List.forall₂_nil_right_iff.mp fit)
  have request : batch.request codec base = .ok ⟨base, encoded⟩ :=
    (Batch.request_exact _ _ _ _).mpr ⟨parameters, encoded, built, fit, rfl⟩
  have url := build_with_query base encoded nonempty
  obtain ⟨ends, parted, separators, last⟩ := stripped_exact base.toList
  refine ⟨encoded, stripped base.toList, ends, (query encoded).toList, ?_, parted, ?_, ?_, url,
    ?_, ?_⟩
  · rw [Batch.dispatch_requests, request]
    rfl
  · intro c member
    simpa [isSeparator] using separators c member
  · intro c member
    simpa [isSeparator] using last c member
  · rw [query_comes_apart encoded nonempty fun one member amp => (harmless one member _ amp).1 rfl]
    exact List.forall₂_map_right_iff.mpr (fit.imp fun _ _ sent => piece_carries sent)
  · rw [url]
    intro member
    rcases List.mem_append.mp member with address | tail
    · exact unmarked (parted ▸ List.mem_append_left ends address)
    · rcases List.mem_cons.mp tail with separator | inside
      · split at separator <;> exact absurd separator (by decide)
      · exact query_without_hash encoded (fun one among hash => (harmless one among _ hash).2.2 rfl)
          inside

-- A token, a speech and a title that are full of marks, one of them with characters that the service
-- lacks and one as octets of the caller.
theorem marks_stay_apart :
    let batch := ((Batch.empty ⟨"0013d380", "a&sn=b", none⟩).set .speech
      (.text "a&tts=c%26+d \u20ac\u00e9#")).set .choreographyTitle (.octets [0xC3, 0xA9, 0x26, 0x3D])
    let parameters : Ledger String Value := [("sn", .text "0013d380"), ("token", .text "a&sn=b"),
      ("tts", .text "a&tts=c%26+d \u20ac\u00e9#"), ("chortitle", .octets [0xC3, 0xA9, 0x26, 0x3D])]
    ∃ encoded bare query,
      (batch.dispatch .default "http://host/api?x=1&?" (.ok [])).requests =
        [⟨"http://host/api?x=1&?", encoded⟩] ∧
      (build "http://host/api?x=1&?" encoded).toList =
        bare ++ (if '?' ∈ bare then '&' else '?') :: query ∧
      List.Forall₂ (Carries .default) parameters (Text.cut '&' query) := by
  intro batch parameters
  have built : batch.parameters = .ok parameters := rfl
  have encodable : ∀ parameter ∈ parameters,
      ∃ octets, Codec.default.outbound parameter.2 = .ok octets := by
    simp only [parameters, List.forall_mem_cons]
    exact ⟨⟨_, rfl⟩, ⟨_, rfl⟩, ⟨_, rfl⟩, ⟨_, rfl⟩, by simp⟩
  obtain ⟨encoded, bare, _, query, requests, _, _, _, url, pieces, _⟩ :=
    parameters_stay_apart batch .default "http://host/api?x=1&?" (.ok []) parameters (by decide)
      built encodable
  exact ⟨encoded, bare, query, requests, url, pieces⟩

end RequestUrl
end RabbitRemote
