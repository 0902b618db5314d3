import RabbitRemote.Proofs.Batch.Run
import RabbitRemote.Proofs.Reply.Positions
import RabbitRemote.Reply.Acknowledgement

namespace RabbitRemote.Batch

-- A label whose verifier, the one that was registered last, does not accept a response.
def Rejects (registrations : List (String × Verifier)) (response label : String) : Prop :=
  ∃ verifier, Ledger.latest? registrations label = some verifier ∧ verifier response = false

-- The first such label. Labels stand in the order in which they were registered first.
def FirstRejecting (registrations : List (String × Verifier)) (response label : String) : Prop :=
  Rejects registrations response label ∧ ∃ before after,
    Ledger.keys registrations = before ++ label :: after ∧
      ∀ sooner ∈ before, ¬ Rejects registrations response sooner

theorem rejects_exact {batch : Batch} {registrations : List (String × Verifier)}
    (registered : batch.verifiers = Ledger.ofList registrations) (response label : String) :
    Rejects registrations response label ↔
      ∃ verifier, (label, verifier) ∈ batch.verifiers ∧ verifier response = false := by
  have single := Ledger.keys_of_list_nodup registrations
  unfold Rejects
  rw [registered]
  constructor
  · rintro ⟨verifier, last, rejects⟩
    rw [← Ledger.get_of_list] at last
    exact ⟨verifier, Ledger.entry_of_get last, rejects⟩
  · rintro ⟨verifier, entered, rejects⟩
    rw [← Ledger.get_of_list]
    exact ⟨verifier, Ledger.get_of_entry single entered, rejects⟩

theorem none_rejected_exact {batch : Batch} {registrations : List (String × Verifier)}
    (registered : batch.verifiers = Ledger.ofList registrations) (response : String) :
    batch.firstRejected? response = none ↔ ∀ label, ¬ Rejects registrations response label := by
  simp only [rejects_exact registered, firstRejected?, Option.map_eq_none_iff,
    List.find?_eq_none, Prod.forall, Bool.not_eq_true', not_exists, not_and]

theorem first_rejecting_of_rejected {batch : Batch} {registrations : List (String × Verifier)}
    (registered : batch.verifiers = Ledger.ofList registrations) {response label : String}
    (rejected : batch.firstRejected? response = some label) :
    FirstRejecting registrations response label := by
  obtain ⟨⟨other, verifier⟩, found, same⟩ := Option.map_eq_some_iff.mp rejected
  obtain rfl : label = other := same.symm
  obtain ⟨rejects, front, back, parts, accepted⟩ := List.find?_eq_some_iff_append.mp found
  have entered : (label, verifier) ∈ batch.verifiers := by simp [parts]
  refine ⟨(rejects_exact registered _ _).mpr ⟨verifier, entered, by simpa using rejects⟩, ?_⟩
  have placed : Ledger.keys (Ledger.ofList registrations) =
      Ledger.keys front ++ label :: Ledger.keys back := by
    rw [← registered, parts]
    exact List.map_append
  obtain ⟨before, first, after, history, known⟩ := Ledger.place_of_first_entry placed
  refine ⟨Ledger.keys before, Ledger.keys after, by rw [history]; exact List.map_append, ?_⟩
  intro sooner member rejecting
  -- What came before the label stands in front of it, where everything was accepted.
  rw [← Ledger.key_of_list_exact, known] at member
  obtain ⟨⟨name, other⟩, inFront, rfl⟩ := List.mem_map.mp member
  obtain ⟨last, latest, fails⟩ := rejecting
  have entered : (name, other) ∈ batch.verifiers := parts ▸ List.mem_append_left _ inFront
  rw [registered] at entered
  have held := Ledger.get_of_entry (Ledger.keys_of_list_nodup _) entered
  rw [Ledger.get_of_list] at held
  cases held.symm.trans latest
  have accepts : other response = true := by simpa using accepted _ inFront
  cases accepts.symm.trans fails

-- What a dispatch has to show, given the parameters of its batch and what was registered.
structure Concluded (registrations : List (String × Verifier)) (before : Batch)
    (parameters : Ledger String Value) (conversion : Conversion) (address : String)
    (answer : Answer) (dispatched : Outcome Batch Result) : Prop where
  single : dispatched.requests.length ≤ 1
  unasked : dispatched.requests = [] ↔
    ∃ parameter ∈ parameters, ∃ failure, conversion.outbound parameter.2 = .error failure
  refused : dispatched.requests = [] → dispatched.state = before ∧
    ∃ failure, FirstRefused conversion parameters failure ∧ dispatched.result = .error failure
  asked : ∀ request ∈ dispatched.requests, request.address = address ∧
    List.Forall₂ (SentAs conversion) parameters request.parameters
  unanswered : dispatched.requests ≠ [] → ∀ failure, answer = .error failure →
    dispatched.result = .error failure ∧ dispatched.state = before
  accepted : dispatched.requests ≠ [] → ∀ octets, answer = .ok octets →
    ((∃ result, dispatched.result = .ok result ∧
        result.response = Reply.normalised (conversion.inbound octets)) ↔
      ∀ label, ¬ Rejects registrations (Reply.normalised (conversion.inbound octets)) label)
  rejected : dispatched.requests ≠ [] → ∀ octets, answer = .ok octets →
    ∀ label, Rejects registrations (Reply.normalised (conversion.inbound octets)) label →
    ∃ first, FirstRejecting registrations (Reply.normalised (conversion.inbound octets)) first ∧
      dispatched.result =
        .error (.service first (Reply.normalised (conversion.inbound octets)))
  heard : dispatched.requests ≠ [] → ∀ octets, answer = .ok octets →
    before.Hears (Reply.normalised (conversion.inbound octets)) dispatched.state.ears
  kept : ∃ ears, dispatched.state = { before with ears := ears }

theorem request_or_refusal {batch : Batch} {parameters : Ledger String Value}
    (written : batch.parameters = .ok parameters) (conversion : Conversion) (address : String) :
    (∃ failure, batch.request conversion address = .error failure ∧
      FirstRefused conversion parameters failure) ∨
    ∃ request, batch.request conversion address = .ok request ∧ request.address = address ∧
      List.Forall₂ (SentAs conversion) parameters request.parameters := by
  cases asked : batch.request conversion address with
  | error failure =>
    refine .inl ⟨failure, rfl, first_refused_of_error ?_⟩
    rw [Batch.request, written] at asked
    cases encoded : encodeAll conversion parameters with
    | error reason => simpa [bind, Except.bind, encoded] using asked
    | ok pairs => simp [bind, Except.bind, encoded, pure, Except.pure] at asked
  | ok request =>
    obtain ⟨held, encoded, same, sent, rfl⟩ := (request_exact _ _ _ _).mp asked
    cases written.symm.trans same
    exact .inr ⟨_, rfl, rfl, sent⟩

theorem sent_is_convertible {conversion : Conversion} {parameters : List (String × Value)}
    {encoded : List (String × String)}
    (sent : List.Forall₂ (SentAs conversion) parameters encoded) :
    ∀ parameter ∈ parameters, ∃ octets, conversion.outbound parameter.2 = .ok octets := by
  intro parameter member
  obtain ⟨_, _, _, octets, outbound, _⟩ := partner_of_left sent member
  exact ⟨octets, outbound⟩

theorem refused_concludes {batch : Batch} {parameters : Ledger String Value}
    {conversion : Conversion} {address : String} {failure : Failure}
    (refused : batch.request conversion address = .error failure)
    (first : FirstRefused conversion parameters failure)
    (registrations : List (String × Verifier)) (answer : Answer) :
    Concluded registrations batch parameters conversion address answer
      (batch.dispatchBy conversion address answer) := by
  have stopped : batch.dispatchBy conversion address answer = .failed batch failure := by
    rw [dispatchBy, refused]
  have silent : (batch.dispatchBy conversion address answer).requests = [] := by
    rw [stopped]
    rfl
  have offending : ∃ parameter ∈ parameters, ∃ failure,
      conversion.outbound parameter.2 = .error failure := by
    obtain ⟨before, parameter, after, parts, _, reason⟩ := first
    exact ⟨parameter, by simp [parts], failure, reason⟩
  exact {
    single := by rw [silent]; exact Nat.zero_le _
    unasked := iff_of_true silent offending
    refused := fun _ =>
      ⟨congrArg Outcome.state stopped, failure, first, congrArg Outcome.result stopped⟩
    asked := by rw [silent]; simp
    unanswered := fun issued => absurd silent issued
    accepted := fun issued => absurd silent issued
    rejected := fun issued => absurd silent issued
    heard := fun issued => absurd silent issued
    kept := dispatch_only_hears batch conversion address answer }

theorem asked_concludes {batch : Batch} {registrations : List (String × Verifier)}
    {parameters : Ledger String Value} {conversion : Conversion} {request : Request}
    {answer : Answer} (registered : batch.verifiers = Ledger.ofList registrations)
    (asked : batch.request conversion request.address = .ok request)
    (sent : List.Forall₂ (SentAs conversion) parameters request.parameters)
    (legible : batch.asksForEars = true → ∀ octets, answer = .ok octets →
      ¬ Reply.Overlong (conversion.inbound octets).toList) :
    Concluded registrations batch parameters conversion request.address answer
      (batch.dispatchBy conversion request.address answer) := by
  have ended := dispatch_ends batch conversion request.address answer
  have issued : (batch.dispatchBy conversion request.address answer).requests = [request] := by
    rw [dispatch_by_requests, asked]
    rfl
  have loud : (batch.dispatchBy conversion request.address answer).requests ≠ [] := by
    simp [issued]
  have judged := fun octets (answered : answer = .ok octets) =>
    judged_as_verified ended asked answered fun asking => by
      simpa [Reply.normalised] using Reply.positions_of_legible (legible asking octets answered)
  refine ⟨?single, ?unasked, fun silent => absurd silent loud, ?asked, ?unanswered, ?accepted,
    ?rejected, ?heard, dispatch_only_hears batch conversion request.address answer⟩
  case single =>
    rw [issued]
    exact Nat.le_refl _
  case unasked =>
    refine iff_of_false loud ?_
    rintro ⟨parameter, member, failure, refused⟩
    obtain ⟨octets, outbound⟩ := sent_is_convertible sent parameter member
    cases outbound.symm.trans refused
  case asked =>
    rw [issued]
    intro other member
    cases List.mem_singleton.mp member
    exact ⟨rfl, sent⟩
  case unanswered =>
    intro _ failure broken
    rw [dispatchBy, asked, broken]
    exact ⟨rfl, rfl⟩
  case accepted =>
    intro _ octets answered
    obtain ⟨result, _⟩ := judged octets answered
    rw [result, verdict, ← none_rejected_exact registered]
    cases batch.firstRejected? (Reply.normalised (conversion.inbound octets)) <;> simp
  case rejected =>
    intro _ octets answered label rejects
    obtain ⟨result, _⟩ := judged octets answered
    cases rejected : batch.firstRejected? (Reply.normalised (conversion.inbound octets)) with
    | none => exact absurd rejects ((none_rejected_exact registered _).mp rejected label)
    | some first =>
      rw [verdict, rejected] at result
      exact ⟨first, first_rejecting_of_rejected registered rejected, result⟩
  case heard => exact fun _ octets answered => (judged octets answered).2

-- However a batch came about, a dispatch of it asks once and tells the first label that was not
-- accepted, unless a parameter is refused before or the service cannot be reached.
theorem dispatch_concludes (identity : Identity) (steps : List Step) (conversion : Conversion)
    (address : String) (answer : Answer)
    (renderable : ∀ field, (((empty identity).run steps).values field).writable = true)
    (legible : ((empty identity).run steps).asksForEars = true →
      ∀ octets, answer = .ok octets → ¬ Reply.Overlong (conversion.inbound octets).toList) :
    ∃ parameters, ((empty identity).run steps).parameters = .ok parameters ∧
      Concluded (registrations steps) ((empty identity).run steps) parameters conversion address
        answer (((empty identity).run steps).dispatchBy conversion address answer) := by
  obtain ⟨parameters, written⟩ := parameters_total renderable
  refine ⟨parameters, written, ?_⟩
  rcases request_or_refusal written conversion address with
    ⟨failure, refused, first⟩ | ⟨request, asked, rfl, sent⟩
  · exact refused_concludes refused first _ answer
  · exact asked_concludes (run_verifiers identity steps) asked sent legible

theorem ear_query_concludes :
    let identity : Identity := ⟨"0013d3", "secret", none⟩
    let steps : List Step := [.register "Speech" fun _ => true, .set (.text "ears") (.text "ok"),
      .register "Left ear" Reply.Command.leftEar.acknowledgedIn, .set (.text "tts") (.truth false),
      .register "Speech" Reply.Command.say.acknowledgedIn]
    let batch := (empty identity).run steps
    let octets := Codec.toService "Position gauche = 3  Position droite = 4".toList
    (∀ field, (batch.values field).writable = true) ∧ batch.asksForEars = true ∧
      ¬ Reply.Overlong (Codec.inbound octets).toList ∧
      ∃ parameters, batch.parameters = .ok parameters ∧
        Concluded (registrations steps) batch parameters Codec.default.conversion defaultAddress
          (.ok octets) (batch.dispatchBy Codec.default.conversion defaultAddress (.ok octets)) := by
  intro identity steps batch octets
  have renderable : ∀ field, (batch.values field).writable = true := by
    intro field
    cases field <;> decide
  have short : (Codec.inbound octets).toList.length ≤ Number.figureLimit := by decide +kernel
  have legible : ¬ Reply.Overlong (Codec.inbound octets).toList :=
    fun long => absurd (Reply.overlong_is_long long) (Nat.not_lt.mpr short)
  refine ⟨renderable, rfl, legible, dispatch_concludes identity steps _ _ _ renderable ?_⟩
  intro _ answered same
  cases same
  exact legible

end RabbitRemote.Batch
