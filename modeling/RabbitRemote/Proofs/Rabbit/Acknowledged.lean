import RabbitRemote.Proofs.Rabbit.Demands

namespace RabbitRemote.Rabbit

-- The latest text to say is an empty one, which no request carries.
def Voiceless (past : List Event) : Prop :=
  ∃ text, latest? past .speech = some text ∧ Batch.isSent text = false

-- All that a request carries is acknowledged in the reply.
def Acknowledges (reply : String) (request : Request) : Prop :=
  ∀ command, (carrier command).name ∈ Ledger.keys request.parameters →
    command.acknowledgedIn reply = true

-- The acknowledgements that wait are those of the commands that wait.
def DemandsWaiting (past : List Event) (rabbit : Rabbit) : Prop :=
  ∀ label verifier, (label, verifier) ∈ rabbit.pending.verifiers ↔ ∃ command,
    (latest? past (carrier command)).isSome = true ∧ label = command.label ∧
      verifier = command.acknowledgedIn

-- What a rabbit demands, given its history. Each command that waits is carried by the request,
-- except for an empty text, and that alone can be missed in a reply that acknowledges the rest.
structure Demanding (past : List Event) (rabbit : Rabbit) : Prop where
  demanded : DemandsWaiting past rabbit
  carried : ∀ parameters, rabbit.pending.parameters = .ok parameters → ∀ command,
    (latest? past (carrier command)).isSome = true →
      ((carrier command).name ∈ Ledger.keys parameters ↔ ¬ (command = .say ∧ Voiceless past))
  accepted : ∀ octets, ∀ request ∈ (rabbit.send (.ok octets)).requests,
    Acknowledges (Reply.normalised (Codec.inbound octets)) request →
      ((∃ result, (rabbit.send (.ok octets)).result = .ok result) ↔
        (Voiceless past →
          Reply.Command.say.acknowledgedIn (Reply.normalised (Codec.inbound octets)) = true))
  rejected : ∀ octets failure, ∀ request ∈ (rabbit.send (.ok octets)).requests,
    Acknowledges (Reply.normalised (Codec.inbound octets)) request →
      (rabbit.send (.ok octets)).result = .error failure →
        failure = .service Reply.Command.say.label (Reply.normalised (Codec.inbound octets))

variable {identity : Identity} {codec : Codec} {address : String} {past : List Event}
  {rabbit : Rabbit}

theorem waiting_is_sent (genuine : ∀ event ∈ past, event.Genuine) {command : Reply.Command}
    (waits : (latest? past (carrier command)).isSome = true) :
    Batch.isSent (latest past (carrier command)) = true ↔
      ¬ (command = .say ∧ Voiceless past) := by
  obtain ⟨value, found⟩ := Option.isSome_iff_exists.mp waits
  rw [latest, found, Option.getD_some]
  constructor
  · rintro sent ⟨rfl, text, same, unsent⟩
    cases found.symm.trans same
    cases sent.symm.trans unsent
  · intro voiced
    by_cases said : command = .say
    · subst said
      cases sent : Batch.isSent value with
      | true => rfl
      | false => exact absurd ⟨rfl, value, found, sent⟩ voiced
    · obtain ⟨before, event, after, parts, queued, _⟩ := (latest_exact _ _ _).mp found
      exact queued_is_sent (genuine event (by simp [parts])) queued said

theorem send_judges (quiet : rabbit.pending.asksForEars = false) {octets : List UInt8}
    {request : Request} (asked : request ∈ (rabbit.send (.ok octets)).requests) :
    rabbit.pending.request rabbit.codec rabbit.address = .ok request ∧
    ∃ ears, (rabbit.send (.ok octets)).result =
      rabbit.pending.verdict (Reply.normalised (Codec.inbound octets)) ears := by
  have issued : (rabbit.send (.ok octets)).requests =
      (rabbit.pending.request rabbit.codec rabbit.address).toOption.toList :=
    Batch.dispatch_requests _ _ _ _
  have granted : rabbit.pending.request rabbit.codec rabbit.address = .ok request := by
    rw [issued, Option.mem_toList] at asked
    exact Batch.ok_of_to_option asked
  have ended := Batch.dispatch_ends rabbit.pending rabbit.codec rabbit.address (.ok octets)
  have unasked : rabbit.pending.asksForEars = true → ∃ ears, Reply.earPositions
      (Reply.normalised (rabbit.codec.conversion.inbound octets)).toList = .ok ears := by
    intro asking
    cases quiet.symm.trans asking
  have judged := Batch.judged_as_verified ended granted rfl unasked
  exact ⟨granted, _, judged.1⟩

-- A reply that acknowledges all that was carried is rejected for want of an empty speech, if at all.
theorem rejected_for_empty_speech {reply : String} {request : Request}
    (demanded : DemandsWaiting past rabbit)
    (carried : ∀ command, (latest? past (carrier command)).isSome = true →
      ¬ (command = .say ∧ Voiceless past) →
        (carrier command).name ∈ Ledger.keys request.parameters)
    (acknowledged : Acknowledges reply request) {label : String}
    (rejected : rabbit.pending.firstRejected? reply = some label) :
    label = Reply.Command.say.label ∧ Voiceless past ∧
      Reply.Command.say.acknowledgedIn reply = false := by
  obtain ⟨⟨name, verifier⟩, found, same⟩ := Option.map_eq_some_iff.mp rejected
  obtain rfl : label = name := same.symm
  obtain ⟨command, waits, rfl, rfl⟩ := (demanded _ _).mp (List.mem_of_find?_eq_some found)
  have fails : command.acknowledgedIn reply = false := by simpa using List.find?_some found
  by_cases silent : command = .say ∧ Voiceless past
  · obtain ⟨rfl, voiceless⟩ := silent
    exact ⟨rfl, voiceless, fails⟩
  · cases fails.symm.trans (acknowledged command (carried command waits silent))

theorem empty_speech_rejects {reply : String}
    (demanded : DemandsWaiting past rabbit)
    (accepted : rabbit.pending.firstRejected? reply = none) (voiceless : Voiceless past) :
    Reply.Command.say.acknowledgedIn reply = true := by
  obtain ⟨text, found, _⟩ := voiceless
  have waits : (latest? past (carrier .say)).isSome = true := Option.isSome_iff_exists.mpr ⟨_, found⟩
  have entered := (demanded _ _).mpr ⟨.say, waits, rfl, rfl⟩
  have accepts := List.find?_eq_none.mp (Option.map_eq_none_iff.mp accepted) _ entered
  simpa using accepts

theorem carried_in_parameters (known : Matches identity codec address past rabbit)
    (genuine : ∀ event ∈ past, event.Genuine) {parameters : Ledger String Value}
    (written : rabbit.pending.parameters = .ok parameters) (command : Reply.Command)
    (waits : (latest? past (carrier command)).isSome = true) :
    (carrier command).name ∈ Ledger.keys parameters ↔ ¬ (command = .say ∧ Voiceless past) := by
  rw [Batch.field_carried written, known.waiting]
  exact waiting_is_sent genuine waits

theorem carried_in_request (known : Matches identity codec address past rabbit)
    (genuine : ∀ event ∈ past, event.Genuine) {octets : List UInt8} {request : Request}
    (asked : request ∈ (rabbit.send (.ok octets)).requests) (command : Reply.Command)
    (waits : (latest? past (carrier command)).isSome = true)
    (voiced : ¬ (command = .say ∧ Voiceless past)) :
    (carrier command).name ∈ Ledger.keys request.parameters := by
  obtain ⟨granted, _⟩ := send_judges (never_asks_for_ears known) asked
  obtain ⟨parameters, encoded, written, sent, rfl⟩ := (Batch.request_exact _ _ _ _).mp granted
  rw [Batch.keys_as_sent sent]
  exact (carried_in_parameters known genuine written command waits).mpr voiced

theorem demanding {rabbit : Rabbit} (known : Matches identity codec address past rabbit)
    (genuine : ∀ event ∈ past, event.Genuine)
    (verifiers : rabbit.pending.verifiers = Ledger.ofList (registered (demands past))) :
    Demanding past rabbit := by
  have demanded : DemandsWaiting past rabbit := by
    intro label verifier
    rw [verifiers]
    exact verifier_exact past label verifier
  have quiet := never_asks_for_ears known
  refine ⟨demanded, ?carried, ?accepted, ?rejected⟩
  case carried => exact fun _ written => carried_in_parameters known genuine written
  case accepted =>
    intro octets request asked acknowledged
    obtain ⟨_, ears, judged⟩ := send_judges quiet asked
    rw [judged, Batch.verdict]
    cases rejected : rabbit.pending.firstRejected? (Reply.normalised (Codec.inbound octets)) with
    | none => exact iff_of_true ⟨_, rfl⟩ (empty_speech_rejects demanded rejected)
    | some label =>
      have carried := carried_in_request known genuine asked
      obtain ⟨_, voiceless, fails⟩ :=
        rejected_for_empty_speech demanded carried acknowledged rejected
      refine iff_of_false (by simp) ?_
      intro needed
      cases fails.symm.trans (needed voiceless)
  case rejected =>
    intro octets failure request asked acknowledged failed
    obtain ⟨_, ears, judged⟩ := send_judges quiet asked
    rw [judged, Batch.verdict] at failed
    cases rejected : rabbit.pending.firstRejected? (Reply.normalised (Codec.inbound octets)) with
    | none =>
      rw [rejected] at failed
      cases failed
    | some label =>
      rw [rejected] at failed
      cases failed
      have carried := carried_in_request known genuine asked
      obtain ⟨rfl, _⟩ := rejected_for_empty_speech demanded carried acknowledged rejected
      rfl

-- Over any run, a rabbit demands what its history tells.
theorem run_demands (identity : Identity) (codec : Codec) (address : String)
    (operations : List Operation) :
    Demanding (history (new identity codec address) operations)
      ((new identity codec address).run operations) := by
  have known : Matches identity codec address (history (new identity codec address) operations)
      ((new identity codec address).run operations) := by
    simpa using run_matches new_matches operations
  refine demanding known (history_genuine _ operations) ?_
  rw [run_replays new_matches operations]
  exact verifiers_of_replay identity codec address _

-- Each acknowledgement that waits belongs to a command that the request carries.
def Covered (rabbit : Rabbit) : Prop :=
  ∀ parameters, rabbit.pending.parameters = .ok parameters → ∀ command : Reply.Command,
    command.label ∈ Ledger.keys rabbit.pending.verifiers →
      (carrier command).name ∈ Ledger.keys parameters

-- That fails for an empty text. It is not sent, but its acknowledgement is missed.
theorem empty_speech_not_covered :
    let rabbit := (new ⟨"0013d3", "secret", none⟩ .default Batch.defaultAddress).run
      [.queue (.say (.text ""))]
    ¬ Covered rabbit ∧
    (rabbit.send (.ok [])).requests =
      [⟨Batch.defaultAddress, [("sn", "0013d3"), ("token", "secret")]⟩] ∧
    (rabbit.send (.ok [])).result = .error (.service "Speech" "") := by
  intro rabbit
  refine ⟨?_, by decide +kernel, rfl⟩
  intro covered
  have carried := covered _ rfl .say (List.mem_singleton.mpr rfl)
  exact absurd carried (by decide)

end RabbitRemote.Rabbit
