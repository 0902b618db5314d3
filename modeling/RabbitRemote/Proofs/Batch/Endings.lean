import RabbitRemote.Proofs.Batch.Requests

namespace RabbitRemote.Batch

-- The ear positions that a batch knows once it has read a response.
def Hears (batch : Batch) (response : String) (ears : EarPositions) : Prop :=
  if batch.asksForEars then Reply.earPositions response.toList = .ok ears else ears = batch.ears

-- The ways in which a dispatch ends, each with what it gives back, what it leaves of the batch, and
-- what it asked the service for.
inductive Ends (batch : Batch) (conversion : Conversion) (address : String) (answer : Answer) :
    Except Failure Result → Batch → List Request → Prop where
  | refused {failure : Failure} (refused : batch.request conversion address = .error failure) :
      Ends batch conversion address answer (.error failure) batch []
  | unanswered {request : Request} {failure : Failure}
      (asked : batch.request conversion address = .ok request) (broken : answer = .error failure) :
      Ends batch conversion address answer (.error failure) batch [request]
  | illegible {request : Request} {octets : List UInt8} {failure : Failure}
      (asked : batch.request conversion address = .ok request) (answered : answer = .ok octets)
      (asking : batch.asksForEars = true)
      (unread : Reply.earPositions (Reply.normalised (conversion.inbound octets)).toList =
        .error failure) :
      Ends batch conversion address answer (.error failure) batch [request]
  | rejected {request : Request} {octets : List UInt8} {ears : EarPositions} {label : String}
      (asked : batch.request conversion address = .ok request) (answered : answer = .ok octets)
      (heard : batch.Hears (Reply.normalised (conversion.inbound octets)) ears)
      (rejected : batch.firstRejected? (Reply.normalised (conversion.inbound octets)) =
        some label) :
      Ends batch conversion address answer
        (.error (.service label (Reply.normalised (conversion.inbound octets))))
        { batch with ears := ears } [request]
  | accepted {request : Request} {octets : List UInt8} {ears : EarPositions}
      (asked : batch.request conversion address = .ok request) (answered : answer = .ok octets)
      (heard : batch.Hears (Reply.normalised (conversion.inbound octets)) ears)
      (accepted : batch.firstRejected? (Reply.normalised (conversion.inbound octets)) = none) :
      Ends batch conversion address answer
        (.ok ⟨Reply.normalised (conversion.inbound octets), ears⟩)
        { batch with ears := ears } [request]

theorem ears_heard_or_unread (batch : Batch) (response : String) :
    (∃ failure, batch.asksForEars = true ∧
      Reply.earPositions response.toList = .error failure ∧
      batch.readEars response = .failed batch failure) ∨
    ∃ ears, batch.Hears response ears ∧ (batch.readEars response).result = .ok () ∧
      (batch.readEars response).state = { batch with ears := ears } := by
  unfold readEars Hears
  cases asking : batch.asksForEars with
  | false => exact .inr ⟨batch.ears, by simp, rfl, rfl⟩
  | true =>
    cases read : Reply.earPositions response.toList with
    | error failure => exact .inl ⟨failure, rfl, rfl, by simp⟩
    | ok ears => exact .inr ⟨ears, by simp, by simp, by simp⟩

-- What a response leads to, once the ear positions are known.
def verdict (batch : Batch) (response : String) (ears : EarPositions) : Except Failure Result :=
  match batch.firstRejected? response with
  | none => .ok ⟨response, ears⟩
  | some label => .error (.service label response)

theorem verified (batch : Batch) (response : String) :
    (batch.verify response).state = batch ∧
    (batch.verify response).result = batch.verdict response batch.ears := by
  unfold verify verdict
  cases batch.firstRejected? response <;> exact ⟨rfl, rfl⟩

theorem receive_ends {batch : Batch} {conversion : Conversion} {address : String}
    {request : Request} (asked : batch.request conversion address = .ok request)
    (octets : List UInt8) :
    Ends batch conversion address (.ok octets) (batch.receive conversion octets).result
      (batch.receive conversion octets).state [request] := by
  unfold receive
  dsimp only [Outcome.andThen]
  rcases ears_heard_or_unread batch (Reply.normalised (conversion.inbound octets)) with
    ⟨failure, asking, unread, stopped⟩ | ⟨ears, heard, read, known⟩
  · rw [stopped]
    exact .illegible asked rfl asking unread
  · rw [read]
    dsimp only
    rw [known]
    obtain ⟨kept, judged⟩ :=
      verified { batch with ears := ears } (Reply.normalised (conversion.inbound octets))
    rw [kept, judged, verdict]
    have same : firstRejected? { batch with ears := ears } = batch.firstRejected? := rfl
    rw [same]
    cases rejected : batch.firstRejected? (Reply.normalised (conversion.inbound octets)) with
    | none => exact .accepted asked rfl heard rejected
    | some label => exact .rejected asked rfl heard rejected

theorem dispatch_ends (batch : Batch) (conversion : Conversion) (address : String)
    (answer : Answer) :
    Ends batch conversion address answer (batch.dispatchBy conversion address answer).result
      (batch.dispatchBy conversion address answer).state
      (batch.dispatchBy conversion address answer).requests := by
  rw [dispatch_by_requests]
  unfold dispatchBy
  cases asked : batch.request conversion address with
  | error failure => exact .refused asked
  | ok request =>
    cases answer with
    | error failure => exact .unanswered asked rfl
    | ok octets => exact receive_ends asked octets

variable {batch state : Batch} {conversion : Conversion} {address : String} {answer : Answer}
  {result : Except Failure Result} {requests : List Request}

theorem judged_as_verified {octets : List UInt8} {request : Request}
    (ended : Ends batch conversion address answer result state requests)
    (asked : batch.request conversion address = .ok request) (answered : answer = .ok octets)
    (legible : batch.asksForEars = true → ∃ ears,
      Reply.earPositions (Reply.normalised (conversion.inbound octets)).toList = .ok ears) :
    result = batch.verdict (Reply.normalised (conversion.inbound octets)) state.ears ∧
      batch.Hears (Reply.normalised (conversion.inbound octets)) state.ears := by
  subst answered
  cases ended with
  | refused refused => cases asked.symm.trans refused
  | unanswered _ broken => cases broken
  | illegible _ answered asking unread =>
    cases answered
    obtain ⟨ears, read⟩ := legible asking
    cases read.symm.trans unread
  | rejected _ answered heard rejected =>
    cases answered
    exact ⟨by rw [verdict, rejected], heard⟩
  | accepted _ answered heard accepted =>
    cases answered
    exact ⟨by rw [verdict, accepted], heard⟩

theorem ends_only_hearing (ended : Ends batch conversion address answer result state requests) :
    ∃ ears, state = { batch with ears := ears } := by
  cases ended with
  | refused => exact ⟨batch.ears, rfl⟩
  | unanswered => exact ⟨batch.ears, rfl⟩
  | illegible => exact ⟨batch.ears, rfl⟩
  | rejected => exact ⟨_, rfl⟩
  | accepted => exact ⟨_, rfl⟩

-- However it ends, a dispatch changes no more than the ear positions.
theorem dispatch_only_hears (batch : Batch) (conversion : Conversion) (address : String)
    (answer : Answer) : ∃ ears,
      (batch.dispatchBy conversion address answer).state = { batch with ears := ears } :=
  ends_only_hearing (dispatch_ends batch conversion address answer)

theorem ends_quietly (ended : Ends batch conversion address answer result state requests)
    (quiet : batch.asksForEars = false) : state = batch := by
  have unheard : ∀ response ears, batch.Hears response ears → { batch with ears := ears } = batch := by
    intro response ears heard
    rw [Hears, quiet, if_neg Bool.false_ne_true] at heard
    rw [heard]
  cases ended with
  | refused => rfl
  | unanswered => rfl
  | illegible _ _ asking => cases quiet.symm.trans asking
  | rejected _ _ heard => exact unheard _ _ heard
  | accepted _ _ heard => exact unheard _ _ heard

-- Only an answer to a query for the ears changes anything.
theorem dispatch_keeps_batch (batch : Batch) (codec : Codec) (address : String) (answer : Answer)
    (quiet : batch.asksForEars = false) : (batch.dispatch codec address answer).state = batch :=
  ends_quietly (dispatch_ends batch codec address answer) quiet

end RabbitRemote.Batch
