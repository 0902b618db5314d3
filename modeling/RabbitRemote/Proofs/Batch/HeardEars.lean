import RabbitRemote.Proofs.Batch.Run

namespace RabbitRemote.Batch

-- The positions that a step tells the batch: those of a reply to a dispatch while the field for the
-- query held anything.
def Step.heard? (batch : Batch) : Step → Option EarPositions
  | .dispatch conversion address (.ok octets) =>
    match batch.asksForEars, batch.request conversion address with
    | true, .ok _ =>
      (Reply.earPositions (Reply.normalised (conversion.inbound octets)).toList).toOption
    | _, _ => none
  | _ => none

-- The positions that a run told the batch, one after the other.
def heard (batch : Batch) : List Step → List EarPositions
  | [] => []
  | step :: rest => (step.heard? batch).toList ++ heard (batch.after step) rest

theorem ears_heard {batch : Batch} {conversion : Conversion} {address : String} {request : Request}
    {octets : List UInt8} {ears : EarPositions}
    (asked : batch.request conversion address = .ok request)
    (heard : batch.Hears (Reply.normalised (conversion.inbound octets)) ears) :
    ears = ((Step.dispatch conversion address (.ok octets)).heard? batch).getD batch.ears := by
  rw [Step.heard?, asked]
  cases asking : batch.asksForEars with
  | true =>
    rw [Hears, if_pos asking] at heard
    rw [heard]
    rfl
  | false => simpa [Hears, asking] using heard

theorem ears_of_ending {batch state : Batch} {conversion : Conversion} {address : String}
    {answer : Answer} {result : Except Failure Result} {requests : List Request}
    (ended : Ends batch conversion address answer result state requests) :
    state.ears = ((Step.dispatch conversion address answer).heard? batch).getD batch.ears := by
  cases ended with
  | refused refused => cases answer <;> simp [Step.heard?, refused]
  | unanswered _ broken => simp [Step.heard?, broken]
  | illegible asked answered asking unread =>
    simp [Step.heard?, asked, answered, asking, unread, Except.toOption]
  | rejected asked answered heard _ => exact answered ▸ ears_heard asked heard
  | accepted asked answered heard _ => exact answered ▸ ears_heard asked heard

theorem ears_after_step (batch : Batch) (step : Step) :
    (batch.after step).ears = (step.heard? batch).getD batch.ears := by
  cases step with
  | set name value =>
    rcases after_set batch name value with same | ⟨field, written⟩
    · rw [same]
      rfl
    · rw [written]
      rfl
  | register label verifier => rfl
  | dispatch conversion address answer =>
    exact ears_of_ending (dispatch_ends batch conversion address answer)

-- A batch knows what it heard last, however long ago that was.
theorem run_ears (batch : Batch) (steps : List Step) :
    (batch.run steps).ears = (batch.heard steps).getLast?.getD batch.ears := by
  induction steps generalizing batch with
  | nil => rfl
  | cons step rest ih =>
    have further : batch.run (step :: rest) = (batch.after step).run rest := rfl
    rw [further, ih, ears_after_step, heard]
    cases step.heard? batch with
    | none => rfl
    | some ears =>
      rw [Option.toList_some, List.singleton_append, List.getLast?_cons]
      rfl

theorem returned_ending {batch state : Batch} {conversion : Conversion} {address : String}
    {answer : Answer} {result : Result} {requests : List Request}
    (ended : Ends batch conversion address answer (.ok result) state requests) : ∃ request,
      requests = [request] ∧ batch.request conversion address = .ok request ∧
        batch.Hears result.response result.ears := by
  cases ended with
  | accepted asked _ heard _ => exact ⟨_, rfl, asked, heard⟩

theorem asks_exact (batch : Batch) :
    batch.asksForEars = true ↔ (batch.values .earQuery).isNull = false := by
  rw [asksForEars, Bool.not_eq_true']

theorem sent_not_null {value : Value} (sent : isSent value = true) : value.isNull = false := by
  cases value with
  | null => cases sent
  | _ => rfl

theorem query_carried {batch : Batch} {conversion : Conversion} {address : String}
    {request : Request} (asked : batch.request conversion address = .ok request) :
    Field.earQuery.name ∈ Ledger.keys request.parameters ↔
      isSent (batch.values .earQuery) = true := by
  obtain ⟨parameters, encoded, written, sent, rfl⟩ := (request_exact _ _ _ _).mp asked
  rw [keys_as_sent sent]
  exact field_carried written .earQuery

-- A result tells the positions in its own response if the field for the query held anything, even
-- an empty value, which is not carried. If the field was empty, it tells what was heard last.
theorem ears_of_result (identity : Identity) (steps : List Step) (conversion : Conversion)
    (address : String) (answer : Answer) (result : Result)
    (returned : (((empty identity).run steps).dispatchBy conversion address answer).result =
      .ok result) : ∃ request,
    (((empty identity).run steps).dispatchBy conversion address answer).requests = [request] ∧
    (Field.earQuery.name ∈ Ledger.keys request.parameters →
      Reply.earPositions result.response.toList = .ok result.ears) ∧
    (Field.earQuery.name ∉ Ledger.keys request.parameters →
      if (((empty identity).run steps).values .earQuery).isNull then
        result.ears = ((empty identity).heard steps).getLast?.getD .unknown
      else Reply.earPositions result.response.toList = .ok result.ears) := by
  have ended := dispatch_ends ((empty identity).run steps) conversion address answer
  rw [returned] at ended
  obtain ⟨request, issued, asked, heard⟩ := returned_ending ended
  have known := run_ears (empty identity) steps
  refine ⟨request, issued, ?_, ?_⟩
  · intro carried
    have asking := (asks_exact _).mpr (sent_not_null ((query_carried asked).mp carried))
    rwa [Hears, if_pos asking] at heard
  · intro _
    split
    · rename_i null
      have quiet : ((empty identity).run steps).asksForEars = false := by simp [asksForEars, null]
      rw [Hears, quiet] at heard
      exact heard.trans known
    · rename_i held
      have asking := (asks_exact _).mpr (Bool.eq_false_iff.mpr held)
      rwa [Hears, if_pos asking] at heard

theorem ears_of_result_after_clearing :
    let identity : Identity := ⟨"0013d3", "secret", none⟩
    let told := Codec.toService "Left position = 7 Right position = -2".toList
    let steps : List Step := [.set (.text "ears") (.text "ok"),
      .dispatch Codec.default.conversion defaultAddress (.ok told), .set (.text "ears") .null]
    let batch := (empty identity).run steps
    let dispatched := batch.dispatchBy Codec.default.conversion defaultAddress (.ok [])
    dispatched.result = .ok ⟨"", .known 7 (-2)⟩ ∧ ∃ request, dispatched.requests = [request] ∧
      (Field.earQuery.name ∈ Ledger.keys request.parameters →
        Reply.earPositions "".toList = .ok (.known 7 (-2))) ∧
      (Field.earQuery.name ∉ Ledger.keys request.parameters →
        if (batch.values .earQuery).isNull then
          .known 7 (-2) = ((empty identity).heard steps).getLast?.getD .unknown
        else Reply.earPositions "".toList = .ok (.known 7 (-2))) := by
  intro identity told steps batch dispatched
  have returned : dispatched.result = .ok ⟨"", .known 7 (-2)⟩ :=
    ok_of_to_option (by decide +kernel)
  exact ⟨returned, ears_of_result identity steps _ _ _ _ returned⟩

-- The positions in a result answer the query that its own request carried.
def AnswersOwnQuery (dispatched : Outcome Batch Result) : Prop :=
  ∀ result, dispatched.result = .ok result → ∀ request ∈ dispatched.requests,
    if Field.earQuery.name ∈ Ledger.keys request.parameters then
      Reply.earPositions result.response.toList = .ok result.ears
    else result.ears = .unknown

-- They do not: what was heard before comes back once the field is cleared, and an empty value lets
-- the batch read positions that its request did not ask for.
theorem ears_without_query :
    let identity : Identity := ⟨"0013d3", "secret", none⟩
    let told := Codec.toService "Left position = 7 Right position = -2".toList
    let cleared := (empty identity).run [.set (.text "ears") (.text "ok"),
      .dispatch Codec.default.conversion defaultAddress (.ok told), .set (.text "ears") .null]
    let blank := (empty identity).run [.set (.text "ears") (.text "")]
    ¬ AnswersOwnQuery (cleared.dispatchBy Codec.default.conversion defaultAddress (.ok [])) ∧
    ¬ AnswersOwnQuery (blank.dispatchBy Codec.default.conversion defaultAddress (.ok told)) := by
  intro identity told cleared blank
  have bare : Field.earQuery.name ∉
      Ledger.keys [("sn", "0013d3"), ("token", "secret")] := by decide
  constructor
  · intro answers
    have returned : (cleared.dispatchBy Codec.default.conversion defaultAddress (.ok [])).result =
        .ok ⟨"", .known 7 (-2)⟩ := ok_of_to_option (by decide +kernel)
    have asked : (cleared.dispatchBy Codec.default.conversion defaultAddress (.ok [])).requests =
        [⟨defaultAddress, [("sn", "0013d3"), ("token", "secret")]⟩] := by decide +kernel
    have unasked := answers _ returned _ (asked ▸ List.mem_singleton.mpr rfl)
    rw [if_neg bare] at unasked
    cases unasked
  · intro answers
    have returned : (blank.dispatchBy Codec.default.conversion defaultAddress (.ok told)).result =
        .ok ⟨"Left position = 7 Right position = -2", .known 7 (-2)⟩ :=
      ok_of_to_option (by decide +kernel)
    have asked : (blank.dispatchBy Codec.default.conversion defaultAddress (.ok told)).requests =
        [⟨defaultAddress, [("sn", "0013d3"), ("token", "secret")]⟩] := by decide +kernel
    have unasked := answers _ returned _ (asked ▸ List.mem_singleton.mpr rfl)
    rw [if_neg bare] at unasked
    cases unasked

end RabbitRemote.Batch
