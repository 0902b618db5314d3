import RabbitRemote.Session

namespace RabbitRemote.Session

-- The service did what it was asked for.
def Succeeds (status : Int) : Prop := 200 ≤ status ∧ status < 300

-- The service neither did that nor tells that anything is wrong: it has more to say first, or it
-- points elsewhere.
def Defers (status : Int) : Prop := status < 200 ∨ 300 ≤ status ∧ status < 400

theorem status_accepted (status : Int) : status < 400 ↔ Succeeds status ∨ Defers status := by
  unfold Succeeds Defers
  omega

theorem judge_accepts (limit : Number.Binary64) (conduct : Conduct) (body : List UInt8) :
    (judge limit conduct).1 = .ok body ↔
      ∃ status, conduct = .answers status body ∧ (Succeeds status ∨ Defers status) := by
  cases conduct with
  | answers status told =>
    simp only [judge, Conduct.answers.injEq, ← status_accepted]
    by_cases wrong : 400 ≤ status
    · rw [if_pos wrong]
      constructor
      · intro accepted
        cases accepted
      · rintro ⟨other, ⟨rfl, _⟩, low⟩
        omega
    · rw [if_neg wrong]
      constructor
      · intro accepted
        exact ⟨status, ⟨rfl, Except.ok.inj accepted⟩, by omega⟩
      · rintro ⟨_, ⟨_, rfl⟩, _⟩
        rfl
  | refuses | breaksOff | keepsSilent => simp [judge]

-- A status is shown in the refusal, which has no room for one of more figures than can be written.
theorem status_refused {status : Int} (body : List UInt8) :
    (statusText status body).kind = .transport ∨
      Number.hasText status = false ∧ statusText status body = .integerTooLong := by
  unfold statusText
  cases Number.hasText status with
  | true => exact .inl rfl
  | false => exact .inr ⟨rfl, rfl⟩

theorem judge_refuses {limit : Number.Binary64} {conduct : Conduct} {failure : Failure}
    (refused : (judge limit conduct).1 = .error failure) :
    failure.kind = .transport ∨ ∃ status body, conduct = .answers status body ∧
      ¬ (Succeeds status ∨ Defers status) ∧ Number.hasText status = false ∧
        failure = .integerTooLong := by
  cases conduct with
  | answers status body =>
    rw [judge] at refused
    split at refused
    · rename_i wrong
      rw [← Except.error.inj refused]
      rcases status_refused body with announced | ⟨long, unshown⟩
      · exact .inl announced
      · refine .inr ⟨status, body, rfl, ?_, long, unshown⟩
        rw [← status_accepted]
        omega
    · cases refused
  | refuses | breaksOff | keepsSilent =>
    cases refused
    exact .inl rfl

-- Whatever the session went through before, a request gives back the body of the answer, unchanged,
-- exactly if one came in time whose status is no error. All else fails as a matter of transport, an
-- error status that is too long to be shown apart.
theorem exchange_ends_exactly (session : Session) (base : String)
    (parameters : Ledger String String) (conduct : Conduct) :
    (∀ body, (session.submit base parameters conduct).result = .ok body ↔
      ∃ status, conduct = .answers status body ∧ (Succeeds status ∨ Defers status)) ∧
    (∀ failure, (session.submit base parameters conduct).result = .error failure →
      failure.kind = .transport ∨ ∃ status body, conduct = .answers status body ∧
        ¬ (Succeeds status ∨ Defers status) ∧ Number.hasText status = false ∧
          failure = .integerTooLong) :=
  ⟨judge_accepts session.limit conduct, fun _ refused => judge_refuses refused⟩

theorem exchange_ends_exactly_when_unavailable :
    let session : Session := ⟨defaultLimit, .lent⟩
    let failure : Failure := .transport "Service request failed with status 503: closed"
    let unavailable : Conduct := .answers 503 (Codec.toService " closed ".toList)
    (session.submit "http://rabbit/api?" [] unavailable).result = .error failure ∧
    (failure.kind = .transport ∨ ∃ status body, unavailable = .answers status body ∧
      ¬ (Succeeds status ∨ Defers status) ∧ Number.hasText status = false ∧
        failure = .integerTooLong) := by
  intro session failure unavailable
  have refused : (session.submit "http://rabbit/api?" [] unavailable).result = .error failure := by
    have shown : statusText 503 (Codec.toService " closed ".toList) = failure := by
      rw [statusText, if_pos (by decide +kernel)]
      exact congrArg Failure.transport (by decide +kernel)
    exact congrArg Except.error shown
  exact ⟨refused, (exchange_ends_exactly session _ [] unavailable).2 failure refused⟩

-- Only a body that comes with success is given back.
def CountsSuccessAlone (session : Session) : Prop :=
  ∀ base parameters conduct body, (session.submit base parameters conduct).result = .ok body →
    ∃ status, conduct = .answers status body ∧ Succeeds status

theorem unmodified_counts : ¬ CountsSuccessAlone ⟨defaultLimit, .closed⟩ := by
  intro alone
  obtain ⟨status, same, succeeds⟩ := alone "http://rabbit/api" [("sn", "0013d3")] (.answers 304 []) [] rfl
  cases same
  exact absurd succeeds.2 (by decide)

end RabbitRemote.Session
