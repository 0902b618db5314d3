import RabbitRemote.Proofs.Rabbit.Verdicts
import RabbitRemote.Proofs.Reply.FirstTold
import RabbitRemote.Proofs.Request.QueryPieces

namespace RabbitRemote.Rabbit

theorem ear_query_hears (rabbit : Rabbit) (octets : List UInt8) :
    (rabbit.earPositions (.ok octets)).result =
      Reply.earPositions (Codec.inbound octets).toList := by
  simp only [ear_query_tells, Except.bind, Reply.normalised, String.toList_ofList,
    Reply.ear_positions_normalised]

-- The query fails if the service cannot be asked, or if a position in the reply has more figures
-- than a number may have. Otherwise it gives back what the reply tells, which may be nothing.
theorem ear_query_ends_exactly (rabbit : Rabbit) (answer : Answer) :
    (∀ failure, (rabbit.earPositions answer).result = .error failure ↔ answer = .error failure ∨
      ∃ octets count, answer = .ok octets ∧
        Reply.Unreadable (Codec.inbound octets).toList count ∧ failure = .literalTooLong count) ∧
    (∀ ears, (rabbit.earPositions answer).result = .ok ears ↔ ∃ octets, answer = .ok octets ∧
      (∀ count, ¬ Reply.Unreadable (Codec.inbound octets).toList count) ∧
        Reply.AsTold (Codec.inbound octets).toList ears) := by
  cases answer with
  | error reason =>
    rw [ear_query_tells]
    constructor <;> simp [Except.bind]
  | ok octets =>
    rw [ear_query_hears]
    constructor
    · intro failure
      simp [Reply.ear_positions_unread_exact]
    · intro ears
      simp [Reply.ear_positions_read_exact]

-- No reply keeps the rabbit from telling its ears.
def AlwaysTells (rabbit : Rabbit) : Prop :=
  ∀ octets, ∃ ears, (rabbit.earPositions (.ok octets)).result = .ok ears

def nines (count : Nat) : List Char := "Left position = ".toList ++ List.replicate count '9'

theorem inbound_of_nines (count : Nat) :
    (Codec.inbound (Codec.toService (nines count))).toList = nines count := by
  have kept : ∀ c ∈ nines count, Codec.legible c = c := by
    intro c member
    rcases List.mem_append.mp member with inPhrase | nine
    · have plain : ("Left position = ".toList.all fun c => Codec.legible c == c) = true := by decide
      exact eq_of_beq (List.all_eq_true.mp plain c inPhrase)
    · rw [List.eq_of_mem_replicate nine]
      decide
  rw [Codec.inbound_of_service, String.toList_ofList, List.map_congr_left kept, List.map_id']

theorem figured_nines (count : Nat) :
    Reply.Figured (List.replicate count '9') (List.replicate count 9) := by
  induction count with
  | zero => exact .nil
  | succ count ih => exact .cons (by decide) ih

theorem nines_told {count : Nat} (some : count ≠ 0) :
    Reply.Told .left (nines count) 1 (List.replicate count 9) := by
  have numbered : Reply.Numbered (List.replicate count '9') 1 (List.replicate count 9) := by
    have ended : ∀ c ∈ ([] : List Char).head?, Text.isDigit c = false := by simp
    simpa using Reply.Numbered.written .absent (figured_nines count) (by simpa) ended
  exact ⟨"Left position = ", by simp [Reply.phrases], _, rfl, numbered⟩

theorem nines_too_long {count : Nat} (long : Number.figureLimit < count) :
    Reply.TooLong .left (nines count) count := by
  have told := nines_told (Nat.ne_of_gt (Nat.zero_lt_of_lt long))
  have first : Reply.FirstTold .left (nines count) 1 (List.replicate count 9) :=
    ⟨0, told, fun sooner before => absurd before (Nat.not_lt_zero sooner)⟩
  refine ⟨_, _, first, ?_, ?_⟩ <;> rw [List.length_replicate]
  exact long

theorem long_position_not_told :
    ¬ AlwaysTells (new ⟨"0013d3", "secret", none⟩ .default Batch.defaultAddress) := by
  intro tells
  obtain ⟨ears, told⟩ := tells (Codec.toService (nines 4301))
  have unread : Reply.earPositions (nines 4301) = .error (.literalTooLong 4301) := by
    rw [Reply.ear_positions_unread_exact]
    exact ⟨4301, .left (nines_too_long (by decide)), rfl⟩
  rw [ear_query_hears, inbound_of_nines, unread] at told
  cases told

end RabbitRemote.Rabbit
