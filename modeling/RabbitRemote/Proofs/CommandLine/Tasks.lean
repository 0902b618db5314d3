import RabbitRemote.CommandLine
import RabbitRemote.Proofs.Arguments.Places
import RabbitRemote.Proofs.Rabbit.Verdicts

namespace RabbitRemote.CommandLine
open Arguments

-- The service breaks off, or its reply holds no position that is too long to be read.
inductive Fair : Answer → Prop where
  | broken (message : String) : Fair (.error (.transport message))
  | replied {octets : List UInt8} (legible : ¬ Reply.Overlong (Codec.inbound octets).toList) :
      Fair (.ok octets)

-- A wish that an ear can follow, be it to stay as it is.
inductive Follows : Wish → Prop where
  | stays : Follows .none
  | turns {position : Int} (within : 0 ≤ position ∧ position ≤ 16) : Follows (.place position)

def IsForRabbit : Task → Prop
  | .voices | .showConfig => False
  | _ => True

-- A task that comes as far as the service, given a rabbit.
def Possible : Task → Prop
  | .ears left right => (left ≠ .none ∨ right ≠ .none) ∧ Follows left ∧ Follows right
  | _ => True

def Says (reply : String) (command : Reply.Command) : Prop :=
  ∃ wording ∈ command.wordings, wording.toList <:+: reply.toList

-- What a normalised reply has to tell for a task to succeed.
def Fulfils (reply : String) : Task → Prop
  | .say _ | .bark => Says reply .say
  | .ears left right =>
    (left ≠ .none → Says reply .leftEar) ∧ (right ≠ .none → Says reply .rightEar)
  | .earPositions => ∀ side, Reply.Tells reply.toList side
  | .voices | .showConfig => False

-- A task carried out by a rabbit, whose link it leaves alone.
structure Carried (task : Task) (answer : Answer) (rabbit : Rabbit)
    (outcome : Outcome Rabbit Done) : Prop where
  single : outcome.requests.length ≤ 1
  asked : outcome.requests ≠ [] ↔ Possible task
  coded : ∀ code output, outcome.result = .ok (code, output) → code = 0 ∨ code = 1
  announced : ∀ failure, outcome.result = .error failure → failure.isAnnounced = true
  succeeded : (∃ output, outcome.result = .ok (0, output)) ↔ Possible task ∧
    ∃ octets, answer = .ok octets ∧ Fulfils (Reply.normalised (Codec.inbound octets)) task
  kept : outcome.state.closings = rabbit.closings

theorem says_exact (reply : String) (command : Reply.Command) :
    command.acknowledgedIn reply = true ↔ Says reply command := by
  simp only [Reply.Command.acknowledgedIn, List.any_eq_true, Text.occurs_exact, Says]

section
variable (outcome : Outcome Rabbit Batch.Result)

@[simp] theorem sent_result : (sent outcome).result = outcome.result.map fun _ => (0, "") := by
  unfold sent Outcome.andThen
  cases outcome.result <;> rfl

@[simp] theorem sent_state : (sent outcome).state = outcome.state := by
  unfold sent Outcome.andThen
  cases outcome.result <;> rfl

@[simp] theorem sent_requests : (sent outcome).requests = outcome.requests :=
  Batch.and_then_requests _ _ fun _ _ => rfl

end

section
variable {task : Task} {answer : Answer} {rabbit : Rabbit}

-- A task that comes to nothing before the service is asked.
theorem unasked_carried {outcome : Outcome Rabbit Done} (impossible : ¬ Possible task)
    (silent : outcome.requests = [])
    (ended : outcome.result = .ok (1, "") ∨
      ∃ failure, outcome.result = .error failure ∧ failure.kind = .refusal)
    (kept : outcome.state.closings = rabbit.closings) : Carried task answer rabbit outcome := by
  have asked : outcome.requests ≠ [] ↔ Possible task := by simp [silent, impossible]
  have single : outcome.requests.length ≤ 1 := by simp [silent]
  rcases ended with nothing | ⟨failure, failed, kind⟩
  · exact ⟨single, asked, by simp [nothing], by simp [nothing], by simp [nothing, impossible], kept⟩
  · refine ⟨single, asked, by simp [failed], ?_, by simp [failed, impossible], kept⟩
    intro other same
    cases failed.symm.trans same
    rw [Failure.isAnnounced, kind]

theorem refused_carried {command : Rabbit.Command} {failure : Failure}
    (impossible : ¬ Possible task) (failed : (rabbit.queue command).result = .error failure)
    (kind : failure.kind = .refusal) :
    Carried task answer rabbit (sent (Rabbit.thenSend (rabbit.queue command) answer)) := by
  have stopped := Rabbit.no_send_after_failure failed answer
  apply unasked_carried impossible
  · rw [sent_requests, stopped, Rabbit.queue_asks_nothing]
  · apply Or.inr
    refine ⟨failure, ?_, kind⟩
    rw [sent_result, stopped]
    rfl
  · rw [sent_state, Rabbit.queue_and_send_keeps_link]

theorem decided_carried {past : List Rabbit.Event} {attempt : Outcome Rabbit Batch.Result}
    (fair : Fair answer) (possible : Possible task)
    (decided : Rabbit.Decided past answer attempt)
    (fulfils : ∀ reply, (∀ command ∈ Rabbit.demands past, Says reply command) ↔ Fulfils reply task)
    (kept : attempt.state.closings = rabbit.closings) :
    Carried task answer rabbit (sent attempt) := by
  obtain ⟨asked, accepted, failed⟩ := decided
  refine ⟨?single, ?asked, ?coded, ?announced, ?succeeded, by rw [sent_state, kept]⟩
  case single => rw [sent_requests, asked]
  case asked =>
    rw [sent_requests]
    refine iff_of_true ?_ possible
    intro silent
    simp [silent] at asked
  case coded =>
    intro code output same
    rw [sent_result] at same
    obtain ⟨_, _, given⟩ := map_ok.mp same
    cases given
    exact .inl rfl
  case announced =>
    intro failure same
    rw [sent_result] at same
    rcases failed failure (map_failed.mp same) with broken | kind
    · subst broken
      cases fair
      rfl
    · rw [Failure.isAnnounced, kind]
  case succeeded =>
    simp only [says_exact, fulfils] at accepted
    rw [← accepted, sent_result]
    simp [map_ok, possible]

end

-- What a wish adds to the history of a rabbit.
def turnsOf (side : Side) : Wish → List Rabbit.Event
  | .place position => [.turned side position]
  | _ => []

theorem turns_of_wish {wish : Wish} (follows : Follows wish) (side : Side) :
    Rabbit.turns? side (position wish) = some (turnsOf side wish) := by
  cases follows with
  | stays => rfl
  | turns within => simp [Rabbit.turns?, position, Value.isNull, Rabbit.position?, within, turnsOf]

theorem follows_of_turns {wish : Wish} {side : Side}
    (turned : (Rabbit.turns? side (position wish)).isSome = true) : Follows wish := by
  cases wish with
  | none => exact .stays
  | noPlace => cases turned
  | place place =>
    apply Follows.turns
    simpa [Rabbit.turns?, position, Value.isNull, Rabbit.position?] using turned

theorem turns_textual {wish : Wish} (follows : Follows wish) (side : Side) :
    ∀ event ∈ turnsOf side wish, event.IsTextual := by
  intro event member
  cases follows with
  | stays => cases member
  | turns within =>
    rw [List.mem_singleton.mp member]
    exact Rabbit.turned_textual side within

theorem turns_demanded {left right : Wish} (leftFollows : Follows left)
    (rightFollows : Follows right) (reply : String) :
    (∀ command ∈ Rabbit.demands (turnsOf .left left ++ turnsOf .right right), Says reply command) ↔
      Fulfils reply (.ears left right) := by
  cases leftFollows <;> cases rightFollows <;>
    simp [turnsOf, Rabbit.demands, Rabbit.Event.isEmptied, Rabbit.Event.demand?, Rabbit.commandOf,
      Fulfils]

theorem position_shown {wish : Wish} (shown : wish.Shown) : (position wish).writable = true := by
  cases wish with
  | none => rfl
  | noPlace => rfl
  | place place => exact shown

section
variable (identity : Identity) (codec : Codec) (address : String) {answer : Answer}
  (fair : Fair answer)
include fair

theorem speech_carried {task : Task} (text : String) (possible : Possible task)
    (fulfils : ∀ reply, Fulfils reply task ↔ Says reply .say) :
    Carried task answer (Rabbit.new identity codec address)
      (sent (Rabbit.thenSend ((Rabbit.new identity codec address).say (.text text)) answer)) := by
  let command : Rabbit.Command := .say (.text text)
  have textual : ∀ event ∈ command.events, event.IsTextual := by
    intro event member
    rw [List.mem_singleton.mp member]
    exact Rabbit.said_textual text
  have decided := Rabbit.queue_and_send_decided identity codec address textual rfl answer
  refine decided_carried fair possible decided ?_ (Rabbit.queue_and_send_keeps_link _ command answer)
  intro reply
  have demanded : Rabbit.demands command.events = [.say] := rfl
  rw [fulfils, demanded, List.forall_mem_singleton]

theorem turning_carried {left right : Wish} (given : left ≠ .none ∨ right ≠ .none)
    (shown : (Task.ears left right).Shown) :
    Carried (.ears left right) answer (Rabbit.new identity codec address)
      (sent (Rabbit.thenSend
        ((Rabbit.new identity codec address).moveEars (position left) (position right)) answer)) := by
  let command : Rabbit.Command := .moveEars (position left) (position right)
  rcases Rabbit.move_ears_ends (Rabbit.new identity codec address) (position_shown shown.1)
    (position_shown shown.2) with ⟨leftTurned, rightTurned, done⟩ | ⟨refused, failure, failed, kind⟩
  · have leftFollows := follows_of_turns leftTurned
    have rightFollows := follows_of_turns rightTurned
    have events : command.events = turnsOf .left left ++ turnsOf .right right := by
      simp [command, Rabbit.Command.events, turns_of_wish leftFollows, turns_of_wish rightFollows]
    have textual : ∀ event ∈ command.events, event.IsTextual := by
      intro event member
      rw [events] at member
      rcases List.mem_append.mp member with inLeft | inRight
      · exact turns_textual leftFollows .left event inLeft
      · exact turns_textual rightFollows .right event inRight
    have decided := Rabbit.queue_and_send_decided identity codec address textual done answer
    have possible : Possible (.ears left right) := ⟨given, leftFollows, rightFollows⟩
    rw [events] at decided
    exact decided_carried fair possible decided (turns_demanded leftFollows rightFollows)
      (Rabbit.queue_and_send_keeps_link _ command answer)
  · have impossible : ¬ Possible (.ears left right) := by
      intro possible
      obtain ⟨_, leftFollows, rightFollows⟩ := possible
      simp [turns_of_wish leftFollows, turns_of_wish rightFollows] at refused
    have queued : ((Rabbit.new identity codec address).queue command).result = .error failure := failed
    exact refused_carried impossible queued kind

theorem ear_positions_carried (rabbit : Rabbit) :
    Carried .earPositions answer rabbit (perform rabbit answer .earPositions) := by
  obtain ⟨request, issued⟩ := Rabbit.ear_query_asks_once rabbit answer
  have told := Rabbit.ear_query_tells rabbit answer
  have requests : (perform rabbit answer .earPositions).requests = [request] := by
    rw [← issued]
    exact Batch.and_then_requests _ _ fun _ _ => rfl
  have state : (perform rabbit answer .earPositions).state = rabbit := by
    unfold perform Outcome.andThen
    cases (rabbit.earPositions answer).result <;> rfl
  have result : (perform rabbit answer .earPositions).result =
      (rabbit.earPositions answer).result.map earReport := by
    unfold perform Outcome.andThen
    cases (rabbit.earPositions answer).result <;> rfl
  have single : (perform rabbit answer .earPositions).requests.length ≤ 1 := by simp [requests]
  have asked : (perform rabbit answer .earPositions).requests ≠ [] ↔ Possible .earPositions := by
    simp [requests, Possible]
  have kept : (perform rabbit answer .earPositions).state.closings = rabbit.closings :=
    congrArg Rabbit.closings state
  rw [told] at result
  cases fair with
  | broken message =>
    have broken : (perform rabbit (.error (.transport message)) .earPositions).result =
      .error (.transport message) := result
    exact ⟨single, asked, by simp [broken], by simp [broken, Failure.isAnnounced, Failure.kind],
      by simp [broken], kept⟩
  | @replied octets legible =>
    obtain ⟨ears, read⟩ := Reply.positions_of_legible legible
    have known := Reply.known_exact legible
    have heard : (perform rabbit (.ok octets) .earPositions).result = .ok (earReport ears) := by
      rw [result, Except.bind, Reply.normalised, String.toList_ofList, read]
      rfl
    have fulfils : Fulfils (Reply.normalised (Codec.inbound octets)) .earPositions ↔
        ∃ left right, ears = .known left right := by
      rw [read] at known
      simp only [Fulfils, Reply.normalised, String.toList_ofList, ← known, Except.ok.injEq]
    cases ears with
    | unknown =>
      exact ⟨single, asked, by simp [heard, earReport], by simp [heard],
        by simp [heard, earReport, fulfils], kept⟩
    | known left right =>
      exact ⟨single, asked, by simp [heard, earReport], by simp [heard],
        by simp [heard, earReport, fulfils, Possible], kept⟩

end

theorem perform_turning {left right : Wish} (given : left ≠ .none ∨ right ≠ .none)
    (rabbit : Rabbit) (answer : Answer) : perform rabbit answer (.ears left right) =
      sent (Rabbit.thenSend (rabbit.moveEars (position left) (position right)) answer) := by
  cases left <;> cases right <;> first | rfl | simp at given

-- One case for each kind of task that a rabbit has.
theorem perform_carried (identity : Identity) (codec : Codec) (address : String) {answer : Answer}
    (fair : Fair answer) {task : Task} (forRabbit : IsForRabbit task) (shown : task.Shown) :
    Carried task answer (Rabbit.new identity codec address)
      (perform (Rabbit.new identity codec address) answer task) := by
  cases task with
  | say text => exact speech_carried identity codec address fair text trivial fun _ => Iff.rfl
  | bark => exact speech_carried identity codec address fair _ trivial fun _ => Iff.rfl
  | earPositions => exact ear_positions_carried fair _
  | voices => cases forRabbit
  | showConfig => cases forRabbit
  | ears left right =>
    by_cases given : left ≠ .none ∨ right ≠ .none
    · rw [perform_turning given]
      exact turning_carried identity codec address fair given shown
    · have impossible : ¬ Possible (.ears left right) := fun possible => given possible.1
      obtain ⟨rfl, rfl⟩ : left = .none ∧ right = .none := by simpa using given
      exact unasked_carried impossible rfl (.inl rfl) rfl

end RabbitRemote.CommandLine
