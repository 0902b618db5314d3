import RabbitRemote.Proofs.CommandLine.Tasks
import RabbitRemote.Proofs.Request.Unsent

namespace RabbitRemote.CommandLine
open Arguments

-- What it takes for the service to be asked. A charset may also be one of the surroundings.
structure Reaches (codecs : Charset.Registry) (settings : Settings) (task : Task) : Prop where
  addressed : settings.identity.mac ≠ ""
  entitled : settings.identity.token ≠ ""
  known : (Charset.lookUp codecs settings.charset).isSome = true
  possible : Possible task

def Course.requests (course : Course) : List Request := course.links.flatMap Link.requests

-- A run that was to command a rabbit: one link and one request at most, no link left open behind a
-- request, and an exit code that tells whether the task was fulfilled.
structure Concluded (codecs : Charset.Registry) (settings : Settings) (task : Task)
    (answer : Answer) (course : Course) : Prop where
  linked : course.links.length ≤ 1
  single : course.requests.length ≤ 1
  closed : ∀ link ∈ course.links, link.requests ≠ [] → link.closings = 1
  ended : course.result = .ok (.returned 0) ∨ course.result = .ok (.returned 1)
  succeeded : course.result = .ok (.returned 0) ↔ course.requests.length = 1 ∧
    ∃ octets, answer = .ok octets ∧ Fulfils (Reply.normalised (Codec.inbound octets)) task
  asked : course.requests ≠ [] ↔ Reaches codecs settings task

theorem credentials_exact (settings : Settings) :
    (settings.checkCredentials = .ok () ∧
      settings.identity.mac ≠ "" ∧ settings.identity.token ≠ "") ∨
    (settings.checkCredentials = .error (.missingCredentials settings.path.text) ∧
      ¬ (settings.identity.mac ≠ "" ∧ settings.identity.token ≠ "")) := by
  unfold Settings.checkCredentials
  split
  · rename_i missing
    refine .inr ⟨rfl, ?_⟩
    simpa [or_iff_not_imp_left] using missing
  · rename_i given
    refine .inl ⟨rfl, ?_⟩
    simpa using given

theorem rabbit_of_settings (codecs : Charset.Registry) {settings : Settings}
    (checked : settings.checkCredentials = .ok ())
    (plain : Char.ofNat 0 ∉ settings.charset.toList) :
    (∃ reading, Charset.lookUp codecs settings.charset = some reading ∧ settings.rabbit codecs =
      .ok (.new settings.identity ⟨settings.charset, reading⟩ settings.address)) ∨
    (Charset.lookUp codecs settings.charset = none ∧
      settings.rabbit codecs = .error (.unknownCharset settings.charset)) := by
  have clean : settings.charset.contains (Char.ofNat 0) = false := by simp [plain]
  unfold Settings.rabbit Codec.named
  rw [checked, clean]
  cases Charset.lookUp codecs settings.charset with
  | none => exact .inr ⟨rfl, rfl⟩
  | some reading => exact .inl ⟨reading, rfl, rfl⟩

section
variable {codecs : Charset.Registry} {settings : Settings} {answer : Answer} {task : Task}
  (routing : Log.Routing) (disk : Disk)

theorem run_task_links : (runTask codecs settings routing disk answer task).links =
    (performWith codecs settings answer task).links := by
  unfold runTask
  dsimp only
  split
  · rfl
  · split <;> rfl

theorem result_of_done {code : Nat} {output : String}
    (done : (performWith codecs settings answer task).result = .ok (code, output)) :
    (runTask codecs settings routing disk answer task).result = .ok (.returned code) := by
  unfold runTask
  dsimp only
  rw [done]

theorem result_of_failed {failure : Failure} (announced : failure.isAnnounced = true)
    (failed : (performWith codecs settings answer task).result = .error failure) :
    (runTask codecs settings routing disk answer task).result = .ok (.returned 1) := by
  unfold runTask
  dsimp only
  rw [failed]
  dsimp only
  rw [if_pos announced]

-- A run that fails before there is a rabbit: the service is not asked.
theorem unreached_concludes {links : List Link} {failure : Failure}
    (unreached : ¬ Reaches codecs settings task) (announced : failure.isAnnounced = true)
    (performed : performWith codecs settings answer task = ⟨.error failure, links, []⟩)
    (linked : links.length ≤ 1) (silent : ∀ link ∈ links, link.requests = []) :
    Concluded codecs settings task answer (runTask codecs settings routing disk answer task) := by
  have result := result_of_failed routing disk announced (congrArg Performance.result performed)
  have made : (runTask codecs settings routing disk answer task).links = links := by
    rw [run_task_links, performed]
  have requests : (runTask codecs settings routing disk answer task).requests = [] := by
    rw [Course.requests, made]
    exact List.flatMap_eq_nil_iff.mpr silent
  refine ⟨?_, ?_, ?_, .inr result, ?_, ?_⟩
  · rw [made]
    exact linked
  · simp [requests]
  · rw [made]
    intro link member asked
    exact absurd (silent link member) asked
  · simp [result, requests]
  · simp [requests, unreached]

-- Whatever the rabbit comes to, its link is closed behind it.
theorem reached_concludes {rabbit : Rabbit}
    (checked : settings.checkCredentials = .ok ()) (made : settings.rabbit codecs = .ok rabbit)
    (fresh : rabbit.closings = 0) (reaches : Reaches codecs settings task ↔ Possible task)
    (carried : Carried task answer rabbit (perform rabbit answer task)) :
    Concluded codecs settings task answer (runTask codecs settings routing disk answer task) := by
  obtain ⟨single, asked, coded, announced, succeeded, kept⟩ := carried
  have performed : performWith codecs settings answer task = ⟨(perform rabbit answer task).result,
      [⟨settings.limit, (perform rabbit answer task).requests, 1⟩],
      (perform rabbit answer task).log⟩ := by
    have closed : (perform rabbit answer task).state.close.state.closings = 1 := by
      simp [Rabbit.close, Outcome.done, kept, fresh]
    unfold performWith
    rw [checked, made]
    dsimp only
    rw [closed]
  have links : (runTask codecs settings routing disk answer task).links =
      [⟨settings.limit, (perform rabbit answer task).requests, 1⟩] := by
    rw [run_task_links, performed]
  have requests : (runTask codecs settings routing disk answer task).requests =
      (perform rabbit answer task).requests := by
    rw [Course.requests, links]
    exact List.append_nil _
  -- The exit code is the one of the task, and one if the task failed.
  have outcome : ((runTask codecs settings routing disk answer task).result = .ok (.returned 0) ∧
        ∃ output, (perform rabbit answer task).result = .ok (0, output)) ∨
      ((runTask codecs settings routing disk answer task).result = .ok (.returned 1) ∧
        ¬ ∃ output, (perform rabbit answer task).result = .ok (0, output)) := by
    have same := congrArg Performance.result performed
    cases done : (perform rabbit answer task).result with
    | error failure =>
      have result := result_of_failed routing disk (announced failure done) (same.trans done)
      exact .inr ⟨result, by simp⟩
    | ok pair =>
      obtain ⟨code, output⟩ := pair
      have result := result_of_done routing disk (same.trans done)
      rcases coded code output done with rfl | rfl
      · exact .inl ⟨result, output, rfl⟩
      · exact .inr ⟨result, by simp⟩
  have one : (perform rabbit answer task).requests.length = 1 ↔ Possible task := by
    rw [← asked, ← List.length_pos_iff]
    omega
  refine ⟨?linked, ?single, ?closed, ?ended, ?succeeded, ?asked⟩
  case linked => simp [links]
  case single => rw [requests]; exact single
  case closed =>
    intro link member _
    rw [links, List.mem_singleton] at member
    rw [member]
  case ended => exact outcome.imp And.left And.left
  case succeeded =>
    rw [requests, one, ← succeeded]
    rcases outcome with ⟨result, fulfilled⟩ | ⟨result, missed⟩
    · exact iff_of_true result fulfilled
    · exact iff_of_false (by simp [result]) missed
  case asked => rw [requests, asked, reaches]

variable (fair : Fair answer) (forRabbit : IsForRabbit task) (shown : task.Shown)
include fair forRabbit shown

theorem run_task_concludes (plain : Char.ofNat 0 ∉ settings.charset.toList) :
    Concluded codecs settings task answer (runTask codecs settings routing disk answer task) := by
  rcases credentials_exact settings with ⟨checked, addressed, entitled⟩ | ⟨checked, missing⟩
  · rcases rabbit_of_settings codecs checked plain with ⟨reading, known, made⟩ | ⟨unknown, refused⟩
    · have carried := perform_carried settings.identity ⟨settings.charset, reading⟩ settings.address
        fair forRabbit shown
      have reaches : Reaches codecs settings task ↔ Possible task := by
        constructor
        · exact Reaches.possible
        · exact fun possible => ⟨addressed, entitled, by simp [known], possible⟩
      exact reached_concludes routing disk checked made rfl reaches carried
    · have unreached : ¬ Reaches codecs settings task := by
        intro reaches
        simpa [unknown] using reaches.known
      have performed : performWith codecs settings answer task =
          ⟨.error (.unknownCharset settings.charset), [⟨settings.limit, [], 0⟩], []⟩ := by
        rw [performWith, checked, refused]
      exact unreached_concludes routing disk unreached rfl performed (by simp) (by simp)
  · have unreached : ¬ Reaches codecs settings task :=
      fun reaches => missing ⟨reaches.addressed, reaches.entitled⟩
    have performed : performWith codecs settings answer task =
        ⟨.error (.missingCredentials settings.path.text), [], []⟩ := by
      rw [performWith, checked]
    exact unreached_concludes routing disk unreached rfl performed (by simp) (by simp)

end

theorem silence_is_fair : Fair (.ok []) := by
  apply Fair.replied
  intro long
  exact absurd (Reply.overlong_is_long long) (by decide)

end RabbitRemote.CommandLine
