import RabbitRemote.CommandLine
import RabbitRemote.Proofs.Secrecy.Settings

namespace RabbitRemote.CommandLine
open Arguments

structure Link.Alike (one other : Link) : Prop where
  limit : one.limit = other.limit
  requests : List.Forall₂ Request.Alike one.requests other.requests
  closings : one.closings = other.closings

structure Performance.Alike (one other : Performance) : Prop where
  result : one.result = other.result
  links : List.Forall₂ Link.Alike one.links other.links
  log : one.log = other.log

-- Two courses that nothing tells apart but the token in the requests.
structure Course.Alike (one other : Course) : Prop where
  result : one.result = other.result
  output : one.output = other.output
  errors : one.errors = other.errors
  disk : one.disk = other.disk
  links : List.Forall₂ Link.Alike one.links other.links

structure Surroundings.Alike (one other : Surroundings) : Prop where
  homes : one.homes = other.homes
  disk : one.disk = other.disk
  stamp : one.stamp = other.stamp
  codecs : one.codecs = other.codecs
  files : ∀ path, Settings.FilesAlike path (one.settingsFile? path) (other.settingsFile? path)

theorem shown_option_alike {option value counterpart : String}
    (same : SameOrToken option value counterpart) :
    shownOption option value = shownOption option counterpart := by
  rcases same with rfl | ⟨rfl, given, givenToo⟩
  · rfl
  · have masked (text : String) (given : text ≠ "") :
        shownOption "token" text = "token" ++ " = " ++ mask ++ "\n" := by
      simp [shownOption, maskedOption, given]
    rw [masked value given, masked counterpart givenToo]

theorem shown_items_alike {items counterparts : Ini.Options} (alike : ItemsAlike items counterparts) :
    items.map (fun (option, value) => shownOption option value) =
      counterparts.map fun (option, value) => shownOption option value := by
  induction alike with
  | nil => rfl
  | @cons item counterpart _ _ same _ ih =>
    obtain ⟨named, values⟩ := same
    have here : shownOption item.1 item.2 = shownOption counterpart.1 counterpart.2 := by
      rw [← named]
      exact shown_option_alike values
    exact congrArg₂ List.cons here ih

theorem shown_section_alike {one other : Ini.Document} (alike : one.Alike other) {name : String}
    (known : name ∈ one.sectionNames) : shownSection one name = shownSection other name := by
  unfold shownSection
  rw [shown_items_alike (alike.items name known)]

theorem settings_text_alike {one other : Settings} (alike : one.Alike other) :
    settingsText one = settingsText other := by
  have shown : one.document.sectionNames.map (shownSection one.document) =
      one.document.sectionNames.map (shownSection other.document) := by
    apply List.map_congr_left
    intro name known
    exact shown_section_alike alike.document known
  unfold settingsText
  rw [shown, alike.document.sections, alike.path]

section
variable (rabbit : Rabbit) (token : String) (answer : Answer)

theorem sent_alike {one other : Outcome Rabbit Batch.Result}
    (replied : one.Alike (·.withToken token) other) :
    (sent one).Alike (·.withToken token) (sent other) := by
  apply Outcome.alike_and_then replied
  intro rabbit _
  exact Outcome.alike_quiet _ rabbit _

theorem sent_queued_alike {one other : Outcome Rabbit Unit}
    (queued : one.Alike (·.withToken token) other) :
    (sent (Rabbit.thenSend one answer)).Alike (·.withToken token)
      (sent (Rabbit.thenSend other answer)) := by
  apply sent_alike
  exact Rabbit.then_send_alike token queued answer

-- One case for each kind of task that a rabbit has.
theorem perform_alike (task : Task) :
    (perform rabbit answer task).Alike (·.withToken token)
      (perform (rabbit.withToken token) answer task) := by
  unfold perform
  split
  · exact sent_queued_alike token answer (Rabbit.say_alike rabbit token _)
  · exact sent_queued_alike token answer (Rabbit.say_alike rabbit token _)
  · exact Outcome.alike_quiet _ rabbit _
  · exact sent_queued_alike token answer (Rabbit.move_ears_alike rabbit token _ _)
  · apply Outcome.alike_and_then (Rabbit.ear_positions_alike rabbit token answer)
    intro rabbit _
    exact Outcome.alike_quiet _ rabbit _
  · exact Outcome.alike_quiet _ rabbit _

end

section
variable {one other : Settings} (alike : one.Alike other) (codecs : Charset.Registry)
  (answer : Answer) (task : Task)
include alike

theorem perform_with_alike :
    (performWith codecs one answer task).Alike (performWith codecs other answer task) := by
  unfold performWith
  rw [Settings.rabbit_alike alike codecs, Settings.check_credentials_alike alike, alike.limit]
  cases other.checkCredentials with
  | error failure => exact ⟨rfl, .nil, rfl⟩
  | ok =>
    cases one.rabbit codecs with
    | error failure => exact ⟨rfl, .cons ⟨rfl, .nil, rfl⟩ .nil, rfl⟩
    | ok rabbit =>
      obtain ⟨result, state, requests, log⟩ :=
        perform_alike rabbit other.identity.token answer task
      dsimp only [Except.map]
      rw [← result, state]
      exact ⟨rfl, .cons ⟨rfl, requests, rfl⟩ .nil, log⟩

theorem run_task_alike (routing : Log.Routing) (disk : Disk) :
    (runTask codecs one routing disk answer task).Alike
      (runTask codecs other routing disk answer task) := by
  obtain ⟨result, links, log⟩ := perform_with_alike alike codecs answer task
  unfold runTask
  dsimp only
  rw [← result, ← log]
  split
  · exact ⟨rfl, rfl, rfl, rfl, links⟩
  · split
    · exact ⟨rfl, rfl, rfl, rfl, links⟩
    · exact ⟨rfl, rfl, rfl, rfl, links⟩

end

section
variable {one other : Surroundings} (alike : one.Alike other)
include alike

theorem find_settings_alike (path : Path) :
    Settings.BothAlike (findSettings one path) (findSettings other path) := by
  unfold findSettings
  rw [alike.disk, alike.homes]
  split
  · exact Settings.load_alike (alike.files path) other.homes
  · exact .failed _

theorem run_with_alike (path : Path) (answer : Answer) (task : Task) :
    (runWith one path answer task).Alike (runWith other path answer task) := by
  have found := find_settings_alike alike path
  unfold runWith
  rw [alike.disk, alike.stamp, alike.codecs]
  generalize findSettings one path = mine at found
  generalize findSettings other path = others at found
  cases found with
  | failed failure => exact ⟨rfl, rfl, rfl, rfl, .nil⟩
  | @found settings counterpart same =>
    dsimp only
    rw [same.level, same.logPath, same.logsNetwork]
    split
    · exact ⟨rfl, rfl, rfl, rfl, .nil⟩
    · split
      · exact ⟨rfl, settings_text_alike same, rfl, rfl, .nil⟩
      · exact ⟨rfl, rfl, rfl, rfl, .nil⟩
      · exact run_task_alike same other.codecs answer _ _ _

end

-- Two runs of the same command line tell nothing about the token: whatever the service answers, they
-- come to the same end with the same texts, logs and requests, up to the token in the requests.
theorem token_does_not_leak {one other : Surroundings} (alike : one.Alike other) (answer : Answer)
    (args : List String) : (course one answer args).Alike (course other answer args) := by
  unfold course
  rw [alike.homes, alike.disk]
  split
  · exact ⟨rfl, rfl, rfl, rfl, .nil⟩
  · exact ⟨rfl, rfl, rfl, rfl, .nil⟩
  · exact run_with_alike alike _ answer _

theorem token_does_not_leak_when_speaking :
    let path := Path.ofText "rabbit.cfg"
    let written (token : String) : List UInt8 := Codec.toService
      ("[DEFAULT]\ntoken = " ++ token ++ "\n[nabaztag]\nmac = 0013d3\ntoken: " ++ token ++ "\n").toList
    let found (token : String) : Surroundings :=
      ⟨⟨"/home", []⟩, fun asked => if asked = path then some (written token) else none,
        ⟨["work"], [], []⟩, "", fun _ => none⟩
    let answer : Answer := .ok []
    let args := ["-c", "rabbit.cfg", "say", "bonjour"]
    Surroundings.Alike (found "secret") (found "other") ∧
    (course (found "secret") answer args).Alike (course (found "other") answer args) := by
  intro path written found answer args
  let read (token : String) : Ini.Document :=
    ⟨[("token", token)], [
      ("nabaztag", [("mac", "0013d3"), ("token", token)]),
      ("service", [("api_uri", Batch.defaultAddress), ("timeout_seconds", "10.0")]),
      ("encoding", [("caller_charset", Codec.defaultName)]),
      ("logging", [("level", "INFO"), ("path", ""), ("log_network", "false")])]⟩
  have readOne : Settings.defaults.read path.shown (written "secret") = .ok (read "secret") :=
    Batch.ok_of_to_option (by decide +kernel)
  have readOther : Settings.defaults.read path.shown (written "other") = .ok (read "other") :=
    Batch.ok_of_to_option (by decide +kernel)
  have documents : (read "secret").Alike (read "other") := ⟨rfl, by decide +kernel⟩
  have alike : Surroundings.Alike (found "secret") (found "other") := by
    refine ⟨rfl, rfl, rfl, rfl, ?_⟩
    intro asked
    by_cases here : asked = path
    · rw [here]
      simp only [found, if_true]
      exact .read readOne readOther documents
    · simp only [found, if_neg here]
      exact .same none
  exact ⟨alike, token_does_not_leak alike answer args⟩

end RabbitRemote.CommandLine
