import RabbitRemote.Proofs.Log.Handlers
import RabbitRemote.Proofs.Log.Lineage

namespace RabbitRemote.Log

-- What calls lead to, in any order and whether they fail or not.
inductive Reached (stamp : String) : Routing → Disk → Prop where
  | initial (disk : Disk) : Reached stamp (Routing.initial stamp) disk
  | configured {routing : Routing} {disk : Disk} (reached : Reached stamp routing disk)
      (level : String) (path? : Option Path) (logsNetwork : Bool) :
      Reached stamp (routing.configure disk level path? logsNetwork).2.1
        (routing.configure disk level path? logsNetwork).2.2
  | logged {routing : Routing} {disk : Disk} (reached : Reached stamp routing disk)
      (record : Record) :
      Reached stamp (routing.deliver disk record).2.1 (routing.deliver disk record).2.2

-- Records change nothing of the routing but which loggers there are and what has been decided.
structure Steady (routing after : Routing) : Prop where
  rabbit : after.rabbit = routing.rabbit
  network : after.network = routing.network
  route : after.route = routing.route
  stamp : after.stamp = routing.stamp
  used : ∀ name ∈ routing.used, name ∈ after.used

def question (record : Record) : String × Int := (record.logger, record.level)

namespace Steady
variable {routing middle after : Routing}

theorem refl (routing : Routing) : Steady routing routing :=
  ⟨rfl, rfl, rfl, rfl, fun _ known => known⟩

theorem trans (one : Steady routing middle) (two : Steady middle after) : Steady routing after :=
  ⟨two.rabbit.trans one.rabbit, two.network.trans one.network, two.route.trans one.route,
    two.stamp.trans one.stamp, fun name known => two.used name (one.used name known)⟩

theorem line (steady : Steady routing after) (record : Record) :
    after.line record = routing.line record := by
  rw [Routing.line, Routing.line, steady.stamp]

theorem knows (steady : Steady routing after) (knows : routing.Knows) : after.Knows :=
  fun name named => steady.used name (knows name named)

theorem effective_level (steady : Steady routing after) (knows : routing.Knows) {logger : String}
    (single : SingleStops logger) : after.effectiveLevel logger = routing.effectiveLevel logger := by
  rw [Routing.effective_level_exact (steady.knows knows) single,
    Routing.effective_level_exact knows single, steady.rabbit, steady.network]

end Steady

namespace Routing
variable {routing : Routing} {disk : Disk} {file? : Option String}

theorem steady_use (routing : Routing) (logger : String) : Steady routing (routing.use logger) := by
  unfold use
  split
  · exact .refl routing
  · exact ⟨rfl, rfl, rfl, rfl, fun _ known => List.mem_cons_of_mem _ known⟩

theorem verdicts_of_use (routing : Routing) (logger : String) :
    (routing.use logger).verdicts = routing.verdicts := by
  unfold use
  split <;> rfl

-- A record is judged as it was before, or else by the effective level of its logger.
def verdict (routing : Routing) (record : Record) : Bool :=
  (Ledger.get? routing.verdicts (question record)).getD
    (routing.passes record.logger record.level)

theorem judge_exact (routing : Routing) (record : Record) :
    (routing.judge record).1 = routing.verdict record ∧
      Steady routing (routing.judge record).2 ∧
      ∀ other, Ledger.get? (routing.judge record).2.verdicts other =
        if question record = other then some (routing.verdict record)
        else Ledger.get? routing.verdicts other := by
  have steady := routing.steady_use record.logger
  have passes : (routing.use record.logger).passes record.logger record.level =
      routing.passes record.logger record.level := by
    rw [passes, passes, effective_level_of_use]
  unfold judge verdict
  dsimp only
  rw [verdicts_of_use, question]
  cases known : Ledger.get? routing.verdicts (record.logger, record.level) with
  | some verdict =>
    refine ⟨rfl, steady, ?_⟩
    intro other
    dsimp only
    rw [verdicts_of_use]
    split
    · rename_i same
      rw [← same, known]
      rfl
    · rfl
  | none =>
    refine ⟨passes, ⟨steady.rabbit, steady.network, steady.route, steady.stamp, steady.used⟩, ?_⟩
    intro other
    dsimp only
    rw [Ledger.get_put, passes]
    rfl

theorem routing_of_deliver (routing : Routing) (disk : Disk) (record : Record) :
    (routing.deliver disk record).2.1 = (routing.judge record).2 := by
  unfold deliver
  cases routing.judge record with
  | mk verdict after => cases verdict <;> rfl

theorem deliver_exact (routed : routing.route = routeTo file?) (disk : Disk) (record : Record) :
    (routing.deliver disk record).1 =
        (if routing.verdict record then routing.line record else "") ∧
      ∀ name, Ledger.get? (routing.deliver disk record).2.2.files name =
        if routing.verdict record = true ∧ file? = some name then
          some ((Ledger.get? disk.files name).getD "" ++ routing.line record)
        else Ledger.get? disk.files name := by
  obtain ⟨judged, _⟩ := routing.judge_exact record
  obtain ⟨shown, files⟩ := written_of_route routed disk record
  unfold deliver
  cases judgement : routing.judge record with
  | mk verdict after =>
    rw [judgement] at judged
    dsimp only at judged
    rw [← judged]
    cases verdict with
    | false => simp
    | true => simp [shown, files]

theorem deliver_all_cons (routing : Routing) (disk : Disk) (record : Record)
    (records : List Record) :
    let first := routing.deliver disk record
    let rest := first.2.1.deliverAll first.2.2 records
    routing.deliverAll disk (record :: records) = (first.1 ++ rest.1, rest.2) := rfl

theorem deliver_all_append (routing : Routing) (disk : Disk) (before rest : List Record) :
    (routing.deliverAll disk (before ++ rest)).2 =
      ((routing.deliverAll disk before).2.1.deliverAll (routing.deliverAll disk before).2.2
        rest).2 := by
  induction before generalizing routing disk with
  | nil => rfl
  | cons record before ih => exact ih _ _

theorem steady_deliver (routing : Routing) (disk : Disk) (record : Record) :
    Steady routing (routing.deliver disk record).2.1 := by
  obtain ⟨_, steady, _⟩ := routing.judge_exact record
  rw [routing_of_deliver]
  exact steady

theorem steady_deliver_all (routing : Routing) (disk : Disk) (records : List Record) :
    Steady routing (routing.deliverAll disk records).2.1 := by
  induction records generalizing routing disk with
  | nil => exact .refl routing
  | cons record rest ih => exact (routing.steady_deliver disk record).trans (ih _ _)

theorem verdicts_of_deliver (routing : Routing) (disk : Disk) (record : Record)
    (other : String × Int) : Ledger.get? (routing.deliver disk record).2.1.verdicts other =
      if question record = other then some (routing.verdict record)
      else Ledger.get? routing.verdicts other := by
  obtain ⟨_, _, verdicts⟩ := routing.judge_exact record
  rw [routing_of_deliver]
  exact verdicts other

-- What has been decided stays so from record to record.
theorem decided_stays {other : String × Int} {verdict : Bool}
    (decided : Ledger.get? routing.verdicts other = some verdict) (disk : Disk)
    (records : List Record) :
    Ledger.get? (routing.deliverAll disk records).2.1.verdicts other = some verdict := by
  induction records generalizing routing disk with
  | nil => exact decided
  | cons record rest ih =>
    have next : Ledger.get? (routing.deliver disk record).2.1.verdicts other = some verdict := by
      rw [verdicts_of_deliver]
      split
      · rename_i same
        rw [Routing.verdict, same, decided]
        rfl
      · exact decided
    exact ih next _

theorem undecided_stays {other : String × Int} {records : List Record}
    (undecided : Ledger.get? routing.verdicts other = none)
    (unasked : ∀ record ∈ records, question record ≠ other) (disk : Disk) :
    Ledger.get? (routing.deliverAll disk records).2.1.verdicts other = none := by
  induction records generalizing routing disk with
  | nil => exact undecided
  | cons record rest ih =>
    have next : Ledger.get? (routing.deliver disk record).2.1.verdicts other = none := by
      rw [verdicts_of_deliver, if_neg (unasked record List.mem_cons_self)]
      exact undecided
    exact ih next (fun later member => unasked later (List.mem_cons_of_mem _ member)) _

def decided (routing : Routing) (logger : String) (level : Int) : Bool :=
  (Ledger.get? routing.verdicts (logger, level)).getD false

-- The lines of those records that are due.
def linesOf (routing : Routing) (due : String → Int → Bool) (records : List Record) : String :=
  String.join ((records.filter fun record => due record.logger record.level).map routing.line)

theorem lines_of_cons (routing : Routing) (due : String → Int → Bool) (record : Record)
    (records : List Record) : routing.linesOf due (record :: records) =
      (if due record.logger record.level then routing.line record else "") ++
        routing.linesOf due records := by
  unfold linesOf
  rw [List.filter_cons]
  split
  · rw [List.map_cons, String.join_cons]
  · rw [String.empty_append]

theorem lines_of_steady {after : Routing} (steady : Steady routing after)
    (due : String → Int → Bool) (records : List Record) :
    after.linesOf due records = routing.linesOf due records := by
  unfold linesOf
  rw [List.map_congr_left fun record _ => steady.line record]

-- All lines of records that are due are written by and by, each of them once to each place.
theorem delivered_all (routed : routing.route = routeTo file?) (disk : Disk)
    (records : List Record) :
    let last := (routing.deliverAll disk records).2.1
    (routing.deliverAll disk records).1 = routing.linesOf last.decided records ∧
      (∀ name text, file? = some name → Ledger.get? disk.files name = some text →
        Ledger.get? (routing.deliverAll disk records).2.2.files name =
          some (text ++ routing.linesOf last.decided records)) ∧
      ∀ name, file? ≠ some name →
        Ledger.get? (routing.deliverAll disk records).2.2.files name =
          Ledger.get? disk.files name := by
  induction records generalizing routing disk with
  | nil => exact ⟨rfl, fun _ text _ held => by simpa [linesOf, deliverAll] using held, fun _ _ => rfl⟩
  | cons record rest ih =>
    have steady := routing.steady_deliver disk record
    obtain ⟨shown, files⟩ := deliver_exact routed disk record
    let next := routing.deliver disk record
    let last := (next.2.1.deliverAll next.2.2 rest).2.1
    obtain ⟨laterShown, laterHeld, laterOthers⟩ := ih (steady.route.trans routed) next.2.2
    have known : Ledger.get? last.verdicts (question record) = some (routing.verdict record) := by
      apply decided_stays
      rw [verdicts_of_deliver, if_pos rfl]
    have judged : last.decided record.logger record.level = routing.verdict record := by
      rw [decided]
      exact congrArg (Option.getD · false) known
    have lines : routing.linesOf last.decided (record :: rest) =
        (if routing.verdict record then routing.line record else "") ++
          next.2.1.linesOf last.decided rest := by
      rw [lines_of_cons, judged, lines_of_steady steady]
    refine ⟨?_, ?_, ?_⟩
    · rw [deliver_all_cons, lines]
      exact congrArg₂ (· ++ ·) shown laterShown
    · intro name text here held
      have grown : Ledger.get? next.2.2.files name =
          some (text ++ if routing.verdict record then routing.line record else "") := by
        rw [files, held]
        cases routing.verdict record <;> simp [here]
      rw [deliver_all_cons, lines, ← String.append_assoc]
      exact laterHeld name _ here grown
    · intro name other
      rw [deliver_all_cons, laterOthers name other, files, if_neg]
      exact fun both => other both.2

-- The first record of a logger and a level decides for the following ones.
theorem decided_at_first (undecided : routing.verdicts = []) (disk : Disk) {before : List Record}
    {record : Record} (first : ∀ other ∈ before, question other ≠ question record)
    (rest : List Record) :
    (routing.deliverAll disk (before ++ record :: rest)).2.1.decided record.logger record.level =
      (routing.deliverAll disk before).2.1.passes record.logger record.level := by
  let now := routing.deliverAll disk before
  have unknown : Ledger.get? now.2.1.verdicts (question record) = none := by
    apply undecided_stays _ first
    rw [undecided]
    rfl
  have judged : now.2.1.verdict record = now.2.1.passes record.logger record.level := by
    rw [Routing.verdict, unknown]
    rfl
  have known : Ledger.get? (now.2.1.deliver now.2.2 record).2.1.verdicts (question record) =
      some (now.2.1.passes record.logger record.level) := by
    rw [verdicts_of_deliver, if_pos rfl, judged]
  have stays := decided_stays known (now.2.1.deliver now.2.2 record).2.2 rest
  rw [deliver_all_append, decided]
  exact congrArg (Option.getD · false) stays

end Routing

theorem reached_knows {stamp : String} {routing : Routing} {disk : Disk}
    (reached : Reached stamp routing disk) : routing.Knows := by
  induction reached with
  | initial disk => exact fun _ named => named
  | @configured routing disk reached level path? logsNetwork ih =>
    rcases routing.configure_cases disk level path? logsNetwork with
      ⟨failure, rabbit, final, failed⟩ | ⟨rabbit, final, _, _, done⟩
    · rw [failed]
      exact ih
    · rw [done]
      exact ih
  | logged reached record ih => exact (Routing.steady_deliver _ _ record).knows ih

theorem first_question (before : List Record) (record : Record) (rest : List Record) :
    ∃ front first back, before ++ record :: rest = front ++ first :: back ∧
      question first = question record ∧
      ∀ other ∈ front, question other ≠ question record := by
  induction before with
  | nil => exact ⟨[], record, rest, rfl, rfl, by simp⟩
  | cons head before ih =>
    by_cases same : question head = question record
    · exact ⟨[], head, before ++ record :: rest, rfl, same, by simp⟩
    · obtain ⟨front, first, back, parted, asked, fresh⟩ := ih
      refine ⟨head :: front, first, back, congrArg (head :: ·) parted, asked, ?_⟩
      intro other member
      rcases List.mem_cons.mp member with rfl | later
      · exact same
      · exact fresh other later

-- A record is due by the effective level that its logger has, if that cannot have changed since the
-- first record of this logger and level.
theorem due_exact {routing : Routing} (knows : routing.Knows) (rabbit : 0 ≤ routing.rabbit)
    (network : 0 ≤ routing.network) (undecided : routing.verdicts = []) (disk : Disk)
    {before : List Record} {record : Record} (rest : List Record)
    (settled : SingleStops record.logger ∨
      ∀ other ∈ before, question other ≠ question record) :
    (routing.deliverAll disk (before ++ record :: rest)).2.1.decided
        record.logger record.level = true ↔
      (routing.deliverAll disk before).2.1.effectiveLevel record.logger ≤ record.level := by
  have steady (records : List Record) := routing.steady_deliver_all disk records
  have passes (front : List Record) : (routing.deliverAll disk front).2.1.passes
      record.logger record.level = true ↔
        (routing.deliverAll disk front).2.1.effectiveLevel record.logger ≤ record.level := by
    apply Routing.passes_exact
    · rw [(steady front).rabbit]
      exact rabbit
    · rw [(steady front).network]
      exact network
  rcases settled with single | fresh
  · obtain ⟨front, first, back, parted, asked, fresh⟩ := first_question before record rest
    obtain ⟨sameLogger, sameLevel⟩ := Prod.mk.inj asked
    rw [← asked] at fresh
    have decided := Routing.decided_at_first undecided disk fresh back
    rw [sameLogger, sameLevel, ← parted] at decided
    have atFirst := (steady front).effective_level knows single
    have here := (steady before).effective_level knows single
    rw [decided, passes front, atFirst, here]
  · rw [Routing.decided_at_first undecided disk fresh rest]
    exact passes before

theorem level_not_negative {word : String} {level : Int} (known : levelOf word = .ok level) :
    0 ≤ level := by
  have all : ∀ entry ∈ levels, 0 ≤ entry.2 := by decide
  unfold levelOf at known
  dsimp only at known
  split at known
  · cases known
  · split at known
    · cases known
    · cases known
      cases found : Ledger.get? levels (capitals word) with
      | none => decide
      | some level => exact all _ (Ledger.entry_of_get found)

-- Behind the latest call the console and its file get each record that is due once, whatever calls
-- have come before it. What is due is told by effective levels: a logger's is the same all the time
-- if no two full stops stand in a row in its name, and else the one of the time when the logger was
-- first asked for a level counts.
theorem due_records_written_once {stamp level : String} {path? : Option Path} {logsNetwork : Bool}
    {routing now : Routing} {disk ready : Disk} (reached : Reached stamp routing disk)
    (configured : routing.configure disk level path? logsNetwork = (none, now, ready))
    (records : List Record) :
    let file? := Routing.fileOf disk path?
    let last := (now.deliverAll ready records).2.1
    let final := (now.deliverAll ready records).2.2
    last.handlers = .console :: (file?.map Handler.file).toList ∧
    Routing.rootLevel = warning ∧ levelOf level = .ok last.rabbit ∧
    last.network = Routing.networkLevel logsNetwork ∧
    (∀ name text, Ledger.get? disk.files name = some text →
      Ledger.get? ready.files name = some text) ∧
    ∃ due : String → Int → Bool,
      (now.deliverAll ready records).1 = now.linesOf due records ∧
      (∀ name, file? = some name → ∃ text, Ledger.get? ready.files name = some text ∧
        Ledger.get? final.files name = some (text ++ now.linesOf due records)) ∧
      (∀ name, file? ≠ some name →
        Ledger.get? final.files name = Ledger.get? ready.files name) ∧
      ∀ before record rest, records = before ++ record :: rest →
        SingleStops record.logger ∨ (∀ other ∈ before, question other ≠ question record) →
        (due record.logger record.level = true ↔
          (now.deliverAll ready before).2.1.effectiveLevel record.logger ≤ record.level) := by
  have set := Routing.set_up_by_configure configured
  have knows : now.Knows := by
    intro name named
    rw [set.used]
    exact reached_knows reached name named
  have rabbit : 0 ≤ now.rabbit := level_not_negative set.rabbit
  have network : 0 ≤ now.network := by
    rw [set.network]
    cases logsNetwork <;> decide
  have steady := now.steady_deliver_all ready records
  obtain ⟨shown, held, others⟩ := Routing.delivered_all set.route ready records
  refine ⟨?_, rfl, ?_, ?_, set.opened.kept, _, shown, ?_, others, ?_⟩
  · -- The latest call took off whatever handlers the earlier ones had put on.
    have handlers := routing.handlers_configured disk level path? logsNetwork
    rw [configured] at handlers
    rw [Routing.handlers_of_same_route steady.route, handlers, set_up_anew]
    rfl
  · rw [steady.rabbit]
    exact set.rabbit
  · exact steady.network.trans set.network
  · intro name here
    obtain ⟨text, there⟩ := Option.isSome_iff_exists.mp (set.opened.held name here)
    exact ⟨text, there, held name text here there⟩
  · rintro before record rest rfl settled
    exact due_exact knows rabbit network set.undecided ready rest settled

theorem due_records_written_once_to_next_file :
    let start : Disk := ⟨["home"], [], [("/home/old.log", "kept\n")]⟩
    let first := (Routing.initial "").configure start "debug" none true
    let early := first.2.1.deliver first.2.2 ⟨"aiohttp.client", 10, "request"⟩
    let latest := early.2.1.configure early.2.2 "warn" (some ⟨0, ["new.log"]⟩) false
    let records := [⟨"aiohttp.client", 10, "request"⟩, ⟨"nabaztag.device", 30, "answer"⟩]
    let final := latest.2.1.deliverAll latest.2.2 records
    latest.1 = none ∧ final.1 = "WARNING | nabaztag.device | answer\n" ∧
    Ledger.get? final.2.2.files "/home/old.log" = some "kept\n" ∧
    Ledger.get? final.2.2.files "/home/new.log" = some "WARNING | nabaztag.device | answer\n" := by
  intro start first early latest records final
  let now : Routing := ⟨30, 30, .consoleAndFile "/home/new.log", "",
    Routing.rabbitLogger :: Routing.networkLoggers, []⟩
  let ready : Disk := ⟨["home"], [], [("/home/old.log", "kept\n"), ("/home/new.log", "")]⟩
  have done : latest = (none, now, ready) := by
    have parent : Disk.holdsNul ⟨0, []⟩ = false := by simp [Disk.holdsNul]
    have file : Disk.holdsNul ⟨0, ["new.log"]⟩ = false := by simp [Disk.holdsNul]
    have made : early.2.2.makeDirectories ⟨0, []⟩ = (none, early.2.2) := by
      rw [Disk.makeDirectories, parent]
      rfl
    have touched : early.2.2.touch ⟨0, ["new.log"]⟩ = .ok ready := by
      rw [Disk.touch, file]
      rfl
    have level : levelOf "warn" = .ok 30 := by rfl
    show early.2.1.configure early.2.2 "warn" (some ⟨0, ["new.log"]⟩) false = (none, now, ready)
    rw [Routing.configure, level]
    dsimp only [Path.parent, List.dropLast]
    rw [made]
    dsimp only
    rw [touched]
    rfl
  have reached : Reached "" early.2.1 early.2.2 :=
    .logged (.configured (.initial start) "debug" none true) _
  obtain ⟨_, _, _, _, _, due, shown, held, others, exact⟩ :=
    due_records_written_once reached done records
  have file : Routing.fileOf early.2.2 (some ⟨0, ["new.log"]⟩) = some "/home/new.log" := rfl
  have hushed : due "aiohttp.client" 10 = false := by
    rw [Bool.eq_false_iff, ne_eq, exact [] ⟨"aiohttp.client", 10, "request"⟩ _ rfl (.inr (by simp))]
    decide +kernel
  have heard : due "nabaztag.device" 30 = true := by
    rw [exact [_] ⟨"nabaztag.device", 30, "answer"⟩ [] rfl (.inl (by decide +kernel))]
    decide +kernel
  have lines : now.linesOf due records = "WARNING | nabaztag.device | answer\n" := by
    simp only [records, Routing.linesOf, List.filter, hushed, heard]
    decide +kernel
  have same : final = now.deliverAll ready records := by
    show latest.2.1.deliverAll latest.2.2 records = _
    rw [done]
  obtain ⟨text, before, after⟩ := held "/home/new.log" file
  refine ⟨congrArg Prod.fst done, ?_, ?_, ?_⟩
  · rw [same, shown, lines]
  · rw [same, others "/home/old.log" (by rw [file]; decide)]
    rfl
  · rw [same, after, lines]
    have empty : text = "" := by
      cases before
      rfl
    rw [empty]
    rfl

-- Of two full stops in a row the first one counts as soon as a logger ends with it. What has been
-- refused before that still is.
theorem refusal_outlives_new_logger :
    let latest := (Routing.initial "").configure ⟨["home"], [], []⟩ "debug" none false
    let now := latest.2.1.deliverAll latest.2.2
      [⟨"nabaztag..x", 10, "first"⟩, ⟨"nabaztag.", 30, "second"⟩]
    latest.1 = none ∧ now.2.1.effectiveLevel "nabaztag..x" ≤ 10 ∧
      (now.2.1.deliver now.2.2 ⟨"nabaztag..x", 10, "third"⟩).1 = "" := by
  decide +kernel

end RabbitRemote.Log
