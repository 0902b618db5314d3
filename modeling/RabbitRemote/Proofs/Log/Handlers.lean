import RabbitRemote.Log.Routing
import RabbitRemote.Proofs.Ledger

namespace RabbitRemote

namespace Disk
variable {disk after : Disk} {path : Path}

theorem files_on_the_way (path : Path) (made : Bool) (here : Path) (location : List String)
    (disk : Disk) (parts : List String) :
    (makeOnTheWay path made here location disk parts).2.files = disk.files ∧
      (makeOnTheWay path made here location disk parts).2.working = disk.working := by
  induction parts generalizing made here location disk with
  | nil => exact ⟨rfl, rfl⟩
  | cons part rest ih =>
    unfold makeOnTheWay
    dsimp only
    split
    · exact ⟨rfl, rfl⟩
    · split
      · exact ih _ _ _ disk
      · split
        · exact ⟨rfl, rfl⟩
        · split
          · exact ⟨rfl, rfl⟩
          · exact ih _ _ _ _

-- Making directories changes no file.
theorem files_past_directories (disk : Disk) (path : Path) :
    (disk.makeDirectories path).2.files = disk.files ∧
      (disk.makeDirectories path).2.working = disk.working := by
  unfold makeDirectories
  split
  · exact ⟨rfl, rfl⟩
  · split
    · exact ⟨rfl, rfl⟩
    · exact files_on_the_way _ _ _ _ _ _

theorem file_touched (touched : disk.touch path = .ok after) :
    (∀ name text, Ledger.get? disk.files name = some text →
      Ledger.get? after.files name = some text) ∧
    (Ledger.get? after.files (fullName (disk.locationOf path))).isSome = true := by
  unfold touch at touched
  dsimp only at touched
  split at touched
  · cases touched
  · split at touched
    · cases touched
    · split at touched
      · cases touched
      · split at touched
        · rename_i held
          cases touched
          exact ⟨fun _ _ known => known, held⟩
        · rename_i missing
          cases touched
          have fresh : Ledger.get? disk.files (fullName (disk.locationOf path)) = none := by
            simpa [holdsFile] using missing
          refine ⟨?_, by simp [Ledger.get_put]⟩
          intro name text known
          rw [Ledger.get_put, if_neg]
          · exact known
          · rintro rfl
            rw [fresh] at known
            cases known

theorem text_appended (disk : Disk) (file name text : String) :
    Ledger.get? (disk.append file text).files name =
      if file = name then some ((Ledger.get? disk.files file).getD "" ++ text)
      else Ledger.get? disk.files name :=
  Ledger.get_put _ _ _ _

end Disk

namespace Log

-- What the root hands records to.
inductive Handler where
  | console
  | file (name : String)
deriving DecidableEq, Repr

def Handler.write (line : String) (written : String × Disk) : Handler → String × Disk
  | .console => (written.1 ++ line, written.2)
  | .file name => (written.1, written.2.append name line)

-- Handlers are set up anew by taking off each one that is there. The console is put on if none is
-- left then, and the file behind it.
def setUpAnew (handlers : List Handler) (file? : Option String) : List Handler :=
  let left := handlers.foldl List.erase handlers
  (if left.isEmpty then [.console] else left) ++ (file?.map Handler.file).toList

theorem none_left (handlers : List Handler) : handlers.foldl List.erase handlers = [] := by
  induction handlers with
  | nil => rfl
  | cons handler rest ih => rw [List.foldl_cons, List.erase_cons_head, ih]

theorem set_up_anew (handlers : List Handler) (file? : Option String) :
    setUpAnew handlers file? = .console :: (file?.map Handler.file).toList := by
  rw [setUpAnew, none_left]
  rfl

namespace Routing
variable {routing : Routing} {disk : Disk} {level : String} {path? : Option Path}
  {logsNetwork : Bool}

def handlers (routing : Routing) : List Handler :=
  match routing.route with
  | .unset => []
  | .console => [.console]
  | .consoleAndFile file => [.console, .file file]

-- Each handler writes a record's line once. Only without any, a warning is shown bare.
theorem written_by_handlers (routing : Routing) (set : routing.handlers ≠ []) (disk : Disk)
    (record : Record) : (routing.onConsole record, routing.onDisk disk record) =
      routing.handlers.foldl (Handler.write (routing.line record)) ("", disk) := by
  unfold handlers at set ⊢
  unfold onConsole onDisk
  cases route : routing.route with
  | unset => simp [route] at set
  | console => simp [Handler.write]
  | consoleAndFile file => simp [Handler.write]

-- The file of a path, by its full name.
def fileOf (disk : Disk) (path? : Option Path) : Option String :=
  path?.map fun path => Disk.fullName (disk.locationOf path)

def routeTo : Option String → Route
  | none => .console
  | some file => .consoleAndFile file

-- Opening a file for more text leaves all texts as they are.
structure Opened (disk : Disk) (file? : Option String) (final : Disk) : Prop where
  kept : ∀ name text, Ledger.get? disk.files name = some text →
    Ledger.get? final.files name = some text
  held : ∀ name, file? = some name → (Ledger.get? final.files name).isSome = true

theorem configure_cases (routing : Routing) (disk : Disk) (level : String) (path? : Option Path)
    (logsNetwork : Bool) :
    (∃ failure rabbit final, routing.configure disk level path? logsNetwork =
      (some failure, { routing with rabbit := rabbit, route := .console, verdicts := [] }, final)) ∨
    (∃ rabbit final, levelOf level = .ok rabbit ∧ Opened disk (fileOf disk path?) final ∧
      routing.configure disk level path? logsNetwork = (none, { routing with
        rabbit := rabbit
        network := networkLevel logsNetwork
        route := routeTo (fileOf disk path?)
        verdicts := [] }, final)) := by
  unfold configure
  cases levelOf level with
  | error failure => exact .inl ⟨failure, routing.rabbit, disk, rfl⟩
  | ok rabbit =>
    cases path? with
    | none => exact .inr ⟨rabbit, disk, rfl, ⟨fun _ _ known => known, by simp [fileOf]⟩, rfl⟩
    | some path =>
      obtain ⟨files, working⟩ := disk.files_past_directories path.parent
      dsimp only
      cases made : disk.makeDirectories path.parent with
      | mk failure? ready =>
        rw [made] at files working
        cases failure? with
        | some failure => exact .inl ⟨failure, rabbit, ready, rfl⟩
        | none =>
          cases touched : ready.touch path with
          | error failure => exact .inl ⟨failure, rabbit, ready, by simp [touched]⟩
          | ok final =>
            have there : ready.locationOf path = disk.locationOf path := by
              rw [Disk.locationOf, Disk.locationOf, Disk.start, Disk.start, working]
            obtain ⟨kept, held⟩ := Disk.file_touched touched
            rw [files] at kept
            rw [there] at held
            refine .inr ⟨rabbit, final, rfl, ⟨kept, ?_⟩, by simp [touched, fileOf, routeTo]⟩
            intro name same
            cases same
            exact held

theorem handlers_of_same_route {later : Routing} (same : later.route = routing.route) :
    later.handlers = routing.handlers := by
  rw [handlers, same, ← handlers]

theorem handlers_of_route {file? : Option String} (routed : routing.route = routeTo file?) :
    routing.handlers = .console :: (file?.map Handler.file).toList := by
  unfold handlers
  rw [routed]
  cases file? <;> rfl

-- A record that gets to a console and a file shows there once and is in no other file.
theorem written_of_route {file? : Option String} (routed : routing.route = routeTo file?)
    (disk : Disk) (record : Record) : routing.onConsole record = routing.line record ∧
      ∀ name, Ledger.get? (routing.onDisk disk record).files name =
        if file? = some name then
          some ((Ledger.get? disk.files name).getD "" ++ routing.line record)
        else Ledger.get? disk.files name := by
  have handlers := handlers_of_route routed
  have written := written_by_handlers routing (by rw [handlers]; simp) disk record
  rw [handlers] at written
  cases file? with
  | none =>
    obtain ⟨shown, same⟩ := Prod.mk.inj written
    rw [shown, same]
    simp
  | some file =>
    obtain ⟨shown, same⟩ := Prod.mk.inj written
    rw [shown, same]
    refine ⟨String.empty_append, ?_⟩
    intro name
    simp only [Handler.write, Disk.text_appended, Option.some.injEq]
    split
    · rename_i here
      rw [here]
    · rfl

-- Whatever the handlers were, a call of `configure` sets them up anew, a failed one without a file.
theorem handlers_configured (routing : Routing) (disk : Disk) (level : String) (path? : Option Path)
    (logsNetwork : Bool) :
    (routing.configure disk level path? logsNetwork).2.1.handlers = setUpAnew routing.handlers
      (if (routing.configure disk level path? logsNetwork).1.isNone then fileOf disk path?
        else none) := by
  rw [set_up_anew]
  rcases configure_cases routing disk level path? logsNetwork with
    ⟨failure, rabbit, final, failed⟩ | ⟨rabbit, final, _, _, done⟩
  · rw [failed]
    rfl
  · rw [done]
    exact handlers_of_route rfl

-- What a call of `configure` sets, if it does not fail: all but the loggers that have been used and
-- the stamp, and nothing by what was set before.
structure SetUp (routing : Routing) (disk : Disk) (level : String) (path? : Option Path)
    (logsNetwork : Bool) (now : Routing) (ready : Disk) : Prop where
  rabbit : levelOf level = .ok now.rabbit
  network : now.network = networkLevel logsNetwork
  route : now.route = routeTo (fileOf disk path?)
  used : now.used = routing.used
  undecided : now.verdicts = []
  opened : Opened disk (fileOf disk path?) ready

theorem set_up_by_configure {now : Routing} {ready : Disk}
    (configured : routing.configure disk level path? logsNetwork = (none, now, ready)) :
    SetUp routing disk level path? logsNetwork now ready := by
  rcases configure_cases routing disk level path? logsNetwork with
    ⟨failure, rabbit, final, failed⟩ | ⟨rabbit, final, known, opened, done⟩
  · rw [failed] at configured
    cases configured
  · rw [done] at configured
    cases configured
    exact ⟨known, rfl, rfl, rfl, rfl, opened⟩

end Routing
end Log
end RabbitRemote
