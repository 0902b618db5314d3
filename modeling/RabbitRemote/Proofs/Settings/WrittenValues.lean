import Mathlib.Data.List.Nodup
import RabbitRemote.Proofs.Ini.Sheets
import RabbitRemote.Settings

namespace RabbitRemote.Settings

inductive Topic where
  | rabbit
  | service
  | encoding
  | logging
deriving DecidableEq, Repr

def Topic.name : Topic → String
  | .rabbit => "nabaztag"
  | .service => "service"
  | .encoding => "encoding"
  | .logging => "logging"

-- The options whose values are texts of any kind.
inductive Key where
  | mac
  | token
  | voice
  | address
  | charset
  | level
deriving DecidableEq, Repr

namespace Key

def topic : Key → Topic
  | .mac | .token | .voice => .rabbit
  | .address => .service
  | .charset => .encoding
  | .level => .logging

def name : Key → String
  | .mac => "mac"
  | .token => "token"
  | .voice => "voice"
  | .address => "api_uri"
  | .charset => "caller_charset"
  | .level => "level"

def place (key : Key) : String × String := (key.topic.name, key.name)

-- What the settings hold for a text that a file has.
def kept (key : Key) (written : String) : Option String :=
  let bare := Text.trimmed written
  match key with
  | .voice => if bare = "" then none else some bare
  | .charset => some (if bare = "" then "utf-8" else bare)
  | _ => some bare

def usual : Key → Option String
  | .mac | .token => some ""
  | .voice => none
  | .address => some "http://www.nabaztag.com/vl/FR/api.jsp?"
  | .charset => some "utf-8"
  | .level => some "INFO"

theorem place_distinct {key other : Key} (same : key.place = other.place) : key = other := by
  revert same
  cases key <;> cases other <;> decide

end Key

theorem topic_distinct {topic other : Topic} (same : topic.name = other.name) : topic = other := by
  revert same
  cases topic <;> cases other <;> decide

def valueOf (settings : Settings) : Key → Option String
  | .mac => some settings.identity.mac
  | .token => some settings.identity.token
  | .voice => settings.identity.voice?
  | .address => some settings.address
  | .charset => some settings.charset
  | .level => some settings.level

inductive WrittenLine where
  | blank
  | heading (topic : Topic)
  | entry (key : Key) (value : String)
deriving DecidableEq, Repr

namespace WrittenLine

def plain : WrittenLine → Ini.PlainLine
  | .blank => .blank
  | .heading topic => .heading topic.name
  | .entry key value => .entry key.place value.toList

def topic? : WrittenLine → Option Topic
  | .heading topic => some topic
  | _ => none

def key? : WrittenLine → Option Key
  | .entry key _ => some key
  | _ => none

end WrittenLine

-- A settings file in which sections and options stand in any order, each of them once at most. The
-- value of an option is any text of one line.
structure WrittenFile where
  lines : List WrittenLine
  single : ∀ key value, .entry key value ∈ lines → ∀ c ∈ value.toList, c ≠ '\r' ∧ c ≠ '\n'
  placed : Ini.Placed none (lines.map WrittenLine.plain)
  topics_once : (lines.filterMap WrittenLine.topic?).Nodup
  keys_once : (lines.filterMap WrittenLine.key?).Nodup

namespace WrittenFile

theorem topic_word (topic : Topic) : Ini.IsWord topic.name.toList := by
  cases topic <;> decide

theorem key_word (key : Key) :
    Ini.IsWord key.name.toList ∧ Text.lowered key.name = key.name := by
  cases key <;> decide +kernel

theorem headings_once (file : WrittenFile) :
    ((file.lines.map WrittenLine.plain).filterMap Ini.PlainLine.heading?).Nodup := by
  have same : (file.lines.map WrittenLine.plain).filterMap Ini.PlainLine.heading? =
      (file.lines.filterMap WrittenLine.topic?).map Topic.name := by
    rw [List.filterMap_map, List.map_filterMap]
    apply List.filterMap_congr
    intro line _
    cases line <;> rfl
  rw [same]
  exact List.Nodup.map (fun _ _ => topic_distinct) file.topics_once

theorem places_once (file : WrittenFile) :
    ((file.lines.map WrittenLine.plain).filterMap Ini.PlainLine.place?).Nodup := by
  have same : (file.lines.map WrittenLine.plain).filterMap Ini.PlainLine.place? =
      (file.lines.filterMap WrittenLine.key?).map Key.place := by
    rw [List.filterMap_map, List.map_filterMap]
    apply List.filterMap_congr
    intro line _
    cases line <;> rfl
  rw [same]
  exact List.Nodup.map (fun _ _ => Key.place_distinct) file.keys_once

def sheet (file : WrittenFile) : Ini.Sheet where
  lines := file.lines.map WrittenLine.plain
  plain := by
    intro line member
    obtain ⟨written, listed, rfl⟩ := List.mem_map.mp member
    cases written with
    | blank => trivial
    | heading topic => exact topic_word topic
    | entry key value =>
      obtain ⟨word, small⟩ := key_word key
      exact ⟨word, small, file.single key value listed⟩
  placed := file.placed
  headings_once := file.headings_once
  places_once := file.places_once

def octets (file : WrittenFile) : List UInt8 := Charset.Utf8.encode file.sheet.text

end WrittenFile

section
variable {file : WrittenFile} {document : Ini.Document}

-- Documents that say what a file says, and all else as the defaults do.
def Tells (file : WrittenFile) (document : Ini.Document) : Prop :=
  ∀ place : String × String, place.1 ≠ Ini.Document.sharedName →
    said document place.1 place.2 = String.ofList
      (Ini.saidBy file.sheet.lines place ((Ini.Reader.start defaults).tells place))

theorem said_of_entry (told : Tells file document) {key : Key} {value : String}
    (assigned : .entry key value ∈ file.lines) :
    said document key.topic.name key.name = Text.trimmed value := by
  have own : key.place.1 ≠ Ini.Document.sharedName := by cases key <;> decide
  have listed : .entry key.place value.toList ∈ file.sheet.lines :=
    List.mem_map.mpr ⟨_, assigned, rfl⟩
  have said := told key.place own
  have entry := Ini.said_by_entry file.places_once listed
    ((Ini.Reader.start defaults).tells key.place)
  exact said.trans (congrArg String.ofList entry)

theorem said_of_others (told : Tells file document) {place : String × String}
    (own : place.1 ≠ Ini.Document.sharedName)
    (others : ∀ key value, .entry key value ∈ file.lines → key.place ≠ place) :
    said document place.1 place.2 = said defaults place.1 place.2 := by
  have unlisted : ∀ value, .entry place value ∉ file.sheet.lines := by
    intro value member
    obtain ⟨line, listed, same⟩ := List.mem_map.mp member
    cases line with
    | blank => cases same
    | heading topic => cases same
    | entry key text =>
      injection same with here _
      exact others key text listed here
  have unchanged : (Ini.Reader.start defaults).finish = defaults := by decide +kernel
  have unshared : (Ini.Reader.start defaults).shared = [] := rfl
  have before := Ini.Document.said_of_finished unshared own
  rw [unchanged] at before
  rw [told place own, Ini.said_by_others unlisted, ← before, said]

theorem said_of_other_name (told : Tells file document) (topic : Topic) (name : String)
    (other : ∀ key : Key, key.name ≠ name) :
    said document topic.name name = said defaults topic.name name := by
  have own : topic.name ≠ Ini.Document.sharedName := by cases topic <;> decide
  have others : ∀ key value, .entry key value ∈ file.lines → key.place ≠ (topic.name, name) := by
    intro key _ _ same
    exact other key (congrArg Prod.snd same)
  exact said_of_others told own others

theorem document_read (path : Path) (file : WrittenFile) : ∃ document,
    defaults.read path.shown file.octets = .ok document ∧ Tells file document :=
  Ini.Document.sheet_read defaults rfl path.shown file.sheet

end

-- The settings of a document that says nothing else about the log than its level.
def unlogged (path : Path) (document : Ini.Document) : Settings where
  identity := identityOf document
  address := said document "service" "api_uri"
  limit := limitOf (said document "service" "timeout_seconds")
  charset := charsetOf document
  level := said document "logging" "level"
  logPath? := none
  logsNetwork := false
  document := document
  path := path

theorem settings_unlogged (homes : Homes) (path : Path) {document : Ini.Document}
    (noPath : said document "logging" "path" = "")
    (silent : said document "logging" "log_network" = "false") :
    ofDocument homes path document = .ok (unlogged path document) := by
  have nowhere : logPathOf homes document = .ok none := by
    rw [logPathOf, noPath]
    rfl
  have small : Text.lowered "false" = "false" := by decide +kernel
  have withoutNetwork : truthOf (said document "logging" "log_network") = .ok false := by
    rw [silent, truthOf, small]
    rfl
  rw [ofDocument, nowhere, withoutNetwork]
  rfl

theorem unless_empty (text : String) : unlessEmpty text = if text = "" then none else some text := by
  by_cases empty : text = ""
  · rw [if_pos empty, empty]
    rfl
  · have filled : text.isEmpty = false := by
      rw [Bool.eq_false_iff]
      exact fun nothing => empty (String.isEmpty_iff.mp nothing)
    rw [if_neg empty, unlessEmpty, filled]
    rfl

theorem value_of_said (path : Path) {document : Ini.Document} {key : Key} {text : String}
    (told : said document key.topic.name key.name = text) (bare : Text.trimmed text = text) :
    (unlogged path document).valueOf key = key.kept text := by
  cases key with
  | mac =>
    have here : said document "nabaztag" "mac" = text := told
    simp only [valueOf, unlogged, identityOf, here, Key.kept]
  | token =>
    have here : said document "nabaztag" "token" = text := told
    simp only [valueOf, unlogged, identityOf, here, Key.kept]
  | voice =>
    have here : said document "nabaztag" "voice" = text := told
    simp only [valueOf, unlogged, identityOf, here, unless_empty, Key.kept]
  | address =>
    have here : said document "service" "api_uri" = text := told
    simp only [valueOf, unlogged, here, bare, Key.kept]
  | charset =>
    have here : said document "encoding" "caller_charset" = text := told
    simp only [valueOf, unlogged, charsetOf, here, unless_empty, Key.kept]
    split <;> rfl
  | level =>
    have here : said document "logging" "level" = text := told
    simp only [valueOf, unlogged, here, bare, Key.kept]

theorem trimmed_twice (text : String) : Text.trimmed (Text.trimmed text) = Text.trimmed text := by
  rw [Text.trimmed, Text.trimmed, String.toList_ofList, Text.trim_twice]

theorem kept_of_trimmed (key : Key) (written : String) :
    key.kept (Text.trimmed written) = key.kept written := by
  unfold Key.kept
  rw [trimmed_twice]

theorem usual_kept (key : Key) :
    Text.trimmed (said defaults key.topic.name key.name) =
        said defaults key.topic.name key.name ∧
      key.kept (said defaults key.topic.name key.name) = key.usual := by
  cases key <;> decide +kernel

-- A file can be read whatever its values are. Each of them is kept but for the blanks around it, and
-- what the file does not say is as without a file.
theorem written_values_kept (homes : Homes) (path : Path) (file : WrittenFile) : ∃ settings,
    load homes path (some file.octets) = .ok settings ∧
    (∀ key value, .entry key value ∈ file.lines → settings.valueOf key = key.kept value) ∧
    (∀ key, (∀ value, .entry key value ∉ file.lines) → settings.valueOf key = key.usual) ∧
    settings.limit = Session.defaultLimit ∧ settings.logPath? = none ∧
    settings.logsNetwork = false := by
  obtain ⟨document, read, told⟩ := document_read path file
  have noPath : said document "logging" "path" = "" :=
    said_of_other_name told .logging "path" fun key => by cases key <;> decide
  have silent : said document "logging" "log_network" = "false" :=
    said_of_other_name told .logging "log_network" fun key => by cases key <;> decide
  have timeout : said document "service" "timeout_seconds" = "10.0" :=
    said_of_other_name told .service "timeout_seconds" fun key => by cases key <;> decide
  have loaded : load homes path (some file.octets) = .ok (unlogged path document) := by
    rw [load, read]
    exact settings_unlogged homes path noPath silent
  refine ⟨_, loaded, ?_, ?_, ?_, rfl, rfl⟩
  · intro key value assigned
    have said := said_of_entry told assigned
    rw [value_of_said path said (trimmed_twice value), kept_of_trimmed]
  · intro key unassigned
    have own : key.place.1 ≠ Ini.Document.sharedName := by cases key <;> decide
    have unsaid : said document key.topic.name key.name = said defaults key.topic.name key.name :=
      said_of_others told own fun other value member same =>
        unassigned value (Key.place_distinct same ▸ member)
    obtain ⟨bare, usual⟩ := usual_kept key
    rw [value_of_said path unsaid bare, usual]
  · simp only [unlogged, timeout]
    decide +kernel

-- Values of all that means something to the reader of a file elsewhere.
def markedFile : WrittenFile where
  lines := [.heading .encoding, .entry .charset " \t", .blank, .heading .rabbit, .entry .voice "",
    .entry .token "[50%%] = %(mac)s ; # : ", .entry .mac "# 0013\x0c d3\x0b", .heading .logging]
  single := by
    have all : ([" \t", "", "[50%%] = %(mac)s ; # : ", "# 0013\x0c d3\x0b"].all fun value =>
        value.toList.all fun c => c ≠ '\r' && c ≠ '\n') = true := by decide
    intro key value member
    have listed : value ∈ [" \t", "", "[50%%] = %(mac)s ; # : ", "# 0013\x0c d3\x0b"] := by
      simp at member ⊢
      rcases member with ⟨-, rfl⟩ | ⟨-, rfl⟩ | ⟨-, rfl⟩ | ⟨-, rfl⟩ <;> simp
    simpa using List.all_eq_true.mp all value listed
  placed := by decide
  topics_once := by decide
  keys_once := by decide

theorem written_values_kept_of_marks : ∃ settings,
    load ⟨"/home/rabbit", []⟩ (Path.ofText "nabaztag.cfg") (some markedFile.octets) =
      .ok settings ∧
    settings.identity.token = "[50%%] = %(mac)s ; # :" ∧
    settings.identity.mac = "# 0013\x0c d3" ∧ settings.identity.voice? = none ∧
    settings.charset = "utf-8" ∧ settings.level = "INFO" ∧
    settings.address = "http://www.nabaztag.com/vl/FR/api.jsp?" := by
  obtain ⟨settings, loaded, kept, usual, _⟩ :=
    written_values_kept ⟨"/home/rabbit", []⟩ (Path.ofText "nabaztag.cfg") markedFile
  have token := kept .token "[50%%] = %(mac)s ; # : " (by decide)
  have mac := kept .mac "# 0013\x0c d3\x0b" (by decide)
  have voice := kept .voice "" (by decide)
  have charset := kept .charset " \t" (by decide)
  have level := usual .level (by simp [markedFile])
  have address := usual .address (by simp [markedFile])
  refine ⟨settings, loaded, Option.some.inj token, Option.some.inj mac, voice, ?_, ?_, ?_⟩
  · exact Option.some.inj charset
  · exact Option.some.inj level
  · exact Option.some.inj address

end RabbitRemote.Settings
