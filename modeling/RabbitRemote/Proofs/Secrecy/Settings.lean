import Mathlib.Data.List.Forall2
import RabbitRemote.Proofs.Ini.Items
import RabbitRemote.Proofs.Secrecy.Requests
import RabbitRemote.Setup

namespace RabbitRemote

-- A value that is the same, or the value of a token where there is another one.
def SameOrToken (option value counterpart : String) : Prop :=
  value = counterpart ∨ option = "token" ∧ value ≠ "" ∧ counterpart ≠ ""

def ItemsAlike (items counterparts : Ini.Options) : Prop :=
  List.Forall₂ (fun item counterpart => item.1 = counterpart.1 ∧
    SameOrToken item.1 item.2 counterpart.2) items counterparts

instance (option value counterpart : String) : Decidable (SameOrToken option value counterpart) :=
  inferInstanceAs (Decidable (_ ∨ _))

instance (items counterparts : Ini.Options) : Decidable (ItemsAlike items counterparts) :=
  inferInstanceAs (Decidable (List.Forall₂ _ _ _))

-- Documents that show the same sections and items but for the values of tokens.
structure Ini.Document.Alike (one other : Ini.Document) : Prop where
  sections : one.sectionNames = other.sectionNames
  items : ∀ name ∈ one.sectionNames, ItemsAlike (one.items name) (other.items name)

theorem items_alike_refl (items : Ini.Options) : ItemsAlike items items :=
  List.forall₂_same.mpr fun _ _ => ⟨rfl, .inl rfl⟩

theorem get_alike {items counterparts : Ini.Options} (alike : ItemsAlike items counterparts)
    (option : String) : SameOrToken option ((Ledger.get? items option).getD "")
      ((Ledger.get? counterparts option).getD "") := by
  induction alike with
  | nil => exact .inl rfl
  | cons same _ ih =>
    obtain ⟨named, values⟩ := same
    rw [Ledger.get?, Ledger.get?, ← named]
    split
    · rename_i here
      rw [here] at values
      exact values
    · exact ih

namespace Settings

-- What is known of a document that was read over the defaults.
structure OverDefaults (document : Ini.Document) : Prop where
  sections : ∀ name ∈ defaults.sectionNames, name ∈ document.sectionNames
  values : ∀ name option, said document name option ≠ "" →
    Text.trimmed (said document name option) ≠ ""

theorem over_defaults {source : String} {octets : List UInt8} {document : Ini.Document}
    (read : defaults.read source octets = .ok document) : OverDefaults document := by
  constructor
  · intro name known
    exact Ini.Document.section_stays read known
  · intro name option given
    unfold said at given ⊢
    rw [← Ini.Document.get_among_items] at given ⊢
    cases found : Ledger.get? (document.items name) option with
    | none =>
      rw [found] at given
      exact absurd rfl given
    | some value =>
      rw [found, Option.getD_some] at given
      rw [Option.getD_some]
      have listed : (option, value) ∈ document.items name := Ledger.entry_of_get found
      exact Ini.Document.value_not_blank read listed given

-- Settings that only the token tells apart. Where one of them has none, neither has the other.
structure Alike (one other : Settings) : Prop where
  mac : one.identity.mac = other.identity.mac
  token : one.identity.token = "" ↔ other.identity.token = ""
  voice : one.identity.voice? = other.identity.voice?
  address : one.address = other.address
  limit : one.limit = other.limit
  charset : one.charset = other.charset
  level : one.level = other.level
  logPath : one.logPath? = other.logPath?
  logsNetwork : one.logsNetwork = other.logsNetwork
  document : one.document.Alike other.document
  path : one.path = other.path

-- Two attempts that fail for the same cause, or find settings that are alike.
inductive BothAlike : Except Failure Settings → Except Failure Settings → Prop where
  | failed (failure : Failure) : BothAlike (.error failure) (.error failure)
  | found {one other : Settings} (alike : one.Alike other) : BothAlike (.ok one) (.ok other)

section
variable {one other : Ini.Document} (alike : one.Alike other) (read : OverDefaults one)
include alike read

theorem said_alike {name : String} (known : name ∈ defaults.sectionNames) (option : String) :
    SameOrToken option (said one name option) (said other name option) := by
  unfold said
  rw [← Ini.Document.get_among_items, ← Ini.Document.get_among_items]
  exact get_alike (alike.items name (read.sections name known)) option

theorem said_same {name : String} (known : name ∈ defaults.sectionNames) {option : String}
    (differs : option ≠ "token") : said one name option = said other name option := by
  rcases said_alike alike read known option with same | ⟨named, _⟩
  · exact same
  · exact absurd named differs

theorem token_missing_alike (readToo : OverDefaults other) :
    Text.trimmed (said one "nabaztag" "token") = "" ↔
      Text.trimmed (said other "nabaztag" "token") = "" := by
  rcases said_alike alike read (by decide : "nabaztag" ∈ defaults.sectionNames) "token" with
    same | ⟨_, given, givenToo⟩
  · rw [same]
  · constructor
    · intro missing
      exact absurd missing (read.values _ _ given)
    · intro missing
      exact absurd missing (readToo.values _ _ givenToo)

theorem identity_alike (readToo : OverDefaults other) :
    (identityOf one).mac = (identityOf other).mac ∧
    ((identityOf one).token = "" ↔ (identityOf other).token = "") ∧
    (identityOf one).voice? = (identityOf other).voice? := by
  have known : "nabaztag" ∈ defaults.sectionNames := by decide
  have mac := said_same alike read known (by decide : "mac" ≠ "token")
  have voice := said_same alike read known (by decide : "voice" ≠ "token")
  rw [identityOf, identityOf, mac, voice]
  exact ⟨rfl, token_missing_alike alike read readToo, rfl⟩

theorem charset_alike : charsetOf one = charsetOf other := by
  rw [charsetOf, charsetOf, said_same alike read (by decide) (by decide)]

theorem log_path_alike (homes : Homes) : logPathOf homes one = logPathOf homes other := by
  rw [logPathOf, logPathOf, said_same alike read (by decide) (by decide)]

theorem of_document_alike (readToo : OverDefaults other) (homes : Homes) (path : Path) :
    BothAlike (ofDocument homes path one) (ofDocument homes path other) := by
  have service : "service" ∈ defaults.sectionNames := by decide
  have logging : "logging" ∈ defaults.sectionNames := by decide
  have address := said_same alike read service (by decide : "api_uri" ≠ "token")
  have limit := said_same alike read service (by decide : "timeout_seconds" ≠ "token")
  have level := said_same alike read logging (by decide : "level" ≠ "token")
  have logsNetwork := said_same alike read logging (by decide : "log_network" ≠ "token")
  obtain ⟨mac, token, voice⟩ := identity_alike alike read readToo
  rw [ofDocument, ofDocument, log_path_alike alike read homes, charset_alike alike read,
    address, limit, level, logsNetwork]
  cases logPathOf homes other with
  | error failure => exact .failed failure
  | ok logPath? =>
    cases truthOf (said other "logging" "log_network") with
    | error failure => exact .failed failure
    | ok logsNetwork =>
      exact .found ⟨mac, token, voice, rfl, rfl, rfl, rfl, rfl, rfl, alike, rfl⟩

end

theorem both_alike_refl (attempt : Except Failure Settings) : BothAlike attempt attempt := by
  cases attempt with
  | error failure => exact .failed failure
  | ok settings =>
    have document : settings.document.Alike settings.document :=
      ⟨rfl, fun _ _ => items_alike_refl _⟩
    exact .found ⟨rfl, Iff.rfl, rfl, rfl, rfl, rfl, rfl, rfl, rfl, document, rfl⟩

-- What stands at a path on two occasions: the same, or two files that are read as documents which
-- only the values of tokens tell apart.
inductive FilesAlike (path : Path) : Option (List UInt8) → Option (List UInt8) → Prop where
  | same (file? : Option (List UInt8)) : FilesAlike path file? file?
  | read {octets others : List UInt8} {document counterpart : Ini.Document}
      (read : defaults.read path.shown octets = .ok document)
      (readToo : defaults.read path.shown others = .ok counterpart)
      (alike : document.Alike counterpart) : FilesAlike path (some octets) (some others)

theorem load_alike {path : Path} {file? other? : Option (List UInt8)}
    (files : FilesAlike path file? other?) (homes : Homes) :
    BothAlike (load homes path file?) (load homes path other?) := by
  cases files with
  | same => exact both_alike_refl _
  | read read readToo alike =>
    rw [load, load, read, readToo]
    exact of_document_alike alike (over_defaults read) (over_defaults readToo) homes path

section
variable {one other : Settings} (alike : one.Alike other)
include alike

theorem check_credentials_alike : one.checkCredentials = other.checkCredentials := by
  have missing : one.identity.token.isEmpty = other.identity.token.isEmpty := by
    rw [Bool.eq_iff_iff, String.isEmpty_iff, String.isEmpty_iff]
    exact alike.token
  rw [checkCredentials, checkCredentials, missing, alike.mac, alike.path]

theorem rabbit_alike (codecs : Charset.Registry) : other.rabbit codecs =
    (one.rabbit codecs).map fun rabbit => rabbit.withToken other.identity.token := by
  have identity :
      other.identity = ⟨one.identity.mac, other.identity.token, one.identity.voice?⟩ := by
    rw [alike.mac, alike.voice]
  rw [Settings.rabbit, Settings.rabbit, check_credentials_alike alike, alike.charset, alike.address]
  cases other.checkCredentials with
  | error failure => rfl
  | ok =>
    cases Codec.named codecs other.charset with
    | error failure => rfl
    | ok codec =>
      exact congrArg (fun identity => Except.ok (Rabbit.new identity codec other.address)) identity

end

end Settings
end RabbitRemote
