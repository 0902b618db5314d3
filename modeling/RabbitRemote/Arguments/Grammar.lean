namespace RabbitRemote.Arguments

inductive Verb where
  | say
  | bark
  | ears
  | earPositions
  | voices
  | showConfig
deriving DecidableEq, Repr

inductive Switch where
  | help
  | config
  | left
  | right
deriving DecidableEq, Repr

inductive Stage where
  | main
  | verb (verb : Verb)
deriving DecidableEq, Repr

namespace Verb

def all : List Verb := [.say, .bark, .ears, .earPositions, .voices, .showConfig]

def name : Verb → String
  | .say => "say"
  | .bark => "bark"
  | .ears => "ears"
  | .earPositions => "ear-positions"
  | .voices => "voices"
  | .showConfig => "show-config"

def ofName? (name : String) : Option Verb := all.find? fun verb => verb.name == name

end Verb

namespace Switch

def spellings : Switch → List String
  | .help => ["-h", "--help"]
  | .config => ["-c", "--config"]
  | .left => ["--left"]
  | .right => ["--right"]

def takesValue : Switch → Bool
  | .help => false
  | _ => true

def title (switch : Switch) : String := "/".intercalate switch.spellings

end Switch

namespace Stage

def switches : Stage → List Switch
  | .main => [.help, .config]
  | .verb .ears => [.help, .left, .right]
  | .verb _ => [.help]

def spellings (stage : Stage) : List (String × Switch) :=
  stage.switches.flatMap fun switch => switch.spellings.map (·, switch)

def switch? (stage : Stage) (spelling : String) : Option Switch :=
  (stage.spellings.find? fun entry => entry.1 == spelling).map (·.2)

end Stage
end RabbitRemote.Arguments
