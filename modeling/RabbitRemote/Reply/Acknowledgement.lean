import RabbitRemote.Failure
import RabbitRemote.Text.Cut

namespace RabbitRemote.Reply

inductive Command where
  | say
  | leftEar
  | rightEar
  | choreography
deriving DecidableEq, Repr

namespace Command

def all : List Command := [.say, .leftEar, .rightEar, .choreography]

def name : Command → String
  | .say => "say"
  | .leftEar => "left_ear"
  | .rightEar => "right_ear"
  | .choreography => "choreography"

def ofName? (name : String) : Option Command := all.find? fun command => command.name == name

def named (given : Value) : Except Failure Command :=
  let command? := match given with
    | .text name => ofName? name
    | _ => none
  match command? with
  | some command => .ok command
  | none => .error ((Failure.unknownCommand given).showing given)

def label : Command → String
  | .say => "Speech"
  | .leftEar => "Left ear"
  | .rightEar => "Right ear"
  | .choreography => "Choreography"

-- The service answers in French or in English, as the rabbit is set up.
def wordings : Command → List String
  | .say => ["Votre texte a bien été transmis", "Your text was forwarded"]
  | .leftEar => ["Votre changement d\x27oreilles gauche a été transmis",
      "Your left change of ears was transmitted"]
  | .rightEar => ["Votre changement d\x27oreilles droit a été transmis",
      "Your right change of ears was transmitted"]
  | .choreography => ["Votre chorégraphie a bien été transmis",
      "Your choreography was forwarded"]

def acknowledgedIn (command : Command) (reply : String) : Bool :=
  command.wordings.any fun wording => Text.occurs wording.toList reply.toList

end Command
end RabbitRemote.Reply
