import RabbitRemote.Value

namespace RabbitRemote.Batch

inductive Field where
  | messageId
  | rightEar
  | leftEar
  | application
  | speech
  | choreography
  | choreographyTitle
  | broadcast
  | earQuery
deriving DecidableEq, Repr

namespace Field

def all : List Field :=
  [.messageId, .rightEar, .leftEar, .application, .speech, .choreography, .choreographyTitle,
    .broadcast, .earQuery]

def name : Field → String
  | .messageId => "idmessage"
  | .rightEar => "posright"
  | .leftEar => "posleft"
  | .application => "idapp"
  | .speech => "tts"
  | .choreography => "chor"
  | .choreographyTitle => "chortitle"
  | .broadcast => "nabcast"
  | .earQuery => "ears"

def named? : Value → Option Field
  | .text name => all.find? fun field => field.name == name
  | _ => none

theorem all_complete (field : Field) : field ∈ all := by cases field <;> decide

theorem field_of_own_name (field : Field) : named? (.text field.name) = some field := by
  cases field <;> rfl

theorem own_name_distinct {field other : Field} (same : field.name = other.name) :
    field = other := by
  have found := field_of_own_name field
  rw [same, field_of_own_name other] at found
  exact (Option.some.inj found).symm

end Field
end RabbitRemote.Batch
