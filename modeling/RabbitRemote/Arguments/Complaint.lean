import RabbitRemote.Arguments.Grammar
import RabbitRemote.Value

namespace RabbitRemote.Arguments

inductive Complaint where
  | ambiguous (given : String) (spellings : List String)
  | valueMissing (switch : Switch)
  | valueIgnored (switch : Switch) (value : String)
  | notAnInteger (switch : Switch) (value : String)
  | unknownVerb (given : String)
  | operandMissing (name : String)
  | unrecognized (arguments : List String)
deriving DecidableEq, Repr

inductive Ending where
  | help (stage : Stage)
  | misuse (stage : Stage) (complaint : Complaint)
deriving DecidableEq, Repr

namespace Complaint

def about (name text : String) : String := "argument " ++ name ++ ": " ++ text

def message : Complaint → String
  | .ambiguous given spellings =>
    "ambiguous option: " ++ given ++ " could match " ++ Value.commaSeparated spellings
  | .valueMissing switch => about switch.title "expected one argument"
  | .valueIgnored switch value =>
    about switch.title ("ignored explicit argument " ++ Text.quoted value)
  | .notAnInteger switch value =>
    about switch.title ("invalid int value: " ++ Text.quoted value)
  | .unknownVerb given =>
    let choices := Verb.all.map fun verb => Text.quoted verb.name
    about "command" ("invalid choice: " ++ Text.quoted given ++
      " (choose from " ++ Value.commaSeparated choices ++ ")")
  | .operandMissing name => "the following arguments are required: " ++ name
  | .unrecognized arguments => "unrecognized arguments: " ++ " ".intercalate arguments

end Complaint
end RabbitRemote.Arguments
