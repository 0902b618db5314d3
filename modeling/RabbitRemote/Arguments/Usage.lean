import RabbitRemote.Arguments.Complaint

namespace RabbitRemote.Arguments

def programName : String := "nabaztag"

namespace Stage

def program : Stage → String
  | .main => programName
  | .verb chosen => programName ++ " " ++ chosen.name

def verbList : String := "\x7b" ++ ",".intercalate (Verb.all.map Verb.name) ++ "\x7d"

def synopsis : Stage → String
  | .main => "[-h] [-c CONFIG]\n                " ++ verbList ++ " ..."
  | .verb .say => "[-h] text"
  | .verb .ears => "[-h] [--left LEFT] [--right RIGHT]"
  | .verb _ => "[-h]"

def usage (stage : Stage) : String := "usage: " ++ stage.program ++ " " ++ stage.synopsis ++ "\n"

def fill (width : Nat) (line : String) : List String → List String
  | [] => [line]
  | word :: words =>
    if line.isEmpty then fill width word words
    else if line.length + 1 + word.length ≤ width then fill width (line ++ " " ++ word) words
    else line :: fill width word words

def explanationWidth : Nat := 54
def explanationMargin : String := "\n                        "

def configExplanation (defaultPath : String) : String :=
  explanationMargin.intercalate (fill explanationWidth ""
    ["Path", "to", "configuration", "file", "(default:", defaultPath ++ ")"])

def mainDetails (defaultPath : String) : String :=
  "Send commands to a Nabaztag rabbit\n\n" ++
  "positional arguments:\n  " ++ verbList ++ "\n" ++
  "    say                 Make the rabbit speak\n" ++
  "    bark                Make the rabbit bark\n" ++
  "    ears                Move the ears (0-16)\n" ++
  "    ear-positions       Print the current ear positions\n" ++
  "    voices              List the known voices\n" ++
  "    show-config         Print the resolved configuration and exit\n\n" ++
  "options:\n" ++
  "  -h, --help            show this help message and exit\n" ++
  "  -c CONFIG, --config CONFIG" ++ explanationMargin ++ configExplanation defaultPath ++ "\n"

def details (defaultPath : String) : Stage → String
  | .main => mainDetails defaultPath
  | .verb .say =>
    "positional arguments:\n  text        Text to speak\n\n" ++
    "options:\n  -h, --help  show this help message and exit\n"
  | .verb .ears =>
    "options:\n  -h, --help     show this help message and exit\n  --left LEFT\n  --right RIGHT\n"
  | .verb _ => "options:\n  -h, --help  show this help message and exit\n"

def helpText (stage : Stage) (defaultPath : String) : String :=
  stage.usage ++ "\n" ++ stage.details defaultPath

def misuseText (stage : Stage) (complaint : Complaint) : String :=
  stage.usage ++ stage.program ++ ": error: " ++ complaint.message ++ "\n"

end Stage
end RabbitRemote.Arguments
