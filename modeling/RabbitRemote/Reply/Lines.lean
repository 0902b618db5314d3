import RabbitRemote.Text.Blank
import RabbitRemote.Text.Cut

namespace RabbitRemote.Reply

-- The run of blank characters that has just been passed: none, a single one, or a wide gap.
inductive Gap where
  | none
  | single (blank : Char)
  | wide
deriving DecidableEq, Repr

def Gap.text : Gap → List Char
  | .none => []
  | .single blank => [blank]
  | .wide => ['\n']

def Gap.extend (gap : Gap) (blank : Char) : Gap :=
  match gap with
  | .none => .single blank
  | _ => .wide

def closeGaps (gap : Gap) : List Char → List Char
  | [] => gap.text
  | c :: rest =>
    if Text.isBlank c then closeGaps (gap.extend c) rest
    else gap.text ++ c :: closeGaps .none rest

-- Fields of a reply are padded with blanks: every run of two or more becomes one line feed, and a
-- single blank stays as it is.
def normalise (text : List Char) : List Char := closeGaps .none text

def normalised (text : String) : String := String.ofList (normalise text.toList)

def lines (text : List Char) : List (List Char) :=
  (Text.cut '\n' (normalise text)).filter fun line => !line.isEmpty

end RabbitRemote.Reply
