import RabbitRemote.Arguments.Grammar
import RabbitRemote.Text.Cut
import RabbitRemote.Text.Digit

namespace RabbitRemote.Arguments

-- An argument by its looks. A value may be attached to a switch, behind an equals sign or directly
-- behind its letter. A stranger looks like a switch, but the stage has none of that name.
inductive Token where
  | operand (text : String)
  | divider
  | known (raw spelling : String) (switch : Switch) (attached? : Option String)
  | stranger (raw : String)
deriving DecidableEq, Repr

namespace Token

def dividerText : String := "--"

def raw : Token → String
  | .operand text => text
  | .divider => dividerText
  | .known raw .. => raw
  | .stranger raw => raw

-- A minus sign and figures, with at most one point and a figure behind it. A line feed at the end
-- does no harm.
def isNegativeNumber : List Char → Bool
  | '-' :: rest =>
    let figures := if rest.getLast? = some '\n' then rest.dropLast else rest
    match figures.dropWhile Text.isDigit with
    | [] => !figures.isEmpty
    | '.' :: part => !part.isEmpty && part.all Text.isDigit
    | _ => false
  | _ => false

-- The spellings that an argument with two dashes may begin; an equals sign ends what is compared.
def longCandidates (stage : Stage) (arg : List Char) : List (String × Token) :=
  let (name, value?) := Text.cutOnce '=' arg
  (stage.spellings.filter fun entry => name.isPrefixOf entry.1.toList).map fun (spelling, switch) =>
    (spelling, .known (String.ofList arg) spelling switch (value?.map String.ofList))

-- With one dash only the first letter names a switch, and the rest is attached to it.
def shortCandidates (stage : Stage) (arg : List Char) : List (String × Token) :=
  let spelling := String.ofList (arg.take 2)
  match stage.switch? spelling with
  | some switch =>
    [(spelling, .known (String.ofList arg) spelling switch (some (String.ofList (arg.drop 2))))]
  | none => []

def candidates (stage : Stage) (arg : List Char) : List (String × Token) :=
  if arg.take 2 = ['-', '-'] then longCandidates stage arg else shortCandidates stage arg

def unnamed (arg : List Char) : Token :=
  if isNegativeNumber arg || arg.contains ' ' then .operand (String.ofList arg)
  else .stranger (String.ofList arg)

def spelledOut? (stage : Stage) (arg : List Char) : Option Token :=
  let raw := String.ofList arg
  match stage.switch? raw with
  | some switch => some (.known raw raw switch none)
  | none =>
    match Text.cutOnce '=' arg with
    | (name, some value) =>
      let spelling := String.ofList name
      (stage.switch? spelling).map fun switch =>
        .known raw spelling switch (some (String.ofList value))
    | _ => none

-- Reads one argument; several spellings that it may begin are returned instead.
def of (stage : Stage) (arg : String) : Except (List String) Token :=
  match arg.toList with
  | '-' :: c :: rest =>
    let letters := '-' :: c :: rest
    match spelledOut? stage letters with
    | some token => .ok token
    | none =>
      match candidates stage letters with
      | [] => .ok (unnamed letters)
      | [(_, token)] => .ok token
      | several => .error (several.map (·.1))
  | _ => .ok (.operand arg)

end Token
end RabbitRemote.Arguments
