import RabbitRemote.Number.Decimal
import RabbitRemote.Text.Blank
import RabbitRemote.Text.Digit

namespace RabbitRemote.Number

inductive LiteralFault where
  | notALiteral
  | tooLong (figures : Nat)
deriving DecidableEq, Repr

def isMargin (c : Char) : Bool := Text.isBlank c && !(0x1C ≤ c.toNat && c.toNat ≤ 0x1F)

def readSign : List Char → Bool × List Char
  | '-' :: rest => (true, rest)
  | '+' :: rest => (false, rest)
  | rest => (false, rest)

-- Further figures, each after at most one underscore. An underscore that no figure follows spoils
-- the whole number.
def moreFigures : List Char → Option (List Nat × List Char)
  | [] => some ([], [])
  | '_' :: c :: rest =>
    match Text.digit? c with
    | some figure => (moreFigures rest).map fun (figures, tail) => (figure :: figures, tail)
    | none => none
  | '_' :: [] => none
  | c :: rest =>
    match Text.digit? c with
    | some figure => (moreFigures rest).map fun (figures, tail) => (figure :: figures, tail)
    | none => some ([], c :: rest)

def readFigures : List Char → Option (List Nat × List Char)
  | [] => none
  | c :: rest =>
    match Text.digit? c with
    | some figure => (moreFigures rest).map fun (figures, tail) => (figure :: figures, tail)
    | none => none

def ofFigures (figures : List Nat) : Nat := figures.foldl (fun value figure => 10 * value + figure) 0

-- Reads a decimal integer: white space, a sign, figures of any script, white space. The length of
-- the number is judged before what stands behind it.
def readInteger (text : List Char) : Except LiteralFault Int :=
  let (negative, unsigned) := readSign (text.dropWhile isMargin)
  match readFigures unsigned with
  | none => .error .notALiteral
  | some (figures, tail) =>
    if figureLimit < figures.length then .error (.tooLong figures.length)
    else if tail.all isMargin then
      let value : Int := ofFigures figures
      .ok (if negative then -value else value)
    else .error .notALiteral

end RabbitRemote.Number
