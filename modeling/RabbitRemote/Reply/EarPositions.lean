import RabbitRemote.Failure

namespace RabbitRemote

-- Either both ears are known or neither is.
inductive EarPositions where
  | unknown
  | known (left right : Int)
deriving DecidableEq, Repr

namespace EarPositions

def left? : EarPositions → Option Int
  | .unknown => none
  | .known left _ => some left

def right? : EarPositions → Option Int
  | .unknown => none
  | .known _ right => some right

def isKnown : EarPositions → Bool
  | .unknown => false
  | .known .. => true

end EarPositions

namespace Reply

def phrases : Side → List String
  | .left => ["Position gauche = ", "Left position = "]
  | .right => ["Position droite = ", "Right position = "]

def after? (phrase text : List Char) : Option (List Char) :=
  if phrase.isPrefixOf text then some (text.drop phrase.length) else none

def leadingFigures : List Char → List Nat
  | [] => []
  | c :: rest =>
    match Text.digit? c with
    | some figure => figure :: leadingFigures rest
    | none => []

-- A position is written as a minus sign, if it is negative, and all the digits that follow.
def positionHere? (text : List Char) : Option (Bool × List Nat) :=
  let (negative, unsigned) := match text with
    | '-' :: rest => (true, rest)
    | rest => (false, rest)
  match leadingFigures unsigned with
  | [] => none
  | figures => some (negative, figures)

def firstPosition? (phrases : List (List Char)) : List Char → Option (Bool × List Nat)
  | [] => none
  | c :: rest =>
    match phrases.findSome? fun phrase => (after? phrase (c :: rest)).bind positionHere? with
    | some position => some position
    | none => firstPosition? phrases rest

def positionOf (side : Side) (text : List Char) : Except Failure (Option Int) :=
  match firstPosition? ((phrases side).map String.toList) text with
  | none => .ok none
  | some (negative, figures) =>
    if Number.figureLimit < figures.length then .error (.literalTooLong figures.length)
    else
      let value : Int := Number.ofFigures figures
      .ok (some (if negative then -value else value))

def earPositions (text : List Char) : Except Failure EarPositions := do
  let left? ← positionOf .left text
  let right? ← positionOf .right text
  match left?, right? with
  | some left, some right => return .known left right
  | _, _ => return .unknown

end Reply
end RabbitRemote
