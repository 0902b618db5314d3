import RabbitRemote.Number.Binary64
import RabbitRemote.Number.IntegerLiteral

namespace RabbitRemote.Number

def plainFigure (c : Char) : Char :=
  match Text.digit? c with
  | some figure => Nat.digitChar figure
  | none => c

-- An underscore is dropped if figures stand on both sides of it, and spoils the number otherwise.
def dropUnderscores (afterFigure : Bool) : List Char → Option (List Char)
  | [] => some []
  | '_' :: c :: rest =>
    if afterFigure && c.isDigit then (dropUnderscores true rest).map (c :: ·) else none
  | '_' :: [] => none
  | c :: rest => (dropUnderscores c.isDigit rest).map (c :: ·)

def figureValues (figures : List Char) : List Nat := figures.map fun c => c.toNat - '0'.toNat

-- `none` if there is no exponent; an `e` without figures behind it is not one.
def readExponent? : List Char → Option Int
  | c :: rest =>
    if c = 'e' || c = 'E' then
      let (negative, figures) := readSign rest
      if figures.isEmpty || !figures.all Char.isDigit then none
      else some (Binary64.signed negative (ofFigures (figureValues figures)))
    else none
  | [] => none

-- Figures with a point before, among or behind them, then perhaps an exponent.
def readUnsignedReal? (negative : Bool) (text : List Char) : Option Binary64 :=
  let whole := text.takeWhile Char.isDigit
  let rest := text.dropWhile Char.isDigit
  let (part, rest) := match rest with
    | '.' :: rest => (rest.takeWhile Char.isDigit, rest.dropWhile Char.isDigit)
    | rest => ([], rest)
  if whole.isEmpty && part.isEmpty then none
  else
    let significand := ofFigures (figureValues (whole ++ part))
    match rest with
    | [] => some (.ofScientific negative significand (-(part.length : Int)))
    | rest => (readExponent? rest).map fun exponent =>
        .ofScientific negative significand (exponent - part.length)

def readReal? (text : List Char) : Option Binary64 :=
  let body := ((text.dropWhile isMargin).reverse.dropWhile isMargin).reverse
  match dropUnderscores false (body.map plainFigure) with
  | none => none
  | some plain =>
    let (negative, unsigned) := readSign plain
    let word := String.ofList (unsigned.map Char.toLower)
    if word = "nan" then some .nan
    else if word = "inf" || word = "infinity" then some (.infinite negative)
    else readUnsignedReal? negative unsigned

end RabbitRemote.Number
