import RabbitRemote.Number.Binary64
import RabbitRemote.Number.Decimal

namespace RabbitRemote.Number

-- The values that round to one number, over a common denominator. The two ends belong to it iff the
-- mantissa is even.
structure RoundingInterval where
  low : Nat
  value : Nat
  high : Nat
  denominator : Nat
  closed : Bool

namespace RoundingInterval

-- Below a power of two the neighbour is only half as far away.
def of (mantissa shift : Nat) : RoundingInterval :=
  let step := Nat.pow 2 shift
  let below := if mantissa = Nat.pow 2 52 && shift ≠ 0 then step else 2 * step
  { low := 4 * mantissa * step - below
    value := 4 * mantissa * step
    high := 4 * mantissa * step + 2 * step
    denominator := 4 * Binary64.unit
    closed := mantissa % 2 == 0 }

-- The place of the point: the value is at least `10 ^ (point - 1)` and less than `10 ^ point`.
def point (interval : RoundingInterval) : Int :=
  if interval.denominator ≤ interval.value then
    (Nat.toDigits 10 (interval.value / interval.denominator)).length
  else
    let inverse := interval.denominator / interval.value
    let places := (Nat.toDigits 10 inverse).length
    if interval.value * Nat.pow 10 (places - 1) = interval.denominator then 2 - (places : Int)
    else 1 - (places : Int)

-- The better of the value's two neighbours on the grid of `figures` decimal figures, if it rounds to
-- the number. A tie goes to the even one.
def onGrid? (interval : RoundingInterval) (figures : Nat) : Option Nat :=
  let place := interval.point - figures
  let up := Nat.pow 10 (-place).toNat
  let step := interval.denominator * Nat.pow 10 place.toNat
  let inside (candidate : Nat) : Bool :=
    let product := candidate * step
    if interval.closed then interval.low * up ≤ product && product ≤ interval.high * up
    else interval.low * up < product && product < interval.high * up
  let value := interval.value * up
  let lower := value / step
  let toLower := value - lower * step
  let toUpper := (lower + 1) * step - value
  match inside lower, inside (lower + 1) with
  | false, false => none
  | true, false => some lower
  | false, true => some (lower + 1)
  | true, true =>
    if toLower < toUpper || (toLower == toUpper && lower % 2 == 0) then some lower
    else some (lower + 1)

def shortest (interval : RoundingInterval) : Nat × Nat :=
  ((List.range 17).findSome? fun n => (interval.onGrid? (n + 1)).map (n + 1, ·)).getD (17, 0)

end RoundingInterval

def trimZeros (figures : List Char) : List Char := (figures.reverse.dropWhile (· == '0')).reverse

-- Positional notation holds for points from -3 to 16; outside it the exponent has a sign and at
-- least two figures.
def layOut (figures : List Char) (point : Int) : List Char :=
  if -4 < point && point ≤ 16 then
    if point ≤ 0 then '0' :: '.' :: (List.replicate (-point).toNat '0' ++ figures)
    else
      let whole := point.toNat
      if figures.length ≤ whole then
        figures ++ List.replicate (whole - figures.length) '0' ++ ['.', '0']
      else figures.take whole ++ '.' :: figures.drop whole
  else
    let exponent := point - 1
    let power := Nat.toDigits 10 exponent.natAbs
    let power := if power.length < 2 then '0' :: power else power
    let significand := match figures with
      | first :: second :: more => first :: '.' :: second :: more
      | few => few
    significand ++ 'e' :: (if exponent < 0 then '-' else '+') :: power

namespace Binary64

def text : Binary64 → String
  | .nan => "nan"
  | .infinite negative => if negative then "-inf" else "inf"
  | .finite negative mantissa shift =>
    let magnitude :=
      if mantissa = 0 then ['0', '.', '0']
      else
        let interval := RoundingInterval.of mantissa shift
        let (count, significand) := interval.shortest
        let figures := Nat.toDigits 10 significand
        layOut (trimZeros figures) (interval.point + (figures.length - count : Int))
    String.ofList (if negative then '-' :: magnitude else magnitude)

def tenths : Binary64 → String
  | .nan => "nan"
  | .infinite negative => if negative then "-inf" else "inf"
  | .finite negative mantissa shift =>
    let n := divideToNearest (10 * units mantissa shift) unit
    (if negative then "-" else "") ++ decimalText (n / 10 : Nat) ++ "." ++ decimalText (n % 10 : Nat)

end Binary64
end RabbitRemote.Number
