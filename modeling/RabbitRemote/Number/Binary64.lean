namespace RabbitRemote.Number

-- A binary64 number. The finite ones are `mantissa * 2 ^ (shift - 1074)`, with a mantissa below
-- `2 ^ 53` and, unless the shift is zero, not below `2 ^ 52`.
inductive Binary64 where
  | nan
  | infinite (negative : Bool)
  | finite (negative : Bool) (mantissa shift : Nat)
deriving DecidableEq, Repr

namespace Binary64

-- Numbers are compared and rounded as whole multiples of the least positive one.
def unit : Nat := Nat.pow 2 1074

-- The nearest whole number to a quotient, a tie going to the even one.
def divideToNearest (num den : Nat) : Nat :=
  let whole := num / den
  let rest := num % den
  if den < 2 * rest || (2 * rest == den && whole % 2 == 1) then whole + 1 else whole

-- The number nearest to a quotient; what is half a step beyond the greatest is infinite.
def ofRatio (negative : Bool) (num den : Nat) : Binary64 :=
  let scaled := num * unit
  let whole := scaled / den
  let shift := if whole < Nat.pow 2 53 then 0 else whole.log2 - 52
  let mantissa := divideToNearest scaled (den * Nat.pow 2 shift)
  let (mantissa, shift) :=
    if mantissa = Nat.pow 2 53 then (Nat.pow 2 52, shift + 1) else (mantissa, shift)
  if 2045 < shift then .infinite negative else .finite negative mantissa shift

-- The number nearest to `significand * 10 ^ exponent`. Exponents that decide the matter by
-- themselves are not computed with.
def ofScientific (negative : Bool) (significand : Nat) (exponent : Int) : Binary64 :=
  if significand = 0 then .finite negative 0 0
  else
    let magnitude : Int := (Nat.toDigits 10 significand).length + exponent
    if 310 < magnitude then .infinite negative
    else if magnitude < -330 then .finite negative 0 0
    else if 0 ≤ exponent then ofRatio negative (significand * Nat.pow 10 exponent.toNat) 1
    else ofRatio negative significand (Nat.pow 10 (-exponent).toNat)

def units (mantissa shift : Nat) : Nat := mantissa * Nat.pow 2 shift

def signed (negative : Bool) (n : Nat) : Int := if negative then -(n : Int) else n

def truncate? : Binary64 → Option Int
  | .finite negative mantissa shift => some (signed negative (units mantissa shift / unit))
  | _ => none

-- Order of the numbers; nothing is below or above a NaN.
def lt : Binary64 → Binary64 → Bool
  | .nan, _ => false
  | _, .nan => false
  | .infinite a, .infinite b => a && !b
  | .infinite a, .finite .. => a
  | .finite .., .infinite b => !b
  | .finite a m s, .finite b n t => signed a (units m s) < signed b (units n t)

end Binary64
end RabbitRemote.Number
