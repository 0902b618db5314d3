namespace RabbitRemote.Number

def decimal : Int → List Char
  | .ofNat n => Nat.toDigits 10 n
  | .negSucc n => '-' :: Nat.toDigits 10 (n + 1)

def decimalText (i : Int) : String := String.ofList (decimal i)

-- Conversions between integers and text stop at this many figures.
def figureLimit : Nat := 4300

def textBound : Nat := Nat.pow 10 figureLimit

def hasText (i : Int) : Bool := i.natAbs < textBound

end RabbitRemote.Number
