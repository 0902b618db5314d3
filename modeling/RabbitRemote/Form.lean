import RabbitRemote.Text.Hex

namespace RabbitRemote.Form

-- Letters, digits and `_.-~` stand for themselves, a space is a plus sign, and every other octet is
-- a per cent sign with two hexadecimal figures in capitals.
def isUnreserved (c : Char) : Bool := c.isAlphanum || c = '_' || c = '.' || c = '-' || c = '~'

def escapeOctet (octet : UInt8) : List Char :=
  let c := Char.ofNat octet.toNat
  if isUnreserved c then [c]
  else if c = ' ' then ['+']
  else '%' :: (Text.hexFigures 2 octet.toNat).map Char.toUpper

def escape (octets : List UInt8) : String := String.ofList (octets.flatMap escapeOctet)

end RabbitRemote.Form
