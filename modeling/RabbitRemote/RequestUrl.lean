import RabbitRemote.Ledger

namespace RabbitRemote.RequestUrl

def isSeparator (c : Char) : Bool := c = '?' || c = '&'

def stripped (base : List Char) : List Char := (base.reverse.dropWhile isSeparator).reverse

def query (parameters : List (String × String)) : String :=
  "&".intercalate (parameters.map fun (key, value) => key ++ "=" ++ value)

-- Appends the parameters to a base address. An address that has a question mark is continued with
-- an ampersand, any other one with a question mark; without a query the address stays bare.
def build (base : String) (parameters : Ledger String String) : String :=
  let bare := stripped base.toList
  let tail := query parameters
  if tail.isEmpty then String.ofList bare
  else String.ofList bare ++ (if bare.contains '?' then "&" else "?") ++ tail

end RabbitRemote.RequestUrl
