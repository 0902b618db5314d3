namespace RabbitRemote.Charset

inductive Reason where
  | invalidStart
  | invalidContinuation
  | unexpectedEnd
  | outsideAscii
  | undefinedOctet
  | truncatedUnit
  | loneHighSurrogate
  | loneLowSurrogate
deriving DecidableEq, Repr

def Reason.text : Reason → String
  | .invalidStart => "invalid start byte"
  | .invalidContinuation => "invalid continuation byte"
  | .unexpectedEnd => "unexpected end of data"
  | .outsideAscii => "ordinal not in range(128)"
  | .undefinedOctet => "character maps to <undefined>"
  | .truncatedUnit => "truncated data"
  | .loneHighSurrogate => "illegal UTF-16 surrogate"
  | .loneLowSurrogate => "illegal encoding"

structure Fault where
  reason : Reason
  start : Nat
  length : Nat
deriving DecidableEq, Repr

end RabbitRemote.Charset
