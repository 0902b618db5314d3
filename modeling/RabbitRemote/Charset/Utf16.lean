import RabbitRemote.Charset.Fault

namespace RabbitRemote.Charset.Utf16

inductive Order where
  | little
  | big
deriving DecidableEq, Repr

def Order.unit (order : Order) (first second : UInt8) : Nat :=
  match order with
  | .little => second.toNat * 256 + first.toNat
  | .big => first.toNat * 256 + second.toNat

def units (order : Order) : List UInt8 → List Nat × Bool
  | first :: second :: rest =>
    let (more, odd) := units order rest
    (order.unit first second :: more, odd)
  | [_] => ([], true)
  | [] => ([], false)

def isHigh (unit : Nat) : Bool := 0xD800 ≤ unit && unit < 0xDC00
def isLow (unit : Nat) : Bool := 0xDC00 ≤ unit && unit < 0xE000

def pair (high low : Nat) : Char :=
  Char.ofNat (0x10000 + (high - 0xD800) * 1024 + (low - 0xDC00))

def ofUnits (offset : Nat) : List Nat → Except Fault (List Char)
  | [] => .ok []
  | [unit] =>
    if isHigh unit then .error ⟨.unexpectedEnd, offset, 2⟩
    else if isLow unit then .error ⟨.loneLowSurrogate, offset, 2⟩
    else .ok [Char.ofNat unit]
  | unit :: next :: rest =>
    if isHigh unit then
      if isLow next then (ofUnits (offset + 4) rest).map (pair unit next :: ·)
      else .error ⟨.loneHighSurrogate, offset, 2⟩
    else if isLow unit then .error ⟨.loneLowSurrogate, offset, 2⟩
    else (ofUnits (offset + 2) (next :: rest)).map (Char.ofNat unit :: ·)

def decode (order : Order) (octets : List UInt8) : Except Fault (List Char) :=
  let (codes, odd) := units order octets
  match ofUnits 0 codes with
  | .error fault => .error fault
  | .ok text => if odd then .error ⟨.truncatedUnit, octets.length - 1, 1⟩ else .ok text

def decodeMarked : List UInt8 → Except Fault (List Char)
  | 0xFF :: 0xFE :: octets => decode .little octets
  | 0xFE :: 0xFF :: octets => decode .big octets
  | octets => decode .little octets

end RabbitRemote.Charset.Utf16
