import RabbitRemote.Charset.Fault

namespace RabbitRemote.Charset.SingleOctet

def decode (table : UInt8 → Option Nat) (reason : Reason) (offset : Nat) :
    List UInt8 → Except Fault (List Char)
  | [] => .ok []
  | octet :: rest =>
    match table octet with
    | some code => (decode table reason (offset + 1) rest).map (Char.ofNat code :: ·)
    | none => .error ⟨reason, offset, 1⟩

def latin1 (octet : UInt8) : Option Nat := some octet.toNat

def ascii (octet : UInt8) : Option Nat := if octet < 0x80 then some octet.toNat else none

def latin9 (octet : UInt8) : Option Nat :=
  match octet with
  | 0xA4 => some 0x20AC
  | 0xA6 => some 0x160
  | 0xA8 => some 0x161
  | 0xB4 => some 0x17D
  | 0xB8 => some 0x17E
  | 0xBC => some 0x152
  | 0xBD => some 0x153
  | 0xBE => some 0x178
  | octet => some octet.toNat

-- Windows-1252 fills the places of the second control set, all but five. A zero marks those.
def windowsCodes : List Nat :=
  [0x20AC, 0, 0x201A, 0x192, 0x201E, 0x2026, 0x2020, 0x2021, 0x2C6, 0x2030, 0x160, 0x2039, 0x152, 0,
    0x17D, 0, 0, 0x2018, 0x2019, 0x201C, 0x201D, 0x2022, 0x2013, 0x2014, 0x2DC, 0x2122, 0x161,
    0x203A, 0x153, 0, 0x17E, 0x178]

def windows1252 (octet : UInt8) : Option Nat :=
  let b := octet.toNat
  if 0x80 ≤ b && b < 0xA0 then
    match windowsCodes[b - 0x80]? with
    | some 0 => none
    | code => code
  else some b

end RabbitRemote.Charset.SingleOctet
