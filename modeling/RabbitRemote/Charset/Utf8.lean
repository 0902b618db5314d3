import RabbitRemote.Charset.Fault

namespace RabbitRemote.Charset.Utf8

-- A sequence of which `read` octets have been seen: the bits gathered so far, how many octets are
-- missing, and the bounds of the next one. The bounds of a second octet keep out overlong forms,
-- surrogates and what lies above U+10FFFF; later octets range from 0x80 to 0xBF.
structure Opened where
  read : Nat
  bits : Nat
  missing : Nat
  low : Nat
  high : Nat
deriving DecidableEq, Repr

inductive Lead where
  | scalar (c : Char)
  | opens (sequence : Opened)
  | invalid
deriving DecidableEq, Repr

def lead (octet : UInt8) : Lead :=
  let b := octet.toNat
  if b < 0x80 then .scalar (Char.ofNat b)
  else if b < 0xC2 then .invalid
  else if b < 0xE0 then .opens ⟨1, b - 0xC0, 1, 0x80, 0xBF⟩
  else if b = 0xE0 then .opens ⟨1, 0, 2, 0xA0, 0xBF⟩
  else if b = 0xED then .opens ⟨1, 0xD, 2, 0x80, 0x9F⟩
  else if b < 0xF0 then .opens ⟨1, b - 0xE0, 2, 0x80, 0xBF⟩
  else if b = 0xF0 then .opens ⟨1, 0, 3, 0x90, 0xBF⟩
  else if b < 0xF4 then .opens ⟨1, b - 0xF0, 3, 0x80, 0xBF⟩
  else if b = 0xF4 then .opens ⟨1, 4, 3, 0x80, 0x8F⟩
  else .invalid

-- Reads on from `offset`. The second part of the answer counts the octets of a sequence that the
-- end of the octets leaves unfinished.
def scan (offset : Nat) (opened? : Option Opened) :
    List UInt8 → Except Fault (List Char × Nat)
  | [] =>
    match opened? with
    | none => .ok ([], 0)
    | some opened => .ok ([], opened.read)
  | octet :: rest =>
    match opened? with
    | none =>
      match lead octet with
      | .scalar c => (scan (offset + 1) none rest).map fun (text, open_) => (c :: text, open_)
      | .opens opened => scan (offset + 1) (some opened) rest
      | .invalid => .error ⟨.invalidStart, offset, 1⟩
    | some opened =>
      let b := octet.toNat
      if opened.low ≤ b && b ≤ opened.high then
        let bits := opened.bits * 64 + (b - 0x80)
        if opened.missing ≤ 1 then
          (scan (offset + 1) none rest).map fun (text, open_) => (Char.ofNat bits :: text, open_)
        else scan (offset + 1) (some ⟨opened.read + 1, bits, opened.missing - 1, 0x80, 0xBF⟩) rest
      else .error ⟨.invalidContinuation, offset - opened.read, opened.read⟩

def decode (octets : List UInt8) : Except Fault (List Char) :=
  match scan 0 none octets with
  | .error fault => .error fault
  | .ok (text, 0) => .ok text
  | .ok (_, unfinished) => .error ⟨.unexpectedEnd, octets.length - unfinished, unfinished⟩

def decodeSigned : List UInt8 → Except Fault (List Char)
  | 0xEF :: 0xBB :: 0xBF :: octets => decode octets
  | octets => decode octets

end RabbitRemote.Charset.Utf8
