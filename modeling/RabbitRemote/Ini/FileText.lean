import RabbitRemote.Charset.Utf8
import RabbitRemote.Failure
import RabbitRemote.Text.Line

namespace RabbitRemote.Ini

structure FileText where
  lines : List (List Char)
  failure? : Option Failure

namespace FileText
open Charset

-- Files are read in blocks. A fault is found while a block is decoded, so all lines that end in
-- earlier blocks have been read by then, and its position counts from the first octet that the
-- earlier blocks left over.
def blockSize : Nat := 8192

-- Whether a sequence begins like a surrogate. It is not judged before a third octet is there.
def resemblesSurrogate : List UInt8 → Bool
  | 0xED :: second :: _ => 0xA0 ≤ second && second ≤ 0xBF
  | _ => false

def foundAt (octets : List UInt8) (fault : Fault) : Nat :=
  match fault.reason with
  | .invalidContinuation =>
    if resemblesSurrogate (octets.drop fault.start) then fault.start + 2
    else fault.start + fault.length
  | .unexpectedEnd => octets.length
  | _ => fault.start

def blockStart (octets : List UInt8) (place : Nat) : Nat :=
  if place < octets.length then place / blockSize * blockSize else octets.length

def settledBefore (octets : List UInt8) (fault : Fault) : Nat :=
  let start := blockStart octets (foundAt octets fault)
  match Utf8.scan 0 none (octets.take start) with
  | .ok (_, unfinished) => start - unfinished
  | .error _ => fault.start

-- A carriage return at the end is held back, for a line feed may follow.
def completeLines (text : List Char) : List (List Char) :=
  let settled := if text.getLast? = some '\r' then text.dropLast else text
  (Text.cutLines (Text.unifyEnds settled)).filter Text.isComplete

def spoiled (octets : List UInt8) (fault : Fault) : FileText :=
  let settled := settledBefore octets fault
  let text := match Utf8.decode (octets.take settled) with
    | .ok text => text
    | .error _ => []
  ⟨completeLines text,
    some (.undecodableFile (octets.getD fault.start 0)
      { fault with start := fault.start - settled })⟩

def ofOctets (octets : List UInt8) : FileText :=
  match Utf8.decode octets with
  | .ok text => ⟨Text.cutLines (Text.unifyEnds text), none⟩
  | .error fault => spoiled octets fault

theorem of_text (octets : List UInt8) (text : List Char) (decoded : Utf8.decode octets = .ok text) :
    ofOctets octets = ⟨Text.cutLines (Text.unifyEnds text), none⟩ := by
  simp [ofOctets, decoded]

end FileText
end RabbitRemote.Ini
