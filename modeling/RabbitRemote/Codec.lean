import RabbitRemote.Charset.Registry
import RabbitRemote.Failure
import RabbitRemote.Form

namespace RabbitRemote

-- What commands need on their way to the service and back: the octets of a value, unless it is
-- refused, the form in which octets stand in a request, and the text of a reply.
structure Conversion where
  outbound : Value → Except Failure (List UInt8)
  escape : List UInt8 → String
  inbound : List UInt8 → String

-- Converts between the caller and the service. Octets of the caller are read in the caller's
-- charset; the service speaks Latin-1.
structure Codec where
  name : String
  reading : Charset.Reading

namespace Codec

def defaultName : String := "utf-8"

def named (others : Charset.Registry) (name : String) : Except Failure Codec :=
  if name.contains (Char.ofNat 0) then .error .nulInCharset
  else match Charset.lookUp others name with
    | some reading => .ok ⟨name, reading⟩
    | none => .error (.unknownCharset name)

def default : Codec := ⟨defaultName, Charset.Coding.reading (.text .utf8)⟩

-- A character that Latin-1 lacks becomes a question mark.
def serviceOctet (c : Char) : UInt8 := if c.toNat < 256 then UInt8.ofNat c.toNat else 0x3F

def toService (text : List Char) : List UInt8 := text.map serviceOctet

def isStrange (c : Char) : Bool := 256 ≤ c.toNat

-- The octets of a text as the service itself would say it: there, no character may be lacking.
def saidByService (text : List Char) : Except Failure (List UInt8) :=
  match text.dropWhile (!isStrange ·) with
  | [] => .ok (toService text)
  | first :: rest =>
    let strange := rest.takeWhile isStrange
    .error (.outsideServiceCharset (text.length - rest.length - 1) first (strange.length + 1))

def ofService (octets : List UInt8) : List Char := octets.map fun octet => Char.ofNat octet.toNat

-- Only octets that are found to be wrong are refused in words.
def unreadFailure (codec : Codec) : Charset.Unread → Failure
  | .undecodable reason => .undecodable codec.name reason
  | .failed message => .codecFailed message

-- The octets that are sent for a value: texts go to the service charset, octets are read in the
-- caller's charset first, and nothing else can be encoded. No octets are no characters in any charset,
-- so they are not looked at.
def outbound (codec : Codec) : Value → Except Failure (List UInt8)
  | .text text => .ok (toService text.toList)
  | .octets [] => .ok []
  | .octets octets =>
    match codec.reading with
    | .transformation => .error (.noTextCharset codec.name)
    | .text decode =>
      match decode octets with
      | .ok text => .ok (toService text)
      | .error unread => .error (codec.unreadFailure unread)
  | value => .error (.notEncodable value.kindName)

def inbound (octets : List UInt8) : String := String.ofList (ofService octets)

def conversion (codec : Codec) : Conversion := ⟨codec.outbound, Form.escape, inbound⟩

instance : Coe Codec Conversion := ⟨conversion⟩

theorem small_code_point (n : Nat) (small : n < 256) : (Char.ofNat n).toNat = n := by
  have valid : n.isValidChar := Or.inl (by omega)
  unfold Char.ofNat
  rw [dif_pos valid]
  rfl

end Codec
end RabbitRemote
