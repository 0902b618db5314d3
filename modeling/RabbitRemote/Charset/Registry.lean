import RabbitRemote.Charset.SingleOctet
import RabbitRemote.Charset.Utf16
import RabbitRemote.Charset.Utf8
import RabbitRemote.Ledger

namespace RabbitRemote

inductive Charset where
  | utf8
  | utf8Signed
  | utf16
  | utf16Little
  | utf16Big
  | ascii
  | latin1
  | latin9
  | windows1252
deriving DecidableEq, Repr

namespace Charset

def decode : Charset → List UInt8 → Except Fault (List Char)
  | .utf8 => Utf8.decode
  | .utf8Signed => Utf8.decodeSigned
  | .utf16 => Utf16.decodeMarked
  | .utf16Little => Utf16.decode .little
  | .utf16Big => Utf16.decode .big
  | .ascii => SingleOctet.decode SingleOctet.ascii .outsideAscii 0
  | .latin1 => SingleOctet.decode SingleOctet.latin1 .undefinedOctet 0
  | .latin9 => SingleOctet.decode SingleOctet.latin9 .undefinedOctet 0
  | .windows1252 => SingleOctet.decode SingleOctet.windows1252 .undefinedOctet 0

-- What a name stands for: some names are those of transformations of octets that give no text.
inductive Coding where
  | text (charset : Charset)
  | transformation
deriving DecidableEq, Repr

def registered : Ledger String Coding :=
  [("utf_8", .text .utf8), ("utf_8_sig", .text .utf8Signed), ("utf_16", .text .utf16),
    ("utf_16_le", .text .utf16Little), ("utf_16_be", .text .utf16Big), ("ascii", .text .ascii),
    ("latin_1", .text .latin1), ("iso8859_1", .text .latin1), ("iso8859_15", .text .latin9),
    ("cp1252", .text .windows1252), ("rot_13", .transformation), ("hex_codec", .transformation),
    ("base64_codec", .transformation)]

def aliases : Ledger String String :=
  [("u8", "utf_8"), ("utf", "utf_8"), ("utf8", "utf_8"), ("utf8_ucs2", "utf_8"),
    ("utf8_ucs4", "utf_8"), ("cp65001", "utf_8"), ("u16", "utf_16"), ("utf16", "utf_16"),
    ("unicodelittleunmarked", "utf_16_le"), ("utf_16le", "utf_16_le"),
    ("unicodebigunmarked", "utf_16_be"), ("utf_16be", "utf_16_be"), ("646", "ascii"),
    ("ansi_x3.4_1968", "ascii"), ("ansi_x3_4_1968", "ascii"), ("ansi_x3.4_1986", "ascii"),
    ("cp367", "ascii"), ("csascii", "ascii"), ("ibm367", "ascii"), ("iso646_us", "ascii"),
    ("iso_646.irv_1991", "ascii"), ("iso_ir_6", "ascii"), ("us", "ascii"), ("us_ascii", "ascii"),
    ("8859", "latin_1"), ("cp819", "latin_1"), ("csisolatin1", "latin_1"), ("ibm819", "latin_1"),
    ("iso8859", "latin_1"), ("iso8859_1", "latin_1"), ("iso_8859_1", "latin_1"),
    ("iso_8859_1_1987", "latin_1"), ("iso_ir_100", "latin_1"), ("l1", "latin_1"),
    ("latin", "latin_1"), ("latin1", "latin_1"), ("iso_8859_15", "iso8859_15"),
    ("l9", "iso8859_15"), ("latin9", "iso8859_15"), ("1252", "cp1252"),
    ("windows_1252", "cp1252"), ("rot13", "rot_13"), ("hex", "hex_codec"),
    ("base64", "base64_codec"), ("base_64", "base64_codec")]

-- Names are compared in small letters, with every run of other characters as one underscore.
-- Full stops are kept; runs at the two ends fall away.
def plainName (started gap : Bool) : List Char → List Char
  | [] => []
  | c :: rest =>
    if c.isAlphanum || c = '.' then
      let name := c.toLower :: plainName true false rest
      if gap && started then '_' :: name else name
    else plainName started true rest

def plain (name : String) : String := String.ofList (plainName false false name.toList)

def find? (name : String) : Option Coding :=
  let plain := plain name
  let undotted := plain.map fun c => if c = '.' then '_' else c
  match (Ledger.get? aliases plain).or (Ledger.get? aliases undotted) with
  | some canonical => Ledger.get? registered canonical
  | none => Ledger.get? registered plain

-- Why octets are no text: what is wrong with them, or that the codec failed in a way of its own.
inductive Unread where
  | undecodable (reason : String)
  | failed (message : String)

-- How octets are read under a name. Half a surrogate pair in a text, which some codecs let through,
-- counts as U+FFFD: the service charset has neither.
inductive Reading where
  | text (decode : List UInt8 → Except Unread (List Char))
  | transformation

def decoder (charset : Charset) (octets : List UInt8) : Except Unread (List Char) :=
  match charset.decode octets with
  | .ok text => .ok text
  | .error fault => .error (.undecodable fault.reason.text)

def Coding.reading : Coding → Reading
  | .text charset => .text charset.decoder
  | .transformation => .transformation

-- The codecs that the surroundings register besides the ones above, by their plain names.
abbrev Registry := String → Option Reading

-- No codec of the surroundings takes the place of one above.
def lookUp (others : Registry) (name : String) : Option Reading :=
  match find? name with
  | some coding => some coding.reading
  | none => others (plain name)

end Charset
end RabbitRemote
