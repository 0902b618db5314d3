import RabbitRemote.Text.Hex
import RabbitRemote.Text.Printable

namespace RabbitRemote.Text

-- A quoted text stands between apostrophes, or between quotation marks if it holds an apostrophe and
-- no quotation mark.
def mark (text : List Char) : Char :=
  if text.contains '\x27' && !text.contains '\x22' then '\x22' else '\x27'

def shortEscape? (around c : Char) : Option (List Char) :=
  if c = around || c = '\\' then some ['\\', c]
  else if c = '\t' then some ['\\', 't']
  else if c = '\n' then some ['\\', 'n']
  else if c = '\r' then some ['\\', 'r']
  else none

def codeEscape (c : Char) : List Char :=
  let code := c.toNat
  if code < 0x100 then '\\' :: 'x' :: hexFigures 2 code
  else if code < 0x10000 then '\\' :: 'u' :: hexFigures 4 code
  else '\\' :: 'U' :: hexFigures 8 code

def escapeChar (around c : Char) : List Char :=
  match shortEscape? around c with
  | some escape => escape
  | none => if isPrintable c then [c] else codeEscape c

def quote (text : List Char) : List Char :=
  mark text :: (text.flatMap (escapeChar (mark text)) ++ [mark text])

def quoted (text : String) : String := String.ofList (quote text.toList)

def escapeOctet (around : Char) (octet : UInt8) : List Char :=
  let code := octet.toNat
  match shortEscape? around (Char.ofNat code) with
  | some escape => escape
  | none =>
    if 0x20 ≤ code && code < 0x7F then [Char.ofNat code] else '\\' :: 'x' :: hexFigures 2 code

def quotedOctets (octets : List UInt8) : String :=
  let around := mark (octets.map fun octet => Char.ofNat octet.toNat)
  String.ofList ('b' :: around :: (octets.flatMap (escapeOctet around) ++ [around]))

end RabbitRemote.Text
