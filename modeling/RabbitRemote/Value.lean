import RabbitRemote.Number.Shortest
import RabbitRemote.Text.Quoted

namespace RabbitRemote

inductive Value where
  | null
  | truth (b : Bool)
  | whole (i : Int)
  | real (x : Number.Binary64)
  | text (s : String)
  | octets (bytes : List UInt8)
  | list (items : List Value)
  | tuple (items : List Value)
  | table (entries : List (String × Value))
deriving Inhabited

namespace Value

def kindName : Value → String
  | .null => "NoneType"
  | .truth _ => "bool"
  | .whole _ => "int"
  | .real _ => "float"
  | .text _ => "str"
  | .octets _ => "bytes"
  | .list _ => "list"
  | .tuple _ => "tuple"
  | .table _ => "dict"

def isNull : Value → Bool
  | .null => true
  | _ => false

def commaSeparated (items : List String) : String := ", ".intercalate items

-- A comma tells a tuple of one item from an item in brackets.
def tupleText : List String → String
  | [item] => "(" ++ item ++ ",)"
  | items => "(" ++ commaSeparated items ++ ")"

mutual
def quoted : Value → String
  | .null => "None"
  | .truth b => if b then "True" else "False"
  | .whole i => Number.decimalText i
  | .real x => x.text
  | .text s => Text.quoted s
  | .octets bytes => Text.quotedOctets bytes
  | .list items => "[" ++ commaSeparated (quotedItems items) ++ "]"
  | .tuple items => tupleText (quotedItems items)
  | .table entries => "\x7b" ++ commaSeparated (quotedEntries entries) ++ "\x7d"

def quotedItems : List Value → List String
  | [] => []
  | item :: items => quoted item :: quotedItems items

def quotedEntries : List (String × Value) → List String
  | [] => []
  | (key, value) :: entries =>
    (Text.quoted key ++ ": " ++ quoted value) :: quotedEntries entries
end

mutual
def writable : Value → Bool
  | .whole i => Number.hasText i
  | .list items | .tuple items => writableItems items
  | .table entries => writableEntries entries
  | _ => true

def writableItems : List Value → Bool
  | [] => true
  | item :: items => writable item && writableItems items

def writableEntries : List (String × Value) → Bool
  | [] => true
  | (_, value) :: entries => writable value && writableEntries entries
end

mutual
-- The kind that keeps a value from naming anything: lists and tables do, also within a tuple.
def unhashable? : Value → Option String
  | .tuple items => unhashableItem? items
  | .list items => some (Value.list items).kindName
  | .table entries => some (Value.table entries).kindName
  | _ => none

def unhashableItem? : List Value → Option String
  | [] => none
  | item :: items => (unhashable? item).or (unhashableItem? items)
end

def plain : Value → String
  | .text s => s
  | value => quoted value

end Value
end RabbitRemote
