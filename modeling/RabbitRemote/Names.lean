import RabbitRemote.Ledger
import RabbitRemote.Value

namespace RabbitRemote

-- The ears are moved by two motors; the right one is motor 0.
inductive Ear where
  | right
  | left
deriving DecidableEq, Repr

inductive Led where
  | bottom
  | left
  | middle
  | right
  | top
deriving DecidableEq, Repr

inductive Direction where
  | forward
  | backward
deriving DecidableEq, Repr

-- Colour shares are whole numbers of any sign and size: the device takes them as they come.
structure Rgb where
  red : Int
  green : Int
  blue : Int
deriving DecidableEq, Repr

def Ear.code : Ear → Int
  | .right => 0
  | .left => 1

def Led.code : Led → Int
  | .bottom => 0
  | .left => 1
  | .middle => 2
  | .right => 3
  | .top => 4

def Direction.code : Direction → Int
  | .forward => 0
  | .backward => 1

namespace Names

def colours : Ledger String Rgb :=
  [("red", ⟨255, 0, 0⟩), ("orange", ⟨255, 127, 0⟩), ("yellow", ⟨255, 255, 0⟩),
    ("green", ⟨0, 255, 0⟩), ("blue", ⟨0, 0, 255⟩), ("purple", ⟨255, 0, 255⟩),
    ("dim_red", ⟨127, 0, 0⟩), ("dim_orange", ⟨127, 63, 0⟩), ("dim_yellow", ⟨127, 127, 0⟩),
    ("dim_green", ⟨0, 127, 0⟩), ("dim_blue", ⟨0, 0, 127⟩), ("dim_purple", ⟨127, 0, 127⟩),
    ("off", ⟨0, 0, 0⟩)]

def ears : Ledger String (List Ear) :=
  [("left", [.left]), ("right", [.right]), ("both", [.right, .left])]

def leds : Ledger String Led :=
  [("bottom", .bottom), ("left", .left), ("middle", .middle), ("right", .right), ("top", .top)]

def directions : Ledger String Direction := [("forward", .forward), ("backward", .backward)]

-- Voices are for reference only: the service may add some at any time, so none is refused.
def voices : Ledger String (List String) :=
  [("fr", ["julie22k", "claire22s"]),
    ("en", ["graham22s", "lucy22s", "heather22k", "ryan22k", "aaron22s", "laura22s"])]

inductive Table where
  | colour
  | ear
  | led
  | direction
deriving DecidableEq, Repr

def Table.title : Table → String
  | .colour => "LED colour"
  | .ear => "ear"
  | .led => "LED"
  | .direction => "ear direction"

def Table.names : Table → List String
  | .colour => Ledger.keys colours
  | .ear => Ledger.keys ears
  | .led => Ledger.keys leds
  | .direction => Ledger.keys directions

def Table.sorted (table : Table) : List String := table.names.mergeSort (· ≤ ·)

def find? {α : Type} (names : Ledger String α) : Value → Option α
  | .text name => Ledger.get? names name
  | _ => none

end Names
end RabbitRemote
