import RabbitRemote.Ledger

namespace RabbitRemote.Ini

abbrev Options := Ledger String String

structure Document where
  shared : Options
  sections : Ledger String Options
deriving DecidableEq, Repr

namespace Document

def sharedName : String := "DEFAULT"

def own (document : Document) (name : String) : Options :=
  (Ledger.get? document.sections name).getD []

def get? (document : Document) (name option : String) : Option String :=
  (Ledger.get? (document.own name) option).or (Ledger.get? document.shared option)

def items (document : Document) (name : String) : Options :=
  let own := document.own name
  own ++ document.shared.filter fun entry => entry.1 ∉ Ledger.keys own

def sectionNames (document : Document) : List String := Ledger.keys document.sections

end Document
end RabbitRemote.Ini
