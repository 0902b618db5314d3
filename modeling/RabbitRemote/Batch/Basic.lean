import RabbitRemote.Batch.Field
import RabbitRemote.Failure
import RabbitRemote.Ledger
import RabbitRemote.Reply.EarPositions

namespace RabbitRemote

-- The rabbit's address, the token that allows to command it, and the voice it should speak with.
structure Identity where
  mac : String
  token : String
  voice? : Option String
deriving DecidableEq, Repr

abbrev Verifier := String → Bool

-- Commands that wait for one request. An empty field holds null; each label has one verifier, and
-- the labels stay in the order in which they first came.
structure Batch where
  identity : Identity
  values : Batch.Field → Value
  verifiers : Ledger String Verifier
  ears : EarPositions

namespace Batch

def empty (identity : Identity) : Batch := ⟨identity, fun _ => .null, [], .unknown⟩

-- The latest value of a field wins; null clears it.
def set (batch : Batch) (field : Field) (value : Value) : Batch :=
  { batch with values := fun other => if other = field then value else batch.values other }

def setNamed (batch : Batch) (name value : Value) : Except Failure Batch :=
  match Field.named? name with
  | some field => .ok (batch.set field value)
  | none => .error ((Failure.unknownField name).showing name)

-- The value of a field, null for a name that no field has. Not every value can stand as a name.
def getNamed (batch : Batch) (name : Value) : Except Failure Value :=
  match name.unhashable? with
  | some kind => .error (.unhashable kind)
  | none =>
    match Field.named? name with
    | some field => .ok (batch.values field)
    | none => .ok .null

def register (batch : Batch) (label : String) (verifier : Verifier) : Batch :=
  { batch with verifiers := Ledger.put batch.verifiers label verifier }

def held (batch : Batch) : List (Field × Value) :=
  (Field.all.map fun field => (field, batch.values field)).filter fun entry => !entry.2.isNull

-- Ear positions are asked for as soon as the field for them holds anything, even an empty text.
def asksForEars (batch : Batch) : Bool := !(batch.values .earQuery).isNull

def isEmpty (batch : Batch) : Bool := batch.held.isEmpty && batch.verifiers.isEmpty

theorem value_after_set (batch : Batch) (field other : Field) (value : Value) :
    (batch.set field value).values other = if other = field then value else batch.values other := rfl

end Batch
end RabbitRemote
