namespace RabbitRemote.Text

-- A set of code points is written as the lengths of its alternating runs: the first run lies
-- outside the set, and what follows the last one is on the other side of it.
def inRuns (inside : Bool) : List Nat → Nat → Bool
  | [], _ => inside
  | length :: runs, code => if code < length then inside else inRuns (!inside) runs (code - length)

end RabbitRemote.Text
