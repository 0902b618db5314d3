namespace RabbitRemote

-- A ledger holds one entry per key, in the order in which the keys were first put in.
abbrev Ledger (κ α : Type) := List (κ × α)

namespace Ledger
variable {κ α : Type} [DecidableEq κ]

def get? (ledger : Ledger κ α) (key : κ) : Option α :=
  match ledger with
  | [] => none
  | (k, value) :: rest => if k = key then some value else get? rest key

-- A new key goes to the end; a known one keeps its place and takes the new value.
def put (ledger : Ledger κ α) (key : κ) (value : α) : Ledger κ α :=
  match ledger with
  | [] => [(key, value)]
  | (k, old) :: rest => if k = key then (key, value) :: rest else (k, old) :: put rest key value

def keys (ledger : Ledger κ α) : List κ := ledger.map (·.1)

def ofList (entries : List (κ × α)) : Ledger κ α :=
  entries.foldl (fun ledger entry => put ledger entry.1 entry.2) []

theorem get_put (ledger : Ledger κ α) (key other : κ) (value : α) :
    get? (put ledger key value) other = if key = other then some value else get? ledger other := by
  induction ledger with
  | nil => simp [put, get?]
  | cons entry rest ih =>
    obtain ⟨k, old⟩ := entry
    unfold put
    split
    · rename_i same
      subst same
      by_cases here : k = other <;> simp [get?, here]
    · rename_i differs
      simp only [get?, ih]
      by_cases here : k = other
      · subst here
        simp [Ne.symm differs]
      · simp [here]

theorem keys_put (ledger : Ledger κ α) (key : κ) (value : α) :
    keys (put ledger key value) =
      if key ∈ keys ledger then keys ledger else keys ledger ++ [key] := by
  induction ledger with
  | nil => simp [put, keys]
  | cons entry rest ih =>
    obtain ⟨k, old⟩ := entry
    unfold put
    split
    · rename_i same
      subst same
      simp [keys]
    · rename_i differs
      simp only [keys, List.map_cons, List.mem_cons, Ne.symm differs, false_or] at ih ⊢
      rw [ih]
      by_cases known : key ∈ List.map (·.1) rest <;> simp [known]

theorem keys_put_nodup (ledger : Ledger κ α) (key : κ) (value : α) (single : (keys ledger).Nodup) :
    (keys (put ledger key value)).Nodup := by
  rw [keys_put]
  split
  · exact single
  · rename_i fresh
    rw [List.nodup_append]
    refine ⟨single, by simp, ?_⟩
    intro a member b last
    rw [List.mem_singleton] at last
    subst last
    exact fun equal => fresh (equal ▸ member)

end Ledger
end RabbitRemote
