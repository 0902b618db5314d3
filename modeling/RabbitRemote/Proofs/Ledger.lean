import Mathlib.Data.List.Induction
import RabbitRemote.Ledger

namespace RabbitRemote.Ledger
variable {κ α : Type} [DecidableEq κ]

-- What was put in last under a key.
def latest? (entries : List (κ × α)) (key : κ) : Option α :=
  (entries.reverse.find? fun entry => entry.1 = key).map (·.2)

theorem of_list_snoc (entries : List (κ × α)) (entry : κ × α) :
    ofList (entries ++ [entry]) = put (ofList entries) entry.1 entry.2 := by
  rw [ofList, List.foldl_append]
  rfl

theorem latest_snoc (entries : List (κ × α)) (entry : κ × α) (key : κ) :
    latest? (entries ++ [entry]) key =
      if entry.1 = key then some entry.2 else latest? entries key := by
  rw [latest?, List.reverse_append, List.reverse_singleton, List.singleton_append, List.find?_cons]
  by_cases here : entry.1 = key
  · simp [here]
  · simp [here, latest?]

-- A key holds its last value.
theorem get_of_list (entries : List (κ × α)) (key : κ) :
    get? (ofList entries) key = latest? entries key := by
  induction entries using List.reverseRecOn with
  | nil => rfl
  | append_singleton entries entry ih => rw [of_list_snoc, get_put, latest_snoc, ih]

theorem entry_of_latest {entries : List (κ × α)} {key : κ} {value : α}
    (last : latest? entries key = some value) : (key, value) ∈ entries := by
  obtain ⟨⟨other, held⟩, found, same⟩ := Option.map_eq_some_iff.mp last
  have fits : other = key := by simpa using List.find?_some found
  rw [← fits, ← same]
  exact List.mem_reverse.mp (List.mem_of_find?_eq_some found)

theorem keys_of_list_nodup (entries : List (κ × α)) : (keys (ofList entries)).Nodup := by
  induction entries using List.reverseRecOn with
  | nil => exact List.nodup_nil
  | append_singleton entries entry ih =>
    rw [of_list_snoc]
    exact keys_put_nodup _ _ _ ih

theorem key_of_list_exact (entries : List (κ × α)) (key : κ) :
    key ∈ keys (ofList entries) ↔ key ∈ keys entries := by
  induction entries using List.reverseRecOn with
  | nil => rfl
  | append_singleton entries entry ih =>
    rw [of_list_snoc, keys_put]
    have parted : keys (entries ++ [entry]) = keys entries ++ [entry.1] := List.map_append
    rw [parted, List.mem_append, List.mem_singleton, ← ih]
    split
    · rename_i known
      constructor
      · exact .inl
      · rintro (member | rfl)
        · exact member
        · exact known
    · rw [List.mem_append, List.mem_singleton]

-- A key has the place of its first entry: in front of it are the keys that had come before.
theorem place_of_first_entry {entries : List (κ × α)} {front back : List κ} {key : κ}
    (placed : keys (ofList entries) = front ++ key :: back) : ∃ before value after,
      entries = before ++ (key, value) :: after ∧ keys (ofList before) = front := by
  induction entries using List.reverseRecOn generalizing back with
  | nil => cases front <;> cases placed
  | append_singleton entries entry ih =>
    rw [of_list_snoc, keys_put] at placed
    split at placed
    · obtain ⟨before, value, after, rfl, known⟩ := ih placed
      exact ⟨before, value, after ++ [entry], by simp, known⟩
    · -- The new key stands last, so it is the one looked for or stands behind it.
      cases back using List.reverseRecOn with
      | nil =>
        obtain ⟨known, same⟩ := List.append_inj' placed rfl
        cases same
        exact ⟨entries, entry.2, [], rfl, known⟩
      | append_singleton back last =>
        rw [← List.cons_append, ← List.append_assoc] at placed
        obtain ⟨earlier, _⟩ := List.append_inj' placed rfl
        obtain ⟨before, value, after, rfl, known⟩ := ih earlier
        exact ⟨before, value, after ++ [entry], by simp, known⟩

-- Where keys stand once, an entry is found under its key.
theorem get_of_entry {ledger : Ledger κ α} {key : κ} {value : α} (single : (keys ledger).Nodup)
    (entered : (key, value) ∈ ledger) : get? ledger key = some value := by
  induction ledger with
  | nil => cases entered
  | cons entry rest ih =>
    obtain ⟨other, held⟩ := entry
    obtain ⟨fresh, later⟩ := List.nodup_cons.mp single
    rcases List.mem_cons.mp entered with here | behind
    · cases here
      rw [get?, if_pos rfl]
    · have known : key ∈ keys rest := List.mem_map_of_mem behind
      have differs : other ≠ key := fun same => fresh (same ▸ known)
      rw [get?, if_neg differs]
      exact ih later behind

theorem entry_of_get {ledger : Ledger κ α} {key : κ} {value : α}
    (found : get? ledger key = some value) : (key, value) ∈ ledger := by
  induction ledger with
  | nil => cases found
  | cons entry rest ih =>
    obtain ⟨other, held⟩ := entry
    rw [get?] at found
    split at found
    · rename_i same
      cases found
      rw [same]
      exact List.mem_cons_self ..
    · exact List.mem_cons_of_mem _ (ih found)

theorem entry_of_list {entries : List (κ × α)} {key : κ} {value : α}
    (entered : (key, value) ∈ ofList entries) : (key, value) ∈ entries := by
  have found := get_of_entry (keys_of_list_nodup entries) entered
  rw [get_of_list] at found
  exact entry_of_latest found

theorem get_append (front back : Ledger κ α) (key : κ) :
    get? (front ++ back) key = (get? front key).or (get? back key) := by
  induction front with
  | nil => rfl
  | cons entry rest ih =>
    rw [List.cons_append, get?, get?, ih]
    split <;> rfl

theorem get_filter (ledger : Ledger κ α) (kept : κ → Bool) {key : κ} (keeps : kept key = true) :
    get? (ledger.filter fun entry => kept entry.1) key = get? ledger key := by
  induction ledger with
  | nil => rfl
  | cons entry rest ih =>
    obtain ⟨other, held⟩ := entry
    rw [get?, List.filter_cons]
    by_cases here : other = key
    · rw [here, if_pos keeps, if_pos rfl, get?, if_pos rfl]
    · rw [if_neg here]
      split
      · rw [get?, if_neg here, ih]
      · exact ih

theorem get_map {β : Type} (ledger : Ledger κ α) (f : α → β) (key : κ) :
    get? (ledger.map fun entry => (entry.1, f entry.2)) key = (get? ledger key).map f := by
  induction ledger with
  | nil => rfl
  | cons entry rest ih =>
    rw [List.map_cons, get?, get?, ih]
    split <;> rfl

theorem get_of_known {ledger : Ledger κ α} {key : κ} (known : key ∈ keys ledger) :
    ∃ value, get? ledger key = some value := by
  induction ledger with
  | nil => cases known
  | cons entry rest ih =>
    rw [get?]
    split
    · exact ⟨_, rfl⟩
    · rename_i differs
      rcases List.mem_cons.mp known with here | behind
      · exact absurd here.symm differs
      · exact ih behind

theorem known_after_put {ledger : Ledger κ α} {other : κ} (known : other ∈ keys ledger) (key : κ)
    (value : α) : other ∈ keys (put ledger key value) := by
  rw [keys_put]
  split
  · exact known
  · exact List.mem_append_left _ known

end RabbitRemote.Ledger
