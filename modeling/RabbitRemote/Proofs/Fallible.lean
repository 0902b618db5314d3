namespace RabbitRemote

variable {ε α β : Type} {input : Except ε α}

theorem bind_ok {next : α → Except ε β} {result : β} :
    (input >>= next) = .ok result ↔ ∃ value, input = .ok value ∧ next value = .ok result := by
  cases input <;> simp [bind, Except.bind]

theorem bind_failed {next : α → Except ε β} {failure : ε} :
    (input >>= next) = .error failure ↔
      input = .error failure ∨ ∃ value, input = .ok value ∧ next value = .error failure := by
  cases input <;> simp [bind, Except.bind]

theorem map_ok {f : α → β} {result : β} :
    input.map f = .ok result ↔ ∃ value, input = .ok value ∧ f value = result := by
  cases input <;> simp [Except.map]

theorem map_failed {f : α → β} {failure : ε} :
    input.map f = .error failure ↔ input = .error failure := by
  cases input <;> simp [Except.map]

end RabbitRemote
