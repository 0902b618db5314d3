import Mathlib.Data.List.Forall2

namespace RabbitRemote

variable {α β : Type} {R : α → β → Prop} {left : List α} {right : List β}

theorem partner_of_left (paired : List.Forall₂ R left right) {a : α} (member : a ∈ left) :
    ∃ b ∈ right, R a b := by
  induction paired with
  | nil => cases member
  | cons here _ ih =>
    rcases List.mem_cons.mp member with rfl | later
    · exact ⟨_, List.mem_cons_self, here⟩
    · obtain ⟨b, among, related⟩ := ih later
      exact ⟨b, List.mem_cons_of_mem _ among, related⟩

theorem partner_of_right (paired : List.Forall₂ R left right) {b : β} (member : b ∈ right) :
    ∃ a ∈ left, R a b := by
  have turned : List.Forall₂ (flip R) right left := List.Forall₂.flip paired
  exact partner_of_left turned member

end RabbitRemote
