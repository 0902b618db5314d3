import Mathlib.Data.List.DropRight
import RabbitRemote.Proofs.Request.QueryPieces

namespace RabbitRemote.RequestUrl

section
variable {front tail ends : List Char}

theorem stripped_past_separators (separators : ∀ c ∈ ends, isSeparator c = true) :
    stripped (front ++ ends) = stripped front := by
  rw [stripped, List.reverse_append, List.dropWhile_append_of_pos]
  · rfl
  · intro c member
    exact separators c (List.mem_reverse.mp member)

theorem stripped_twice (base : List Char) : stripped (stripped base) = stripped base :=
  List.rdropWhile_idempotent isSeparator base

theorem stripped_of_solid (nonempty : tail ≠ []) (solid : ∀ c ∈ tail, isSeparator c = false) :
    stripped (front ++ tail) = front ++ tail := by
  apply List.rdropWhile_eq_self_iff.mpr
  intro filled
  rw [List.getLast_append_of_ne_nil filled nonempty, Bool.not_eq_true]
  exact solid _ (List.getLast_mem nonempty)

end

-- An address counts only up to its separators at the end.
theorem build_by_stripped {base other : String}
    (same : stripped base.toList = stripped other.toList) (sent : List (String × String)) :
    build base sent = build other sent := by
  unfold build
  rw [same]

theorem build_bare (base : String) : (build base []).toList = stripped base.toList := by
  unfold build
  dsimp only
  rw [if_pos (by rfl), String.toList_ofList]

section
variable {p q : List (String × String)}

theorem query_joined (left : p ≠ []) (right : q ≠ []) :
    (query (p ++ q)).toList = (query p).toList ++ '&' :: (query q).toList := by
  simp only [query_joins_pieces, List.map_append]
  exact Text.joined_append (by simpa using left) (by simpa using right)

-- A query ends with one of the values, behind its equals sign.
theorem query_ends_with_value (nonempty : p ≠ []) : ∃ front, ∃ parameter ∈ p,
    (query p).toList = front ++ '=' :: parameter.2.toList := by
  have pieces : p.map piece ≠ [] := by simpa using nonempty
  obtain ⟨front, part, member, joined⟩ := Text.joined_ends_with_piece '&' pieces
  obtain ⟨parameter, among, rfl⟩ := List.mem_map.mp member
  refine ⟨front ++ parameter.1.toList, parameter, among, ?_⟩
  rw [query_joins_pieces, joined, piece, List.append_assoc]

-- Nothing falls away from the end of an address that was built with a query.
theorem stripped_of_built (base : String) (nonempty : p ≠ [])
    (escaped : ∀ parameter ∈ p, ∀ c ∈ parameter.2.toList, isSeparator c = false) :
    stripped (build base p).toList = (build base p).toList := by
  obtain ⟨front, parameter, among, tail⟩ := query_ends_with_value nonempty
  have solid : ∀ c ∈ '=' :: parameter.2.toList, isSeparator c = false :=
    List.forall_mem_cons.mpr ⟨by decide, escaped parameter among⟩
  rw [build_with_query base p nonempty, tail, ← List.cons_append, ← List.append_assoc]
  exact stripped_of_solid (by simp) solid

theorem built_is_marked (base : String) (nonempty : p ≠ []) : '?' ∈ (build base p).toList := by
  rw [build_with_query base p nonempty]
  split
  · rename_i marked
    exact List.mem_append_left _ marked
  · exact List.mem_append_right _ List.mem_cons_self

theorem build_twice (base : String) (q : List (String × String))
    (escaped : ∀ parameter ∈ p, ∀ c ∈ parameter.2.toList, isSeparator c = false) :
    build (build base p) q = build base (p ++ q) := by
  by_cases first : p = []
  · subst first
    apply build_by_stripped
    rw [build_bare, stripped_twice]
  · have solid := stripped_of_built base first escaped
    apply String.toList_inj.mp
    by_cases second : q = []
    · subst second
      rw [build_bare, solid, List.append_nil]
    · have both : p ++ q ≠ [] := by simp [first]
      rw [build_with_query _ q second, solid, if_pos (built_is_marked base first),
        build_with_query base p first, build_with_query base _ both, query_joined first second,
        List.append_assoc, List.cons_append]

end

-- Parameters may be added to an address in two goes, and it does not matter which separators it ended
-- with: there is exactly one in front of the query.
theorem building_composes (base ends : String) (p q : Ledger String String)
    (escaped : ∀ parameter ∈ p ++ q, ∀ c ∈ parameter.2.toList, c ≠ '?' ∧ c ≠ '&')
    (separators : ∀ c ∈ ends.toList, c = '?' ∨ c = '&') :
    build (build base p) q = build base (p ++ q) ∧
    build (base ++ ends) p = build base p ∧
    ∃ bare margin, base.toList = bare ++ margin ∧ (∀ c ∈ margin, c = '?' ∨ c = '&') ∧
      (∀ c ∈ bare.getLast?, c ≠ '?' ∧ c ≠ '&') ∧
      (p = [] → (build base p).toList = bare) ∧
      (p ≠ [] → (build base p).toList =
        bare ++ (if '?' ∈ bare then '&' else '?') :: (query p).toList) := by
  refine ⟨build_twice base q ?_, build_by_stripped ?_ p, ?_⟩
  · intro parameter member c inside
    simpa [isSeparator] using escaped parameter (List.mem_append_left q member) c inside
  · rw [String.toList_append]
    apply stripped_past_separators
    intro c member
    simpa [isSeparator] using separators c member
  · obtain ⟨margin, parted, taken, last⟩ := stripped_exact base.toList
    refine ⟨stripped base.toList, margin, parted, ?_, ?_, ?_, build_with_query base p⟩
    · intro c member
      simpa [isSeparator] using taken c member
    · intro c member
      simpa [isSeparator] using last c member
    · rintro rfl
      exact build_bare base

-- An address with a query and separators at its end, and a parameter that is empty.
theorem building_composes_over_empty_value :
    let base := "http://host/api?x=1&?"
    let ends := "&&?"
    let p : Ledger String String := [("sn", "0013d3"), ("token", "")]
    let q : Ledger String String := [("tts", "a%26b")]
    (∀ parameter ∈ p ++ q, ∀ c ∈ parameter.2.toList, c ≠ '?' ∧ c ≠ '&') ∧
    (∀ c ∈ ends.toList, c = '?' ∨ c = '&') ∧
    build (build base p) q = build base (p ++ q) ∧ build (base ++ ends) p = build base p := by
  intro base ends p q
  have escaped : ∀ parameter ∈ p ++ q, ∀ c ∈ parameter.2.toList, c ≠ '?' ∧ c ≠ '&' := by
    have all : ((p ++ q).all fun parameter =>
        parameter.2.toList.all fun c => c ≠ '?' && c ≠ '&') = true := by decide +kernel
    intro parameter member
    simpa using List.all_eq_true.mp all parameter member
  have separators : ∀ c ∈ ends.toList, c = '?' ∨ c = '&' := by
    have all : (ends.toList.all fun c => c = '?' || c = '&') = true := by decide +kernel
    simpa using all
  obtain ⟨composed, ended, _⟩ := building_composes base ends p q escaped separators
  exact ⟨escaped, separators, composed, ended⟩

end RabbitRemote.RequestUrl
