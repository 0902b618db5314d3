import RabbitRemote.Log.Routing
import RabbitRemote.Proofs.Ledger

namespace RabbitRemote.Log

-- A logger and all those whose names go on behind its name and a full stop.
def Below (name logger : String) : Prop :=
  logger = name ∨ name.toList ++ ['.'] <+: logger.toList

instance (name logger : String) : Decidable (Below name logger) :=
  inferInstanceAs (Decidable (_ ∨ _))

-- Names in which no two full stops stand in a row.
def SingleStops (logger : String) : Prop := ¬ ['.', '.'] <:+: logger.toList

instance (logger : String) : Decidable (SingleStops logger) :=
  inferInstanceAs (Decidable (¬ _))

namespace Routing
variable {used : List Char → Bool} {routing : Routing} {logger : String}

theorem stop_before (c : Char) (rest upper : List Char) :
    '.' :: upper <:+ c :: rest ↔ c = '.' ∧ upper = rest ∨ '.' :: upper <:+ rest := by
  rw [List.suffix_cons_iff, List.cons.injEq, eq_comm (a := '.')]

-- A name that has been used is found on the way up if it ends before a full stop.
theorem mem_loggers_above {name : List Char} (single : ¬ ['.', '.'] <:+: name)
    (upper : List Char) : upper ∈ loggersAbove used name ↔
      used upper = true ∧ upper ≠ [] ∧ '.' :: upper <:+ name := by
  have further {c : Char} {rest : List Char} (single : ¬ ['.', '.'] <:+: c :: rest) :
      ¬ ['.', '.'] <:+: rest := fun inside => single (List.infix_cons inside)
  fun_induction loggersAbove used name with
  | case1 => simp
  | case2 =>
    rw [stop_before]
    simp
  | case3 last before isUsed ih =>
    have above : upper ∈ loggersAbove used (last :: before) ↔ _ := ih (further single)
    rw [List.mem_cons, above, stop_before '.']
    constructor
    · rintro (rfl | ⟨known, filled, behind⟩)
      · exact ⟨isUsed, by simp, .inl ⟨rfl, rfl⟩⟩
      · exact ⟨known, filled, .inr behind⟩
    · rintro ⟨known, filled, ⟨-, rfl⟩ | behind⟩
      · exact .inl rfl
      · exact .inr ⟨known, filled, behind⟩
  | case4 last before unused ih =>
    have above : upper ∈ loggersAbove used before ↔ _ := ih (further (further single))
    have noStop : last ≠ '.' := by
      rintro rfl
      exact single ⟨[], before, rfl⟩
    rw [above, stop_before '.', stop_before last]
    constructor
    · rintro ⟨known, filled, behind⟩
      exact ⟨known, filled, .inr (.inr behind)⟩
    · rintro ⟨known, filled, ⟨-, rfl⟩ | ⟨stop, -⟩ | behind⟩
      · exact absurd known unused
      · exact absurd stop noStop
      · exact ⟨known, filled, behind⟩
  | case5 c rest other ih =>
    have above : upper ∈ loggersAbove used rest ↔ _ := ih (further single)
    rw [above, stop_before c]
    simp [other]

theorem lineage_exact (single : SingleStops logger) (name : String) :
    name ∈ routing.lineage logger ↔ name = logger ∨
      name ∈ routing.used ∧ name ≠ "" ∧ name.toList ++ ['.'] <+: logger.toList := by
  have turned : ¬ ['.', '.'] <:+: logger.toList.reverse := by
    intro inside
    apply single
    simpa using List.reverse_infix.mpr inside
  have turn (upper : List Char) : '.' :: upper <:+ logger.toList.reverse ↔
      upper.reverse ++ ['.'] <+: logger.toList := by
    rw [← List.reverse_suffix]
    simp
  unfold lineage
  rw [List.mem_cons, List.mem_map]
  apply or_congr_right
  constructor
  · rintro ⟨upper, member, rfl⟩
    obtain ⟨known, filled, behind⟩ := (mem_loggers_above turned upper).mp member
    refine ⟨by simpa using known, by simpa using filled, ?_⟩
    rw [String.toList_ofList]
    exact (turn upper).mp behind
  · rintro ⟨known, filled, below⟩
    refine ⟨name.toList.reverse, (mem_loggers_above turned _).mpr ⟨?_, ?_, ?_⟩, ?_⟩
    · simpa using known
    · simpa using filled
    · rw [turn, List.reverse_reverse]
      exact below
    · simp

end Routing

-- The levels that loggers can have of their own are those of loggers that are there from the start.
def Routing.Knows (routing : Routing) : Prop :=
  ∀ name ∈ Routing.rabbitLogger :: Routing.networkLoggers, name ∈ routing.used

namespace Routing
variable {routing : Routing} {logger : String}

theorem in_lineage_of_named (knows : routing.Knows) (single : SingleStops logger) {name : String}
    (named : name ∈ rabbitLogger :: networkLoggers) :
    name ∈ routing.lineage logger ↔ Below name logger := by
  have filled : ∀ name ∈ rabbitLogger :: networkLoggers, name ≠ "" := by decide
  rw [lineage_exact single, Below, eq_comm]
  apply or_congr_right
  constructor
  · exact fun inside => inside.2.2
  · exact fun below => ⟨knows name named, filled name named, below⟩

-- No logger is below both the rabbit's and one of the network.
theorem named_apart (rabbit : Below rabbitLogger logger) {name : String}
    (network : name ∈ networkLoggers) : ¬ Below name logger := by
  have first {name : String} {c : Char} (below : Below name logger)
      (begun : name.toList.head? = some c) : logger.toList.head? = some c := by
    rcases below with rfl | ⟨more, same⟩
    · exact begun
    · rw [← same, List.append_assoc, List.head?_append, begun]
      rfl
  have begun : ∀ name ∈ networkLoggers, name.toList.head? = some 'a' := by decide
  intro below
  have one := first rabbit (c := 'n') (by decide)
  rw [first below (begun name network)] at one
  exact absurd one (by decide)

def orRoot (level : Int) : Int := if level = 0 then rootLevel else level

-- Levels that are set count from the nearest logger on.
theorem effective_level_of_only {level : Int}
    (only : ∀ name ∈ routing.lineage logger,
      routing.ownLevel name = 0 ∨ routing.ownLevel name = level)
    (some : ∃ name ∈ routing.lineage logger, routing.ownLevel name = level) :
    routing.effectiveLevel logger = orRoot level := by
  unfold effectiveLevel
  cases found : ((routing.lineage logger).map routing.ownLevel).find? (· ≠ 0) with
  | none =>
    have nought : level = 0 := by
      simpa using List.find?_eq_none.mp found level (List.mem_map.mpr some)
    rw [nought]
    rfl
  | some first =>
    have set : first ≠ 0 := by simpa using List.find?_some found
    obtain ⟨name, upper, own⟩ := List.mem_map.mp (List.mem_of_find?_eq_some found)
    have same : first = level := own ▸ (only name upper).resolve_left (own ▸ set)
    rw [← same, orRoot, if_neg set]
    rfl

theorem own_level_cases (routing : Routing) (name : String) :
    name = rabbitLogger ∧ routing.ownLevel name = routing.rabbit ∨
      name ∈ networkLoggers ∧ routing.ownLevel name = routing.network ∨
      routing.ownLevel name = 0 := by
  unfold ownLevel
  split
  · rename_i rabbit
    exact .inl ⟨rabbit, rfl⟩
  · split
    · rename_i network
      exact .inr (.inl ⟨network, rfl⟩)
    · exact .inr (.inr rfl)

-- The effective level of a logger is that of the rabbit or of the network for the loggers below
-- these, as far as one is set, and that of the root for all others.
theorem effective_level_exact (knows : routing.Knows) (single : SingleStops logger) :
    routing.effectiveLevel logger =
      if Below rabbitLogger logger then orRoot routing.rabbit
      else if ∃ name ∈ networkLoggers, Below name logger then orRoot routing.network
      else rootLevel := by
  have above {name : String} (named : name ∈ rabbitLogger :: networkLoggers) :=
    in_lineage_of_named knows single named
  have rabbitNamed : rabbitLogger ∈ rabbitLogger :: networkLoggers := List.mem_cons_self
  have networkNamed {name : String} (network : name ∈ networkLoggers) :
      name ∈ rabbitLogger :: networkLoggers := List.mem_cons_of_mem _ network
  split
  · rename_i rabbit
    apply effective_level_of_only
    · intro name upper
      rcases routing.own_level_cases name with ⟨-, own⟩ | ⟨network, -⟩ | own
      · exact .inr own
      · exact absurd ((above (networkNamed network)).mp upper) (named_apart rabbit network)
      · exact .inl own
    · exact ⟨_, (above rabbitNamed).mpr rabbit, if_pos rfl⟩
  · rename_i notRabbit
    split
    · rename_i network
      obtain ⟨nearest, listed, below⟩ := network
      apply effective_level_of_only
      · intro name upper
        rcases routing.own_level_cases name with ⟨rfl, -⟩ | ⟨-, own⟩ | own
        · exact absurd ((above rabbitNamed).mp upper) notRabbit
        · exact .inr own
        · exact .inl own
      · have differs : nearest ≠ rabbitLogger := by
          rintro rfl
          exact notRabbit below
        refine ⟨nearest, (above (networkNamed listed)).mpr below, ?_⟩
        rw [ownLevel, if_neg differs, if_pos listed]
    · rename_i notNetwork
      have unset : ∀ name ∈ routing.lineage logger, routing.ownLevel name = 0 := by
        intro name upper
        rcases routing.own_level_cases name with ⟨rfl, -⟩ | ⟨network, -⟩ | own
        · exact absurd ((above rabbitNamed).mp upper) notRabbit
        · exact absurd ⟨name, network, (above (networkNamed network)).mp upper⟩ notNetwork
        · exact own
      have own : logger ∈ routing.lineage logger := List.mem_cons_self
      exact effective_level_of_only (fun name upper => .inl (unset name upper))
        ⟨logger, own, unset logger own⟩

-- The way up from a name only asks for shorter ones.
theorem loggers_above_congr {used other : List Char → Bool} (name : List Char)
    (agree : ∀ upper : List Char, upper.length < name.length → used upper = other upper) :
    loggersAbove used name = loggersAbove other name := by
  fun_induction loggersAbove used name with
  | case1 => rw [loggersAbove]
  | case2 => simp [loggersAbove]
  | case3 last before isUsed ih =>
    have known : other (last :: before) = true := by
      rw [← agree _ (by simp)]
      exact isUsed
    rw [loggersAbove, if_pos rfl]
    rw [if_pos known, ih fun upper shorter => agree upper (Nat.lt_succ_of_lt shorter)]
  | case4 last before unused ih =>
    have unknown : ¬ other (last :: before) = true := by
      rw [← agree _ (by simp)]
      exact unused
    rw [loggersAbove, if_pos rfl]
    rw [if_neg unknown, ih fun upper shorter => agree upper (by simp at shorter ⊢; omega)]
  | case5 c rest noStop ih =>
    rw [ih fun upper shorter => agree upper (Nat.lt_succ_of_lt shorter),
      loggersAbove.eq_def other (c :: rest)]
    exact (if_neg noStop).symm

theorem effective_level_of_use (routing : Routing) (logger : String) :
    (routing.use logger).effectiveLevel logger = routing.effectiveLevel logger := by
  unfold use
  split
  · rfl
  · have lineage : { routing with used := logger :: routing.used }.lineage logger =
        routing.lineage logger := by
      unfold lineage
      dsimp only
      rw [loggers_above_congr]
      intro upper shorter
      have differs : String.ofList upper.reverse ≠ logger := by
        rintro rfl
        simp at shorter
      simp [differs]
    rw [effectiveLevel, lineage]
    rfl

theorem effective_level_positive (rabbit : 0 ≤ routing.rabbit) (network : 0 ≤ routing.network)
    (logger : String) : 0 < routing.effectiveLevel logger := by
  unfold effectiveLevel
  cases found : ((routing.lineage logger).map routing.ownLevel).find? (· ≠ 0) with
  | none => decide
  | some level =>
    have set : level ≠ 0 := by simpa using List.find?_some found
    obtain ⟨name, _, own⟩ := List.mem_map.mp (List.mem_of_find?_eq_some found)
    have least : 0 ≤ level := by
      rcases routing.own_level_cases name with ⟨-, same⟩ | ⟨-, same⟩ | same <;> omega
    rw [Option.getD_some]
    omega

theorem passes_exact (rabbit : 0 ≤ routing.rabbit) (network : 0 ≤ routing.network)
    (logger : String) (level : Int) :
    routing.passes logger level = true ↔ routing.effectiveLevel logger ≤ level := by
  have positive := effective_level_positive rabbit network logger
  rw [passes, Bool.and_eq_true, decide_eq_true_iff, decide_eq_true_iff]
  omega

end Routing
end RabbitRemote.Log
