import RabbitRemote.Arguments.Reading
import RabbitRemote.Proofs.Number.Literal

namespace RabbitRemote.Arguments

-- A place that was read can also be shown, be it one that no ear can take.
def Wish.Shown : Wish → Prop
  | .place position => Number.hasText position = true
  | _ => True

def Found.Shown (found : Found) : Prop := found.left.Shown ∧ found.right.Shown

theorem nothing_shown : Found.nothing.Shown := ⟨trivial, trivial⟩

def Task.Shown : Task → Prop
  | .ears left right => left.Shown ∧ right.Shown
  | _ => True

theorem wish_shown {value : String} {wish : Wish} (read : wishOf? value = some wish) :
    wish.Shown := by
  unfold wishOf? at read
  split at read
  · cases read
    trivial
  · cases number : Number.readInteger value.toList with
    | error fault =>
      rw [number] at read
      cases read
    | ok position =>
      rw [number] at read
      cases read
      exact Number.read_has_text number

theorem take_shown {stage : Stage} {switch : Switch} {value : String} {found taken : Found}
    (shown : found.Shown) (took : take stage switch value found = .ok taken) : taken.Shown := by
  unfold take at took
  split at took
  · cases took
    exact shown
  · cases took
    exact shown
  · rename_i wish read
    cases took
    exact ⟨wish_shown read, shown.2⟩
  · rename_i wish read
    cases took
    exact ⟨shown.1, wish_shown read⟩
  · cases took

theorem take_switch_shown {stage : Stage} {spelling : String} {switch : Switch}
    {attached? : Option String} {rest : List Token} {found taken : Found}
    {waiting? : Option Switch} (shown : found.Shown)
    (took : takeSwitch stage spelling switch attached? rest found = .ok (taken, waiting?)) :
    taken.Shown := by
  unfold takeSwitch at took
  split at took
  · cases attached? with
    | none =>
      cases took
      exact shown
    | some attached =>
      cases inner : take stage switch attached found with
      | error ending =>
        simp [inner, Except.map] at took
      | ok middle =>
        simp only [inner, Except.map, Except.ok.injEq, Prod.mk.injEq] at took
        exact took.1 ▸ take_shown shown inner
  · cases took

-- Along the tokens of a verb: either one ends the reading, or what it leaves is shown.
theorem read_verb_tokens_shown {verb : Verb} {found read : Found} {waiting? : Option Switch}
    {tokens : List Token} (shown : found.Shown)
    (done : readVerbTokens verb found waiting? tokens = .ok read) : read.Shown := by
  fun_induction readVerbTokens verb found waiting? tokens with
  | case1 =>
    cases done
    exact shown
  | case2 | case3 | case5 | case6 => cases done
  | case4 _ _ _ _ _ took ih => exact ih (take_shown shown took) done
  | case7 _ _ _ _ _ _ _ _ took ih => exact ih (take_switch_shown shown took) done
  | case8 _ _ _ ih | case9 _ _ _ _ _ ih | case10 _ _ _ _ _ _ ih | case11 _ _ _ _ ih
  | case12 _ _ _ ih | case13 _ _ _ ih => exact ih shown done

theorem task_shown {verb : Verb} {found : Found} {task : Task} (shown : found.Shown)
    (chosen : taskOf verb found = .ok task) : task.Shown := by
  unfold taskOf at chosen
  split at chosen <;> cases chosen
  all_goals first | exact shown | trivial

theorem read_verb_shown {verb : Verb} {args extras : List String} {task : Task}
    (read : readVerb verb args = .ok (task, extras)) : task.Shown := by
  unfold readVerb at read
  cases cut : tokens (.verb verb) args with
  | error ending =>
    simp [cut, bind, Except.bind] at read
  | ok pieces =>
    cases done : readVerbTokens verb Found.nothing none pieces with
    | error ending => simp [cut, done, bind, Except.bind] at read
    | ok found =>
      cases chosen : taskOf verb found with
      | error ending => simp [cut, done, chosen, bind, Except.bind] at read
      | ok own =>
        simp only [cut, done, chosen, bind, Except.bind, pure, Except.pure, Except.ok.injEq,
          Prod.mk.injEq] at read
        rw [← read.1]
        exact task_shown (read_verb_tokens_shown nothing_shown done) chosen

theorem end_with_verb_shown {found : Found} {name : String} {args : List String}
    {config? : Option String} {task : Task}
    (ended : endWithVerb found name args = .ok (config?, task)) : task.Shown := by
  unfold endWithVerb at ended
  split at ended
  · cases ended
  · split at ended
    · cases ended
    · rename_i own extras read
      dsimp only at ended
      split at ended
      · cases ended
        exact read_verb_shown read
      · cases ended

theorem read_main_tokens_shown {found : Found} {waiting? : Option Switch} {tokens : List Token}
    {config? : Option String} {task : Task}
    (done : readMainTokens found waiting? tokens = .ok (config?, task)) : task.Shown := by
  fun_induction readMainTokens found waiting? tokens with
  | case1 | case2 | case3 | case5 | case6 | case10 | case11 => cases done
  | case4 _ _ _ _ _ _ ih | case7 _ _ _ _ _ _ _ _ _ ih | case8 _ _ _ ih => exact ih done
  | case9 => exact end_with_verb_shown done

-- So are the places in a task that was read from a command line.
theorem read_shown {args : List String} {config? : Option String} {task : Task}
    (selected : read args = .ok (config?, task)) : task.Shown := by
  unfold read at selected
  cases cut : tokens .main args with
  | error ending => simp [cut, bind, Except.bind] at selected
  | ok pieces =>
    rw [cut] at selected
    exact read_main_tokens_shown selected

end RabbitRemote.Arguments
