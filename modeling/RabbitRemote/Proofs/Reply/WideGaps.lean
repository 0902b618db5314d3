import Mathlib.Data.List.SplitBy
import RabbitRemote.Proofs.Reply.Normalising

namespace RabbitRemote.Reply

-- Both blank or both visible. Cut where the kind changes, a text comes apart into its longest runs.
def sameKind (c d : Char) : Bool := Text.isBlank c == Text.isBlank d

-- What becomes of a whole run: a wide gap shrinks to one line feed, anything else stays.
def narrowed (run : List Char) : List Char :=
  if 2 ≤ run.length && run.all Text.isBlank then ['\n'] else run

-- No two blanks stand side by side.
def Tight (text : List Char) : Prop :=
  text.IsChain fun c d => Text.isBlank c = false ∨ Text.isBlank d = false

def visiblePart (text : List Char) : List Char := text.filter fun c => !Text.isBlank c

theorem normalise_visible_run {run : List Char} (visible : ∀ c ∈ run, Text.isBlank c = false)
    (rest : List Char) : normalise (run ++ rest) = run ++ normalise rest := by
  induction run with
  | nil => rfl
  | cons c run ih =>
    have later := ih fun d member => visible d (List.mem_cons_of_mem _ member)
    rw [List.cons_append, normalise_visible (visible c List.mem_cons_self), later]
    rfl

theorem wide_gap_passed {blanks rest : List Char} (blank : ∀ c ∈ blanks, Text.isBlank c = true)
    (last : ∀ c ∈ rest.head?, Text.isBlank c = false) :
    closeGaps .wide (blanks ++ rest) = '\n' :: normalise rest := by
  induction blanks with
  | nil =>
    cases rest with
    | nil => rfl
    | cons c rest =>
      rw [List.nil_append, normalise_visible (last c rfl), closeGaps, last c rfl]
      rfl
  | cons c blanks ih =>
    rw [List.cons_append, closeGaps, if_pos (blank c List.mem_cons_self)]
    exact ih fun d member => blank d (List.mem_cons_of_mem _ member)

theorem normalise_gap {gap rest : List Char} (blank : ∀ c ∈ gap, Text.isBlank c = true)
    (last : ∀ c ∈ rest.head?, Text.isBlank c = false) :
    normalise (gap ++ rest) = narrowed gap ++ normalise rest := by
  cases gap with
  | nil => rfl
  | cons c gap =>
    have here := blank c List.mem_cons_self
    cases gap with
    | nil => exact normalise_lone here last
    | cons d more =>
      have next := blank d (by simp)
      have passed : closeGaps .wide (more ++ rest) = '\n' :: normalise rest :=
        wide_gap_passed (fun e member => blank e (by simp [member])) last
      have wide : narrowed (c :: d :: more) = ['\n'] := by
        have all : (c :: d :: more).all Text.isBlank = true := List.all_eq_true.mpr blank
        rw [narrowed, all]
        simp
      rw [wide]
      simp only [List.cons_append, normalise, closeGaps, here, next, if_true, Gap.extend]
      exact passed

-- A run is of one kind throughout, that of its first character.
theorem kind_of_run {first : Char} {run : List Char}
    (chained : (first :: run).IsChain fun c d => sameKind c d = true) :
    ∀ c ∈ first :: run, Text.isBlank c = Text.isBlank first := by
  induction run generalizing first with
  | nil => simp
  | cons next run ih =>
    obtain ⟨same, later⟩ := List.isChain_cons_cons.mp chained
    have kind : Text.isBlank first = Text.isBlank next := eq_of_beq same
    intro c member
    rcases List.mem_cons.mp member with rfl | behind
    · rfl
    · rw [ih later c behind, kind]

theorem normalise_run {run rest : List Char} (nonempty : run ≠ [])
    (chained : run.IsChain fun c d => sameKind c d = true)
    (apart : ∀ d ∈ rest.head?, sameKind (run.getLast nonempty) d = false) :
    normalise (run ++ rest) = narrowed run ++ normalise rest := by
  cases run with
  | nil => exact absurd rfl nonempty
  | cons first run =>
    have kind := kind_of_run chained
    have last := kind _ (List.getLast_mem nonempty)
    cases blank : Text.isBlank first with
    | false =>
      have unblank : ∀ c ∈ first :: run, Text.isBlank c = false := by
        intro c member
        rw [kind c member, blank]
      have stays : narrowed (first :: run) = first :: run := by
        simp [narrowed, blank]
      rw [stays, normalise_visible_run unblank]
    | true =>
      refine normalise_gap (fun c member => (kind c member).trans blank) ?_
      intro d member
      have differs := apart d member
      rw [sameKind, last, blank] at differs
      simpa using differs

-- The runs are taken one after the other; each ends where something of the other kind begins.
theorem normalise_runs {runs : List (List Char)} (filled : [] ∉ runs)
    (chained : ∀ run ∈ runs, run.IsChain fun c d => sameKind c d = true)
    (apart : runs.IsChain fun run next =>
      ∃ here there, sameKind (run.getLast here) (next.head there) = false) :
    normalise runs.flatten = runs.flatMap narrowed := by
  induction runs with
  | nil => rfl
  | cons run runs ih =>
    have nonempty : run ≠ [] := fun nothing => filled (by simp [nothing])
    have later := ih (fun member => filled (List.mem_cons_of_mem _ member))
      (fun next member => chained next (List.mem_cons_of_mem _ member)) apart.tail
    rw [List.flatten_cons, List.flatMap_cons, ← later]
    refine normalise_run nonempty (chained run List.mem_cons_self) ?_
    cases runs with
    | nil => simp
    | cons next runs =>
      obtain ⟨⟨_, there, differs⟩, _⟩ := List.isChain_cons_cons.mp apart
      intro d member
      rw [List.flatten_cons, List.head?_append, List.head?_eq_some_head there] at member
      cases member
      exact differs

theorem normalise_by_runs (text : List Char) :
    normalise text = (text.splitBy sameKind).flatMap narrowed := by
  rw [← normalise_runs (List.nil_notMem_splitBy _ text)
    (fun _ member => List.isChain_of_mem_splitBy member) (List.isChain_getLast_head_splitBy _ text),
    List.flatten_splitBy]

theorem tight_behind_visible {c : Char} (visible : Text.isBlank c = false) {text : List Char}
    (tight : Tight text) : Tight (c :: text) :=
  List.isChain_cons.mpr ⟨fun _ _ => .inl visible, tight⟩

theorem tight_behind_gap (gap : Gap) {text : List Char} (tight : Tight text)
    (next : ∀ c ∈ text.head?, Text.isBlank c = false) : Tight (gap.text ++ text) := by
  have behind : ∀ blank : Char, Tight (blank :: text) := fun _ =>
    List.isChain_cons.mpr ⟨fun c member => .inr (next c member), tight⟩
  cases gap with
  | none => exact tight
  | single blank => exact behind blank
  | wide => exact behind '\n'

theorem close_gaps_tight (gap : Gap) (text : List Char) : Tight (closeGaps gap text) := by
  induction text generalizing gap with
  | nil => simpa [closeGaps] using tight_behind_gap gap (List.isChain_nil) (by simp)
  | cons c rest ih =>
    rw [closeGaps]
    cases here : Text.isBlank c with
    | true => exact ih _
    | false => exact tight_behind_gap gap (tight_behind_visible here (ih .none)) (by simpa using here)

theorem normalise_tight (text : List Char) : Tight (normalise text) := close_gaps_tight .none text

theorem normalise_of_tight {text : List Char} (tight : Tight text) : normalise text = text := by
  induction text with
  | nil => rfl
  | cons c rest ih =>
    have later := ih tight.tail
    cases here : Text.isBlank c with
    | false => rw [normalise_visible here, later]
    | true =>
      rw [normalise_lone here, later]
      intro d member
      simpa [here] using (List.isChain_cons.mp tight).1 d member

theorem normalise_twice (text : List Char) : normalise (normalise text) = normalise text :=
  normalise_of_tight (normalise_tight text)

theorem nothing_visible {blanks : List Char} (blank : ∀ c ∈ blanks, Text.isBlank c = true) :
    visiblePart blanks = [] := by
  simpa [visiblePart] using blank

theorem close_gaps_keeps_visible {gap : Gap} (blanks : ∀ c ∈ gap.text, Text.isBlank c = true)
    (text : List Char) : visiblePart (closeGaps gap text) = visiblePart text := by
  induction text generalizing gap with
  | nil => exact nothing_visible blanks
  | cons c rest ih =>
    rw [closeGaps]
    cases here : Text.isBlank c with
    | true =>
      rw [if_pos rfl, ih (gap_stays_blank blanks here)]
      simp [visiblePart, here]
    | false =>
      have later : visiblePart (closeGaps .none rest) = visiblePart rest :=
        ih (by simp [Gap.text])
      have nothing := nothing_visible blanks
      simp only [visiblePart] at later nothing ⊢
      simp [List.filter_append, nothing, here, later]

-- Every wide gap, and nothing else, becomes one line feed. So no two blanks are left side by side, all
-- that can be seen stays in its order, and normalising changes nothing where there is no wide gap,
-- least of all the second time.
theorem wide_gaps_alone_close (text : List Char) :
    normalise text = (text.splitBy sameKind).flatMap narrowed ∧
    Tight (normalise text) ∧
    visiblePart (normalise text) = visiblePart text ∧
    normalise (normalise text) = normalise text ∧
    (normalise text = text ↔ Tight text) := by
  refine ⟨normalise_by_runs text, normalise_tight text, ?_, normalise_twice text, ?_⟩
  · exact close_gaps_keeps_visible (by simp [Gap.text]) text
  · constructor
    · intro same
      rw [← same]
      exact normalise_tight text
    · exact normalise_of_tight

end RabbitRemote.Reply
