import RabbitRemote.Proofs.Batch.Endings
import RabbitRemote.Proofs.Ledger

namespace RabbitRemote.Batch

-- What the owner of a batch may do with it. The answer of the service stands beside a dispatch.
inductive Step where
  | set (name value : Value)
  | register (label : String) (verifier : Verifier)
  | dispatch (conversion : Conversion) (address : String) (answer : Answer)

-- A failure is caught, and the batch is as the failed step left it.
def after (batch : Batch) : Step → Batch
  | .set name value =>
    match batch.setNamed name value with
    | .ok written => written
    | .error _ => batch
  | .register label verifier => batch.register label verifier
  | .dispatch conversion address answer => (batch.dispatchBy conversion address answer).state

def run (batch : Batch) (steps : List Step) : Batch := steps.foldl after batch

def Step.registration? : Step → Option (String × Verifier)
  | .register label verifier => some (label, verifier)
  | _ => none

def registrations (steps : List Step) : List (String × Verifier) :=
  steps.filterMap Step.registration?

theorem run_snoc (batch : Batch) (steps : List Step) (step : Step) :
    batch.run (steps ++ [step]) = (batch.run steps).after step := by
  rw [run, List.foldl_append]
  rfl

theorem after_set (batch : Batch) (name value : Value) :
    batch.after (.set name value) = batch ∨
      ∃ field, batch.after (.set name value) = batch.set field value := by
  rw [after, setNamed]
  cases Field.named? name with
  | none => exact .inl rfl
  | some field => exact .inr ⟨field, rfl⟩

theorem verifiers_after_step (batch : Batch) (step : Step) :
    (batch.after step).verifiers = step.registration?.toList.foldl
      (fun ledger entry => Ledger.put ledger entry.1 entry.2) batch.verifiers := by
  cases step with
  | set name value =>
    rcases after_set batch name value with same | ⟨field, written⟩
    · rw [same]
      rfl
    · rw [written]
      rfl
  | register label verifier => rfl
  | dispatch conversion address answer =>
    obtain ⟨ears, kept⟩ := dispatch_only_hears batch conversion address answer
    rw [after, kept]
    rfl

-- Whatever else happens in between, the verifiers are those that were registered, in the order of
-- their labels.
theorem run_verifiers (identity : Identity) (steps : List Step) :
    ((empty identity).run steps).verifiers = Ledger.ofList (registrations steps) := by
  induction steps using List.reverseRecOn with
  | nil => rfl
  | append_singleton steps step ih =>
    have last : registrations (steps ++ [step]) =
        registrations steps ++ step.registration?.toList := by
      rw [registrations, List.filterMap_append]
      cases noted : step.registration? <;> simp [registrations, noted]
    rw [run_snoc, verifiers_after_step, ih, last, Ledger.ofList, Ledger.ofList, List.foldl_append]

end RabbitRemote.Batch
