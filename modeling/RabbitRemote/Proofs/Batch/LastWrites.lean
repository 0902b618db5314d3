import RabbitRemote.Proofs.Batch.Run

namespace RabbitRemote.Batch

-- What a step writes into a field. Only the field's own name does.
def Step.written? (field : Field) : Step → Option Value
  | .set (.text name) value => if name = field.name then some value else none
  | _ => none

-- The value that was written last, null if there was none.
def lastWritten (steps : List Step) (field : Field) : Value :=
  (steps.reverse.findSome? (Step.written? field)).getD .null

def isBlank : Value → Bool
  | .null => true
  | .text s => s = ""
  | .octets bytes => bytes = []
  | _ => false

-- Octets stay what they are, to be read in the caller's charset; everything else becomes text.
def sentValue : Value → Value
  | .octets bytes => .octets bytes
  | value => .text value.plain

def voiceOf (identity : Identity) : List (String × Value) :=
  match identity.voice? with
  | some voice => if voice = "" then [] else [("voice", .text voice)]
  | none => []

-- The parameters that values ask for: the identity first, and then the fields that are not blank.
def listed (identity : Identity) (values : Field → Value) : Ledger String Value :=
  [("sn", .text identity.mac), ("token", .text identity.token)] ++ voiceOf identity ++
    (Field.all.filter fun field => !isBlank (values field)).map fun field =>
      (field.name, sentValue (values field))

theorem sent_unless_blank (value : Value) : isSent value = !isBlank value := by
  cases value with
  | text s => by_cases empty : s = "" <;> simp [isSent, isBlank, empty]
  | octets bytes => cases bytes <;> rfl
  | _ => rfl

theorem parameter_of_writable {value : Value} (writable : value.writable = true) :
    parameterOf value = .ok (sentValue value) := by
  cases value with
  | octets bytes => rfl
  | _ =>
    rw [parameterOf, if_pos writable]
    · rfl
    · simp

theorem identity_listed (identity : Identity) : identityParameters identity =
    [("sn", .text identity.mac), ("token", .text identity.token)] ++ voiceOf identity := by
  unfold identityParameters voiceOf
  cases identity.voice? with
  | none => rfl
  | some voice => by_cases empty : voice = "" <;> simp [empty]

theorem field_parameters_of_writable {values : Field → Value}
    (renderable : ∀ field, (values field).writable = true) (fields : List Field) :
    fieldParameters values fields = .ok ((fields.filter fun field => !isBlank (values field)).map
      fun field => (field.name, sentValue (values field))) := by
  induction fields with
  | nil => rfl
  | cons field rest ih =>
    rw [fieldParameters, sent_unless_blank, parameter_of_writable (renderable field), ih]
    by_cases blank : isBlank (values field) = true
    · simp [blank]
    · simp [blank, bind, Except.bind, pure, Except.pure]

theorem parameters_listed {batch : Batch}
    (renderable : ∀ field, (batch.values field).writable = true) :
    batch.parameters = .ok (listed batch.identity batch.values) := by
  rw [Batch.parameters, field_parameters_of_writable renderable, identity_listed]
  rfl

theorem named_exact (name : String) (field : Field) :
    Field.named? (.text name) = some field ↔ name = field.name := by
  constructor
  · intro found
    have same := List.find?_some found
    exact (beq_iff_eq.mp same).symm
  · rintro rfl
    exact Field.field_of_own_name field

theorem unnamed {name : Value} (strange : ∀ field : Field, name ≠ .text field.name) :
    Field.named? name = none := by
  cases found : Field.named? name with
  | none => rfl
  | some field =>
    cases name with
    | text name => exact absurd (congrArg Value.text ((named_exact name field).mp found)) (strange field)
    | _ => cases found

theorem last_written_snoc (steps : List Step) (step : Step) (field : Field) :
    lastWritten (steps ++ [step]) field = (step.written? field).getD (lastWritten steps field) := by
  rw [lastWritten, List.reverse_append, List.reverse_singleton, List.singleton_append,
    List.findSome?_cons]
  cases step.written? field <;> rfl

-- One case for each thing that an owner may do; only the first one can touch the values.
theorem values_after_step (batch : Batch) (step : Step) (field : Field) :
    (batch.after step).values field = (step.written? field).getD (batch.values field) := by
  cases step with
  | register label verifier => rfl
  | dispatch conversion address answer =>
    obtain ⟨ears, kept⟩ := dispatch_only_hears batch conversion address answer
    rw [after, kept]
    rfl
  | set name value =>
    cases name with
    | text name =>
      rw [after, setNamed, Step.written?]
      cases found : Field.named? (.text name) with
      | none =>
        have differs : name ≠ field.name := by
          intro same
          cases found.symm.trans ((named_exact name field).mpr same)
        rw [if_neg differs]
        rfl
      | some other =>
        obtain rfl := (named_exact name other).mp found
        dsimp only
        rw [value_after_set]
        by_cases same : field = other
        · rw [if_pos same, if_pos (congrArg Field.name same.symm)]
          rfl
        · have differs : other.name ≠ field.name := fun named =>
            same (Field.own_name_distinct named).symm
          rw [if_neg same, if_neg differs]
          rfl
    | _ => rfl

theorem identity_after_step (batch : Batch) (step : Step) :
    (batch.after step).identity = batch.identity := by
  cases step with
  | register label verifier => rfl
  | dispatch conversion address answer =>
    obtain ⟨ears, kept⟩ := dispatch_only_hears batch conversion address answer
    rw [after, kept]
  | set name value =>
    rcases after_set batch name value with same | ⟨field, written⟩
    · rw [same]
    · rw [written]
      rfl

theorem run_values (identity : Identity) (steps : List Step) :
    ((empty identity).run steps).values = lastWritten steps := by
  induction steps using List.reverseRecOn with
  | nil => rfl
  | append_singleton steps step ih =>
    funext field
    rw [run_snoc, values_after_step, ih, last_written_snoc]

theorem run_identity (identity : Identity) (steps : List Step) :
    ((empty identity).run steps).identity = identity := by
  induction steps using List.reverseRecOn with
  | nil => rfl
  | append_singleton steps step ih => rw [run_snoc, identity_after_step, ih]

theorem listed_once (identity : Identity) (values : Field → Value) :
    (Ledger.keys (listed identity values)).Nodup := by
  have fields : (Field.all.map Field.name).Nodup := by decide
  have kept : ((Field.all.filter fun field => !isBlank (values field)).map Field.name).Nodup :=
    fields.sublist (List.filter_sublist.map Field.name)
  have parted : Ledger.keys (listed identity values) =
      Ledger.keys (identityParameters identity) ++
        (Field.all.filter fun field => !isBlank (values field)).map Field.name := by
    rw [identity_listed, listed]
    simp [Ledger.keys, Function.comp_def]
  have front : (Ledger.keys (identityParameters identity)).Nodup := by
    unfold identityParameters
    dsimp only
    split <;> simp [Ledger.keys]
  rw [parted]
  apply List.nodup_append.mpr
  refine ⟨front, kept, ?_⟩
  intro name known other among same
  obtain ⟨field, _, rfl⟩ := List.mem_map.mp among
  exact identity_names_no_field identity field (same ▸ known)

theorem unknown_name_refused (batch : Batch) {name : Value} (value : Value)
    (strange : ∀ field : Field, name ≠ .text field.name) :
    batch.after (.set name value) = batch ∧ (name.writable = true →
      batch.setNamed name value = .error (.unknownField name)) := by
  have unknown := unnamed strange
  constructor
  · rw [after, setNamed, unknown]
  · intro writable
    rw [setNamed, unknown]
    exact congrArg Except.error (if_pos writable)

-- The parameters of a batch are those that the last writes ask for, each under a key of its own, so
-- they are the same after any other steps with the same last writes. A name that is no field's is
-- refused and writes nothing.
theorem parameters_of_last_writes (identity : Identity) (steps : List Step)
    (renderable : ∀ field, (lastWritten steps field).writable = true) :
    ((empty identity).run steps).parameters = .ok (listed identity (lastWritten steps)) ∧
    (Ledger.keys (listed identity (lastWritten steps))).Nodup ∧
    (∀ others, (∀ field, lastWritten others field = lastWritten steps field) →
      ((empty identity).run others).parameters = ((empty identity).run steps).parameters) ∧
    ∀ name value, (∀ field : Field, name ≠ .text field.name) →
      ((empty identity).run steps).after (.set name value) = (empty identity).run steps ∧
      (name.writable = true → ((empty identity).run steps).setNamed name value =
        .error (.unknownField name) ∧ (Failure.unknownField name).kind = .refusal) := by
  have written : ∀ others, (∀ field, lastWritten others field = lastWritten steps field) →
      ((empty identity).run others).parameters = .ok (listed identity (lastWritten steps)) := by
    intro others same
    have values : ((empty identity).run others).values = lastWritten steps := by
      rw [run_values]
      funext field
      exact same field
    rw [parameters_listed, values, run_identity]
    rw [values]
    exact renderable
  have own := written steps fun _ => rfl
  refine ⟨own, listed_once identity _, ?_, ?_⟩
  · intro others same
    rw [written others same, own]
  · intro name value strange
    obtain ⟨kept, refused⟩ := unknown_name_refused ((empty identity).run steps) value strange
    exact ⟨kept, fun writable => ⟨refused writable, rfl⟩⟩

theorem parameters_after_clearing :
    let identity : Identity := ⟨"0013d3", "secret", some "julie22k"⟩
    let steps : List Step := [.set (.text "ears") (.text "ok"), .set (.text "tts") (.text "first"),
      .set (.text "volume") (.whole 3), .set (.text "idapp") (.whole 0),
      .set (.text "tts") (.octets [0xE9]), .set (.text "ears") .null,
      .set (.text "idmessage") (.truth false), .set (.text "chor") (.text "")]
    (∀ field, (lastWritten steps field).writable = true) ∧
    listed identity (lastWritten steps) = [("sn", .text "0013d3"), ("token", .text "secret"),
      ("voice", .text "julie22k"), ("idmessage", .text "False"), ("idapp", .text "0"),
      ("tts", .octets [0xE9])] ∧
    ((empty identity).run steps).parameters = .ok (listed identity (lastWritten steps)) := by
  intro identity steps
  have renderable : ∀ field, (lastWritten steps field).writable = true := by
    intro field
    cases field <;> decide +kernel
  exact ⟨renderable, rfl, (parameters_of_last_writes identity steps renderable).1⟩

end RabbitRemote.Batch
