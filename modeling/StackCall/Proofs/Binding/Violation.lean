import StackCall.Proofs.Binding.Checks

set_option autoImplicit false

namespace StackCall

def FirstAtFault {α : Type} (faulty : α → Fault → Prop) (items : List α) (fault : Fault) : Prop :=
  ∃ earlier item later, items = earlier ++ item :: later ∧
    (∀ other ∈ earlier, ∀ reason, ¬ faulty other reason) ∧ faulty item fault

section FirstAtFault

variable {α : Type} (faulty : α → Fault → Prop) (fault : Fault)

theorem not_first_at_fault_nil : ¬ FirstAtFault faulty [] fault := by
  rintro ⟨earlier, item, later, split, _⟩
  simp at split

theorem first_at_fault_cons (item : α) (rest : List α) :
    FirstAtFault faulty (item :: rest) fault ↔
      faulty item fault ∨ (∀ reason, ¬ faulty item reason) ∧ FirstAtFault faulty rest fault := by
  constructor
  · rintro ⟨earlier, blamed, later, split, fine, atFault⟩
    cases earlier with
    | nil =>
        cases split
        exact .inl atFault
    | cons first earlier =>
        cases split
        refine .inr ⟨fine item List.mem_cons_self, earlier, blamed, later, rfl, ?_, atFault⟩
        intro other member
        exact fine other (List.mem_cons_of_mem item member)
  · rintro (atFault | ⟨first, earlier, blamed, later, rfl, fine, atFault⟩)
    · refine ⟨[], item, rest, rfl, ?_, atFault⟩
      intro other member
      exact nomatch member
    · refine ⟨item :: earlier, blamed, later, rfl, ?_, atFault⟩
      intro other member
      rcases List.mem_cons.mp member with rfl | inEarlier
      · exact first
      · exact fine other inEarlier

theorem first_at_fault_cons_of_fine (item : α) (rest : List α)
    (fine : ∀ reason, ¬ faulty item reason) :
    FirstAtFault faulty (item :: rest) fault ↔ FirstAtFault faulty rest fault := by
  rw [first_at_fault_cons]
  exact ⟨fun blamed => (blamed.resolve_left (fine fault)).2, fun later => .inr ⟨fine, later⟩⟩

theorem check_cons_error_iff (item : α) (rest : List α) (fine : Bool) (blame : Fault)
    (check : Except Fault Unit)
    (atFault : ∀ reason, faulty item reason ↔ fine = false ∧ reason = blame)
    (later : check = .error fault ↔ FirstAtFault faulty rest fault) :
    (if fine then check else .error blame) = .error fault ↔
      FirstAtFault faulty (item :: rest) fault := by
  cases fine with
  | true =>
      rw [first_at_fault_cons_of_fine, if_pos rfl, later]
      intro reason blamed
      cases ((atFault reason).mp blamed).1
  | false =>
      have only : faulty item blame := (atFault blame).mpr ⟨rfl, rfl⟩
      rw [first_at_fault_cons, if_neg Bool.false_ne_true, Except.error.injEq]
      constructor
      · rintro rfl
        exact .inl only
      · rintro (blamed | ⟨none, _⟩)
        · exact ((atFault fault).mp blamed).2.symm
        · exact absurd only (none blame)

theorem first_at_fault_iff_get_elem? (items : List α) :
    FirstAtFault faulty items fault ↔
      ∃ (index : Nat) (item : α), items[index]? = some item ∧ faulty item fault ∧
        ∀ earlier < index, ∀ other, items[earlier]? = some other →
          ∀ reason, ¬ faulty other reason := by
  constructor
  · rintro ⟨earlier, item, later, rfl, fine, atFault⟩
    refine ⟨earlier.length, item, by simp, atFault, ?_⟩
    intro index before other found
    rw [List.getElem?_append_left before] at found
    exact fine other (List.mem_of_getElem? found)
  · rintro ⟨index, item, found, atFault, fine⟩
    obtain ⟨bound, rfl⟩ := List.getElem?_eq_some_iff.mp found
    refine ⟨items.take index, items[index], items.drop (index + 1), by simp, ?_, atFault⟩
    intro other member
    obtain ⟨earlier, before, rfl⟩ := List.mem_take_iff_getElem.mp member
    exact fine earlier (by omega) _ (List.getElem?_eq_getElem (by omega))

theorem exists_first_at_fault_iff (items : List α) :
    (∃ fault, FirstAtFault faulty items fault) ↔ ∃ item ∈ items, ∃ fault, faulty item fault := by
  induction items with
  | nil => simp [not_first_at_fault_nil]
  | cons item rest ih =>
      simp only [first_at_fault_cons, List.exists_mem_cons_iff, ← ih]
      grind

end FirstAtFault

section Named

variable (function : String) (entries : Dict Value) (parameter : Parameter) (fault : Fault)

-- This is all that can be wrong with an optional parameter, which may be left out.
inductive MistypedFault : Fault → Prop
  | mistyped {value : Value} (found : entries.get? parameter.name = some value)
      (refused : parameter.accepts value = false) :
      MistypedFault (.keyType function parameter.name parameter.label)

inductive RequiredFault : Fault → Prop
  | missing (absent : entries.get? parameter.name = none) :
      RequiredFault (.missingKey function parameter.name parameter.label)
  | mistyped {reason : Fault} (mistyped : MistypedFault function entries parameter reason) :
      RequiredFault reason

variable {entries parameter}

theorem not_mistyped_fault_of_missing (absent : entries.get? parameter.name = none) :
    ¬ MistypedFault function entries parameter fault := by
  intro atFault
  cases atFault with
  | mistyped found _ => cases absent.symm.trans found

theorem mistyped_fault_of_found {value : Value} (found : entries.get? parameter.name = some value) :
    MistypedFault function entries parameter fault ↔
      parameter.accepts value = false ∧
        fault = .keyType function parameter.name parameter.label := by
  constructor
  · intro atFault
    cases atFault with
    | mistyped held refused =>
        cases found.symm.trans held
        exact ⟨refused, rfl⟩
  · rintro ⟨refused, rfl⟩
    exact .mistyped found refused

theorem required_fault_of_missing (absent : entries.get? parameter.name = none) :
    RequiredFault function entries parameter fault ↔
      fault = .missingKey function parameter.name parameter.label := by
  constructor
  · intro atFault
    cases atFault with
    | missing _ => rfl
    | mistyped mistyped =>
        exact absurd mistyped (not_mistyped_fault_of_missing function fault absent)
  · rintro rfl
    exact .missing absent

theorem required_fault_of_found {value : Value} (found : entries.get? parameter.name = some value) :
    RequiredFault function entries parameter fault ↔
      parameter.accepts value = false ∧
        fault = .keyType function parameter.name parameter.label := by
  rw [← mistyped_fault_of_found function fault found]
  constructor
  · intro atFault
    cases atFault with
    | missing absent => cases absent.symm.trans found
    | mistyped mistyped => exact mistyped
  · exact .mistyped

variable (entries)

theorem check_required_error_iff (required : List Parameter) :
    checkRequired function entries required = .error fault ↔
      FirstAtFault (RequiredFault function entries) required fault := by
  induction required with
  | nil => simp [checkRequired, not_first_at_fault_nil]
  | cons parameter rest ih =>
      rw [checkRequired]
      cases found : entries.get? parameter.name with
      | none =>
          refine check_cons_error_iff _ _ parameter rest false _ _ ?_ ih
          intro reason
          rw [required_fault_of_missing function reason found, eq_self, true_and]
      | some value =>
          refine check_cons_error_iff _ _ parameter rest _ _ _ ?_ ih
          intro reason
          exact required_fault_of_found function reason found

theorem check_optional_error_iff (optional : List Parameter) :
    checkOptional function entries optional = .error fault ↔
      FirstAtFault (MistypedFault function entries) optional fault := by
  induction optional with
  | nil => simp [checkOptional, not_first_at_fault_nil]
  | cons parameter rest ih =>
      rw [checkOptional]
      cases found : entries.get? parameter.name with
      | none =>
          rw [first_at_fault_cons_of_fine _ _ _ _ fun reason =>
            not_mistyped_fault_of_missing function reason found]
          exact ih
      | some value =>
          refine check_cons_error_iff _ _ parameter rest _ _ _ ?_ ih
          intro reason
          exact mistyped_fault_of_found function reason found

theorem check_named_error_iff (declaration : Declaration) :
    declaration.checkNamed entries = .error fault ↔
      FirstAtFault (RequiredFault declaration.function entries) declaration.required fault ∨
        (∀ parameter ∈ declaration.required, ∀ reason,
          ¬ RequiredFault declaration.function entries parameter reason) ∧
        FirstAtFault (MistypedFault declaration.function entries) declaration.optional fault := by
  have anyRequired := exists_first_at_fault_iff (RequiredFault declaration.function entries)
    declaration.required
  simp only [← check_required_error_iff, ← check_optional_error_iff] at anyRequired ⊢
  rw [Declaration.checkNamed]
  cases required : checkRequired declaration.function entries declaration.required with
  | error other =>
      have atFault := anyRequired.mp ⟨other, required⟩
      simp only [bind, Except.bind]
      refine ⟨.inl, fun blamed => blamed.resolve_right ?_⟩
      rintro ⟨fine, _⟩
      obtain ⟨parameter, member, reason, found⟩ := atFault
      exact fine parameter member reason found
  | ok _ =>
      have fine : ∀ parameter ∈ declaration.required, ∀ reason,
          ¬ RequiredFault declaration.function entries parameter reason := by
        intro parameter member reason found
        obtain ⟨other, failed⟩ := anyRequired.mpr ⟨parameter, member, reason, found⟩
        cases required.symm.trans failed
      simp only [bind, Except.bind]
      refine ⟨fun failed => .inr ⟨fine, failed⟩, fun blamed => ?_⟩
      cases blamed with
      | inl failed => cases failed
      | inr blamed => exact blamed.2

end Named

def LevelFault (function : String) (level : (Parameter × Value) × Nat) (fault : Fault) : Prop :=
  level.1.1.accepts level.1.2 = false ∧
    fault = .positionalType function level.1.1.name level.1.1.label level.2

theorem check_values_error_iff (function : String) (start : Nat) (parameters : List Parameter)
    (values : List Value) (fault : Fault) :
    checkValues function start parameters values = .error fault ↔
      FirstAtFault (LevelFault function) ((parameters.zip values).zipIdx start) fault := by
  induction parameters generalizing start values with
  | nil => simp [checkValues, not_first_at_fault_nil]
  | cons parameter parameters ih =>
      cases values with
      | nil => simp [checkValues, not_first_at_fault_nil]
      | cons value values =>
          exact check_cons_error_iff (LevelFault function) fault ((parameter, value), start) _ _ _ _
            (fun _ => Iff.rfl) (ih (start + 1) values)

theorem mistyped_fault_argument_fault (function : String) (entries : Dict Value)
    (parameter : Parameter) (fault : Fault)
    (atFault : MistypedFault function entries parameter fault) : ArgumentFault function fault := by
  cases atFault
  exact .keyType _ _

theorem check_named_fault (declaration : Declaration) (entries : Dict Value) (fault : Fault)
    (failed : declaration.checkNamed entries = .error fault) :
    ArgumentFault declaration.function fault := by
  rcases (check_named_error_iff entries fault declaration).mp failed with
    ⟨_, parameter, _, _, _, atFault⟩ | ⟨_, _, parameter, _, _, _, atFault⟩
  · cases atFault with
    | missing _ => exact .missingKey _ _
    | mistyped mistyped => exact mistyped_fault_argument_fault _ _ _ _ mistyped
  · exact mistyped_fault_argument_fault _ _ _ _ atFault

theorem check_values_fault (function : String) (level : Nat) (parameters : List Parameter)
    (values : List Value) (fault : Fault)
    (failed : checkValues function level parameters values = .error fault) :
    ArgumentFault function fault := by
  obtain ⟨_, _, _, _, _, _, rfl⟩ := (check_values_error_iff _ _ _ _ _).mp failed
  exact .positionalType _ _ _

end StackCall
