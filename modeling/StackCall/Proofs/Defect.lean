import StackCall.Proofs.Binding.Ambiguity

set_option autoImplicit false

namespace StackCall

inductive NameDefect (taken : List String) (parameter : Parameter) : Defect → Prop
  | empty (nameless : parameter.name = "") : NameDefect taken parameter .emptyName
  | repeated (named : parameter.name ≠ "") (again : parameter.name ∈ taken) :
      NameDefect taken parameter (.repeatedName parameter.name)

theorem name_defect_iff {taken : List String} {parameter : Parameter} {defect : Defect} :
    NameDefect taken parameter defect ↔
      parameter.name = "" ∧ defect = .emptyName ∨
        parameter.name ≠ "" ∧ parameter.name ∈ taken ∧ defect = .repeatedName parameter.name := by
  constructor
  · rintro (nameless | ⟨named, again⟩)
    · exact .inl ⟨nameless, rfl⟩
    · exact .inr ⟨named, again, rfl⟩
  · rintro (⟨nameless, rfl⟩ | ⟨named, again, rfl⟩)
    · exact .empty nameless
    · exact .repeated named again

theorem name_defect_congr {taken others : List String} {parameter : Parameter} {defect : Defect}
    (same : ∀ name, name ∈ taken ↔ name ∈ others) :
    NameDefect taken parameter defect ↔ NameDefect others parameter defect := by
  rw [name_defect_iff, name_defect_iff, same]

theorem Kind.accepts_map_iff (kind : Kind) :
    kind.acceptsMap = true ↔ kind = .any ∨ kind = .map := by
  cases kind <;> simp [acceptsMap]

namespace Declaration

def SoundNames (parameters : List Parameter) : Prop :=
  (∀ parameter ∈ parameters, parameter.name ≠ "") ∧ (parameters.map Parameter.name).Nodup

theorem name_defect?_eq_none_iff_sound_names (parameters : List Parameter) :
    nameDefect? [] parameters = none ↔ SoundNames parameters := by
  simp [name_defect?_eq_none_iff, SoundNames]

-- The first defect of a declaration: whatever the rules look at earlier is in order.
inductive FirstDefect (declaration : Declaration) : Defect → Prop
  | name {earlier later : List Parameter} {parameter : Parameter} {defect : Defect}
      (place : declaration.parameters = earlier ++ parameter :: later)
      (sound : SoundNames earlier)
      (wrong : NameDefect (earlier.map Parameter.name) parameter defect) :
      FirstDefect declaration defect
  | requiredDefault {earlier later : List Parameter} {parameter : Parameter} {value : Value}
      (names : SoundNames declaration.parameters)
      (place : declaration.required = earlier ++ parameter :: later)
      (plain : ∀ other ∈ earlier, other.default? = none)
      (default : parameter.default? = some value) :
      FirstDefect declaration (.requiredDefault parameter.name)
  | missingDefault {earlier later : List Parameter} {parameter : Parameter}
      (names : SoundNames declaration.parameters)
      (required : ∀ other ∈ declaration.required, other.default? = none)
      (place : declaration.optional = earlier ++ parameter :: later)
      (filled : ∀ other ∈ earlier, ∃ value, other.default? = some value)
      (missing : parameter.default? = none) :
      FirstDefect declaration (.missingDefault parameter.name)
  | ambiguousMap {earlier : List Parameter} {last : Parameter}
      (coherent : declaration.Coherent)
      (place : declaration.required = earlier ++ [last]) (several : earlier ≠ [])
      (choice : declaration.optional ≠ []) (map : last.kind = .any ∨ last.kind = .map) :
      FirstDefect declaration (.ambiguousMap last.name)

section

variable (seen : List String) (parameter : Parameter) (rest : List Parameter) (defect : Defect)

theorem name_defect?_cons_eq_none_iff :
    nameDefect? seen (parameter :: rest) = none ↔
      (parameter.name ≠ "" ∧ parameter.name ∉ seen) ∧
        nameDefect? (parameter.name :: seen) rest = none := by
  rw [nameDefect?]
  by_cases nameless : parameter.name = ""
  · simp [nameless]
  · by_cases again : parameter.name ∈ seen
    · simp [nameless, again]
    · simp [nameless, again]

theorem name_defect?_cons_eq_some_iff :
    nameDefect? seen (parameter :: rest) = some defect ↔
      NameDefect seen parameter defect ∨
        (parameter.name ≠ "" ∧ parameter.name ∉ seen) ∧
          nameDefect? (parameter.name :: seen) rest = some defect := by
  rw [nameDefect?, name_defect_iff]
  by_cases nameless : parameter.name = ""
  · simp [nameless, eq_comm]
  · by_cases again : parameter.name ∈ seen
    · simp [nameless, again, eq_comm]
    · simp [nameless, again]

end

theorem name_defect?_eq_some_iff (seen : List String) (parameters : List Parameter)
    (defect : Defect) :
    nameDefect? seen parameters = some defect ↔
      ∃ earlier parameter later, parameters = earlier ++ parameter :: later ∧
        nameDefect? seen earlier = none ∧
        NameDefect (earlier.map Parameter.name ++ seen) parameter defect := by
  induction parameters generalizing seen with
  | nil => simp [nameDefect?]
  | cons parameter rest ih =>
      have taken (earlier : List Parameter) (name : String) :
          name ∈ earlier.map Parameter.name ++ parameter.name :: seen ↔
            name ∈ (parameter :: earlier).map Parameter.name ++ seen := by
        simp only [List.map_cons, List.cons_append, List.mem_cons, List.mem_append]
        tauto
      rw [name_defect?_cons_eq_some_iff, ih]
      constructor
      · rintro (wrong | ⟨passed, earlier, item, later, rfl, others, wrong⟩)
        · exact ⟨[], parameter, rest, rfl, rfl, wrong⟩
        · exact ⟨parameter :: earlier, item, later, rfl,
            (name_defect?_cons_eq_none_iff seen parameter earlier).mpr ⟨passed, others⟩,
            (name_defect_congr (taken earlier)).mp wrong⟩
      · rintro ⟨earlier, item, later, split, passed, wrong⟩
        cases earlier with
        | nil =>
            cases split
            exact .inl wrong
        | cons first earlier =>
            cases split
            obtain ⟨first, others⟩ := (name_defect?_cons_eq_none_iff _ _ _).mp passed
            exact .inr ⟨first, earlier, item, later, rfl, others,
              (name_defect_congr (taken earlier)).mpr wrong⟩

theorem required_defect?_eq_some_iff (required : List Parameter) (defect : Defect) :
    requiredDefect? required = some defect ↔
      ∃ earlier parameter later, required = earlier ++ parameter :: later ∧
        (∀ other ∈ earlier, other.default? = none) ∧
        (∃ value, parameter.default? = some value) ∧ defect = .requiredDefault parameter.name := by
  simp only [requiredDefect?, Option.map_eq_some_iff, List.find?_eq_some_iff_append,
    Parameter.isOptional, Option.isSome_iff_exists, Bool.not_eq_true', Option.isSome_eq_false_iff,
    Option.isNone_iff_eq_none]
  constructor
  · rintro ⟨parameter, ⟨given, earlier, later, place, plain⟩, rfl⟩
    exact ⟨earlier, parameter, later, place, plain, given, rfl⟩
  · rintro ⟨earlier, parameter, later, place, plain, given, rfl⟩
    exact ⟨parameter, ⟨given, earlier, later, place, plain⟩, rfl⟩

theorem optional_defect?_eq_some_iff (optional : List Parameter) (defect : Defect) :
    optionalDefect? optional = some defect ↔
      ∃ earlier parameter later, optional = earlier ++ parameter :: later ∧
        (∀ other ∈ earlier, ∃ value, other.default? = some value) ∧
        parameter.default? = none ∧ defect = .missingDefault parameter.name := by
  simp only [optionalDefect?, Option.map_eq_some_iff, List.find?_eq_some_iff_append,
    Parameter.isOptional, Bool.not_not, Option.isSome_iff_exists, Bool.not_eq_true',
    Option.isSome_eq_false_iff, Option.isNone_iff_eq_none]
  constructor
  · rintro ⟨parameter, ⟨missing, earlier, later, place, filled⟩, rfl⟩
    exact ⟨earlier, parameter, later, place, filled, missing, rfl⟩
  · rintro ⟨earlier, parameter, later, place, filled, missing, rfl⟩
    exact ⟨parameter, ⟨missing, earlier, later, place, filled⟩, rfl⟩

theorem ambiguity?_eq_some_iff (declaration : Declaration) (defect : Defect) :
    declaration.ambiguity? = some defect ↔
      ∃ earlier last, declaration.required = earlier ++ [last] ∧ earlier ≠ [] ∧
        declaration.optional ≠ [] ∧ (last.kind = .any ∨ last.kind = .map) ∧
        defect = .ambiguousMap last.name := by
  have several (earlier : List Parameter) (last : Parameter) :
      1 < (earlier ++ [last]).length ↔ earlier ≠ [] := by
    rw [List.length_append, List.length_singleton, ← List.length_pos_iff]
    omega
  rw [ambiguity?]
  cases ends : declaration.required.getLast? with
  | none =>
      have nothing := List.getLast?_eq_none_iff.mp ends
      simp [nothing]
  | some last =>
      obtain ⟨earlier, place⟩ := List.getLast?_eq_some_iff.mp ends
      have only (front : List Parameter) (final : Parameter)
          (same : declaration.required = front ++ [final]) : front = earlier ∧ final = last := by
        simpa using same.symm.trans place
      simp only [place, several, ite_eq_iff, Option.some.injEq, reduceCtorEq, and_false, or_false,
        Kind.accepts_map_iff]
      constructor
      · rintro ⟨⟨more, choice⟩, map, rfl⟩
        exact ⟨earlier, last, rfl, more, choice, map, rfl⟩
      · rintro ⟨front, final, same, more, choice, map, rfl⟩
        obtain ⟨rfl, rfl⟩ := only front final (place.trans same)
        exact ⟨⟨more, choice⟩, map, rfl⟩

theorem defect?_eq_some_iff (declaration : Declaration) (defect : Defect) :
    declaration.defect? = some defect ↔ declaration.FirstDefect defect := by
  simp only [defect?, Option.or_eq_some_iff, Option.or_eq_none_iff, required_defect?_eq_none_iff,
    optional_defect?_eq_none_iff, required_defect?_eq_some_iff, optional_defect?_eq_some_iff,
    ambiguity?_eq_some_iff, name_defect?_eq_none_iff_sound_names]
  constructor
  · rintro (((wrong | ⟨names, wrong⟩) | ⟨⟨names, required⟩, wrong⟩) |
      ⟨⟨⟨names, required⟩, optional⟩, wrong⟩)
    · obtain ⟨earlier, parameter, later, place, sound, wrong⟩ :=
        (name_defect?_eq_some_iff [] _ _).mp wrong
      rw [List.append_nil] at wrong
      exact .name place ((name_defect?_eq_none_iff_sound_names earlier).mp sound) wrong
    · obtain ⟨earlier, parameter, later, place, plain, ⟨value, default⟩, rfl⟩ := wrong
      exact .requiredDefault names place plain default
    · obtain ⟨earlier, parameter, later, place, filled, missing, rfl⟩ := wrong
      exact .missingDefault names required place filled missing
    · obtain ⟨earlier, last, place, several, choice, map, rfl⟩ := wrong
      exact .ambiguousMap ⟨names.1, names.2, required, optional⟩ place several choice map
  · intro first
    cases first with
    | name place sound wrong =>
        refine .inl (.inl (.inl ((name_defect?_eq_some_iff [] _ _).mpr ?_)))
        refine ⟨_, _, _, place, (name_defect?_eq_none_iff_sound_names _).mpr sound, ?_⟩
        rwa [List.append_nil]
    | requiredDefault names place plain default =>
        exact .inl (.inl (.inr ⟨names, _, _, _, place, plain, ⟨_, default⟩, rfl⟩))
    | missingDefault names required place filled missing =>
        exact .inl (.inr ⟨⟨names, required⟩, _, _, _, place, filled, missing, rfl⟩)
    | ambiguousMap coherent place several choice map =>
        exact .inr ⟨⟨⟨⟨coherent.named, coherent.distinct⟩, coherent.required⟩, coherent.optional⟩,
          _, _, place, several, choice, map, rfl⟩

theorem build_eq_ok_iff (declaration : Declaration) (signature : Signature) :
    declaration.build = .ok signature ↔ signature.toDeclaration = declaration := by
  rw [build]
  split
  case h_1 sound =>
    constructor
    · intro built
      cases built
      rfl
    · rintro rfl
      rfl
  case h_2 defect found =>
    constructor
    · intro built
      cases built
    · rintro rfl
      rw [signature.sound] at found
      cases found

theorem build_eq_error_iff (declaration : Declaration) (fault : Fault) :
    declaration.build = .error fault ↔
      ∃ defect, declaration.FirstDefect defect ∧
        fault = .configuration declaration.function defect := by
  simp only [← defect?_eq_some_iff]
  rw [build]
  split
  case h_1 sound => simp [sound]
  case h_2 defect found => simp [found, eq_comm]

theorem find?_of_mem {parameters : List Parameter}
    (distinct : (parameters.map Parameter.name).Nodup)
    {parameter : Parameter} (member : parameter ∈ parameters) :
    parameters.find? (fun other => other.name == parameter.name) = some parameter := by
  obtain ⟨earlier, later, place⟩ := List.append_of_mem member
  rw [place, List.map_append, List.map_cons, List.nodup_append] at distinct
  rw [List.find?_eq_some_iff_append]
  refine ⟨beq_self_eq_true _, earlier, later, place, ?_⟩
  intro other front
  have different := distinct.2.2 other.name (List.mem_map_of_mem front) parameter.name
    List.mem_cons_self
  simpa using different

theorem get?_of_mem {declaration : Declaration}
    (distinct : (declaration.parameters.map Parameter.name).Nodup) {parameter : Parameter}
    (member : parameter ∈ declaration.parameters) :
    declaration.get? parameter.name = some parameter :=
  find?_of_mem distinct member

theorem get?_eq_none_iff (declaration : Declaration) (name : String) :
    declaration.get? name = none ↔ name ∉ declaration.parameters.map Parameter.name := by
  simp [get?]

theorem build_exact (declaration : Declaration) :
    ((∃ signature, declaration.build = .ok signature) ↔ declaration.WellFormed) ∧
      (∀ fault, declaration.build = .error fault ↔
        ∃ defect, declaration.FirstDefect defect ∧
          fault = .configuration declaration.function defect) ∧
      ∀ signature, declaration.build = .ok signature →
        signature.function = declaration.function ∧
          signature.required = declaration.required ∧
          signature.optional = declaration.optional ∧
          (∀ parameter ∈ declaration.parameters,
            signature.get? parameter.name = some parameter) ∧
          ∀ name ∉ declaration.parameters.map Parameter.name, signature.get? name = none := by
  refine ⟨?_, build_eq_error_iff declaration, ?_⟩
  · simp only [build_eq_ok_iff, ← defect?_eq_none_iff]
    constructor
    · rintro ⟨signature, rfl⟩
      exact signature.sound
    · intro sound
      exact ⟨⟨declaration, sound⟩, rfl⟩
  · intro signature built
    obtain rfl := (build_eq_ok_iff declaration signature).mp built
    exact ⟨rfl, rfl, rfl, fun parameter => get?_of_mem signature.well_formed.distinct,
      fun name => (get?_eq_none_iff signature.toDeclaration name).mpr⟩

theorem build_exact_repeated :
    let row : Parameter := ⟨"row", .long, "Row.", some (.long 1), none⟩
    let options : Parameter := ⟨"options", .map, "Options.", none, none⟩
    let size : Parameter := ⟨"size", .number, "Size.", none, none⟩
    Declaration.build ⟨"PLACE", [row, row], []⟩ =
        .error (.configuration "PLACE" (.repeatedName "row")) ∧
      ∃ signature, Declaration.build ⟨"PLACE", [options, size], [row]⟩ = .ok signature ∧
        signature.optional = [row] ∧ signature.get? "size" = some size ∧
        signature.get? "column" = none := by
  intro row options size
  constructor
  · have place : parameters ⟨"PLACE", [row, row], []⟩ = [row] ++ row :: [] := rfl
    have sound : SoundNames [row] := ⟨by decide, by decide⟩
    have again : NameDefect ["row"] row (.repeatedName "row") := .repeated (by decide) (by decide)
    exact ((build_exact ⟨"PLACE", [row, row], []⟩).2.1 _).mpr ⟨_, .name place sound again, rfl⟩
  · obtain ⟨accepted, _, kept⟩ := build_exact ⟨"PLACE", [options, size], [row]⟩
    obtain ⟨signature, built⟩ := accepted.mpr ((defect?_eq_none_iff _).mp rfl)
    obtain ⟨_, _, optional, declared, others⟩ := kept signature built
    exact ⟨signature, built, optional, declared size (.tail _ (.head _)), others _ (by decide)⟩

end Declaration

end StackCall
