import StackCall.Signature

set_option autoImplicit false

namespace StackCall

namespace Declaration

theorem is_empty_iff (declaration : Declaration) :
    declaration.isEmpty = true ↔ declaration.required = [] ∧ declaration.optional = [] := by
  simp [Declaration.isEmpty]

structure WellFormed (declaration : Declaration) : Prop where
  named : ∀ parameter ∈ declaration.parameters, parameter.name ≠ ""
  distinct : (declaration.parameters.map Parameter.name).Nodup
  required : ∀ parameter ∈ declaration.required, parameter.default? = none
  optional : ∀ parameter ∈ declaration.optional, ∃ value, parameter.default? = some value
  unambiguous : 1 < declaration.required.length → declaration.optional ≠ [] →
    ∀ last, declaration.required.getLast? = some last → last.kind.acceptsMap = false

-- The names seen so far stand for the parameters in front, so the induction is on the rest.
theorem name_defect?_eq_none_iff (seen : List String) (parameters : List Parameter) :
    nameDefect? seen parameters = none ↔
      (∀ parameter ∈ parameters, parameter.name ≠ "" ∧ parameter.name ∉ seen) ∧
        (parameters.map Parameter.name).Nodup := by
  induction parameters generalizing seen with
  | nil => simp [nameDefect?]
  | cons parameter rest ih =>
      by_cases nameless : parameter.name = ""
      · simp [nameDefect?, nameless]
      · by_cases repeated : parameter.name ∈ seen
        · simp [nameDefect?, nameless, repeated]
        · rw [nameDefect?, if_neg nameless, if_neg repeated, ih, List.map_cons, List.nodup_cons]
          simp only [List.mem_cons, List.mem_map]
          grind

theorem required_defect?_eq_none_iff (required : List Parameter) :
    requiredDefect? required = none ↔ ∀ parameter ∈ required, parameter.default? = none := by
  simp [requiredDefect?, Parameter.isOptional]

theorem optional_defect?_eq_none_iff (optional : List Parameter) :
    optionalDefect? optional = none ↔
      ∀ parameter ∈ optional, ∃ value, parameter.default? = some value := by
  simp [optionalDefect?, Parameter.isOptional, ← Option.ne_none_iff_exists']

theorem ambiguity?_eq_none_iff (declaration : Declaration) :
    declaration.ambiguity? = none ↔
      (1 < declaration.required.length → declaration.optional ≠ [] →
        ∀ last, declaration.required.getLast? = some last → last.kind.acceptsMap = false) := by
  rw [ambiguity?]
  cases declaration.required.getLast? with
  | none => simp
  | some last => simp

theorem defect?_eq_none_iff (declaration : Declaration) :
    declaration.defect? = none ↔ declaration.WellFormed := by
  rw [defect?, Option.or_eq_none_iff, Option.or_eq_none_iff, Option.or_eq_none_iff,
    name_defect?_eq_none_iff, required_defect?_eq_none_iff, optional_defect?_eq_none_iff,
    ambiguity?_eq_none_iff]
  constructor
  · rintro ⟨⟨⟨⟨named, distinct⟩, required⟩, optional⟩, unambiguous⟩
    exact ⟨fun parameter member => (named parameter member).1, distinct, required, optional,
      unambiguous⟩
  · intro formed
    exact ⟨⟨⟨⟨fun parameter member => ⟨formed.named parameter member, List.not_mem_nil⟩,
      formed.distinct⟩, formed.required⟩, formed.optional⟩, formed.unambiguous⟩

section

variable {declaration : Declaration}
  (distinct : (declaration.parameters.map Parameter.name).Nodup)

include distinct

theorem required_names_nodup : (declaration.required.map Parameter.name).Nodup := by
  rw [parameters, List.map_append, List.nodup_append] at distinct
  exact distinct.1

theorem optional_names_nodup : (declaration.optional.map Parameter.name).Nodup := by
  rw [parameters, List.map_append, List.nodup_append] at distinct
  exact distinct.2.1

theorem optional_name_not_required {parameter : Parameter}
    (member : parameter ∈ declaration.optional) :
    parameter.name ∉ declaration.required.map Parameter.name := by
  intro shared
  rw [parameters, List.map_append, List.nodup_append] at distinct
  exact distinct.2.2 parameter.name shared parameter.name (List.mem_map_of_mem member) rfl

end

theorem WellFormed.required_distinct {declaration : Declaration}
    (formed : declaration.WellFormed) : (declaration.required.map Parameter.name).Nodup :=
  required_names_nodup formed.distinct

theorem WellFormed.optional_distinct {declaration : Declaration}
    (formed : declaration.WellFormed) : (declaration.optional.map Parameter.name).Nodup :=
  optional_names_nodup formed.distinct

theorem WellFormed.optional_not_required {declaration : Declaration}
    (formed : declaration.WellFormed) {parameter : Parameter}
    (member : parameter ∈ declaration.optional) :
    parameter.name ∉ declaration.required.map Parameter.name :=
  optional_name_not_required formed.distinct member

theorem validate_eq_ok_iff (declaration : Declaration) :
    declaration.validate = .ok () ↔ declaration.WellFormed := by
  rw [← defect?_eq_none_iff, validate]
  cases declaration.defect? with
  | none => simp
  | some defect => simp

end Declaration

namespace Signature

theorem well_formed (signature : Signature) : signature.toDeclaration.WellFormed :=
  signature.defect?_eq_none_iff.mp signature.sound

end Signature

end StackCall
