import StackCall.Proofs.Binding.Outcome
import StackCall.Proofs.Declaration
import StackCall.Proofs.Dict

set_option autoImplicit false

namespace StackCall

theorem names_zip (parameters : List Parameter) (values : List Value)
    (length : values.length = parameters.length) :
    ((parameters.map Parameter.name).zip values).map Prod.fst = parameters.map Parameter.name :=
  List.map_fst_zip (Nat.le_of_eq (by rw [List.length_map, length]))

theorem get?_by_name_eq_none_iff (parameters : List Parameter) (values : List Value) (name : String)
    (length : values.length = parameters.length) :
    (byName parameters values).get? name = none ↔ name ∉ parameters.map Parameter.name := by
  rw [byName, Dict.get?_of_list_eq_none_iff, names_zip parameters values length]

theorem get?_by_name (parameters : List Parameter) (values : List Value)
    (distinct : (parameters.map Parameter.name).Nodup)
    (length : values.length = parameters.length) (index : Nat)
    (declared : index < parameters.length) :
    (byName parameters values).get? parameters[index].name = values[index]? := by
  have bound : index < values.length := length ▸ declared
  have member : (parameters[index].name, values[index]) ∈
      (parameters.map Parameter.name).zip values := by
    refine List.mem_iff_getElem.mpr ⟨index, ?_, ?_⟩
    · rw [List.length_zip, List.length_map, length, Nat.min_self]
      exact declared
    · rw [List.getElem_zip, List.getElem_map]
  rw [List.getElem?_eq_getElem bound, byName]
  refine Dict.get?_of_list_of_mem ?_ member
  rwa [names_zip parameters values length]

-- No optional name is in the map, as names are distinct, so only the required ones are checked.
theorem Declaration.check_named_by_name_iff (declaration : Declaration)
    (distinct : (declaration.parameters.map Parameter.name).Nodup) (values : List Value)
    (length : values.length = declaration.required.length) :
    declaration.checkNamed (byName declaration.required values) = .ok () ↔
      Fits declaration.required values := by
  have requiredDistinct := required_names_nodup distinct
  rw [check_named_eq_ok_iff, fits_iff_get_elem declaration.required values length]
  constructor
  · rintro ⟨required, _⟩ index declared
    have accepted := required declaration.required[index] (List.getElem_mem declared)
    rwa [get?_by_name declaration.required values requiredDistinct length index declared]
      at accepted
  · intro accepted
    refine ⟨?_, ?_⟩
    · intro parameter member
      obtain ⟨index, declared, rfl⟩ := List.mem_iff_getElem.mp member
      rw [get?_by_name declaration.required values requiredDistinct length index declared]
      exact accepted index declared
    · intro parameter member value found
      have missing :=
        (get?_by_name_eq_none_iff declaration.required values parameter.name length).mpr
        (optional_name_not_required distinct member)
      exact nomatch missing.symm.trans found

-- Levels are taken from the top down, so the parameters come in reverse order; with distinct names
-- that makes no difference.
theorem by_name_reverse (parameters : List Parameter) (values : List Value)
    (distinct : (parameters.map Parameter.name).Nodup)
    (length : values.length = parameters.length) :
    byName parameters.reverse values = byName parameters values.reverse := by
  have reversed : values.reverse.length = parameters.length := by rw [List.length_reverse, length]
  have reversedLength : values.length = parameters.reverse.length := by
    rw [length, List.length_reverse]
  have reversedDistinct : (parameters.reverse.map Parameter.name).Nodup := by
    rw [List.map_reverse]
    exact (List.reverse_perm _).nodup_iff.mpr distinct
  apply Entries.ext
  intro name
  by_cases member : name ∈ parameters.map Parameter.name
  · obtain ⟨parameter, declared, rfl⟩ := List.mem_map.mp member
    obtain ⟨index, bound, rfl⟩ := List.mem_iff_getElem.mp declared
    rw [get?_by_name parameters values.reverse distinct reversed index bound]
    have mirrored : parameters.length - 1 - index < parameters.reverse.length := by
      rw [List.length_reverse]
      omega
    have found := get?_by_name parameters.reverse values reversedDistinct reversedLength
      (parameters.length - 1 - index) mirrored
    have back : parameters.length - 1 - (parameters.length - 1 - index) = index := by omega
    simp only [List.getElem_reverse, back] at found
    rw [found, List.getElem?_reverse (by rw [length]; exact bound), length]
  · rw [(get?_by_name_eq_none_iff parameters values.reverse name reversed).mpr member]
    apply (get?_by_name_eq_none_iff parameters.reverse values name reversedLength).mpr
    rwa [List.map_reverse, List.mem_reverse]

def defaultOf (optional : List Parameter) (name : String) : Option Value :=
  optional.findSome? fun parameter => if parameter.name = name then parameter.default? else none

theorem default_of_cons (parameter : Parameter) (rest : List Parameter) (name : String) :
    defaultOf (parameter :: rest) name =
      (if parameter.name = name then parameter.default? else none).or (defaultOf rest name) := by
  rw [defaultOf, List.findSome?_cons]
  cases (if parameter.name = name then parameter.default? else none) <;> rfl

-- A value that is bound already stays, so each step adds the front default behind it.
theorem get?_fill_defaults (values : Dict Value) (optional : List Parameter) (name : String) :
    (fillDefaults values optional).get? name = (values.get? name).or (defaultOf optional name) := by
  induction optional generalizing values with
  | nil => exact (Option.or_none).symm
  | cons parameter rest ih =>
      rw [default_of_cons, ← Option.or_assoc]
      cases default : parameter.default? with
      | none =>
          rw [ite_self, Option.or_none, ← ih values]
          simp only [fillDefaults, List.foldl_cons, default]
      | some value =>
          have step : fillDefaults values (parameter :: rest) =
              fillDefaults (values.insertNew parameter.name value) rest := by
            simp only [fillDefaults, List.foldl_cons, default]
          rw [step, ih, Entries.get?_insert_new]
          by_cases same : parameter.name = name
          · rw [if_pos same.symm, if_pos same, same]
            cases values.get? name <;> rfl
          · rw [if_neg (Ne.symm same), if_neg same, Option.or_none]

theorem default_of_eq_none (optional : List Parameter) (name : String)
    (other : name ∉ optional.map Parameter.name) : defaultOf optional name = none := by
  rw [defaultOf, List.findSome?_eq_none_iff]
  intro parameter member
  apply if_neg
  intro same
  exact other (same ▸ List.mem_map_of_mem member)

theorem default_of_of_mem (optional : List Parameter)
    (distinct : (optional.map Parameter.name).Nodup) (parameter : Parameter)
    (member : parameter ∈ optional) : defaultOf optional parameter.name = parameter.default? := by
  induction optional with
  | nil => exact nomatch member
  | cons first rest ih =>
      rw [List.map_cons, List.nodup_cons] at distinct
      rw [default_of_cons]
      rcases List.mem_cons.mp member with rfl | later
      · rw [if_pos rfl, default_of_eq_none rest parameter.name distinct.1, Option.or_none]
      · have different : ¬ first.name = parameter.name := fun same =>
          distinct.1 (same ▸ List.mem_map_of_mem later)
        rw [if_neg different, Option.none_or, ih distinct.2 later]

end StackCall
