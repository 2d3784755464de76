import Mathlib.Logic.Function.Basic
import StackCall.Proofs.Dict
import StackCall.Proofs.Text.Order
import StackCall.Registry

set_option autoImplicit false

namespace StackCall

inductive Registry.Action where
  | register (function : Function)
  | remove (name : String)
  | builtins

inductive Registry.Answer where
  | done (outcome : Except Fault Unit)
  | removed (function : Option Function)

abbrev Catalogue := String → Option Function

namespace Catalogue

open Registry (Action Answer)

variable (catalogue : Catalogue)

def isFree (function : Function) : Bool := (catalogue function.name).isNone

-- The map with the given functions, which replace none that it has.
def extend (functions : List Function) : Catalogue := fun name =>
  (catalogue name).or (functions.find? fun function => function.name = name)

def verdict (functions : List Function) : Except Fault Unit :=
  match functions.find? fun function => !catalogue.isFree function with
  | some taken => .error (.configuration taken.name .nameTaken)
  | none => .ok ()

def step : Action → Answer × Catalogue
  | .register function =>
      if catalogue.isFree function then
        (.done (.ok ()), Function.update catalogue function.name (some function))
      else (.done (.error (.configuration function.name .nameTaken)), catalogue)
  | .remove name => (.removed (catalogue name), Function.update catalogue name none)
  | .builtins =>
      (.done (catalogue.verdict Registry.builtins),
        catalogue.extend (Registry.builtins.takeWhile catalogue.isFree))

def run (catalogue : Catalogue) : List Action → List Answer × Catalogue
  | [] => ([], catalogue)
  | action :: rest =>
      let (answer, next) := catalogue.step action
      let (answers, last) := run next rest
      (answer :: answers, last)

def Named (catalogue : Catalogue) : Prop :=
  ∀ name function, catalogue name = some function → function.name = name

theorem named_update {catalogue : Catalogue} (named : catalogue.Named) (name : String)
    (entry : Option Function) (own : ∀ function, entry = some function → function.name = name) :
    Named (Function.update catalogue name entry) := by
  intro other function found
  rw [Function.update_apply] at found
  by_cases same : other = name
  · rw [if_pos same] at found
    rw [same]
    exact own function found
  · rw [if_neg same] at found
    exact named other function found

theorem named_extend {catalogue : Catalogue} (named : catalogue.Named)
    (functions : List Function) : (catalogue.extend functions).Named := by
  intro name function found
  rcases Option.or_eq_some_iff.mp found with held | ⟨_, added⟩
  · exact named name function held
  · simpa using List.find?_some added

theorem named_step {catalogue : Catalogue} (named : catalogue.Named) (action : Action) :
    (catalogue.step action).2.Named := by
  cases action with
  | register function =>
      by_cases free : catalogue.isFree function = true
      · simp only [step, if_pos free]
        apply named_update named
        intro other same
        rw [Option.some.inj same]
      · simp only [step, if_neg free]
        exact named
  | remove name =>
      apply named_update named
      intro function absent
      cases absent
  | builtins => exact named_extend named _

theorem named_run {catalogue : Catalogue} (named : catalogue.Named) (actions : List Action) :
    (catalogue.run actions).2.Named := by
  induction actions generalizing catalogue with
  | nil => exact named
  | cons action rest ih => exact ih (named_step named action)

end Catalogue

namespace Registry

def apply (registry : Registry) : Action → Answer × Registry
  | .register function =>
      match registry.register function with
      | .ok larger => (.done (.ok ()), larger)
      | .error fault => (.done (.error fault), registry)
  | .remove name =>
      let (function, smaller) := registry.remove name
      (.removed function, smaller)
  | .builtins =>
      let (outcome, larger) := registry.registerBuiltins
      (.done outcome, larger)

def applyAll (registry : Registry) : List Action → List Answer × Registry
  | [] => ([], registry)
  | action :: rest =>
      let (answer, next) := registry.apply action
      let (answers, last) := next.applyAll rest
      (answer :: answers, last)

theorem has_eq (registry : Registry) (function : Function) :
    registry.has function.name = !Catalogue.isFree registry.get? function := by
  rw [has, Entries.contains, Catalogue.isFree, Option.not_isNone]
  rfl

theorem register_taken {registry : Registry} {function : Function}
    (taken : Catalogue.isFree registry.get? function = false) :
    registry.register function = .error (.configuration function.name .nameTaken) := by
  rw [register, has_eq, taken, Bool.not_false, if_pos rfl]

theorem register_free {registry : Registry} {function : Function}
    (free : Catalogue.isFree registry.get? function = true) :
    ∃ larger, registry.register function = .ok larger ∧
      larger.get? = Function.update registry.get? function.name (some function) := by
  refine ⟨_, by rw [register, has_eq, free, Bool.not_true, if_neg Bool.false_ne_true], ?_⟩
  funext name
  rw [Function.update_apply]
  exact Entries.get?_insert registry.functions function.name function name

-- The functions that are still to be added keep the names that were free at the start, because no
-- two of them have one name.
theorem register_all_refines (functions : List Function) (registry : Registry)
    (catalogue : Catalogue) (distinct : (functions.map Function.name).Nodup)
    (agree : ∀ function ∈ functions, registry.get? function.name = catalogue function.name) :
    (registry.registerAll functions).1 = catalogue.verdict functions ∧
      (registry.registerAll functions).2.get? =
        Catalogue.extend registry.get? (functions.takeWhile catalogue.isFree) := by
  induction functions generalizing registry with
  | nil =>
      refine ⟨rfl, ?_⟩
      funext name
      exact Option.or_none.symm
  | cons function rest ih =>
      rw [List.map_cons, List.nodup_cons] at distinct
      have same : Catalogue.isFree registry.get? function = catalogue.isFree function := by
        rw [Catalogue.isFree, Catalogue.isFree, agree function List.mem_cons_self]
      cases free : catalogue.isFree function with
      | false =>
          rw [free] at same
          rw [registerAll, register_taken same]
          refine ⟨by simp [Catalogue.verdict, free], ?_⟩
          funext name
          simp [Catalogue.extend, free]
      | true =>
          rw [free] at same
          obtain ⟨larger, registered, view⟩ := register_free same
          have later : ∀ other ∈ rest, larger.get? other.name = catalogue other.name := by
            intro other member
            have different : other.name ≠ function.name := fun equal =>
              distinct.1 (equal ▸ List.mem_map_of_mem member)
            rw [view, Function.update_of_ne different]
            exact agree other (List.mem_cons_of_mem function member)
          obtain ⟨outcome, added⟩ := ih larger distinct.2 later
          rw [registerAll, registered]
          refine ⟨outcome.trans (by simp [Catalogue.verdict, free]), ?_⟩
          funext name
          rw [added, List.takeWhile_cons_of_pos free, view, Catalogue.extend, Catalogue.extend,
            Function.update_apply, List.find?_cons]
          by_cases found : name = function.name
          · have none := Option.isNone_iff_eq_none.mp same
            simp [found, none]
          · simp [found, Ne.symm found]

theorem apply_refines (registry : Registry) (action : Action) :
    (registry.apply action).1 = (Catalogue.step registry.get? action).1 ∧
      (registry.apply action).2.get? = (Catalogue.step registry.get? action).2 := by
  cases action with
  | register function =>
      cases free : Catalogue.isFree registry.get? function with
      | false => simp [apply, register_taken free, Catalogue.step, free]
      | true =>
          obtain ⟨larger, registered, view⟩ := register_free free
          simp [apply, registered, Catalogue.step, free, view]
  | remove name =>
      refine ⟨rfl, ?_⟩
      funext other
      simp only [Catalogue.step, Function.update_apply]
      exact Entries.get?_erase name registry.functions other
  | builtins =>
      obtain ⟨outcome, added⟩ := register_all_refines builtins registry registry.get?
        (by decide) (fun _ _ => rfl)
      exact ⟨congrArg Answer.done outcome, added⟩

theorem apply_all_refines (registry : Registry) (actions : List Action) :
    (registry.applyAll actions).1 = (Catalogue.run registry.get? actions).1 ∧
      (registry.applyAll actions).2.get? = (Catalogue.run registry.get? actions).2 := by
  induction actions generalizing registry with
  | nil => exact ⟨rfl, rfl⟩
  | cons action rest ih =>
      obtain ⟨answer, next⟩ := registry.apply_refines action
      obtain ⟨answers, last⟩ := ih (registry.apply action).2
      rw [next] at answers last
      exact ⟨congrArg₂ List.cons answer answers, last⟩

structure Orderly (registry : Registry) : Prop where
  named : ∀ name function, registry.get? name = some function → function.name = name
  ascending : registry.names.Pairwise fun first second => Text.bytes first < Text.bytes second
  listed : ∀ name, name ∈ registry.names ↔ registry.has name = true
  counted : registry.size = registry.names.length
  vacant : registry.isEmpty = true ↔ registry.names = []
  unknown : ∀ name, name ∉ registry.names → ∀ stack,
    (registry.call name).onStack stack = (.error (.unknownFunction name), stack)

theorem orderly_of_named (registry : Registry) (named : Catalogue.Named registry.get?) :
    registry.Orderly := by
  have listed : ∀ name, name ∈ registry.names ↔ registry.has name = true :=
    Entries.mem_keys_iff registry.functions
  refine ⟨named, ?_, listed, ?_, ?_, ?_⟩
  · exact registry.functions.keys_ascending.imp Text.bytes_lt
  · exact (List.length_map Prod.fst).symm
  · rw [isEmpty, names]
    cases registry.functions with
    | nil => exact iff_of_true rfl rfl
    | cons key above value rest => simp [Entries.isEmpty, Entries.keys_cons]
  · intro name absent stack
    have missing : registry.get? name = none := by
      rw [listed, has, Entries.contains, Option.not_isSome_iff_eq_none] at absent
      exact absent
    rw [call, missing, StackM.on_stack_throw]

theorem standard_eq : empty.registerBuiltins = (.ok (), standard) := by
  have free : Catalogue.verdict empty.get? builtins = .ok () := by rfl
  have outcome := (empty.apply_refines .builtins).1
  exact Prod.ext (Answer.done.inj outcome |>.trans free) rfl

theorem empty_named : Catalogue.Named empty.get? := by
  intro name function found
  cases found

theorem standard_named : Catalogue.Named standard.get? := by
  have view := (empty.apply_refines .builtins).2
  rw [apply, standard_eq] at view
  rw [view]
  exact Catalogue.named_step empty_named .builtins

theorem apply_all_refines_map (start : Registry) (initial : start = .empty ∨ start = .standard)
    (actions : List Action) :
    builtins.map Function.name = ["ATAN2", "ROUND", "PAD", "DEPTH"] ∧
      (start.applyAll actions).1 = (Catalogue.run start.get? actions).1 ∧
      (start.applyAll actions).2.get? = (Catalogue.run start.get? actions).2 ∧
      (start.applyAll actions).2.Orderly := by
  have named : Catalogue.Named start.get? := by
    rcases initial with rfl | rfl
    · exact empty_named
    · exact standard_named
  obtain ⟨answers, last⟩ := start.apply_all_refines actions
  refine ⟨rfl, answers, last, orderly_of_named _ ?_⟩
  rw [last]
  exact Catalogue.named_run named actions

theorem apply_all_refines_map_shadowed :
    let own : Function := { signature := Signature.empty "ROUND", body := fun _ => pure () }
    let actions : List Action := [.register own, .builtins, .remove "ATAN2", .builtins]
    let taken : Except Fault Unit := .error (.configuration "ROUND" .nameTaken)
    let last := (empty.applyAll actions).2
    (empty.applyAll actions).1 =
        [.done (.ok ()), .done taken, .removed (some Builtin.angle), .done taken] ∧
      last.get? "ROUND" = some own ∧ last.names = ["ATAN2", "ROUND"] ∧ last.Orderly := by
  intro own actions taken last
  obtain ⟨-, answers, view, orderly⟩ := apply_all_refines_map empty (.inl rfl) actions
  exact ⟨answers.trans rfl, (congrFun view "ROUND").trans rfl, by decide, orderly⟩

end Registry

end StackCall
