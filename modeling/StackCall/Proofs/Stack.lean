import StackCall.Stack

set_option autoImplicit false

namespace StackCall.Stack

def NoMapOnTop (stack : Stack) : Prop :=
  ∀ entries, stack.levels.head? ≠ some (.map entries)

def pushAll (stack : Stack) (values : List Value) : Stack :=
  values.foldl (fun stack value => stack.push value) stack

theorem push_all_eq (stack : Stack) (values : List Value) :
    stack.pushAll values = ⟨values.reverse ++ stack.levels⟩ := by
  induction values generalizing stack with
  | nil => rfl
  | cons value rest ih =>
      have step : stack.pushAll (value :: rest) = (stack.push value).pushAll rest := rfl
      rw [step, ih, push, List.reverse_cons, List.append_assoc]
      rfl

theorem no_map_on_top_append (values below : List Value) (some : values ≠ []) :
    NoMapOnTop ⟨values.reverse ++ below⟩ ↔
      ∀ entries, values.getLast? ≠ Option.some (.map entries) := by
  cases reversed : values.reverse with
  | nil => exact absurd (List.reverse_eq_nil_iff.mp reversed) some
  | cons top rest =>
      have last : values.getLast? = Option.some top := by
        rw [← List.head?_reverse, reversed, List.head?_cons]
      rw [last]
      exact Iff.rfl

end StackCall.Stack
