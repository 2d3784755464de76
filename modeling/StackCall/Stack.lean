import StackCall.Fault

set_option autoImplicit false

namespace StackCall

structure Stack where
  levels : List Value

namespace Stack

def empty : Stack := ⟨[]⟩

def ofList (values : List Value) : Stack := ⟨values.reverse⟩

def toList (stack : Stack) : List Value := stack.levels.reverse

def depth (stack : Stack) : Nat := stack.levels.length

def isEmpty (stack : Stack) : Bool := stack.levels.isEmpty

def push (value : Value) (stack : Stack) : Stack := ⟨value :: stack.levels⟩

def get (level : Nat) (stack : Stack) : Except Fault Value :=
  match stack.levels[level]? with
  | some value => .ok value
  | none => .error (.emptyStack level stack.depth)

def peek (stack : Stack) : Except Fault Value := stack.get 0

def pop (stack : Stack) : Except Fault Value × Stack :=
  match stack.levels with
  | value :: rest => (.ok value, ⟨rest⟩)
  | [] => (.error (.emptyStack 0 0), stack)

def same (shared : Dict Value → Dict Value → List String) (left right : Stack) : Bool :=
  sameItems shared left.levels right.levels

def line (number : Nat) (value : Value) : String :=
  toString number ++ ": " ++ value.literal ++ "\n"

def text (stack : Stack) : String :=
  String.join (stack.toList.zipIdx.map fun (value, index) => line (stack.depth - index) value)

end Stack

abbrev StackM := ExceptT Fault (StateM Stack)

namespace StackM

def onStack {α : Type} (action : StackM α) (stack : Stack) : Except Fault α × Stack :=
  action.run.run stack

def stack : StackM Stack :=
  ExceptT.mk (fun stack => (.ok stack, stack))

def ofExcept {α : Type} (outcome : Except Fault α) : StackM α :=
  ExceptT.mk (fun stack => (outcome, stack))

def get (level : Nat) : StackM Value :=
  ExceptT.mk (fun stack => (stack.get level, stack))

def pop : StackM Value :=
  ExceptT.mk (fun stack => stack.pop)

def push (value : Value) : StackM Unit :=
  ExceptT.mk (fun stack => (.ok (), stack.push value))

def depth : StackM Nat :=
  ExceptT.mk (fun stack => (.ok stack.depth, stack))

variable {α β : Type}

theorem on_stack_pure (x : α) (before : Stack) :
    (pure x : StackM α).onStack before = (.ok x, before) := rfl

theorem on_stack_throw (fault : Fault) (before : Stack) :
    (throw fault : StackM α).onStack before = (.error fault, before) := rfl

theorem on_stack_of_except (outcome : Except Fault α) (before : Stack) :
    (ofExcept outcome).onStack before = (outcome, before) := rfl

theorem on_stack_stack (before : Stack) : stack.onStack before = (.ok before, before) := rfl

theorem on_stack_get (level : Nat) (before : Stack) :
    (get level).onStack before = (before.get level, before) := rfl

theorem on_stack_pop (before : Stack) : pop.onStack before = before.pop := rfl

theorem on_stack_push (value : Value) (before : Stack) :
    (push value).onStack before = (.ok (), before.push value) := rfl

theorem on_stack_depth (before : Stack) : depth.onStack before = (.ok before.depth, before) := rfl

theorem on_stack_bind (first : StackM α) (second : α → StackM β) (before : Stack) :
    (first >>= second).onStack before =
      match first.onStack before with
      | (.ok x, after) => (second x).onStack after
      | (.error fault, after) => (.error fault, after) := by
  simp only [onStack, bind, ExceptT.bind, ExceptT.run, ExceptT.mk, StateT.run, StateT.bind]
  cases first before with
  | mk outcome after => cases outcome <;> rfl

end StackM

end StackCall
