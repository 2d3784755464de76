import StackCall.CommandLine.Report
import StackCall.Proofs.Literal.Printable

set_option autoImplicit false

namespace StackCall

namespace Stack

def label (number : Nat) (value : Value) : String :=
  toString number ++ ": " ++ value.literal

def labels (stack : Stack) : List String :=
  stack.levels.zipIdx.reverse.map fun (value, level) => label (level + 1) value

def Listed (stack : Stack) (text : String) : Prop :=
  ∃ lines : List String, text.toList.splitOn '\n' = lines.map String.toList ++ [[]] ∧
    lines.length = stack.depth ∧
    ∀ level, level < stack.depth → ∃ value, stack.get level = .ok value ∧
      lines[stack.depth - (level + 1)]? = some (toString (level + 1) ++ ": " ++ value.literal)

theorem length_labels (stack : Stack) : stack.labels.length = stack.depth := by
  rw [labels, List.length_map, List.length_reverse, List.length_zipIdx, depth]

theorem labels_get_elem? (stack : Stack) (level : Nat) (below : level < stack.levels.length) :
    stack.labels[stack.depth - (level + 1)]? = some (label (level + 1) stack.levels[level]) := by
  have place : stack.levels.length - 1 - (stack.levels.length - (level + 1)) = level := by omega
  have inside : stack.depth - (level + 1) < stack.levels.zipIdx.length := by
    rw [List.length_zipIdx, depth]
    omega
  rw [labels, List.getElem?_map, List.getElem?_reverse inside, List.length_zipIdx, depth, place,
    List.getElem?_zipIdx, List.getElem?_eq_getElem below]
  simp

theorem get_eq_ok (stack : Stack) (level : Nat) (below : level < stack.levels.length) :
    stack.get level = .ok stack.levels[level] := by
  rw [get, List.getElem?_eq_getElem below]

theorem text_eq_labels (stack : Stack) :
    stack.text = String.join (stack.labels.map (· ++ "\n")) := by
  rw [text, labels, List.map_map]
  congr 1
  apply List.ext_getElem
  · simp [toList]
  · intro index left right
    have inside : index < stack.levels.length := by simpa [toList] using left
    have number : stack.levels.length - index = stack.levels.length - 1 - index + 1 := by omega
    simp [toList, depth, line, label, number]

theorem label_printable (number : Nat) (value : Value) :
    Literal.Printable (label number value).toList := by
  have digits : Literal.Printable (toString number).toList := by
    have token := (Literal.token_integer number).printable
    have positive : ¬ (number : ℤ) < 0 := Int.not_lt.mpr (Int.natCast_nonneg number)
    rw [integerText, if_neg positive, Int.natAbs_natCast] at token
    simpa using token
  have mark : Literal.Printable ": ".toList := Literal.fixed_printable rfl
  rw [label]
  exact Literal.append_printable (Literal.append_printable digits mark)
    (Literal.literal_printable value)

end Stack

theorem split_on_lines (lines : List String) (whole : ∀ line ∈ lines, '\n' ∉ line.toList) :
    (String.join (lines.map (· ++ "\n"))).toList.splitOn '\n' =
      lines.map String.toList ++ [[]] := by
  induction lines with
  | nil => rfl
  | cons line rest ih =>
      rw [List.forall_mem_cons] at whole
      have text : (String.join ((line :: rest).map (· ++ "\n"))).toList =
          line.toList ++ '\n' :: (String.join (rest.map (· ++ "\n"))).toList := by
        simp [String.toList_join]
      rw [text, List.splitOn_append_cons_self, List.splitOn_eq_singleton whole.1, ih whole.2,
        List.map_cons, List.singleton_append, List.cons_append]

theorem Stack.text_listed (stack : Stack) : stack.Listed stack.text := by
  refine ⟨stack.labels, ?_, stack.length_labels, ?_⟩
  · rw [text_eq_labels]
    apply split_on_lines
    intro line member
    obtain ⟨⟨value, level⟩, -, rfl⟩ := List.mem_map.mp member
    exact Literal.newline_not_mem (label_printable (level + 1) value)
  · intro level below
    exact ⟨_, stack.get_eq_ok level below, stack.labels_get_elem? level below⟩

theorem CommandLine.Command.listing_eq_text (stack : Stack) : listing stack = stack.text := by
  rw [listing, Stack.text_eq_labels, Stack.labels, List.map_map]
  have colon : ": " = ":" ++ " " := rfl
  congr 2
  funext ⟨value, level⟩
  simp only [Function.comp, Stack.label, colon, String.append_assoc]

end StackCall
