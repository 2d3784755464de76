set_option autoImplicit false

namespace StackCall.Text

open String.Slice (Pos)
open String.Slice.Pattern (toList_splitToSubslice_eq_modelSplit)
open String.Slice.Pattern.Model (MatchesAt split_eq_of_isLongestMatchAt split_eq_of_not_matchesAt)
open String.Slice.Pattern.Model.ForwardStringSearcher (strictPatternModel matchesAt_iff_splits
  isLongestMatchAt_iff_splits lawfulToForwardSearcherModel)

def terminated (separator : String) (lines : List String) : String :=
  String.join (lines.map (· ++ separator))

section

variable {separator : String} (nonempty : separator ≠ "") {text : String.Slice}
include nonempty

-- A match begins with the first character of the separator, which no line holds.
theorem not_matches_at_line {line done rest : String} {start stop pos : text.Pos}
    (apart : ∀ c ∈ line.toList, c ∉ separator.toList) (atStart : start.Splits done (line ++ rest))
    (atStop : stop.Splits (done ++ line) rest) (after : start ≤ pos) (before : pos < stop) :
    ¬ MatchesAt separator pos := by
  intro found
  obtain ⟨front, back, matched⟩ := matchesAt_iff_splits.mp found
  obtain ⟨skipped, rfl, -⟩ := (atStart.le_iff_exists_eq_append matched).mp after
  obtain ⟨left, leftSome, parts, begins⟩ := (matched.lt_iff_exists_eq_append atStop).mp before
  have lineParts : line = skipped ++ left := by
    rw [String.append_assoc, String.append_right_inj] at parts
    exact parts
  have chars := congrArg String.toList begins
  rw [String.toList_append, String.toList_append] at chars
  cases separatorChars : separator.toList with
  | nil => exact nonempty (String.toList_eq_nil_iff.mp separatorChars)
  | cons c more =>
      cases leftChars : left.toList with
      | nil => exact leftSome (String.toList_eq_nil_iff.mp leftChars)
      | cons d others =>
          rw [separatorChars, leftChars] at chars
          have inLine : c ∈ line.toList := by
            rw [lineParts, String.toList_append, leftChars, (List.cons.inj chars).1]
            exact List.mem_append_right _ List.mem_cons_self
          have outside := apart c inLine
          rw [separatorChars] at outside
          exact outside List.mem_cons_self

-- The induction is on the lines that are left when the search goes on behind a separator.
theorem split_from {lines : List String}
    (apart : ∀ line ∈ lines, ∀ c ∈ line.toList, c ∉ separator.toList) {done : String}
    {start : text.Pos} (place : start.Splits done (terminated separator lines)) :
    haveI := strictPatternModel nonempty
    (String.Slice.Pattern.Model.split separator start start (Std.le_refl start)).map
      (String.Slice.copy ∘ String.Slice.Subslice.toSlice) = lines ++ [""] := by
  have := strictPatternModel nonempty
  induction lines generalizing done start with
  | nil =>
      have ended : start = text.endPos := place.eq_endPos_iff.mpr rfl
      subst ended
      simp
  | cons line rest ih =>
      have whole : text.copy = (done ++ line) ++ (separator ++ terminated separator rest) := by
        simpa [terminated, String.append_assoc] using place.eq_append
      have further : text.copy = (done ++ line ++ separator) ++ terminated separator rest := by
        rw [whole]
        exact String.append_assoc.symm
      have atStop := Pos.splits_ofEqAppend whole
      have atNext := Pos.splits_ofEqAppend further
      generalize Pos.ofEqAppend whole = stop at atStop
      generalize Pos.ofEqAppend further = next at atNext
      rw [List.forall_mem_cons] at apart
      have atStart : start.Splits done (line ++ (separator ++ terminated separator rest)) :=
        ⟨by rw [whole, String.append_assoc], place.offset_eq_rawEndPos⟩
      have upTo : start ≤ stop := (atStart.le_iff_exists_eq_append atStop).mpr ⟨line, rfl, rfl⟩
      have found : String.Slice.Pattern.Model.IsLongestMatchAt separator stop next :=
        isLongestMatchAt_iff_splits.mpr ⟨_, _, atStop, atNext⟩
      obtain ⟨_, piece⟩ := String.Slice.copy_slice_eq_iff_splits.mpr ⟨_, _, atStart, atStop⟩
      have absent (pos : text.Pos) := @not_matches_at_line separator nonempty text line done
        (separator ++ terminated separator rest) start stop pos apart.1 atStart atStop
      rw [split_eq_of_not_matchesAt stop upTo absent, split_eq_of_isLongestMatchAt found,
        List.map_cons, ih apart.2 atNext, List.cons_append]
      congr 1

end

theorem split_terminated {separator : String} (nonempty : separator ≠ "") {lines : List String}
    (apart : ∀ line ∈ lines, ∀ c ∈ line.toList, c ∉ separator.toList) :
    ((terminated separator lines).split separator).toList.map String.Slice.copy =
      lines ++ [""] := by
  have := strictPatternModel nonempty
  have := lawfulToForwardSearcherModel nonempty
  have place := (terminated separator lines).toSlice.splits_startPos
  rw [String.copy_toSlice] at place
  rw [String.split_eq_split_toSlice, String.Slice.toList_split_eq_splitToSubslice, List.map_map,
    toList_splitToSubslice_eq_modelSplit]
  exact split_from nonempty apart place

end StackCall.Text
