import StackCall.Documentation
import StackCall.Proofs.Literal.Percent
import StackCall.Proofs.Literal.Printable
import StackCall.Proofs.Text.Pieces

set_option autoImplicit false

namespace StackCall.Documentation

open Literal (Printable isControl append_printable fixed_printable literal_printable
  literal_to_list)

theorem macro_text_eq (settings : DocSettings) (function : Function) (profile : Profile)
    (outputs : List Parameter) : macroText settings function profile outputs =
      Text.terminated settings.lineSeparator (lines settings function profile outputs) :=
  rfl

theorem lines_printable (settings : DocSettings) (function : Function) (profile : Profile)
    (outputs : List Parameter) (named : Printable function.name.toList)
    (tested : ∀ test ∈ function.unitTests, Printable test.toList)
    (stored : Printable settings.macroSymbol.toList) :
    ∀ line ∈ lines settings function profile outputs, Printable line.toList := by
  have store : Printable ("'" ++ settings.macroSymbol ++ "' STORE").toList :=
    append_printable (append_printable (fixed_printable rfl) stored) (fixed_printable rfl)
  have reference : Printable ("$" ++ settings.macroSymbol).toList :=
    append_printable (fixed_printable rfl) stored
  intro line member
  simp only [lines, List.mem_append, List.mem_cons, List.not_mem_nil, or_false] at member
  rcases member with ((rfl | rfl | rfl | rfl | rfl | rfl | rfl) | test) | rfl
  · exact fixed_printable rfl
  · exact literal_printable _
  · exact fixed_printable rfl
  · exact named
  · exact fixed_printable rfl
  · exact store
  · exact fixed_printable rfl
  · exact tested line test
  · exact reference

theorem macro_text_pieces (settings : DocSettings) (function : Function) (profile : Profile)
    (outputs : List Parameter) (named : Printable function.name.toList)
    (tested : ∀ test ∈ function.unitTests, Printable test.toList)
    (stored : Printable settings.macroSymbol.toList) (nonempty : settings.lineSeparator ≠ "")
    (controls : ∀ c ∈ settings.lineSeparator.toList, isControl c = true) :
    ((macroText settings function profile outputs).split settings.lineSeparator).toList.map
        String.Slice.copy =
      ["<%", (record settings function profile outputs).literal, "INFO", function.name, "%>",
        "'" ++ settings.macroSymbol ++ "' STORE", "// Unit tests"] ++ function.unitTests ++
        ["$" ++ settings.macroSymbol, ""] ∧
      ¬ "%>".toList <:+: (record settings function profile outputs).literal.toList := by
  constructor
  · have apart : ∀ line ∈ lines settings function profile outputs, ∀ c ∈ line.toList,
        c ∉ settings.lineSeparator.toList := by
      intro line member c inside separates
      have printable := lines_printable settings function profile outputs named tested stored
      exact absurd ((printable line member c inside).symm.trans (controls c separates)) (by decide)
    rw [macro_text_eq, Text.split_terminated nonempty apart]
    simp [lines]
  · rw [literal_to_list]
    exact Literal.chars_no_end _

-- A function whose documentation tries to end the line and the macro, and with an empty test.
def intruder : Function where
  signature := .empty "INTRUDER"
  body _ := pure ()
  description := "It's %>\r\n'macro' STORE\n"
  unitTests := ["", "INTRUDER"]

def intruderLiteral : String :=
  "\x7b 'conf' [ ] 'deleted' '' 'deprecated' '' 'desc' 'It%27s %25>%0D%0A%27macro%27 STORE%0A' "
    ++ "'examples' [ ] 'name' 'INTRUDER' 'params' \x7b \x7d 'related' [ ] "
    ++ "'sig' [ [ [ ] [ ] ] [ [ \x7b \x7d ] [ ] ] ] 'since' '' 'tags' [ ] 'version' '' \x7d"

theorem macro_text_pieces_intruder :
    ((macroText { lineSeparator := "\r\n" } intruder {} []).split "\r\n").toList.map
        String.Slice.copy =
      ["<%", intruderLiteral, "INFO", "INTRUDER", "%>", "'macro' STORE", "// Unit tests", "",
        "INTRUDER", "$macro", ""] ∧
      ¬ "%>".toList <:+: intruderLiteral.toList := by
  have tested : ∀ test ∈ intruder.unitTests, Printable test.toList := by
    intro test member
    simp only [intruder, List.mem_cons, List.not_mem_nil, or_false] at member
    rcases member with rfl | rfl <;> exact fixed_printable rfl
  have literal : (record { lineSeparator := "\r\n" } intruder {} []).literal = intruderLiteral := by
    decide +kernel
  have pieces := macro_text_pieces { lineSeparator := "\r\n" } intruder {} []
    (fixed_printable rfl) tested (fixed_printable rfl) (by decide) (List.all_eq_true.mp rfl)
  rwa [literal] at pieces

end StackCall.Documentation
