import StackCall.Literal
import StackCall.Proofs.Json.Finite

set_option autoImplicit false

namespace StackCall.Literal

def spaced (text : List Char) : List Char := ' ' :: text ++ [' ']

theorem spaced_between {text front back : List Char} :
    spaced text <:+: front ++ ' ' :: text ++ ' ' :: back := by
  refine ⟨front, back, ?_⟩
  simp [spaced]

theorem item_spaced {items : List Value} {item : Value} (member : item ∈ items) :
    spaced (chars item) <:+: ' ' :: itemChars items := by
  induction items with
  | nil => cases member
  | cons first rest ih =>
      have later : ' ' :: itemChars rest <:+: ' ' :: itemChars (first :: rest) :=
        (List.suffix_append (' ' :: chars first) _).isInfix
      cases member with
      | head => exact @spaced_between (chars item) [] (itemChars rest)
      | tail _ member => exact (ih member).trans later

theorem entry_spaced {bound : Option String} {entries : Entries Value bound} {name : String}
    {value : Value} (found : entries.get? name = some value) :
    spaced (chars value) <:+: ' ' :: entryChars entries := by
  induction entries with
  | nil => cases found
  | cons key above held rest ih =>
      have split : ' ' :: entryChars (.cons key above held rest) =
          (' ' :: string key) ++ ' ' :: chars held ++ ' ' :: entryChars rest := by
        simp [entryChars]
      rw [split]
      by_cases same : name = key
      · rw [Entries.get?, if_pos same] at found
        cases found
        exact spaced_between
      · rw [Entries.get?, if_neg same] at found
        exact (ih found).trans (List.suffix_append _ _).isInfix

theorem bracketed_spaced {opening closing : Char} {part inside : List Char}
    (held : spaced part <:+: ' ' :: inside) :
    spaced part <:+: spaced (opening :: ' ' :: inside ++ [closing]) := by
  refine held.trans ⟨[' ', opening], [closing, ' '], ?_⟩
  simp [spaced]

theorem part?_spaced {value part : Value} {step : Value.Step}
    (found : value.part? step = some part) :
    spaced (chars part) <:+: spaced (chars value) := by
  cases value with
  | list items =>
      cases step with
      | item index => exact bracketed_spaced (item_spaced (List.mem_of_getElem? found))
      | entry name => cases found
  | map entries =>
      cases step with
      | item index => cases found
      | entry name => exact bracketed_spaced (entry_spaced found)
  | null | long | double | bool | string => cases found

theorem at?_spaced {value part : Value} {path : List Value.Step}
    (found : value.at? path = some part) : spaced (chars part) <:+: spaced (chars value) := by
  induction path generalizing value with
  | nil =>
      cases found
      exact List.infix_rfl
  | cons step rest ih =>
      obtain ⟨next, first, others⟩ := Option.bind_eq_some_iff.mp found
      exact (ih others).trans (part?_spaced first)

end StackCall.Literal
