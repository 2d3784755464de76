import Mathlib.Tactic.SplitIfs

set_option autoImplicit false

namespace StackCall.Text

def bytes (text : String) : List UInt8 := text.toUTF8.data.toList

theorem bytes_eq (text : String) : bytes text = text.toList.flatMap String.utf8EncodeChar := by
  rw [bytes, String.toUTF8, ← String.utf8Encode_toList, List.utf8Encode, List.data_toByteArray]

theorem to_nat_lt (c : Char) : c.toNat < 0x110000 := by
  have valid : c.toNat < 0xd800 ∨ 0xdfff < c.toNat ∧ c.toNat < 0x110000 := c.valid
  omega

-- A longer encoding begins with a larger byte; of two encodings of one length, each byte holds the
-- next digits of the character, so the first difference decides.
theorem encoded_lt {c d : Char} (less : c.toNat < d.toNat) (u v : List UInt8) :
    String.utf8EncodeChar c ++ u < String.utf8EncodeChar d ++ v := by
  have lower := to_nat_lt c
  have upper := to_nat_lt d
  rw [String.utf8EncodeChar, String.utf8EncodeChar]
  simp only [Char.toNat_val]
  split_ifs
  all_goals
    simp only [List.cons_append, List.nil_append, List.cons_lt_cons_iff, UInt8.lt_iff_toNat_lt,
      ← UInt8.toNat_inj, UInt8.toNat_ofNat']
    simp (disch := omega) only [Nat.mod_eq_of_lt]
    omega

theorem flat_map_encoded_lt (s t : List Char) (less : s < t) :
    s.flatMap String.utf8EncodeChar < t.flatMap String.utf8EncodeChar := by
  induction s generalizing t with
  | nil =>
      cases t with
      | nil => exact absurd less (List.not_lt_nil [])
      | cons d t =>
          obtain ⟨first, rest, form⟩ :=
            List.exists_cons_of_ne_nil (@String.utf8EncodeChar_ne_nil d)
          rw [List.flatMap_nil, List.flatMap_cons, form]
          exact List.nil_lt_cons _ _
  | cons c s ih =>
      cases t with
      | nil => exact absurd less (List.not_lt_nil _)
      | cons d t =>
          rw [List.flatMap_cons, List.flatMap_cons]
          rcases List.cons_lt_cons_iff.mp less with before | ⟨rfl, later⟩
          · exact encoded_lt before _ _
          · exact List.append_left_lt (ih t later)

theorem bytes_lt {first second : String} (less : first < second) :
    bytes first < bytes second := by
  rw [bytes_eq, bytes_eq]
  exact flat_map_encoded_lt first.toList second.toList less

end StackCall.Text
