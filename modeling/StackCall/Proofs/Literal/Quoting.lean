import StackCall.Literal

set_option autoImplicit false

namespace StackCall.Literal

def byteText (byte : Nat) : List Char :=
  ['%', Text.Hex.upper (byte / 16), Text.Hex.upper (byte % 16)]

-- The characters that are written as bytes take one or two of them, and two begin with `C2`.
def byteForm (c : Char) : List Char :=
  if c.toNat < 128 then byteText c.toNat else byteText 0xC2 ++ byteText c.toNat

def isEscaped (c : Char) : Bool := c == '%' || c == '\'' || isControl c

theorem escaped_small {c : Char} (escaped : isEscaped c = true) : c.toNat < 160 := by
  rw [isEscaped, isControl] at escaped
  simp only [Bool.or_eq_true, beq_iff_eq, decide_eq_true_iff, Bool.and_eq_true] at escaped
  rcases escaped with (rfl | rfl) | low | high
  · decide
  · decide
  · omega
  · exact high.2

theorem encoded_form : ∀ n : Fin 160,
    (String.utf8EncodeChar (Char.ofNat n)).flatMap percent = byteForm (Char.ofNat n) := by
  decide +kernel

theorem character_escaped {c : Char} (escaped : isEscaped c = true) :
    character c = byteForm c := by
  have form := encoded_form ⟨c.toNat, escaped_small escaped⟩
  rw [Char.ofNat_toNat] at form
  exact (if_pos escaped).trans form

theorem character_plain {c : Char} (plain : isEscaped c = false) : character c = [c] :=
  if_neg (Bool.eq_false_iff.mp plain)

theorem upper_injective : ∀ a b : Fin 16, Text.Hex.upper a = Text.Hex.upper b → a = b := by
  decide

theorem byte_text_append_injective {a b : Nat} {u v : List Char} (smallLeft : a < 256)
    (smallRight : b < 256) (same : byteText a ++ u = byteText b ++ v) : a = b ∧ u = v := by
  obtain ⟨high, rest⟩ := List.cons.inj (List.cons.inj same).2
  obtain ⟨low, follow⟩ := List.cons.inj rest
  have sameHigh := upper_injective ⟨a / 16, by omega⟩ ⟨b / 16, by omega⟩ high
  have sameLow := upper_injective ⟨a % 16, by omega⟩ ⟨b % 16, by omega⟩ low
  rw [Fin.mk.injEq] at sameHigh sameLow
  exact ⟨by omega, follow⟩

theorem byte_form_append_injective {c d : Char} {u v : List Char} (smallLeft : c.toNat < 160)
    (smallRight : d.toNat < 160) (same : byteForm c ++ u = byteForm d ++ v) : c = d ∧ u = v := by
  rw [byteForm, byteForm] at same
  split at same <;> split at same
  case isTrue.isTrue =>
    obtain ⟨sameByte, follow⟩ := byte_text_append_injective (by omega) (by omega) same
    exact ⟨Char.toNat_inj.mp sameByte, follow⟩
  case isTrue.isFalse | isFalse.isTrue =>
    rw [List.append_assoc] at same
    obtain ⟨sameByte, -⟩ := byte_text_append_injective (by omega) (by omega) same
    omega
  case isFalse.isFalse =>
    rw [List.append_assoc, List.append_assoc] at same
    obtain ⟨-, second⟩ := byte_text_append_injective (by omega) (by omega) same
    obtain ⟨sameByte, follow⟩ := byte_text_append_injective (by omega) (by omega) second
    exact ⟨Char.toNat_inj.mp sameByte, follow⟩

theorem byte_form_head (c : Char) : ∃ rest, byteForm c = '%' :: rest := by
  rw [byteForm]
  split <;> exact ⟨_, rfl⟩

theorem character_append_injective {c d : Char} {u v : List Char}
    (same : character c ++ u = character d ++ v) : c = d ∧ u = v := by
  cases left : isEscaped c <;> cases right : isEscaped d
  case false.false =>
    rw [character_plain left, character_plain right] at same
    exact List.cons.inj same
  case false.true =>
    obtain ⟨rest, form⟩ := byte_form_head d
    rw [character_plain left, character_escaped right, form] at same
    rw [(List.cons.inj same).1] at left
    cases left
  case true.false =>
    obtain ⟨rest, form⟩ := byte_form_head c
    rw [character_escaped left, character_plain right, form] at same
    rw [← (List.cons.inj same).1] at right
    cases right
  case true.true =>
    rw [character_escaped left, character_escaped right] at same
    exact byte_form_append_injective (escaped_small left) (escaped_small right) same

theorem character_head (c : Char) : ∃ first rest, character c = first :: rest ∧ first ≠ '\'' := by
  cases escaped : isEscaped c
  case false =>
    refine ⟨c, [], character_plain escaped, ?_⟩
    rintro rfl
    cases escaped
  case true =>
    obtain ⟨rest, form⟩ := byte_form_head c
    exact ⟨'%', rest, (character_escaped escaped).trans form, by decide⟩

theorem quoted_append_injective : ∀ {s t u v : List Char},
    s.flatMap character ++ '\'' :: u = t.flatMap character ++ '\'' :: v → s = t ∧ u = v
  | [], [], _, _, same => ⟨rfl, (List.cons.inj same).2⟩
  | [], d :: _, _, _, same => by
      obtain ⟨first, rest, form, other⟩ := character_head d
      rw [List.flatMap_cons, form] at same
      exact absurd (List.cons.inj same).1.symm other
  | c :: _, [], _, _, same => by
      obtain ⟨first, rest, form, other⟩ := character_head c
      rw [List.flatMap_cons, form] at same
      exact absurd (List.cons.inj same).1 other
  | c :: cs, d :: ds, u, v, same => by
      rw [List.flatMap_cons, List.flatMap_cons, List.append_assoc, List.append_assoc] at same
      obtain ⟨sameChar, others⟩ := character_append_injective same
      obtain ⟨sameRest, follow⟩ := quoted_append_injective others
      exact ⟨by rw [sameChar, sameRest], follow⟩

theorem string_append_injective {s t : String} {u v : List Char}
    (same : string s ++ u = string t ++ v) : s = t ∧ u = v := by
  rw [string, string, List.cons_append, List.cons_append, List.append_assoc,
    List.append_assoc] at same
  obtain ⟨sameText, follow⟩ := quoted_append_injective (List.cons.inj same).2
  exact ⟨String.toList_inj.mp sameText, follow⟩

end StackCall.Literal
