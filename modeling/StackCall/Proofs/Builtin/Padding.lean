import StackCall.Proofs.Builtin.Contract

set_option autoImplicit false

namespace StackCall

theorem Kind.accepts_string_iff (value : Value) :
    Kind.string.accepts value = true ↔ ∃ text, value = .string text := by
  cases value <;> simp [Kind.accepts]

theorem Kind.accepts_long_iff (value : Value) :
    Kind.long.accepts value = true ↔ ∃ n, value = .long n := by
  cases value <;> simp [Kind.accepts]

namespace Builtin

section

variable (text : String) (width : Nat) (fill : Char)

theorem to_list_pad_left :
    (padLeft text width fill).toList =
      List.replicate (width - text.length) fill ++ text.toList := by
  rw [padLeft, String.toList_ofList]

theorem length_pad_left : (padLeft text width fill).length = max width text.length := by
  rw [← String.length_toList, to_list_pad_left, List.length_append, List.length_replicate,
    String.length_toList]
  omega

theorem pad_left_of_le (long : width ≤ text.length) : padLeft text width fill = text := by
  rw [padLeft, Nat.sub_eq_zero_of_le long, List.replicate_zero, List.nil_append,
    String.ofList_toList]

theorem pad_left_again :
    padLeft (padLeft text width fill) width fill = padLeft text width fill := by
  apply pad_left_of_le
  rw [length_pad_left]
  exact Nat.le_max_left _ _

end

section

variable {function text fill : String} {width : Int64}

theorem pad_text_other (other : fill.length ≠ 1) :
    padText function text width fill = .error (.notOneCharacter function fill) := by
  rw [padText]
  split
  case h_1 c one =>
    rw [← String.length_toList, one] at other
    exact absurd rfl other
  case h_2 => rfl

theorem pad_text_negative (one : fill.length = 1) (negative : width.toInt < 0) :
    padText function text width fill = .error (.negativeWidth function width) := by
  rw [← String.length_toList, List.length_eq_one_iff] at one
  obtain ⟨c, one⟩ := one
  simp [padText, one, negative]

theorem pad_text_filled {c : Char} (one : fill.toList = [c]) (notNegative : 0 ≤ width.toInt) :
    padText function text width fill = .ok (padLeft text width.toInt.toNat c) := by
  simp [padText, one, Int.not_lt.mpr notNegative]

end

-- What a call with that map asks for: what the map leaves out has a default.
structure Asks (entries : Dict Value) (text : String) (width : Int64) (fill : String) : Prop where
  text : (entries.get? "text").getD (.string "") = .string text
  width : (entries.get? "width").getD (.long 8) = .long width
  fill : (entries.get? "fill").getD (.string " ") = .string fill

variable {entries : Dict Value}

theorem exists_asks (checked : paddingSignature.checkNamed entries = .ok ()) :
    ∃ text width fill, Asks entries text width fill := by
  have given := ((check_named_eq_ok_iff _ entries).mp checked).2
  have accepted {kind : Kind} {name doc : String} {default : Value}
      (member : ⟨name, kind, doc, some default, none⟩ ∈ paddingSignature.optional)
      (sound : kind.accepts default = true) :
      kind.accepts ((entries.get? name).getD default) = true := by
    cases found : entries.get? name with
    | none => exact sound
    | some value => exact given _ member value found
  obtain ⟨text, isText⟩ := (Kind.accepts_string_iff _).mp (accepted (.head _) rfl)
  obtain ⟨width, isWidth⟩ := (Kind.accepts_long_iff _).mp (accepted (.tail _ (.head _)) rfl)
  obtain ⟨fill, isFill⟩ :=
    (Kind.accepts_string_iff _).mp (accepted (.tail _ (.tail _ (.head _))) rfl)
  exact ⟨text, width, fill, isText, isWidth, isFill⟩

section

variable {text fill : String} {width : Int64} (asks : Asks entries text width fill)
include asks

theorem Asks.checked : paddingSignature.checkNamed entries = .ok () := by
  rw [check_named_eq_ok_iff]
  constructor
  · intro parameter member
    cases member
  · intro parameter member value found
    have asked {default expected : Value}
        (same : (entries.get? parameter.name).getD default = expected) : value = expected := by
      rwa [found] at same
    simp only [paddingSignature, List.mem_cons, List.not_mem_nil, or_false] at member
    rcases member with rfl | rfl | rfl
    · rw [asked asks.text]
      rfl
    · rw [asked asks.width]
      rfl
    · rw [asked asks.fill]
      rfl

theorem Asks.call (stack : Stack) :
    (Registry.standard.call "PAD").onStack (stack.push (.map entries)) =
      (answer ((padText "PAD" text width fill).map .string)).onStack stack := by
  have run := padding.on_stack_call_map stack rfl entries asks.checked
  have registered : Registry.standard.call "PAD" = padding.call := rfl
  have bound {name : String} {default value : Value}
      (declared : defaultOf paddingSignature.optional name = some default)
      (asked : (entries.get? name).getD default = value) :
      (⟨"PAD", fillDefaults entries paddingSignature.optional⟩ : Arguments).get? name =
        some value := by
    rw [Arguments.get?, get?_fill_defaults, declared, Option.or_some, asked]
  rw [registered, run]
  exact padding_body
    (Arguments.typed_eq _ _ _ (bound rfl asks.text) .string Value.string? _ rfl)
    (Arguments.typed_eq _ _ _ (bound rfl asks.width) .long Value.long? _ rfl)
    (Arguments.typed_eq _ _ _ (bound rfl asks.fill) .string Value.string? _ rfl) stack

end

end Builtin

namespace Registry

theorem standard_pads (stack rest : Stack) (entries : Dict Value) (arguments : Arguments)
    (bound : Builtin.paddingSignature.bind.onStack (stack.push (.map entries)) =
      (.ok arguments, rest)) :
    ∃ text width fill, Builtin.Asks entries text width fill ∧
      let run := (standard.call "PAD").onStack (stack.push (.map entries))
      (fill.length ≠ 1 → run = (.error (.eval (.notOneCharacter "PAD" fill)), stack)) ∧
      (fill.length = 1 → width.toInt < 0 →
        run = (.error (.eval (.negativeWidth "PAD" width)), stack)) ∧
      (fill.length = 1 → 0 ≤ width.toInt → ∃ c padded, fill.toList = [c] ∧
        run = (.ok (), stack.push (.string padded)) ∧
        (padded.length : Int) = max width.toInt text.length ∧
        text.toList <:+ padded.toList ∧
        padded.toList.take (width.toInt - text.length).toNat =
          List.replicate (width.toInt - text.length).toNat c ∧
        ∀ (below : Stack) (again : Dict Value), Builtin.Asks again padded width fill →
          (standard.call "PAD").onStack (below.push (.map again)) =
            (.ok (), below.push (.string padded))) := by
  have checked :=
    bind_ok_checked Builtin.paddingSignature stack entries arguments rest rfl bound
  obtain ⟨text, width, fill, asks⟩ := Builtin.exists_asks checked
  refine ⟨text, width, fill, asks, ?_⟩
  intro run
  have called : run = _ := asks.call stack
  refine ⟨?_, ?_, ?_⟩
  · intro other
    rwa [Builtin.pad_text_other other] at called
  · intro one negative
    rwa [Builtin.pad_text_negative one negative] at called
  · intro one notNegative
    obtain ⟨c, single⟩ := List.length_eq_one_iff.mp (fill.length_toList.trans one)
    rw [Builtin.pad_text_filled single notNegative] at called
    have lacking : (width.toInt - text.length).toNat = width.toInt.toNat - text.length := by omega
    have characters := Builtin.to_list_pad_left text width.toInt.toNat c
    refine ⟨c, _, single, called, ?_, ?_, ?_, ?_⟩
    · rw [Builtin.length_pad_left]
      omega
    · rw [characters]
      exact List.suffix_append _ _
    · rw [lacking, characters]
      exact List.take_left' List.length_replicate
    · intro below again asksAgain
      rw [asksAgain.call below, Builtin.pad_text_filled single notNegative, Builtin.pad_left_again]
      rfl

theorem standard_pads_wide :
    let entries := Dict.ofList [("note", .null), ("fill", .string "é"), ("text", .string "日本"),
      ("width", .long 5)]
    ∃ arguments, Builtin.paddingSignature.bind.onStack ⟨[.map entries, .null]⟩ =
        (.ok arguments, ⟨[.null]⟩) ∧
      (standard.call "PAD").onStack ⟨[.map entries, .null]⟩ =
        (.ok (), ⟨[.string "ééé日本", .null]⟩) := by
  intro entries
  refine ⟨_, rfl, ?_⟩
  obtain ⟨text, width, fill, asks, -, -, filled⟩ := standard_pads ⟨[.null]⟩ ⟨[.null]⟩ entries _ rfl
  cases (asks.text : Value.string "日本" = .string text)
  cases (asks.width : Value.long 5 = .long width)
  cases (asks.fill : Value.string "é" = .string fill)
  obtain ⟨c, padded, single, run, length, ⟨front, parts⟩, begins, -⟩ := filled rfl (by decide)
  cases single
  have three : front.length = 3 := by
    have total := congrArg List.length parts
    rw [List.length_append, String.length_toList, String.length_toList] at total
    change (padded.length : Int) = 5 at length
    change front.length + 2 = padded.length at total
    omega
  have ends : padded = "ééé日本" := by
    rw [← parts] at begins
    change (front ++ _).take 3 = ['é', 'é', 'é'] at begins
    rw [List.take_left' three] at begins
    rw [begins] at parts
    exact String.toList_inj.mp parts.symm
  rwa [ends] at run

end Registry

end StackCall
