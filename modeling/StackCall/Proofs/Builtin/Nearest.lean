import StackCall.Proofs.Builtin.Rounding
import StackCall.Proofs.Number.Nearest

set_option autoImplicit false

namespace StackCall

namespace Builtin

open Binary

theorem factor_none : 1.0 / Float.ofScientific 1 false 0 = one.toFloat := by
  have read : factor 0 = one := by decide +kernel
  have full : (factor 0).Full := read ▸ one_full
  exact (to_float_of_float full).symm.trans (congrArg toFloat read)

-- A number of more than 53 bits has no fraction, and its double is its own rounding.
theorem round_double_wide {x : Float} (finite : x.isFinite = true)
    (wide : 2 * leading ≤ (ofFloat x).nearest) :
    roundDouble x = x ∧ (ofFloat x).value = (ofFloat x).round := by
  obtain ⟨held, -⟩ := unpack_finite finite
  have positive : 0 < (ofFloat x).exponent := by
    by_contra small
    have low := (ofFloat x).nearest_bounds.1
    have power : (2 : ℚ) ^ (ofFloat x).exponent ≤ 1 :=
      zpow_le_one_of_nonpos₀ one_le_two (not_lt.mp small)
    have few : (ofFloat x).magnitude ≤ (ofFloat x).mantissa :=
      mul_le_of_le_one_right (Nat.cast_nonneg _) power
    have upTo : ((ofFloat x).nearest : ℚ) < (ofFloat x).mantissa + 1 := by linarith
    have upTo : (ofFloat x).nearest < (ofFloat x).mantissa + 1 := by exact_mod_cast upTo
    have := held.small
    omega
  obtain ⟨power, exponent⟩ := Int.eq_ofNat_of_zero_le positive.le
  have full : (ofFloat x).Full :=
    ⟨held.full (by omega), held.small, held.least, held.greatest⟩
  have nearest : (ofFloat x).nearest = (ofFloat x).mantissa * 2 ^ power := by
    rw [Binary.nearest, if_pos positive.le, exponent, Int.toNat_natCast, Nat.pow_eq]
  have unsigned : Float.ofNat (ofFloat x).nearest = ((ofFloat x).withSign false).toFloat := by
    rw [nearest] at wide ⊢
    exact of_nat_scaled (full.with_sign false) rfl exponent wide
  constructor
  · have signed : (if (ofFloat x).negative then -((ofFloat x).withSign false).toFloat
        else ((ofFloat x).withSign false).toFloat) = (ofFloat x).toFloat := by
      rw [neg_to_float (full.with_sign false)]
      rcases ofFloat x with ⟨_ | _, mantissa, exponent⟩ <;> rfl
    rw [roundDouble]
    simp only [unsigned]
    exact signed.trans (to_float_of_float full)
  · have size : (ofFloat x).magnitude = (ofFloat x).nearest := by
      rw [magnitude, nearest, exponent, zpow_natCast]
      push_cast
      rfl
    rw [value, Binary.round, signed, size]
    push_cast
    rfl

theorem round_double_finite {x : Float} (finite : x.isFinite = true) :
    (roundDouble x).isFinite = true ∧
      (ofFloat (roundDouble x)).value = (ofFloat x).round := by
  by_cases bounded : (ofFloat x).nearest < 2 * leading
  · rw [round_double_eq rfl bounded]
    exact integer_to_float bounded _
  · obtain ⟨same, value⟩ := round_double_wide finite (not_lt.mp bounded)
    rw [same]
    exact ⟨finite, value⟩

theorem round_tens_none {x : Float} (finite : x.isFinite = true) :
    roundTens x 0 = roundDouble x := by
  rw [roundTens, factor_none, mul_one_to_float finite,
    div_one_to_float (round_double_finite finite).1]

theorem round_finite_none (function : String) {x : Float} (finite : x.isFinite = true) :
    (∃ n : Int64, n.toInt = (ofFloat x).round ∧ roundFinite function x 0 = .ok (.long n)) ∨
      ((ofFloat x).round < -0x8000000000000000 ∨ 0x7FFFFFFFFFFFFFFF < (ofFloat x).round) ∧
        roundFinite function x 0 = .error (.doesNotFit function x) := by
  obtain ⟨kept, value⟩ := round_double_finite finite
  have none : (0 : Int64).toInt32.toInt.natAbs = 0 := rfl
  rw [roundFinite, if_neg (by decide), none, round_tens_none finite]
  exact fit_long_eq function x kept value

end Builtin

namespace Registry

theorem call_rounding_top (stack : Stack) (x : Float) :
    (standard.call "ROUND").onStack (stack.push (.double x)) =
      (Builtin.answer (Builtin.roundNumber "ROUND" x 0)).onStack stack := by
  have fits : Fits Builtin.roundingSignature.required [.double x] := .cons rfl .nil
  have noMap : ∀ entries, [Value.double x].getLast? ≠ some (.map entries) := by
    intro entries last
    cases last
  have run := on_stack_bind_push_all_fits Builtin.rounding.signature stack [.double x]
    (List.cons_ne_nil _ _) fits noMap
  have registered : standard.call "ROUND" = Builtin.rounding.call := rfl
  have pushed : stack.push (.double x) = stack.pushAll [.double x] := rfl
  have bound (name : String) : (⟨"ROUND", fillDefaults
      (byName Builtin.roundingSignature.required [.double x])
      Builtin.roundingSignature.optional⟩ : Arguments).get? name =
        ((byName Builtin.roundingSignature.required [.double x]).get? name).or
          (defaultOf Builtin.roundingSignature.optional name) := by
    rw [Arguments.get?, get?_fill_defaults]
  have value := bound "value"
  have count := bound "digits"
  have body := Builtin.rounding_body value
    (Arguments.typed_eq _ _ _ value .number Value.number? _ rfl)
    (Arguments.typed_eq _ _ _ count .long Value.long? _ rfl) stack
  rw [registered, Function.call, StackM.on_stack_bind, pushed, run]
  exact body

theorem standard_rounds_double (stack : Stack) (x : Float) :
    let run := (standard.call "ROUND").onStack (stack.push (.double x))
    ((x.isNaN = true ∨ x.isInf = true) ∧
      run = (.error (.eval (.notFinite "ROUND" x)), stack)) ∨
    (x.isFinite = true ∧ ∃ k : ℤ,
      (∀ other, NearestInteger (Binary.ofFloat x).value other ↔ other = k) ∧
      ((∃ n : Int64, n.toInt = k ∧ run = (.ok (), stack.push (.long n))) ∨
        (k < -0x8000000000000000 ∨ 0x7FFFFFFFFFFFFFFF < k) ∧
          run = (.error (.eval (.doesNotFit "ROUND" x)), stack))) := by
  intro run
  have called : run = _ := call_rounding_top stack x
  rw [Builtin.roundNumber] at called
  by_cases finite : x.isFinite = true
  · rw [if_pos finite] at called
    have nearest := (Binary.ofFloat x).nearest_integer_round
    refine .inr ⟨finite, (Binary.ofFloat x).round, ?_, ?_⟩
    · intro other
      refine ⟨fun also => also.unique nearest, ?_⟩
      rintro rfl
      exact nearest
    · rcases Builtin.round_finite_none "ROUND" finite with ⟨n, same, kept⟩ | ⟨outside, refused⟩
      · rw [kept] at called
        exact .inl ⟨n, same, called⟩
      · rw [refused] at called
        exact .inr ⟨outside, called⟩
  · rw [if_neg finite] at called
    exact .inl ⟨Binary.is_nan_or_is_inf finite, called⟩

end Registry

end StackCall
