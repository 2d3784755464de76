import Mathlib.Logic.Function.Basic
import StackCall.Number.Binary

set_option autoImplicit false

namespace StackCall

attribute [ext] Binary

namespace Binary

-- The form in which doubles are read: the leading bit is set unless the exponent is the least one.
structure Normal (number : Binary) : Prop where
  small : number.mantissa < 2 * leading
  least : -1074 ≤ number.exponent
  full : -1074 < number.exponent → leading ≤ number.mantissa

theorem normal_of_float (x : Float) : (ofFloat x).Normal := by
  have below : x.toBits.toNat % leading < leading := Nat.mod_lt _ (by decide)
  rw [ofFloat]
  split
  case isTrue =>
    refine ⟨?_, Int.le_refl _, fun above => absurd above (Int.lt_irrefl _)⟩
    show x.toBits.toNat % leading < 2 * leading
    omega
  case isFalse biased =>
    refine ⟨?_, ?_, fun _ => Nat.le_add_right _ _⟩
    · show leading + x.toBits.toNat % leading < 2 * leading
      omega
    · show (-1074 : Int) ≤ (x.toBits.toNat / leading % 0x800 : Nat) - 1075
      omega

theorem to_bits_injective : Function.Injective Float.toBits := by
  rintro ⟨⟨bits, valid⟩⟩ ⟨⟨others, otherValid⟩⟩ same
  cases same
  rfl

theorem of_float_injective : Function.Injective ofFloat := by
  intro x y same
  refine to_bits_injective (UInt64.toNat_inj.mp ?_)
  have boundLeft := x.toBits.toNat_lt
  have boundRight := y.toBits.toNat_lt
  have sign (z : Float) : (ofFloat z).negative = (z.toBits.toNat / leading / 0x800 == 1) := by
    rw [ofFloat]
    split <;> rfl
  have signs := congrArg negative same
  rw [sign, sign, Bool.eq_iff_iff, beq_iff_eq, beq_iff_eq] at signs
  have mantissas := congrArg mantissa same
  have exponents := congrArg exponent same
  -- A fraction is less than a mantissa with its leading bit, so both are read in the same way.
  simp only [ofFloat] at mantissas exponents
  split at mantissas <;> split at mantissas <;> simp_all [leading] <;> omega

end Binary

end StackCall
