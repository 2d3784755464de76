import Mathlib
import StackCall.Proofs.Number.Binary

set_option autoImplicit false

namespace StackCall

open Float.Model (Format UnpackedFloat)
open Float.Model.UnpackedFloat (Sign packComponents unpackSign unpackSign_packComponents
  unpackMantissa_packComponents unpackExponent_packComponents
  packComponents_unpackSign_unpackExponent_unpackMantissa)

def signOf (negative : Bool) : Sign := if negative then .negative else .positive

theorem pack_components_to_nat (negative : Bool) (exponent : BitVec 11) (fraction : BitVec 52) :
    (packComponents Format.binary64 (signOf negative) exponent fraction).toNat =
      (negative.toNat * 0x800 + exponent.toNat) * Binary.leading + fraction.toNat := by
  have sign : (signOf negative).toBitVec.toNat = negative.toNat := by cases negative <;> rfl
  simp only [packComponents, BitVec.toNat_append]
  rw [← Nat.shiftLeft_add_eq_or_of_lt fraction.isLt,
    ← Nat.shiftLeft_add_eq_or_of_lt exponent.isLt, sign, Nat.shiftLeft_eq, Nat.shiftLeft_eq]
  rfl

namespace Binary

def unpacked (number : Binary) : UnpackedFloat :=
  if positive : 0 < number.mantissa then
    .finite (signOf number.negative) number.mantissa number.exponent positive
  else .zero (signOf number.negative)

def toFloat (number : Binary) : Float := .ofModel (.pack number.unpacked)

def ofFields (negative : Bool) (exponent fraction : ℕ) : Binary :=
  if exponent = 0 then ⟨negative, fraction, -1074⟩
  else ⟨negative, leading + fraction, exponent - 1075⟩

section

variable (negative : Bool) (exponent : BitVec 11) (fraction : BitVec 52)

theorem of_float_components {x : Float}
    (bits : x.toModel.toBits.toBitVec =
      packComponents Format.binary64 (signOf negative) exponent fraction) :
    ofFloat x = ofFields negative exponent.toNat fraction.toNat := by
  have bits : x.toBits.toNat =
      (negative.toNat * 0x800 + exponent.toNat) * leading + fraction.toNat :=
    (congrArg BitVec.toNat bits).trans (pack_components_to_nat negative exponent fraction)
  have exponentBound := exponent.isLt
  have fractionBound := fraction.isLt
  have low : x.toBits.toNat % leading = fraction.toNat := by
    rw [bits, leading]
    omega
  have high : x.toBits.toNat / leading = negative.toNat * 0x800 + exponent.toNat := by
    rw [bits, leading]
    omega
  have field : x.toBits.toNat / leading % 0x800 = exponent.toNat := by omega
  have sign : (x.toBits.toNat / leading / 0x800 == 1) = negative := by
    have top : x.toBits.toNat / leading / 0x800 = negative.toNat := by omega
    rw [top]
    cases negative <;> rfl
  simp only [ofFloat, ofFields, low, field, sign]

theorem unpack_components (finite : exponent ≠ -1#_) :
    UnpackedFloat.unpack Format.binary64
        (packComponents Format.binary64 (signOf negative) exponent fraction) =
      (ofFields negative exponent.toNat fraction.toNat).unpacked := by
  rw [UnpackedFloat.unpack]
  simp only [unpackMantissa_packComponents, unpackExponent_packComponents,
    unpackSign_packComponents, Sign.ofBitVec_toBitVec, if_neg finite]
  by_cases first : exponent = 0#_
  · have least : exponent.toNat = 0 := congrArg BitVec.toNat first
    rw [if_pos first, ofFields, if_pos least, unpacked]
    by_cases none : fraction = 0#_
    · have zero : ¬ 0 < fraction.toNat := Nat.not_lt.mpr (congrArg BitVec.toNat none).le
      rw [dif_pos none, dif_neg zero]
    · have some : 0 < fraction.toNat :=
        Nat.pos_of_ne_zero fun same => none (BitVec.eq_of_toNat_eq same)
      rw [dif_neg none, dif_pos some]
      congr 1
      rw [least]
      rfl
  · have notFirst : exponent.toNat ≠ 0 := fun same => first (BitVec.eq_of_toNat_eq same)
    have mantissa : (1#1 ++ fraction).toNat = leading + fraction.toNat := by
      rw [BitVec.toNat_append, ← Nat.shiftLeft_add_eq_or_of_lt fraction.isLt]
      rfl
    rw [if_neg first, ofFields, if_neg notFirst, unpacked, dif_pos (Nat.add_pos_left (by decide) _)]
    congr 1

end

theorem exists_components (bits : BitVec Format.binary64.numBits) :
    ∃ (negative : Bool) (exponent : BitVec 11) (fraction : BitVec 52),
      bits = packComponents Format.binary64 (signOf negative) exponent fraction := by
  have parts := (packComponents_unpackSign_unpackExponent_unpackMantissa bits).symm
  cases sign : Sign.ofBitVec (unpackSign bits) with
  | negative => exact ⟨true, _, _, sign ▸ parts⟩
  | positive => exact ⟨false, _, _, sign ▸ parts⟩

-- The numbers that doubles hold with all their bits.
structure Full (number : Binary) : Prop where
  full : leading ≤ number.mantissa
  small : number.mantissa < 2 * leading
  least : -1074 ≤ number.exponent
  greatest : number.exponent ≤ 971

variable {number : Binary}

theorem Full.normal (full : number.Full) : number.Normal :=
  ⟨full.small, full.least, fun _ => full.full⟩

-- The numbers with all their bits, also those that are too great for a double.
structure Wide (number : Binary) : Prop extends number.Normal where
  leads : leading ≤ number.mantissa

theorem Full.wide (full : number.Full) : number.Wide :=
  ⟨full.normal, full.full⟩

theorem Wide.bounded (wide : number.Wide) (greatest : number.exponent ≤ 971) : number.Full :=
  ⟨wide.leads, wide.small, wide.least, greatest⟩

theorem Wide.positive (wide : number.Wide) : 0 < number.mantissa :=
  Nat.lt_of_lt_of_le (by decide) wide.leads

theorem Wide.log2 (wide : number.Wide) : number.mantissa.log2 = 52 :=
  (Nat.log2_eq_iff (Nat.ne_of_gt wide.positive)).mpr ⟨wide.leads, wide.small⟩

theorem Wide.unpacked_eq (wide : number.Wide) :
    number.unpacked =
      .finite (signOf number.negative) number.mantissa number.exponent wide.positive :=
  dif_pos wide.positive

theorem Full.positive (full : number.Full) : 0 < number.mantissa :=
  full.wide.positive

theorem Full.log2 (full : number.Full) : number.mantissa.log2 = 52 :=
  full.wide.log2

theorem Full.unpacked_eq (full : number.Full) :
    number.unpacked =
      .finite (signOf number.negative) number.mantissa number.exponent full.positive :=
  full.wide.unpacked_eq

theorem Full.biased (full : number.Full) :
    ∃ biased : ℕ, number.exponent = biased - 1075 ∧ 0 < biased ∧ biased < 0x7FF := by
  have := full.least
  have := full.greatest
  exact ⟨(number.exponent + 1075).toNat, by omega, by omega, by omega⟩

theorem pack_unpacked (full : number.Full) {biased : ℕ} (exponent : number.exponent = biased - 1075)
    (bounded : biased < 0x7FF) :
    UnpackedFloat.pack Format.binary64 number.unpacked =
      packComponents Format.binary64 (signOf number.negative) (BitVec.ofNat 11 biased)
        (BitVec.ofNat 52 number.mantissa) := by
  have shifted : (number.exponent + Format.binary64.exponentBias +
      Format.binary64.mantissaBitsWithoutImplicit).toNat = biased := by
    change (number.exponent + 1023 + 52).toNat = biased
    omega
  have finite : ¬ 2 ^ Format.binary64.exponentBits ≤ biased + 1 := by
    change ¬ 2048 ≤ biased + 1
    omega
  rw [full.unpacked_eq, UnpackedFloat.pack]
  simp only [shifted, full.log2]
  rw [if_neg finite, if_pos (show 52 + 1 = Format.binary64.mantissaBits from rfl)]

theorem to_float_components (full : number.Full) :
    ∃ (exponent : BitVec 11) (fraction : BitVec 52), exponent ≠ -1#_ ∧
      number.toFloat.toModel.toBits.toBitVec =
        packComponents Format.binary64 (signOf number.negative) exponent fraction ∧
      ofFields number.negative exponent.toNat fraction.toNat = number := by
  obtain ⟨biased, exponent, positive, bounded⟩ := full.biased
  have lower := full.full
  have upper := full.small
  have field : (BitVec.ofNat 11 biased).toNat = biased := by
    rw [BitVec.toNat_ofNat]
    omega
  have fraction : leading + (BitVec.ofNat 52 number.mantissa).toNat = number.mantissa := by
    rw [BitVec.toNat_ofNat]
    rw [leading] at *
    omega
  refine ⟨_, _, ?_, pack_unpacked full exponent bounded, ?_⟩
  · intro last
    have last : (BitVec.ofNat 11 biased).toNat = 0x7FF := congrArg BitVec.toNat last
    omega
  · rw [ofFields, field, if_neg positive.ne', fraction, ← exponent]

theorem unpack_to_float (full : number.Full) : number.toFloat.toModel.unpack = number.unpacked := by
  obtain ⟨exponent, fraction, finite, bits, same⟩ := to_float_components full
  have unpacked := unpack_components number.negative exponent fraction finite
  rw [same] at unpacked
  exact (congrArg (UnpackedFloat.unpack Format.binary64) bits).trans unpacked

theorem of_float_to_float (full : number.Full) : ofFloat number.toFloat = number := by
  obtain ⟨exponent, fraction, -, bits, same⟩ := to_float_components full
  exact (of_float_components number.negative exponent fraction bits).trans same

theorem to_float_of_float {x : Float} (full : (ofFloat x).Full) : (ofFloat x).toFloat = x :=
  of_float_injective (of_float_to_float full)

theorem is_finite_to_float (full : number.Full) : number.toFloat.isFinite = true := by
  change number.toFloat.toModel.unpack.isFinite = true
  rw [unpack_to_float full, full.unpacked_eq]
  rfl

theorem not_is_inf_to_float (full : number.Full) : number.toFloat.isInf = false := by
  change number.toFloat.toModel.unpack.isInf = false
  rw [unpack_to_float full, full.unpacked_eq]
  rfl

theorem is_inf_to_float (wide : number.Wide) (great : 971 < number.exponent) :
    number.toFloat.isInf = true := by
  have beyond : 2 ^ Format.binary64.exponentBits ≤ (number.exponent +
      Format.binary64.exponentBias + Format.binary64.mantissaBitsWithoutImplicit).toNat + 1 := by
    change 2048 ≤ (number.exponent + 1023 + 52).toNat + 1
    omega
  have packed : UnpackedFloat.pack Format.binary64 number.unpacked =
      UnpackedFloat.packedInfinity Format.binary64 (signOf number.negative) := by
    rw [wide.unpacked_eq, UnpackedFloat.pack]
    exact if_pos beyond
  change (UnpackedFloat.unpack Format.binary64
    (UnpackedFloat.pack Format.binary64 number.unpacked)).isInf = true
  rw [packed]
  cases number.negative <;> rfl

def withSign (negative : Bool) (number : Binary) : Binary :=
  ⟨negative, number.mantissa, number.exponent⟩

theorem Full.with_sign (full : number.Full) (negative : Bool) : (number.withSign negative).Full :=
  ⟨full.full, full.small, full.least, full.greatest⟩

theorem neg_to_float (full : number.Full) :
    -number.toFloat = (number.withSign !number.negative).toFloat := by
  have negated : number.toFloat.toModel.unpack.neg =
      (number.withSign !number.negative).unpacked := by
    rw [unpack_to_float full, full.unpacked_eq, (full.with_sign _).unpacked_eq]
    rcases number with ⟨_ | _, mantissa, exponent⟩ <;> rfl
  exact congrArg (fun result => Float.ofModel (.pack result)) negated

-- The numbers that finite doubles hold.
structure Held (number : Binary) : Prop extends number.Normal where
  greatest : number.exponent ≤ 971

theorem Full.held (full : number.Full) : number.Held :=
  ⟨full.normal, full.greatest⟩

theorem unpack_finite {x : Float} (finite : x.isFinite = true) :
    (ofFloat x).Held ∧ x.toModel.unpack = (ofFloat x).unpacked := by
  obtain ⟨negative, exponent, fraction, bits⟩ := exists_components x.toModel.toBits.toBitVec
  have read := of_float_components negative exponent fraction bits
  have unpacked : x.toModel.unpack = UnpackedFloat.unpack Format.binary64
      (packComponents Format.binary64 (signOf negative) exponent fraction) :=
    congrArg (UnpackedFloat.unpack Format.binary64) bits
  have notLast : exponent ≠ -1#_ := by
    intro last
    change x.toModel.unpack.isFinite = true at finite
    rw [unpacked, UnpackedFloat.unpack] at finite
    simp only [unpackExponent_packComponents, if_pos last] at finite
    split at finite <;> cases finite
  refine ⟨⟨normal_of_float x, ?_⟩, ?_⟩
  · have bound : exponent.toNat ≠ 0x7FF := fun same => notLast (BitVec.eq_of_toNat_eq same)
    have := exponent.isLt
    rw [read, ofFields]
    split
    · exact (by decide : (-1074 : ℤ) ≤ 971)
    · show (exponent.toNat : ℤ) - 1075 ≤ 971
      omega
  · rw [unpacked, read]
    exact unpack_components negative exponent fraction notLast

theorem not_is_nan_of_finite {x : Float} (finite : x.isFinite = true) : x.isNaN = false := by
  change x.toModel.unpack.isNaN = false
  rw [(unpack_finite finite).2, unpacked]
  split <;> rfl

theorem is_nan_or_is_inf {x : Float} (infinite : ¬ x.isFinite = true) :
    x.isNaN = true ∨ x.isInf = true := by
  change ¬ x.toModel.unpack.isFinite = true at infinite
  change x.toModel.unpack.isNaN = true ∨ x.toModel.unpack.isInf = true
  cases unpacked : x.toModel.unpack with
  | notANumber => exact .inl rfl
  | infinity sign => exact .inr rfl
  | zero sign => exact absurd (by rw [unpacked]; rfl) infinite
  | finite sign mantissa exponent positive => exact absurd (by rw [unpacked]; rfl) infinite

end Binary

end StackCall
