import StackCall.Proofs.Number.Integers

set_option autoImplicit false

namespace StackCall

-- An integer at the least distance from a number; of two, the one farther from zero.
structure NearestInteger (x : ℚ) (k : ℤ) : Prop where
  near : |x - k| ≤ 1 / 2
  away : |x - k| = 1 / 2 → |x| < |(k : ℚ)|

-- Two different ones would be half way on either side, and both farther from zero.
theorem NearestInteger.le {x : ℚ} {k other : ℤ} (first : NearestInteger x k)
    (second : NearestInteger x other) : other ≤ k := by
  by_contra less
  have apart : (k : ℚ) + 1 ≤ other := by exact_mod_cast not_le.mp less
  have above := (abs_le.mp first.near).2
  have below := (abs_le.mp second.near).1
  have half : x = k + 1 / 2 := by linarith
  have next : (other : ℚ) = k + 1 := by linarith
  have awayFirst := first.away (by rw [half, add_sub_cancel_left, abs_of_pos one_half_pos])
  have awaySecond := second.away (by rw [half, next]; norm_num)
  rw [half] at awayFirst awaySecond
  rw [next] at awaySecond
  rcases le_or_gt 0 k with nonnegative | negative
  · have sign : (0 : ℚ) ≤ k := by exact_mod_cast nonnegative
    rw [abs_of_nonneg sign, abs_of_nonneg (by linarith)] at awayFirst
    linarith
  · have sign : (k : ℚ) + 1 ≤ 0 := by exact_mod_cast negative
    rw [abs_of_nonpos sign, abs_of_nonpos (by linarith)] at awaySecond
    linarith

theorem NearestInteger.unique {x : ℚ} {k other : ℤ} (first : NearestInteger x k)
    (second : NearestInteger x other) : k = other :=
  le_antisymm (second.le first) (first.le second)

namespace Binary

theorem nearest_bounds (number : Binary) :
    (number.nearest : ℚ) - 1 / 2 ≤ number.magnitude ∧
      number.magnitude < number.nearest + 1 / 2 := by
  have nonnegative : 0 ≤ number.magnitude + 1 / 2 := by
    rw [magnitude]
    positivity
  have low := Nat.floor_le nonnegative
  have high := Nat.lt_floor_add_one (number.magnitude + 1 / 2)
  have low : (⌊number.magnitude + 1 / 2⌋₊ : ℚ) - 1 / 2 ≤ number.magnitude := by linarith
  have high : number.magnitude < ⌊number.magnitude + 1 / 2⌋₊ + 1 / 2 := by linarith
  rw [nearest_eq low high]
  exact ⟨low, high⟩

theorem nearest_integer_round (number : Binary) : NearestInteger number.value number.round := by
  obtain ⟨low, high⟩ := number.nearest_bounds
  have distance : |number.value - number.round| = |number.magnitude - number.nearest| := by
    rw [value, round, signed]
    split
    · rw [Int.cast_neg, Int.cast_natCast, ← neg_sub', abs_neg]
    · rw [Int.cast_natCast]
  have size : |(number.round : ℚ)| = number.nearest := by
    rw [round, signed]
    split <;> simp
  constructor
  · rw [distance, abs_le]
    constructor <;> linarith
  · intro tie
    rw [distance] at tie
    rw [abs_value, size]
    rcases abs_choice (number.magnitude - number.nearest) with same | same <;>
      rw [same] at tie <;> linarith

end Binary

end StackCall
