import StackCall.Number.Binary

set_option autoImplicit false

namespace StackCall

structure Decimal where
  coefficient : Nat
  exponent : Int
  deriving DecidableEq

inductive Tie where
  | larger
  | even
  deriving DecidableEq

-- The numbers that read back as one double, counted in units of `10 ^ exponent`: from `below` under
-- the centre to `above` over it. The two ends belong to it only when it is closed.
structure Neighbourhood where
  centre : Nat
  below : Nat
  above : Nat
  closed : Bool
  exponent : Int

-- A double reaches half way to each of its neighbours. The neighbour below a power of two is only
-- half as far away as the one above, and a tie is read as the even mantissa.
def Binary.neighbourhood (number : Binary) : Neighbourhood :=
  let quarter := number.exponent - 2
  let unit := if 0 ≤ quarter then Nat.pow 2 quarter.toNat else Nat.pow 5 (-quarter).toNat
  let below := if number.mantissa = Binary.leading ∧ -1074 < number.exponent then 1 else 2
  { centre := 4 * number.mantissa * unit
    below := below * unit
    above := 2 * unit
    closed := number.mantissa % 2 == 0
    exponent := min quarter 0 }

namespace Neighbourhood

def holds (around : Neighbourhood) (candidate : Nat) : Bool :=
  if around.closed then
    around.centre ≤ candidate + around.below && candidate ≤ around.centre + around.above
  else around.centre < candidate + around.below && candidate < around.centre + around.above

-- Of the two neighbours of the centre on the grid of `10 ^ step`, the one that belongs to the
-- neighbourhood, and the nearer one when both do.
def onGrid? (around : Neighbourhood) (tie : Tie) (step : Nat) : Option Nat :=
  let unit := Nat.pow 10 step
  let low := around.centre / unit
  let high := low + 1
  let toLow := around.centre - low * unit
  let toHigh := high * unit - around.centre
  match around.holds (low * unit), around.holds (high * unit) with
  | false, false => none
  | true, false => some low
  | false, true => some high
  | true, true =>
      if toLow < toHigh then some low
      else if toHigh < toLow then some high
      else if tie = .even ∧ low % 2 = 0 then some low
      else some high

-- The first hit on the grids from `10 ^ step` down. The finest grid holds the centre itself.
def coarsest (around : Neighbourhood) (tie : Tie) : Nat → Nat × Nat
  | 0 => (around.centre, 0)
  | step + 1 =>
      match around.onGrid? tie (step + 1) with
      | some coefficient => (coefficient, step + 1)
      | none => around.coarsest tie step

end Neighbourhood

def Binary.shortest (number : Binary) (tie : Tie) : Decimal :=
  let around := number.neighbourhood
  let places := (Nat.toDigits 10 around.centre).length
  let found := around.coarsest tie (places - 1)
  ⟨found.1, around.exponent + found.2⟩

end StackCall
