set_option autoImplicit false

namespace StackCall

structure Binary where
  negative : Bool
  mantissa : Nat
  exponent : Int
  deriving DecidableEq

namespace Binary

def leading : Nat := 0x10000000000000

-- Reads the bits of a finite double: 52 bits of fraction, 11 of exponent, and the sign.
def ofFloat (x : Float) : Binary :=
  let bits := x.toBits.toNat
  let fraction := bits % leading
  let biased : Nat := bits / leading % 0x800
  let negative := bits / leading / 0x800 == 1
  if biased = 0 then ⟨negative, fraction, -1074⟩
  else ⟨negative, leading + fraction, (biased : Int) - 1075⟩

def nearest (number : Binary) : Nat :=
  if 0 ≤ number.exponent then number.mantissa * Nat.pow 2 number.exponent.toNat
  else
    let unit := Nat.pow 2 (-number.exponent).toNat
    (2 * number.mantissa + unit) / (2 * unit)

def whole (number : Binary) : Nat :=
  if 0 ≤ number.exponent then number.mantissa * Nat.pow 2 number.exponent.toNat
  else number.mantissa / Nat.pow 2 (-number.exponent).toNat

def signed (number : Binary) (magnitude : Nat) : Int :=
  if number.negative then -(magnitude : Int) else magnitude

-- The nearest integer; a half goes away from zero.
def round (number : Binary) : Int := number.signed number.nearest

def truncate (number : Binary) : Int := number.signed number.whole

end Binary

end StackCall
