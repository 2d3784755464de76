import StackCall.Json

set_option autoImplicit false

namespace StackCall.Json

structure Numeral where
  negative : Bool
  whole : List Char
  fraction : List Char
  exponent : Option Int

namespace Numeral

def digits (input : List Char) : List Char × List Char :=
  (input.takeWhile Char.isDigit, input.dropWhile Char.isDigit)

def sign : List Char → Bool × List Char
  | '-' :: rest => (true, rest)
  | input => (false, input)

def readWhole (input : List Char) : Option (List Char × List Char) :=
  match digits input with
  | ([], _) => none
  | ('0' :: _ :: _, _) => none
  | found => some found

def readFraction : List Char → Option (List Char × List Char)
  | '.' :: rest =>
      match digits rest with
      | ([], _) => none
      | found => some found
  | input => some ([], input)

def readPower (negative : Bool) (input : List Char) : Option (Option Int × List Char) :=
  match digits input with
  | ([], _) => none
  | (found, rest) =>
      let power : Int := Nat.ofDigitChars 10 found 0
      some (some (if negative then -power else power), rest)

def readExponent : List Char → Option (Option Int × List Char)
  | [] => some (none, [])
  | mark :: rest =>
      if mark == 'e' || mark == 'E' then
        match rest with
        | '+' :: more => readPower false more
        | '-' :: more => readPower true more
        | more => readPower false more
      else some (none, mark :: rest)

def read (input : List Char) : Option (Numeral × List Char) := do
  let (negative, rest) := sign input
  let (whole, rest) ← readWhole rest
  let (fraction, rest) ← readFraction rest
  let (exponent, rest) ← readExponent rest
  return (⟨negative, whole, fraction, exponent⟩, rest)

def limit : Nat := 0x10000000000000000

-- Appends digits to a significand while it stays below the limit. The second part of the result
-- counts the digits that were appended.
def absorb (significand : Nat) : List Char → Nat × Nat
  | [] => (significand, 0)
  | digit :: rest =>
      let longer := 10 * significand + (digit.toNat - 48)
      if longer < limit then
        let (last, count) := absorb longer rest
        (last, count + 1)
      else (significand, 0)

-- Multiplies by a power of ten in doubles. Fails when the product is infinite or the power is
-- greater than any double; powers below the range of doubles are divided out in steps.
def scale (x : Float) (power : Int) : Option Float :=
  if power.natAbs ≤ 308 then
    if 0 ≤ power then
      let product := x * Float.ofScientific 1 false power.toNat
      if product.isInf then none else some product
    else some (x / Float.ofScientific 1 false power.natAbs)
  else if x == 0 then some x
  else if 0 ≤ power then none
  else scale (x / Float.ofScientific 1 false 308) (power + 308)
termination_by (-power).toNat

def real? (numeral : Numeral) : Option Float :=
  let (leading, kept) := absorb 0 numeral.whole
  let (significand, places) := absorb leading numeral.fraction
  let dropped := numeral.whole.length - kept
  let power := (dropped : Int) - places + numeral.exponent.getD 0
  (scale (Float.ofNat significand) power).map fun x => if numeral.negative then -x else x

-- A numeral without point and exponent is an integer when it fits in 64 bits, unsigned, or signed
-- if it is negative; a negative zero is no integer.
def integer? (numeral : Numeral) : Option Int :=
  if numeral.fraction.isEmpty && numeral.exponent.isNone then
    let magnitude := Nat.ofDigitChars 10 numeral.whole 0
    if numeral.negative then
      if 0 < magnitude ∧ 2 * magnitude ≤ limit then some (-(magnitude : Int)) else none
    else if magnitude < limit then some magnitude
    else none
  else none

def toJson? (numeral : Numeral) : Option Json :=
  match numeral.integer? with
  | some n => some (.integer n)
  | none => numeral.real?.map .real

end Numeral

end StackCall.Json
