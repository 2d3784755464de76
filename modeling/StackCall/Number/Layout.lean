import StackCall.Number.Shortest

set_option autoImplicit false

namespace StackCall

-- A format's decisions. The leading digit of a number stands at the power of ten that is its
-- decimal exponent; exponents from `least` to `most` are written positionally.
structure Layout where
  least : Int
  most : Int
  plus : Bool
  tie : Tie

def Decimal.digits (decimal : Decimal) : List Char :=
  Nat.toDigits 10 decimal.coefficient

def Decimal.leading (decimal : Decimal) : Int :=
  decimal.exponent + (decimal.digits.length - 1 : Nat)

def Decimal.significant (decimal : Decimal) : List Char :=
  (decimal.digits.reverse.dropWhile (· == '0')).reverse

def positional (digits : List Char) (leading : Int) : List Char :=
  if leading < 0 then '0' :: '.' :: List.replicate (-leading - 1).toNat '0' ++ digits
  else
    let places := leading.toNat + 1
    if digits.length ≤ places then
      digits ++ List.replicate (places - digits.length) '0' ++ ['.', '0']
    else digits.take places ++ '.' :: digits.drop places

def integerText (n : Int) : List Char :=
  if n < 0 then '-' :: Nat.toDigits 10 n.natAbs else Nat.toDigits 10 n.natAbs

def exponential (plus : Bool) (digits : List Char) (leading : Int) : List Char :=
  let mantissa :=
    match digits with
    | first :: second :: rest => first :: '.' :: second :: rest
    | single => single
  let mark := if plus && decide (0 ≤ leading) then ['e', '+'] else ['e']
  mantissa ++ mark ++ integerText leading

namespace Layout

def decimal (layout : Layout) (decimal : Decimal) : List Char :=
  let leading := decimal.leading
  if layout.least ≤ leading ∧ leading ≤ layout.most then positional decimal.significant leading
  else exponential layout.plus decimal.significant leading

def magnitude (layout : Layout) (number : Binary) : List Char :=
  if number.mantissa = 0 then ['0', '.', '0'] else layout.decimal (number.shortest layout.tie)

def text (layout : Layout) (x : Float) : List Char :=
  let number := Binary.ofFloat x
  if number.negative then '-' :: layout.magnitude number else layout.magnitude number

end Layout

end StackCall
