import StackCall.Function

set_option autoImplicit false

namespace StackCall.Builtin

def angleSignature : Signature where
  function := "ATAN2"
  required := [⟨"y", .number, "Ordinate of the point.", none, none⟩,
    ⟨"x", .number, "Abscissa of the point.", none, none⟩]
  optional := []
  sound := rfl

def angle : Function where
  signature := angleSignature
  body arguments := do
    let y ← StackM.ofExcept (arguments.number "y")
    let x ← StackM.ofExcept (arguments.number "x")
    StackM.push (.double (Float.atan2 y x))
  description := "Computes the angle theta of the polar coordinates (r, theta) of the point "
    ++ "(x, y). The last parameter, x, is expected on top of the stack."
  unitTests := ["1 1 ATAN2 PI 4 / - ABS 1e-12 < ASSERT",
    "\x7b 'y' 0 'x' -1 \x7d ATAN2 PI == ASSERT"]
  outputs := [⟨"theta", .double, "Angle in radians.", none, none⟩]
  profile := { since := "1.0.0", tags := ["math"], related := ["ROUND"] }

def answer : Except Refusal Value → StackM Unit
  | .ok value => StackM.push value
  | .error refusal => throw (.eval refusal)

-- The nearest integral double, a half going away from zero; a zero keeps its sign.
def roundDouble (x : Float) : Float :=
  let number := Binary.ofFloat x
  let magnitude := Float.ofNat number.nearest
  if number.negative then -magnitude else magnitude

-- Keeps digits after the point. A number so large that scaling overflows has none to lose.
def roundPlaces (x : Float) (places : Nat) : Float :=
  let factor := Float.ofScientific 1 false places
  let scaled := x * factor
  if scaled.isFinite then roundDouble scaled / factor else x

def roundTens (x : Float) (places : Nat) : Float :=
  let factor := 1.0 / Float.ofScientific 1 false places
  roundDouble (x * factor) / factor

-- The cast of a double to a LONG goes towards zero and stops at the ends of the range.
def castLong (x : Float) : Int64 :=
  if x.isNaN then 0 else Int64.ofIntClamp (Binary.ofFloat x).truncate

-- Both ends of the range are compared as doubles, and the upper one is rounded up to `2 ^ 63`.
def fitLong (function : String) (x rounded : Float) : Except Refusal Value :=
  if rounded < Float.ofInt Int64.minValue.toInt ∨ Float.ofInt Int64.maxValue.toInt ≤ rounded then
    .error (.doesNotFit function x)
  else .ok (.long (castLong rounded))

def roundFinite (function : String) (x : Float) (digits : Int64) : Except Refusal Value :=
  let places := digits.toInt32.toInt.natAbs
  if 0 < digits.toInt then .ok (.double (roundPlaces x places))
  else fitLong function x (roundTens x places)

def roundNumber (function : String) (x : Float) (digits : Int64) : Except Refusal Value :=
  if x.isFinite then roundFinite function x digits else .error (.notFinite function x)

def roundingSignature : Signature where
  function := "ROUND"
  required := [⟨"value", .number, "Number to round.", none, none⟩]
  optional := [⟨"digits", .long, "Count of decimal digits to keep.", some (.long 0), none⟩]
  sound := rfl

-- The absolute value of the least LONG is that LONG again, so it passes the check of the count; the
-- power of ten is that of its lowest 32 bits, which are zero.
def rounding : Function where
  signature := roundingSignature
  body arguments := do
    let digits ← StackM.ofExcept (arguments.long "digits")
    if 15 < digits.abs.toInt then
      throw (.eval (.digitCount roundingSignature.function 15 digits))
    else
      let value ← StackM.ofExcept (arguments.value "value")
      if value.long?.isSome ∧ 0 ≤ digits.toInt then
        StackM.push value
      else
        let x ← StackM.ofExcept (arguments.number "value")
        answer (roundNumber roundingSignature.function x digits)
  description :=
    "Rounds a number half away from zero, keeping the requested count of decimal digits."
  unitTests := ["2.5 ROUND 3 == ASSERT",
    "\x7b 'value' 3.14159 'digits' 2 \x7d ROUND 3.14 == ASSERT"]
  outputs := [⟨"rounded", .number, "Rounded value.", none, none⟩]
  profile := { since := "1.0.0", tags := ["math"] }

def padLeft (text : String) (width : Nat) (fill : Char) : String :=
  String.ofList (List.replicate (width - text.length) fill ++ text.toList)

def padText (function text : String) (width : Int64) (fill : String) : Except Refusal String :=
  match fill.toList with
  | [c] =>
      if width.toInt < 0 then .error (.negativeWidth function width)
      else .ok (padLeft text width.toInt.toNat c)
  | _ => .error (.notOneCharacter function fill)

def paddingSignature : Signature where
  function := "PAD"
  required := []
  optional := [⟨"text", .string, "Text to pad.", some (.string ""), none⟩,
    ⟨"width", .long, "Minimum width in characters.", some (.long 8), none⟩,
    ⟨"fill", .string, "Single fill character.", some (.string " "), none⟩]
  sound := rfl

def padding : Function where
  signature := paddingSignature
  body arguments := do
    let text ← StackM.ofExcept (arguments.string "text")
    let width ← StackM.ofExcept (arguments.long "width")
    let fill ← StackM.ofExcept (arguments.string "fill")
    answer ((padText paddingSignature.function text width fill).map .string)
  description :=
    "Pads a string on the left with a fill character until it reaches a minimum width."
  unitTests := ["\x7b 'text' '7' 'width' 3 'fill' '0' \x7d PAD '007' == ASSERT"]
  outputs := [⟨"padded", .string, "Padded text.", none, none⟩]
  profile := { since := "1.0.0", tags := ["strings"] }

def depth : Function where
  signature := Signature.empty "DEPTH"
  body _ := do
    let depth ← StackM.depth
    StackM.push (.long (Int64.ofNat depth))
  description := "Pushes the number of levels on the stack."
  unitTests := ["CLEAR 1 2 DEPTH 2 == ASSERT"]
  outputs := [⟨"depth", .long, "Depth before the call.", none, none⟩]
  profile := { since := "1.0.0", tags := ["stack"] }

end StackCall.Builtin
