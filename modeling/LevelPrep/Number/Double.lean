import LevelPrep.Number.Power

/-!
# Doubles as exact numbers

A finite double is `mantissa · 2 ^ exponent` with a mantissa below `2 ^ 53`.  `Form.ofFloat` takes a
double apart, and `nearest` finds the double nearest to a quotient of two naturals, an exact tie going
to the even mantissa.
-/

namespace LevelPrep.Number

/-- What a double denotes. -/
inductive Form where
  | nan
  | infinite (negative : Bool)
  | finite (negative : Bool) (mantissa : Nat) (exponent : Int)
deriving DecidableEq, Repr

/-- Takes a double apart. -/
def Form.ofFloat (x : Float) : Form :=
  let bits : Nat := x.toBits.toNat
  let negative := bits / twoPow 63 = 1
  let scale : Nat := bits / twoPow 52 % twoPow 11
  let fraction : Nat := bits % twoPow 52
  if scale = 2047 then
    if fraction = 0 then .infinite negative else .nan
  else if scale = 0 then .finite negative fraction (-1074)
  else .finite negative (twoPow 52 + fraction) ((scale : Int) - 1075)

/-- The quotient of two naturals rounded to a natural; a half goes to the even neighbour. -/
def roundQuotient (num den : Nat) : Nat :=
  let q := num / den
  let rest := 2 * (num % den)
  if rest > den ∨ (rest = den ∧ q % 2 = 1) then q + 1 else q

/-- The quotient `num / (den · 2 ^ exponent)` as numerator and denominator. -/
def scaleDown (num den : Nat) (exponent : Int) : Nat × Nat :=
  if exponent ≥ 0 then (num, den * twoPow exponent.toNat) else (num * twoPow (-exponent).toNat, den)

/-- The bits, sign apart, of the double nearest to `num / den`; infinity if it is out of range. -/
def nearestBits (num den : Nat) : Nat :=
  if num = 0 then 0
  else
    let guess : Int := max (num.log2 - den.log2 - 52) (-1074)
    let fits := (scaleDown num den guess).1 / (scaleDown num den guess).2 ≥ twoPow 52
    let exponent := if fits then guess else max (guess - 1) (-1074)
    let mantissa := roundQuotient (scaleDown num den exponent).1 (scaleDown num den exponent).2
    if mantissa < twoPow 52 then mantissa
    else min ((exponent + 1075).toNat * twoPow 52 + (mantissa - twoPow 52)) (2047 * twoPow 52)

/-- The double nearest to `num / den`, with the given sign. -/
def nearest (negative : Bool) (num den : Nat) : Float :=
  Float.ofBits (UInt64.ofNat (nearestBits num den + if negative then twoPow 63 else 0))

/-- The double nearest to `digits · 10 ^ exponent`, with the given sign.  Exponents far out of range
are settled by size alone. -/
def ofDecimal (negative : Bool) (digits : Nat) (exponent : Int) : Float :=
  let size : Int := digits.log2 / 3 + exponent
  if digits = 0 ∨ size < -700 then nearest negative 0 1
  else if exponent > 400 then nearest negative (twoPow 1024) 1
  else if exponent ≥ 0 then nearest negative (digits * tenPow exponent.toNat) 1
  else nearest negative digits (tenPow (-exponent).toNat)

/-- The double nearest to an integer. -/
def ofInt (n : Int) : Float :=
  nearest (n < 0) n.natAbs 1

/-- Whether the integer is too large in magnitude to be rounded to a finite double. -/
def isTooLarge (n : Int) : Bool :=
  nearestBits n.natAbs 1 ≥ 2047 * twoPow 52

/-- The integer part of a finite double, toward zero. -/
def truncate? (x : Float) : Option Int :=
  match Form.ofFloat x with
  | .finite negative mantissa exponent =>
    let magnitude : Nat :=
      if exponent ≥ 0 then mantissa * twoPow exponent.toNat else mantissa / twoPow (-exponent).toNat
    some (if negative then -magnitude else magnitude)
  | _ => none

/-- The integer that a double is, if it is one. -/
def whole? (x : Float) : Option Int :=
  match Form.ofFloat x with
  | .finite negative mantissa exponent =>
    let (num, den) := scaleDown mantissa 1 (-exponent)
    if num % den = 0 then some (if negative then -(num / den : Nat) else (num / den : Nat)) else none
  | _ => none

/-- The integer nearest to a double; a half goes to the even neighbour. -/
def roundToWhole (x : Float) : Float :=
  match Form.ofFloat x with
  | .finite negative mantissa exponent =>
    let (num, den) := scaleDown mantissa 1 (-exponent)
    nearest negative (roundQuotient num den) 1
  | _ => x

/-- Rounds to a number of decimal places, in doubles: the double is scaled up, rounded to an integer
and scaled down again, and each step rounds to the nearest double. -/
def roundToPlaces (places : Nat) (x : Float) : Float :=
  let scale := nearest false (tenPow places) 1
  roundToWhole (x * scale) / scale

end LevelPrep.Number
