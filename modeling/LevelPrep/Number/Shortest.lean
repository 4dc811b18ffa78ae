import LevelPrep.Number.Double

/-!
# The shortest decimal of a double

A double is written with the fewest digits that read back as the same double and, among those, as the
decimal nearest to it.  The reals that round to a given double form an interval; for 1, 2, … digits the
two neighbours of the double on the decimal grid of that many digits are tested against it.
-/

namespace LevelPrep.Number

/-- The decimal exponent of a positive quotient: the `p` with `10 ^ p ≤ num / den < 10 ^ (p + 1)`. -/
def decimalExponent (num den : Nat) : Int :=
  if num ≥ den then ((Nat.toDigits 10 (num / den)).length : Int) - 1
  else
    let places := (Nat.toDigits 10 (den / num)).length
    if num * tenPow (places - 1) ≥ den then 1 - places else -places

/-- A positive double `mantissa · 2 ^ exponent` with the interval of reals that round to it, all in
quarters of the last binary place: `lower`, `value` and `upper` over a common denominator. -/
structure Rounding where
  lower : Nat
  value : Nat
  upper : Nat
  den : Nat
  /-- Whether the ends of the interval round to the double as well. -/
  closed : Bool

/-- The interval around `mantissa · 2 ^ exponent`.  Below a power of two doubles lie twice as dense. -/
def Rounding.around (mantissa : Nat) (exponent : Int) : Rounding :=
  let below := if mantissa = twoPow 52 ∧ exponent > -1074 then 1 else 2
  let scale := if exponent ≥ 0 then twoPow exponent.toNat else 1
  { lower := (4 * mantissa - below) * scale
    value := 4 * mantissa * scale
    upper := (4 * mantissa + 2) * scale
    den := 4 * (if exponent ≥ 0 then 1 else twoPow (-exponent).toNat)
    closed := mantissa % 2 = 0 }

/-- Whether `digits · num / den` rounds to the double, for a grid unit `num / den`. -/
def Rounding.holds (r : Rounding) (digits num den : Nat) : Bool :=
  let point := digits * num * r.den
  if r.closed then r.lower * den ≤ point && point ≤ r.upper * den
  else r.lower * den < point && point < r.upper * den

/-- The nearer of the two neighbours of the double on the grid of `10 ^ place`, of those that round to
it; a tie goes to the even one. -/
def Rounding.onGrid? (r : Rounding) (place : Int) : Option Nat :=
  let num := if place ≥ 0 then tenPow place.toNat else 1
  let den := if place ≥ 0 then 1 else tenPow (-place).toNat
  let low := r.value * den / (r.den * num)
  let twice := 2 * (r.value * den - low * (r.den * num))
  let lowFirst := twice < r.den * num || (twice = r.den * num && low % 2 = 0)
  let order := if lowFirst then [low, low + 1] else [low + 1, low]
  order.find? fun digits => r.holds digits num den

/-- The shortest decimal `digits · 10 ^ place`, trying `count`, `count + 1`, … digits. -/
def Rounding.search (r : Rounding) (top : Int) : (tries count : Nat) → Nat × Int
  | 0, _ => (0, 0)
  | tries + 1, count =>
    let place := top - count + 1
    match r.onGrid? place with
    | some digits => (digits, place)
    | none => r.search top tries (count + 1)

/-- The shortest decimal `digits · 10 ^ place` that reads back as the positive double
`mantissa · 2 ^ exponent`; seventeen digits always do. -/
def shortestDecimal (mantissa : Nat) (exponent : Int) : Nat × Int :=
  let r := Rounding.around mantissa exponent
  r.search (decimalExponent r.value r.den) 17 1

/-- Writes `digits · 10 ^ place`: positionally if the first digit has a place value from `10 ^ -4` up
to `10 ^ 15`, with a sign and at least two digits in the exponent otherwise. -/
def writeDecimal (digits : Nat) (place : Int) : String :=
  let chars := Nat.toDigits 10 digits
  let top : Int := place + chars.length - 1
  if -4 ≤ top ∧ top < 16 then
    if top < 0 then
      "0." ++ String.ofList (List.replicate (-top - 1).toNat '0' ++ chars)
    else
      let whole := chars.take (top.toNat + 1)
      let padding := List.replicate (top.toNat + 1 - chars.length) '0'
      let fraction := chars.drop (top.toNat + 1)
      String.ofList (whole ++ padding ++ '.' :: (if fraction.isEmpty then ['0'] else fraction))
  else
    let point := if chars.length ≤ 1 then [] else '.' :: chars.drop 1
    let exponent := Nat.toDigits 10 top.natAbs
    let padded := if exponent.length < 2 then '0' :: exponent else exponent
    String.ofList (chars.take 1 ++ point ++ 'e' :: (if top < 0 then '-' else '+') :: padded)

/-- Drops the zeros at the end of a decimal's digits. -/
def stripZeros : (fuel : Nat) → Nat → Int → Nat × Int
  | 0, digits, place => (digits, place)
  | fuel + 1, digits, place =>
    if digits ≠ 0 ∧ digits % 10 = 0 then stripZeros fuel (digits / 10) (place + 1)
    else (digits, place)

/-- The text of a double: its shortest decimal, `inf`, `-inf` or `nan`. -/
def floatText (x : Float) : String :=
  match Form.ofFloat x with
  | .nan => "nan"
  | .infinite negative => if negative then "-inf" else "inf"
  | .finite negative mantissa exponent =>
    let text :=
      if mantissa = 0 then "0.0"
      else
        let (digits, place) := shortestDecimal mantissa exponent
        let (digits, place) := stripZeros 17 digits place
        writeDecimal digits place
    if negative then "-" ++ text else text

end LevelPrep.Number
