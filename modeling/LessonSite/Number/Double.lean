/-!
# Floating-point numbers

Numbers with 53 binary digits, as exact pairs of a mantissa and a power of two.
A decimal is rounded to the nearest of them, a half to the even neighbour, and
each is written with the fewest decimal digits that are rounded to it again.
-/

namespace LessonSite

/-- A floating-point number; a finite one is
`mantissa * 2 ^ (exponent - 1074)`. -/
inductive Double where
  | notANumber
  | infinite (negative : Bool)
  | finite (negative : Bool) (mantissa exponent : Nat)
deriving Repr, DecidableEq, Inhabited

namespace Double

/-- The nearest natural number to a quotient, a half being rounded to the even
neighbour. -/
def roundDiv (numerator denominator : Nat) : Nat :=
  let quotient := numerator / denominator
  let twice := 2 * (numerator % denominator)
  if twice > denominator ∨ (twice = denominator ∧ quotient % 2 = 1) then
    quotient + 1
  else quotient

def bitLength (number : Nat) : Nat :=
  if number = 0 then 0 else Nat.log2 number + 1

/-- The number nearest to a fraction, which is given in units of `2 ^ -1074`. -/
def ofFraction (negative : Bool) (numerator denominator : Nat) : Double :=
  let exponent := bitLength (numerator / denominator) - 53
  let mantissa := roundDiv numerator (denominator * Nat.pow 2 exponent)
  let (mantissa, exponent) :=
    if mantissa = Nat.pow 2 53 then (Nat.pow 2 52, exponent + 1)
    else (mantissa, exponent)
  if exponent > 2045 then
    .infinite negative
  else .finite negative mantissa exponent

/-- The number nearest to a decimal, `digits` times ten to the power of
`scale`. -/
def ofDecimal (negative : Bool) (digits : Nat) (scale : Int) : Double :=
  let magnitude := scale + (Nat.toDigits 10 digits).length
  if digits = 0 ∨ magnitude < -400 then .finite negative 0 0
  else if magnitude > 400 then .infinite negative
  else if scale ≥ 0 then
    ofFraction negative (digits * Nat.pow 10 scale.toNat * Nat.pow 2 1074) 1
  else
    ofFraction negative (digits * Nat.pow 2 1074) (Nat.pow 10 (-scale).toNat)

/-- A decimal without trailing zeros: its digits and the position of the point
before them. -/
structure Decimal where
  digits : List Char
  point : Int
deriving Repr, DecidableEq

/-- The number of digits before the point of a positive fraction, negative for
leading zeros. -/
def magnitude (numerator denominator : Nat) : Int :=
  if numerator ≥ denominator then
    (Nat.toDigits 10 (numerator / denominator)).length
  else -(search 400 0 : Nat)
where
  /-- The number of zeros right after the point. -/
  search : Nat → Nat → Nat
    | 0, zeros => zeros
    | bound + 1, zeros =>
        if numerator * Nat.pow 10 (zeros + 1) ≥ denominator then
          zeros
        else search bound (zeros + 1)

/-- The nearest decimal of the given length that is rounded to the number, if
there is one; of two that are equally near, the greater. -/
def decimalOfLength? (mantissa exponent length : Nat) : Option Decimal :=
  let unit := Nat.pow 2 exponent
  let value := 4 * mantissa * unit
  let low :=
    value -
      (if mantissa = Nat.pow 2 52 ∧ exponent > 0 then unit else 2 * unit)
  let high := value + 2 * unit
  let denominator := 4 * Nat.pow 2 1074
  let point := magnitude value denominator
  let scale := point - length
  let widened := fun (part : Nat) => part * Nat.pow 10 (-scale).toNat
  let base := denominator * Nat.pow 10 scale.toNat
  let inside := fun (candidate : Nat) =>
    let place := candidate * base
    if mantissa % 2 = 0 then widened low ≤ place && place ≤ widened high
    else widened low < place && place < widened high
  let below := widened value / base
  let remainder := widened value % base
  let order :=
    if 2 * remainder ≥ base then [below + 1, below] else [below, below + 1]
  (order.find? inside).map fun candidate =>
    let digits := Nat.toDigits 10 candidate
    { digits := (digits.reverse.dropWhile (· == '0')).reverse
      point := point + (digits.length - length : Int) }

/-- The shortest decimal that is rounded to the number. -/
def shortest (mantissa exponent : Nat) : Decimal :=
  ((List.range 17).findSome? fun fewer =>
      decimalOfLength? mantissa exponent (fewer + 1)).getD
    ⟨['0'], 1⟩

/-- A decimal with its point: positional from a ten-thousandth up to sixteen
digits before the point, with an exponent otherwise. -/
def Decimal.write (decimal : Decimal) : String :=
  let digits := decimal.digits
  let point := decimal.point
  if -4 < point ∧ point ≤ 16 then
    if point ≤ 0 then
      "0." ++ String.ofList (List.replicate (-point).toNat '0' ++ digits)
    else
      let whole := digits.take point.toNat
      let padding := List.replicate (point.toNat - whole.length) '0'
      let fraction := digits.drop point.toNat
      String.ofList (whole ++ padding) ++ "." ++
        (if fraction.isEmpty then "0" else String.ofList fraction)
  else
    let fraction := digits.drop 1
    String.ofList (digits.take 1) ++
      (if fraction.isEmpty then "" else "." ++ String.ofList fraction) ++ "e" ++
      toString (point - 1)

def write : Double → String
  | .notANumber => "NaN"
  | .infinite negative => if negative then "-inf" else "inf"
  | .finite negative mantissa exponent =>
      (if negative then "-" else "") ++
        (if mantissa = 0 then "0.0" else (shortest mantissa exponent).write)

end Double

end LessonSite
