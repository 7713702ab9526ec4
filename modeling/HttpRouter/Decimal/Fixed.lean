import HttpRouter.Decimal.Binary

/-!
# Two places after the point

Durations are reported with two places, rounded from the exact binary value, halves to the even neighbour.
-/

namespace HttpRouter.Decimal

/-- How many hundredths a finite double is nearest to. -/
def Binary.hundredths (b : Binary) : Nat :=
  roundHalfEven (b.numerator * 100) b.denominator

/-- A number of hundredths with two places after the point. -/
def writeHundredths (negative : Bool) (n : Nat) : List Char :=
  let text := Nat.toDigits 10 (n / 100) ++ ['.', Nat.digitChar (n % 100 / 10), Nat.digitChar (n % 10)]
  if negative then '-' :: text else text

/-- A double with two places after the point. -/
def twoPlaces (x : Float) : String :=
  match decode x with
  | .nan => "nan"
  | .infinite negative => if negative then "-inf" else "inf"
  | .finite b => String.ofList (writeHundredths b.negative b.hundredths)

/-- The double nearest to `digits · 10 ^ exponent`. -/
def nearest (digits : Nat) (exponent : Int) : Float :=
  let scale := exponent + (Nat.toDigits 10 digits).length
  if digits = 0 ∨ scale < -330 then 0.0
  else if 310 < scale then 1.0 / 0.0
  else if exponent < 0 then Float.ofScientific digits true exponent.natAbs
  else Float.ofScientific digits false exponent.toNat

/-- The double nearest to a double rounded to two places. -/
def roundedToHundredths (x : Float) : Float :=
  match decode x with
  | .finite b =>
    let y := nearest b.hundredths (-2)
    if b.negative then -y else y
  | _ => x

end HttpRouter.Decimal
