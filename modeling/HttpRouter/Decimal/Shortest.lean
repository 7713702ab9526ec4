import HttpRouter.Decimal.Binary

/-!
# The shortest decimal that reads back

A double is written with the fewest significant digits that still read back as the same double; among those the nearest
to its value, a tie going to the even digit. Reading rounds to nearest, halves to the even mantissa, so a decimal reads
back exactly when it lies between the midpoints to the neighbouring doubles, midpoints included for an even mantissa.
-/

namespace HttpRouter.Decimal

/-- A decimal `digits · 10 ^ exponent`. -/
structure Scaled where
  digits : Nat
  exponent : Int
deriving DecidableEq, Repr

/-- The power of ten at or below `mantissa · 2 ^ exponent`, for a positive mantissa. -/
def leadingExponent (b : Binary) : Int :=
  let estimate := ((b.mantissa.log2 : Int) + b.exponent) * 30103 / 100000
  let next := estimate + 1
  if Nat.pow 10 next.toNat * b.denominator ≤ b.numerator * Nat.pow 10 (-next).toNat then next else estimate

/-- The decimal with `count` digits that lies between the midpoints around a positive double, if there is one: of the
two nearest to its value the nearer one. -/
def withDigits? (b : Binary) (count : Nat) : Option Scaled :=
  let e := leadingExponent b - count + 1
  -- everything over the same denominator, in quarters of the last place of the mantissa
  let unit := Nat.pow 10 e.toNat * b.denominator * 4
  let scale := Nat.pow 2 b.exponent.toNat * Nat.pow 10 (-e).toNat
  let value := 4 * b.mantissa * scale
  let below := if b.mantissa = leadingBit ∧ b.exponent > -1074 then 1 else 2
  let low := (4 * b.mantissa - below) * scale
  let high := (4 * b.mantissa + 2) * scale
  let inside := fun n : Nat =>
    if b.mantissa % 2 = 0 then low ≤ n && n ≤ high else low < n && n < high
  let d := value / unit
  let lower := d * unit
  let upper := (d + 1) * unit
  match inside lower, inside upper with
  | false, false => none
  | true, false => some ⟨d, e⟩
  | false, true => some ⟨d + 1, e⟩
  | true, true =>
    let left := value - lower
    let right := upper - value
    if left < right then some ⟨d, e⟩
    else if right < left then some ⟨d + 1, e⟩
    else some ⟨if d % 2 = 0 then d else d + 1, e⟩

/-- The shortest decimal that reads back as a positive double. Seventeen digits always do. -/
def shortest (b : Binary) : Scaled :=
  ((List.range 17).findSome? fun n => withDigits? b (n + 1)).getD ⟨b.mantissa, b.exponent⟩

/-- The decimal digits of a number, without trailing zeros, and how many were dropped. -/
def trimZeros (s : List Char) : List Char × Nat :=
  let kept := (s.reverse.dropWhile (· == '0')).reverse
  (kept, s.length - kept.length)

/-- At least two digits. -/
def twoDigits (n : Nat) : List Char :=
  if n < 10 then '0' :: Nat.toDigits 10 n else Nat.toDigits 10 n

/-- Writes a decimal: positionally from `0.0001` up to below `10 ^ 16`, otherwise with an exponent of at least two digits
and a sign. A whole number keeps one zero after the point. -/
def Scaled.write (d : Scaled) : List Char :=
  let (digits, dropped) := trimZeros (Nat.toDigits 10 d.digits)
  let count := digits.length
  -- the number of digits before the point
  let point := d.exponent + dropped + count
  if -4 < point ∧ point ≤ 16 then
    if point ≤ 0 then '0' :: '.' :: List.replicate (-point).toNat '0' ++ digits
    else if count ≤ point.toNat then digits ++ List.replicate (point.toNat - count) '0' ++ ['.', '0']
    else digits.take point.toNat ++ '.' :: digits.drop point.toNat
  else
    let e := point - 1
    let mantissa := match digits with
      | [] => []
      | [c] => [c]
      | c :: rest => c :: '.' :: rest
    mantissa ++ 'e' :: (if e < 0 then '-' else '+') :: twoDigits e.natAbs

/-- The text of a double. -/
def floatText (x : Float) : String :=
  match decode x with
  | .nan => "nan"
  | .infinite negative => if negative then "-inf" else "inf"
  | .finite b =>
    let text := if b.mantissa = 0 then ['0', '.', '0'] else (shortest b).write
    String.ofList (if b.negative then '-' :: text else text)

end HttpRouter.Decimal
