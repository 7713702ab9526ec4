/-!
# Floating-point numbers taken apart

A finite double is `mantissa · 2 ^ exponent` with a sign. All exact work on floats (their text, their rounding, their
comparison with whole numbers) goes through this form. Rounding a quotient is off by half a unit at most
(`roundHalfEven_near`).
-/

namespace HttpRouter.Decimal

/-- A finite double: `mantissa · 2 ^ exponent`, negated if `negative`. -/
structure Binary where
  negative : Bool
  mantissa : Nat
  exponent : Int
deriving DecidableEq, Repr

/-- What the bits of a double stand for. -/
inductive Decoded where
  | nan
  | infinite (negative : Bool)
  | finite (b : Binary)
deriving DecidableEq, Repr

/-- The bit of a mantissa that is not stored: `2 ^ 52`. -/
def leadingBit : Nat := 0x10000000000000

/-- Takes the bits of a double apart. -/
def decodeBits (bits : UInt64) : Decoded :=
  let n := bits.toNat
  let negative := n / (2048 * leadingBit) == 1
  let biased : Nat := n / leadingBit % 2048
  let fraction : Nat := n % leadingBit
  if biased = 2047 then (if fraction = 0 then .infinite negative else .nan)
  else if biased = 0 then .finite ⟨negative, fraction, -1074⟩
  else .finite ⟨negative, leadingBit + fraction, (biased : Int) - 1075⟩

/-- Takes a double apart. -/
def decode (x : Float) : Decoded :=
  decodeBits x.toBits

namespace Binary

/-- The numerator of a finite double over `denominator`, without the sign. -/
def numerator (b : Binary) : Nat :=
  b.mantissa * Nat.pow 2 b.exponent.toNat

/-- The denominator of a finite double, a power of two. -/
def denominator (b : Binary) : Nat :=
  Nat.pow 2 (-b.exponent).toNat

/-- A number with a sign. -/
def signed (b : Binary) (n : Nat) : Int :=
  if b.negative then -(n : Int) else n

/-- The value without its fraction. -/
def truncated (b : Binary) : Int :=
  b.signed (b.numerator / b.denominator)

end Binary

/-- A quotient rounded to the nearest whole number, halves to the even one. -/
def roundHalfEven (num den : Nat) : Nat :=
  let q := num / den
  let r := 2 * (num % den)
  if r < den then q else if den < r then q + 1 else if q % 2 = 0 then q else q + 1

/-- **Rounding is off by half a unit at most.** -/
theorem roundHalfEven_near (num : Nat) {den : Nat} (h : 0 < den) :
    2 * num ≤ 2 * (roundHalfEven num den * den) + den ∧ 2 * (roundHalfEven num den * den) ≤ 2 * num + den := by
  have hq := Nat.div_add_mod num den
  rw [Nat.mul_comm] at hq
  have hs : (num / den + 1) * den = num / den * den + den := Nat.succ_mul _ _
  unfold roundHalfEven
  dsimp only
  split
  · omega
  · split
    · have := Nat.mod_lt num h
      omega
    · split <;> omega

/-- The order of a whole number and a double, if the double is a number. -/
def compareInt (n : Int) (x : Float) : Option Ordering :=
  match decode x with
  | .nan => none
  | .infinite negative => some (if negative then .gt else .lt)
  | .finite b => some (compare (n * b.denominator) (b.signed b.numerator))

end HttpRouter.Decimal
