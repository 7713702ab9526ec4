/-!
# Words

Numbers that are handed over as machine words have to fit into 32 or 64 bits, signed.
-/

namespace HttpRouter.Words

/-- The first number that is too large for 32 bits with a sign. -/
def limit32 : Int := 2147483648

/-- The first number that is too large for 64 bits with a sign. -/
def limit64 : Int := 9223372036854775808

/-- Whether a number fits between a limit and its negative. -/
def fits (limit n : Int) : Bool :=
  -limit ≤ n && n < limit

theorem fits_iff {limit n : Int} : fits limit n = true ↔ -limit ≤ n ∧ n < limit := by
  simp [fits]

end HttpRouter.Words
