import Audience.Number.Binary64

/-!
# From decimal numbers to the nearest double

A decimal number is a signed coefficient times a power of ten.  Its double is
the nearest one, and of two equally near ones the one with the even magnitude.

**Algorithm.**  The quotient is put in units of 2^-1074.  The place of its
leading bit says how far apart neighbouring doubles are there, a power of two;
the quotient is rounded to a multiple of that distance with exact arithmetic.
Since magnitudes count the doubles in order, the rounded multiple plus 2^52 for
each doubling of the distance is the magnitude of the result.

**Results.**
* `roundHalfEven_of_dvd`: a quotient without remainder is not changed.
* `roundHalfEven_bounds`: rounding gives the whole part or its successor.
-/

namespace Audience

/-- The nearest natural number to `n / d`; a tie goes to the even one. -/
def roundHalfEven (n d : Nat) : Nat :=
  if 2 * (n % d) < d then n / d
  else if d < 2 * (n % d) then n / d + 1
  else if n / d % 2 = 0 then n / d
  else n / d + 1

theorem roundHalfEven_of_dvd {n d : Nat} (hd : 0 < d) (h : d ∣ n) :
    roundHalfEven n d = n / d := by
  have : n % d = 0 := Nat.mod_eq_zero_of_dvd h
  simp [roundHalfEven, this, hd]

theorem roundHalfEven_bounds (n d : Nat) :
    n / d ≤ roundHalfEven n d ∧ roundHalfEven n d ≤ n / d + 1 := by
  unfold roundHalfEven
  split
  · omega
  · split
    · omega
    · split <;> omega

/-- The magnitude nearest to `n / d`, given in units of 2^-1074. -/
def magnitudeOfUnits (n d : Nat) : Nat :=
  let doublings := (n / d).log2 - 52
  doublings * 2 ^ 52 + roundHalfEven n (d * 2 ^ doublings)

/-- A decimal number: plus or minus `coefficient * 10 ^ exponent`. -/
structure Decimal where
  negative : Bool
  coefficient : Nat
  exponent : Int
deriving DecidableEq

namespace Decimal

/-- The numerator of the absolute value in units of 2^-1074. -/
def numerator (d : Decimal) : Nat := d.coefficient * 10 ^ d.exponent.toNat * 2 ^ 1074

/-- The denominator of the absolute value in units of 2^-1074. -/
def denominator (d : Decimal) : Nat := 10 ^ (-d.exponent).toNat

/-- The magnitude of the nearest double.  A decimal far outside the range of the
format is settled without computing its power of ten: above 10^400 it is
infinite, and below 10^-400 it is zero. -/
def magnitude (d : Decimal) : Nat :=
  if d.coefficient = 0 then 0
  else if 400 < d.exponent then Binary64.infinityMagnitude
  else if d.exponent + d.coefficient.log2 < -400 then 0
  else magnitudeOfUnits d.numerator d.denominator

/-- The nearest double, infinite when the decimal is beyond the range. -/
def toBinary64 (d : Decimal) : Binary64 :=
  Binary64.ofMagnitude d.negative d.magnitude

end Decimal
end Audience
