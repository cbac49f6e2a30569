import Audience.Number.Rounding

/-!
# The shortest decimal that reads back

Of all decimals that round to a given finite double, `Binary64.shortest` picks
one with the fewest digits, of these the nearest to the double, and of two
equally near ones the one with an even last digit.

**Algorithm.**  For one digit, two digits and so on up to seventeen, the two
neighbours of the double on the grid of decimals with that many digits are
tested by rounding them.  The first grid on which a neighbour rounds to the
double decides.  Should no grid do so, the exact decimal expansion is taken,
which every finite double has.

**Results.**
* `readsBack_of_gridPoint`: a neighbour that is picked rounds to the double.
* `readsBack_of_searchGrids`: so does the decimal that the search settles on.
-/

namespace Audience
namespace Binary64

/-- The numerator and denominator of `units * 2^-1074 / 10^k`. -/
def scaledBy (units : Nat) (k : Int) : Nat × Nat :=
  (units * 10 ^ (-k).toNat, 2 ^ 1074 * 10 ^ k.toNat)

/-- The value is at least `10 ^ k`. -/
def reachesPower (units : Nat) (k : Int) : Bool :=
  let (n, d) := scaledBy units k
  d ≤ n

/-- The exponent of the leading decimal digit of a positive value: an estimate
from its leading bit, put right by at most one. -/
def leadingExponent (units : Nat) : Int :=
  let estimate := ((units.log2 : Int) - 1074) * 30103 / 100000
  if reachesPower units (estimate + 1) then estimate + 1
  else if reachesPower units estimate then estimate
  else estimate - 1

/-- The decimal `coefficient * 10 ^ exponent` rounds to the given magnitude. -/
def readsBack (magnitude coefficient : Nat) (exponent : Int) : Bool :=
  (Decimal.mk false coefficient exponent).magnitude == magnitude

/-- The neighbour of a magnitude on the grid of multiples of `10 ^ k` that rounds
to it; of two such neighbours the nearer, and of two equally near the even one. -/
def gridPoint (magnitude : Nat) (k : Int) : Option Nat :=
  let (n, d) := scaledBy (unitsOfMagnitude magnitude) k
  let low := n / d
  let nearLow : Bool := 2 * (n % d) < d || (2 * (n % d) == d && low % 2 == 0)
  match readsBack magnitude low k, readsBack magnitude (low + 1) k with
  | true, true => some (if nearLow then low else low + 1)
  | true, false => some low
  | false, true => some (low + 1)
  | false, false => none

theorem readsBack_of_gridPoint {magnitude c : Nat} {k : Int}
    (h : gridPoint magnitude k = some c) : readsBack magnitude c k = true := by
  simp only [gridPoint] at h
  split at h <;> simp_all
  split at h <;> simp_all

/-- Tries the grids with `digits`, `digits + 1`, ... digits. -/
def searchGrids (magnitude : Nat) (lead : Int) : (tries digits : Nat) → Option (Nat × Int)
  | 0, _ => none
  | tries + 1, digits =>
      match gridPoint magnitude (lead + 1 - digits) with
      | some c => some (c, lead + 1 - digits)
      | none => searchGrids magnitude lead tries (digits + 1)

theorem readsBack_of_searchGrids {magnitude : Nat} {lead : Int} {tries digits c : Nat} {k : Int}
    (h : searchGrids magnitude lead tries digits = some (c, k)) :
    readsBack magnitude c k = true := by
  induction tries generalizing digits with
  | zero => simp [searchGrids] at h
  | succ tries ih =>
      rw [searchGrids] at h
      split at h
      · next c' hc =>
          simp only [Option.some.injEq, Prod.mk.injEq] at h
          obtain ⟨rfl, rfl⟩ := h
          exact readsBack_of_gridPoint hc
      · exact ih h

/-- Moves zeros at the end of a coefficient into the exponent. -/
def dropZeros : (fuel coefficient : Nat) → Int → Nat × Int
  | 0, c, k => (c, k)
  | fuel + 1, c, k => if c % 10 = 0 then dropZeros fuel (c / 10) (k + 1) else (c, k)

/-- The exact decimal expansion: a unit is 5^1074 times 10^-1074. -/
def exactExpansion (magnitude : Nat) : Nat × Int :=
  (unitsOfMagnitude magnitude * 5 ^ 1074, -1074)

/-- The shortest decimal that rounds to a finite double. -/
def shortest (x : Binary64) : Decimal :=
  if x.magnitude = 0 then ⟨x.negative, 0, 0⟩
  else
    let lead := leadingExponent (unitsOfMagnitude x.magnitude)
    let (c, k) := (searchGrids x.magnitude lead 17 1).getD (exactExpansion x.magnitude)
    let (c, k) := dropZeros c c k
    ⟨x.negative, c, k⟩

end Binary64
end Audience
