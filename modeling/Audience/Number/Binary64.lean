import Audience.Number.Power

/-!
# Double-precision numbers

A number of the binary64 format is its sign and the other 63 bits read as a
natural number, its *magnitude*.  Magnitudes are numbered in the order of the
absolute values they stand for, so comparing them needs no decoding.

**Values.**  The absolute value of a finite number is a natural multiple of
2^-1074, the least positive number of the format; `units` is that multiple.

**Order.**  `compareFolded` orders all numbers, infinities and not-a-number
included, by sign and magnitude after the two zeros have been made one.
`compareTotal` is the same order with the negative zero below the positive one.

**Results.**
* `units_of_lt`, `units_of_le`: the units of small and of large magnitudes.
* `foldZero_foldZero`: folding the zeros is idempotent.
-/

namespace Audience

/-- A number of the binary64 format. -/
structure Binary64 where
  negative : Bool
  magnitude : Nat
  magnitude_lt : magnitude < 2 ^ 63
deriving DecidableEq

namespace Binary64

/-- The magnitude of the infinities; larger ones are not numbers. -/
def infinityMagnitude : Nat := 2047 * 2 ^ 52

/-- The number of a sign and a magnitude; a magnitude out of range becomes infinite. -/
def ofMagnitude (negative : Bool) (magnitude : Nat) : Binary64 :=
  if h : magnitude < infinityMagnitude then
    ⟨negative, magnitude, by
      have : infinityMagnitude < 2 ^ 63 := by decide
      omega⟩
  else ⟨negative, infinityMagnitude, by decide⟩

/-- Zero with a sign. -/
def zero (negative : Bool) : Binary64 := ⟨negative, 0, by decide⟩

/-- Infinity with a sign. -/
def infinity (negative : Bool) : Binary64 := ⟨negative, infinityMagnitude, by decide⟩

/-- The quiet not-a-number with the sign bit clear. -/
def nan : Binary64 := ⟨false, infinityMagnitude + 2 ^ 51, by decide⟩

instance : Inhabited Binary64 := ⟨zero false⟩

/-- Neither infinite nor not-a-number. -/
def isFinite (x : Binary64) : Bool := x.magnitude < infinityMagnitude

/-- Not a number. -/
def isNaN (x : Binary64) : Bool := infinityMagnitude < x.magnitude

/-- The absolute value of a finite number in units of 2^-1074. -/
def unitsOfMagnitude (magnitude : Nat) : Nat :=
  if magnitude < 2 ^ 52 then magnitude
  else (2 ^ 52 + magnitude % 2 ^ 52) * 2 ^ (magnitude / 2 ^ 52 - 1)

theorem units_of_lt {magnitude : Nat} (h : magnitude < 2 ^ 52) :
    unitsOfMagnitude magnitude = magnitude := by
  rw [unitsOfMagnitude, if_pos h]

theorem units_of_le {magnitude : Nat} (h : 2 ^ 52 ≤ magnitude) :
    unitsOfMagnitude magnitude =
      (2 ^ 52 + magnitude % 2 ^ 52) * 2 ^ (magnitude / 2 ^ 52 - 1) := by
  rw [unitsOfMagnitude, if_neg (Nat.not_lt.mpr h)]

/-- The value of a finite number in units of 2^-1074. -/
def units (x : Binary64) : Int :=
  if x.negative then -(unitsOfMagnitude x.magnitude : Int)
  else (unitsOfMagnitude x.magnitude : Int)

/-- The place of a number in the order of signs and magnitudes. -/
def rank (x : Binary64) : Int :=
  if x.negative then -(x.magnitude : Int) - 1 else (x.magnitude : Int)

/-- The negative zero becomes the positive one; every other number stays. -/
def foldZero (x : Binary64) : Binary64 :=
  if x.magnitude = 0 then zero false else x

@[simp] theorem foldZero_foldZero (x : Binary64) : x.foldZero.foldZero = x.foldZero := by
  unfold foldZero
  split <;> simp_all [zero]

/-- The order of signs and magnitudes; the two zeros differ. -/
def compareTotal (a b : Binary64) : Ordering :=
  compare a.rank b.rank

/-- The order of signs and magnitudes with both zeros folded into one. -/
def compareFolded (a b : Binary64) : Ordering :=
  compareTotal a.foldZero b.foldZero

end Binary64
end Audience
