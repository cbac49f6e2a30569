import Audience.Comparison

/-!
# Ranges of numbers and of dates

Numbers and dates are compared by integers that stand for them, their ranks, so an attribute
is in a range if its rank is between those of the bounds.  Something is in the range exactly if
the bounds are not crossed, and then the first bound itself is.

**Zeros.**  In a comparison with an attribute the negative zero has the rank of the positive one.
The two orders of numbers differ on this pair only.

**Results.**
* `Binary64.foldedRank_lt_iff`: where the order with folded zeros differs from the total one.
* `Comparison.exists_holds_numbers_iff`: when anything is in a range of numbers.
* `Comparison.exists_holds_dates_iff`: when anything is in a range of dates.
-/

namespace Audience

namespace Binary64

/-- The place of a number in the order in which both zeros are one. -/
def foldedRank (x : Binary64) : Int := x.foldZero.rank

theorem eq_zero_iff
    (x : Binary64) (negative : Bool) :
    x = zero negative ↔ x.negative = negative ∧ x.magnitude = 0 := by
  obtain ⟨_, _, _⟩ := x
  rw [zero, mk.injEq]

theorem rank_eq_zero_iff
    (x : Binary64) :
    x.rank = 0 ↔ x = zero false := by
  rw [eq_zero_iff, rank]
  cases x.negative
  · simp only [Bool.false_eq_true, if_false, true_and]
    omega
  · simp only [if_true, reduceCtorEq, false_and, iff_false]
    omega

theorem rank_eq_neg_one_iff
    (x : Binary64) :
    x.rank = -1 ↔ x = zero true := by
  rw [eq_zero_iff, rank]
  cases x.negative
  · simp only [Bool.false_eq_true, if_false, reduceCtorEq, false_and]
  · simp only [if_true, true_and]
    omega

theorem foldedRank_eq
    (x : Binary64) :
    x.foldedRank = if x.rank = -1 then 0 else x.rank := by
  unfold foldedRank foldZero
  split
  · next h =>
    cases hn : x.negative <;> simp [rank, zero, h, hn]
  · next h =>
    rw [if_neg]
    rw [rank_eq_neg_one_iff]
    rintro rfl
    exact h rfl

/-- Folding the zeros keeps the order of two numbers, unless the negative zero was below the
positive one. -/
theorem foldedRank_lt_iff
    (x y : Binary64) :
    x.foldedRank < y.foldedRank ↔ x.rank < y.rank ∧ ¬ (x = zero true ∧ y = zero false) := by
  rw [foldedRank_eq, foldedRank_eq, ← rank_eq_neg_one_iff, ← rank_eq_zero_iff]
  split <;> split <;> omega

end Binary64

namespace Comparison

theorem inRange_compare_iff
    (low high actual : Int) :
    inRange (compare actual low) (compare actual high) = true ↔ low ≤ actual ∧ actual ≤ high := by
  rw [inRange, Bool.and_eq_true, bne_iff_ne, bne_iff_ne, Int.compare_ne_lt, Int.compare_ne_gt]

theorem ofNumber_between_iff
    (actual low high : Binary64) :
    ofNumber .between actual low (some (.number high)) = true ↔
      low.foldedRank ≤ actual.foldedRank ∧ actual.foldedRank ≤ high.foldedRank :=
  inRange_compare_iff _ _ _

theorem ofDate_between_iff
    (actual low high : Instant) :
    ofDate .between actual low (some (.date high)) = true ↔
      low.rank ≤ actual.rank ∧ actual.rank ≤ high.rank :=
  inRange_compare_iff _ _ _

/-- If anything is between two bounds, then the first bound is. -/
theorem exists_between_iff
    {α : Type} (rank : α → Int) (low high : α) :
    (∃ actual, rank low ≤ rank actual ∧ rank actual ≤ rank high) ↔ rank low ≤ rank high := by
  constructor
  · rintro ⟨actual, hlow, hhigh⟩
    exact Int.le_trans hlow hhigh
  · intro h
    exact ⟨low, Int.le_refl _, h⟩

/-- Some value is in a range of numbers exactly if the bounds do not cross. -/
theorem exists_holds_numbers_iff
    (low high : Binary64) :
    (∃ actual, holds .number .between actual (.number low) (some (.number high)) = true) ↔
      low.foldedRank ≤ high.foldedRank := by
  rw [← exists_between_iff Binary64.foldedRank low high]
  simp only [← ofNumber_between_iff]
  constructor
  · rintro ⟨actual, h⟩
    cases actual with
    | text | boolean | date => cases h
    | number x => exact ⟨x, h⟩
  · rintro ⟨x, h⟩
    exact ⟨.number x, h⟩

/-- Some value is in a range of dates exactly if the bounds do not cross. -/
theorem exists_holds_dates_iff
    (low high : Instant) :
    (∃ actual, holds .date .between actual (.date low) (some (.date high)) = true) ↔
      low.rank ≤ high.rank := by
  rw [← exists_between_iff Instant.rank low high]
  simp only [← ofDate_between_iff]
  constructor
  · rintro ⟨actual, h⟩
    cases actual with
    | text | boolean | number => cases h
    | date t => exact ⟨t, h⟩
  · rintro ⟨t, h⟩
    exact ⟨.date t, h⟩

end Comparison
end Audience
