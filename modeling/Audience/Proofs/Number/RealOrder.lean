import Audience.Proofs.Comparison
import Mathlib.Algebra.Order.Archimedean.Real.Basic
import Mathlib.Order.Compare
import Mathlib.Tactic.FieldSimp
import Mathlib.Tactic.NormNum
import Mathlib.Tactic.Ring

/-!
# Numbers in the order of the reals

A double stands for a real number.  Comparing doubles looks at their signs and magnitudes only,
which are fields of bits; that this is the order of the real numbers is proved here.

**Values.**  The upper eleven bits of a magnitude are its exponent and the lower 52 bits its
fraction.  The value is `(1 + fraction / 2^52) * 2^(exponent - 1023)`, or
`fraction / 2^52 * 2^-1022` if the exponent is zero.  Either way it is a multiple of `2^-1074`.

**Order.**  From one magnitude to the next the multiple grows: within an exponent the fraction
grows, and from the last fraction to the next exponent the distance of neighbours is doubled,
but the value is not.  With signs the order of magnitudes is turned around below zero.

**Results.**
* `Binary64.strictMono_unitsOfMagnitude`: larger magnitudes have larger values.
* `Binary64.real_eq_units`: the value as a multiple of the least positive number.
* `Binary64.compareFolded_real`: comparing finite numbers is comparing their values, and all
  numbers, infinite ones among them, are in one order in which only the zeros are one.
-/

namespace Audience

theorem compare_eq_compare
    {α β : Type} [LinearOrder α] [LinearOrder β] {a b : α} {c d : β}
    (hlt : a < b ↔ c < d) (hgt : b < a ↔ d < c) :
    compare a b = compare c d := by
  rcases lt_trichotomy a b with h | h | h
  · rw [compare_lt_iff_lt.mpr h, compare_lt_iff_lt.mpr (hlt.mp h)]
  · have hle : d ≤ c := not_lt.mp fun hcd => (hlt.mpr hcd).ne h
    have hge : c ≤ d := not_lt.mp fun hdc => (hgt.mpr hdc).ne' h
    rw [compare_eq_iff_eq.mpr h, compare_eq_iff_eq.mpr (le_antisymm hge hle)]
  · rw [compare_gt_iff_gt.mpr h, compare_gt_iff_gt.mpr (hgt.mp h)]

namespace Binary64

/-- The upper bits of a magnitude. -/
def exponentField (magnitude : Nat) : Nat := magnitude / 2 ^ 52

/-- The lower bits of a magnitude. -/
def fractionField (magnitude : Nat) : Nat := magnitude % 2 ^ 52

/-- The real number of a finite magnitude. -/
noncomputable def realOfMagnitude (magnitude : Nat) : ℝ :=
  if exponentField magnitude = 0 then
    (fractionField magnitude : ℝ) / 2 ^ 52 * 2 ^ (-1022 : ℤ)
  else
    (1 + (fractionField magnitude : ℝ) / 2 ^ 52) * 2 ^ ((exponentField magnitude : ℤ) - 1023)

/-- The real number that a finite double stands for. -/
noncomputable def real (x : Binary64) : ℝ :=
  if x.negative then -realOfMagnitude x.magnitude else realOfMagnitude x.magnitude

section Magnitudes

theorem unitsOfMagnitude_of_exponentField
    {m : Nat} (h : exponentField m = 0) :
    unitsOfMagnitude m = fractionField m := by
  unfold exponentField at h
  have hlt : m < 2 ^ 52 := by omega
  rw [units_of_lt hlt, fractionField, Nat.mod_eq_of_lt hlt]

theorem unitsOfMagnitude_of_exponentField_succ
    {m q : Nat} (h : exponentField m = q + 1) :
    unitsOfMagnitude m = (2 ^ 52 + fractionField m) * 2 ^ q := by
  unfold exponentField at h
  have hle : 2 ^ 52 ≤ m := by omega
  rw [units_of_le hle, h, Nat.add_sub_cancel, fractionField]

/-- From one magnitude to the next the value grows. -/
theorem unitsOfMagnitude_lt_succ
    (m : Nat) :
    unitsOfMagnitude m < unitsOfMagnitude (m + 1) := by
  have hfraction : fractionField m < 2 ^ 52 := Nat.mod_lt _ (by decide)
  have hsplit : 2 ^ 52 * exponentField m + fractionField m = m := Nat.div_add_mod m (2 ^ 52)
  by_cases hwithin : fractionField m + 1 < 2 ^ 52
  · have hexponent : exponentField (m + 1) = exponentField m := by
      unfold exponentField at *
      omega
    have hfraction' : fractionField (m + 1) = fractionField m + 1 := by
      unfold fractionField at *
      omega
    cases h : exponentField m with
    | zero =>
        rw [unitsOfMagnitude_of_exponentField h,
          unitsOfMagnitude_of_exponentField (hexponent.trans h), hfraction']
        exact Nat.lt_succ_self _
    | succ q =>
        rw [unitsOfMagnitude_of_exponentField_succ h,
          unitsOfMagnitude_of_exponentField_succ (hexponent.trans h), hfraction']
        exact Nat.mul_lt_mul_of_pos_right (by omega) (Nat.two_pow_pos q)
  · -- The next exponent starts over with the fraction zero, at twice the distance.
    have hexponent : exponentField (m + 1) = exponentField m + 1 := by
      unfold exponentField fractionField at *
      omega
    have hfraction' : fractionField (m + 1) = 0 := by
      unfold fractionField at *
      omega
    rw [unitsOfMagnitude_of_exponentField_succ hexponent, hfraction']
    cases h : exponentField m with
    | zero =>
        rw [unitsOfMagnitude_of_exponentField h]
        omega
    | succ q =>
        rw [unitsOfMagnitude_of_exponentField_succ h]
        calc
          (2 ^ 52 + fractionField m) * 2 ^ q < 2 * 2 ^ 52 * 2 ^ q :=
              Nat.mul_lt_mul_of_pos_right (by omega) (Nat.two_pow_pos q)
          _ = (2 ^ 52 + 0) * 2 ^ (q + 1) := by
              ring

theorem strictMono_unitsOfMagnitude : StrictMono unitsOfMagnitude :=
  strictMono_nat_of_lt_succ unitsOfMagnitude_lt_succ

theorem two_pow_mul_zpow
    (n : ℕ) (k : ℤ) :
    (2 : ℝ) ^ n * 2 ^ k = 2 ^ (n + k) := by
  rw [zpow_add₀ two_ne_zero, zpow_natCast]

/-- The value of a magnitude is a multiple of the least positive number. -/
theorem realOfMagnitude_eq_units
    (m : Nat) :
    realOfMagnitude m = unitsOfMagnitude m * 2 ^ (-1074 : ℤ) := by
  unfold realOfMagnitude
  split
  · next h =>
      have hpower : (2 : ℝ) ^ (-1022 : ℤ) = 2 ^ 52 * 2 ^ (-1074 : ℤ) := by
        rw [two_pow_mul_zpow]
        congr 1
      rw [unitsOfMagnitude_of_exponentField h, hpower]
      field_simp
  · next h =>
      obtain ⟨q, hq⟩ := Nat.exists_eq_succ_of_ne_zero h
      have hpower :
          (2 : ℝ) ^ ((exponentField m : ℤ) - 1023) = 2 ^ 52 * (2 ^ q * 2 ^ (-1074 : ℤ)) := by
        rw [two_pow_mul_zpow, two_pow_mul_zpow, hq]
        congr 1
        omega
      rw [unitsOfMagnitude_of_exponentField_succ hq, hpower]
      push_cast
      field_simp
      norm_num

theorem real_eq_units
    (x : Binary64) :
    x.real = x.units * 2 ^ (-1074 : ℤ) := by
  unfold real units
  split
  · rw [realOfMagnitude_eq_units, Int.cast_neg, Int.cast_natCast, neg_mul]
  · rw [realOfMagnitude_eq_units, Int.cast_natCast]

end Magnitudes

section Order

variable (x y : Binary64)

theorem unitsOfMagnitude_pos_iff
    (m : Nat) :
    0 < unitsOfMagnitude m ↔ 0 < m := by
  have hzero : unitsOfMagnitude 0 < unitsOfMagnitude m ↔ 0 < m :=
    strictMono_unitsOfMagnitude.lt_iff_lt
  exact hzero

/-- Below zero the order of magnitudes is turned around, for ranks and for values alike. -/
theorem foldedRank_lt_iff_units :
    x.foldedRank < y.foldedRank ↔ x.units < y.units := by
  have hlt : unitsOfMagnitude x.magnitude < unitsOfMagnitude y.magnitude ↔ _ :=
    strictMono_unitsOfMagnitude.lt_iff_lt
  have hgt : unitsOfMagnitude y.magnitude < unitsOfMagnitude x.magnitude ↔ _ :=
    strictMono_unitsOfMagnitude.lt_iff_lt
  have hx := unitsOfMagnitude_pos_iff x.magnitude
  have hy := unitsOfMagnitude_pos_iff y.magnitude
  rw [foldedRank_eq, foldedRank_eq]
  unfold rank units
  cases x.negative <;> cases y.negative <;>
    simp only [Bool.false_eq_true, if_false, if_true] <;> split <;> split <;> omega

theorem foldedRank_lt_iff_real :
    x.foldedRank < y.foldedRank ↔ x.real < y.real := by
  have hunit : (0 : ℝ) < 2 ^ (-1074 : ℤ) := zpow_pos two_pos _
  rw [foldedRank_lt_iff_units, real_eq_units, real_eq_units, mul_lt_mul_iff_left₀ hunit,
    Int.cast_lt]

theorem rank_injective (h : x.rank = y.rank) : x = y := by
  obtain ⟨negative, magnitude, _⟩ := x
  obtain ⟨negative', magnitude', _⟩ := y
  cases negative <;> cases negative' <;>
    simp only [rank, Bool.false_eq_true, if_false, if_true, mk.injEq, reduceCtorEq, true_and,
      false_and] at * <;> omega

/-- Only the two zeros are folded into one. -/
theorem foldedRank_eq_iff :
    x.foldedRank = y.foldedRank ↔
      x = y ∨ (x = zero true ∧ y = zero false) ∨ (x = zero false ∧ y = zero true) := by
  rw [foldedRank_eq, foldedRank_eq, ← rank_eq_neg_one_iff, ← rank_eq_neg_one_iff,
    ← rank_eq_zero_iff, ← rank_eq_zero_iff]
  have hsame : x = y ↔ x.rank = y.rank := ⟨fun h => h ▸ rfl, rank_injective x y⟩
  rw [hsame]
  split <;> split <;> omega

theorem compareFolded_eq :
    x.compareFolded y = compare x.foldedRank y.foldedRank := rfl

/-- Comparing finite numbers is comparing the real numbers they stand for.  All numbers, the
infinite ones among them, are in one order in which only the two zeros are one. -/
theorem compareFolded_real :
    (∀ x y : Binary64, x.isFinite = true → y.isFinite = true →
      x.compareFolded y = compare x.real y.real) ∧
    (∀ x y : Binary64, x.compareFolded y ≠ .gt ∨ y.compareFolded x ≠ .gt) ∧
    (∀ x y z : Binary64, x.compareFolded y ≠ .gt → y.compareFolded z ≠ .gt →
      x.compareFolded z ≠ .gt) ∧
    ∀ x y : Binary64, x.compareFolded y = .eq ↔
      x = y ∨ (x = zero true ∧ y = zero false) ∨ (x = zero false ∧ y = zero true) := by
  refine ⟨?_, ?_, ?_, ?_⟩
  · intro x y _ _
    exact compare_eq_compare (foldedRank_lt_iff_real x y) (foldedRank_lt_iff_real y x)
  · intro x y
    rw [compareFolded_eq, compareFolded_eq, Int.compare_ne_gt, Int.compare_ne_gt]
    exact Int.le_total _ _
  · intro x y z
    rw [compareFolded_eq, compareFolded_eq, compareFolded_eq, Int.compare_ne_gt,
      Int.compare_ne_gt, Int.compare_ne_gt]
    exact Int.le_trans
  · intro x y
    rw [compareFolded_eq, Int.compare_eq_eq, foldedRank_eq_iff]

end Order

/-- The largest number with the exponent zero and the least one above it are in order, and so
are the numbers from the lower infinity to the negative zero. -/
theorem compareFolded_real_neighbours :
    (Binary64.ofMagnitude false (2 ^ 52 - 1)).isFinite = true ∧
      (Binary64.ofMagnitude false (2 ^ 52)).isFinite = true ∧
      (infinity true).compareFolded (zero false) ≠ .gt ∧
      (zero false).compareFolded (zero true) ≠ .gt ∧
      (Binary64.ofMagnitude false (2 ^ 52 - 1)).compareFolded
          (Binary64.ofMagnitude false (2 ^ 52)) =
        compare (Binary64.ofMagnitude false (2 ^ 52 - 1)).real
          (Binary64.ofMagnitude false (2 ^ 52)).real ∧
      (infinity true).compareFolded (zero true) ≠ .gt := by
  obtain ⟨hreal, _, htrans, _⟩ := compareFolded_real
  refine ⟨by decide, by decide, by decide, by decide, ?_, ?_⟩
  · exact hreal _ _ (by decide) (by decide)
  · exact htrans (infinity true) (zero false) (zero true) (by decide) (by decide)

end Binary64
end Audience
