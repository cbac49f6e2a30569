import Audience.Number.Shortest
import Mathlib.Tactic.Ring

/-!
# Decimals that read back

`Decimal.magnitude` takes two shortcuts for numbers far outside the range of the binary64
format.  Both agree with exact rounding, so the double of a decimal depends on its value
alone, and the decimal that `Binary64.shortest` picks rounds back to the double.

**Results.**
* `toBinary64_eq_rounded`: the double of a decimal is its exact rounding.
* `isFinite_toBinary64`: whole numbers far beyond 64 bits are still finite.
* `toBinary64_shift`: moving zeros between coefficient and exponent changes nothing.
* `toBinary64_shortest`: the shortest decimal of a finite double reads back.
-/

namespace Audience

theorem roundHalfEven_mul_right
    {k : Nat} (n d : Nat) (hk : 0 < k) :
    roundHalfEven (n * k) (d * k) = roundHalfEven n d := by
  have hassoc : 2 * (n % d * k) = 2 * (n % d) * k := by ring
  have hbelow : 2 * (n % d) * k < d * k ↔ 2 * (n % d) < d :=
    Nat.mul_lt_mul_right hk
  have habove : d * k < 2 * (n % d) * k ↔ d < 2 * (n % d) :=
    Nat.mul_lt_mul_right hk
  unfold roundHalfEven
  rw [Nat.mul_div_mul_right _ _ hk, Nat.mul_mod_mul_right, hassoc]
  simp only [hbelow, habove]

/-- The nearest magnitude depends on the quotient alone. -/
theorem magnitudeOfUnits_mul_right
    {k : Nat} (n d : Nat) (hk : 0 < k) :
    magnitudeOfUnits (n * k) (d * k) = magnitudeOfUnits n d := by
  unfold magnitudeOfUnits
  rw [Nat.mul_div_mul_right _ _ hk]
  generalize (n / d).log2 - 52 = doublings
  have hcomm : d * k * 2 ^ doublings = d * 2 ^ doublings * k := by ring
  simp only [hcomm, roundHalfEven_mul_right _ _ hk]

theorem roundHalfEven_one
    (n : Nat) :
    roundHalfEven n 1 = n := by
  simpa using roundHalfEven_of_dvd Nat.one_pos (Nat.one_dvd n)

theorem roundHalfEven_of_small
    {n d : Nat} (h : 2 * n < d) :
    roundHalfEven n d = 0 := by
  have hlt : n < d := by omega
  rw [roundHalfEven, Nat.mod_eq_of_lt hlt, if_pos h]
  exact Nat.div_eq_of_lt hlt

/-- The leading bit of a number is kept when the number is shifted. -/
theorem log2_mul_two_pow
    {s k : Nat} (q : Nat)
    (hlow : 2 ^ k ≤ s) (hhigh : s < 2 ^ (k + 1)) :
    (s * 2 ^ q).log2 = k + q := by
  have hq : 0 < 2 ^ q := Nat.two_pow_pos q
  have hs : 0 < s := Nat.lt_of_lt_of_le (Nat.two_pow_pos k) hlow
  have hle := Nat.mul_le_mul_right (2 ^ q) hlow
  have hlt := Nat.mul_lt_mul_of_pos_right hhigh hq
  rw [← Nat.pow_add] at hle hlt
  refine (Nat.log2_eq_iff (Nat.ne_of_gt (Nat.mul_pos hs hq))).mpr ⟨hle, ?_⟩
  rwa [Nat.add_right_comm] at hlt

theorem log2_mul_two_pow_lt
    {c k : Nat} (q : Nat)
    (hpos : 0 < c * 2 ^ q) (h : c < 2 ^ k) :
    (c * 2 ^ q).log2 < k + q := by
  rw [Nat.log2_lt (Nat.ne_of_gt hpos), Nat.pow_add]
  exact Nat.mul_lt_mul_of_pos_right h (Nat.two_pow_pos q)

/-- The units of a magnitude are rounded to that magnitude. -/
theorem magnitudeOfUnits_unitsOfMagnitude
    (m : Nat) :
    magnitudeOfUnits (Binary64.unitsOfMagnitude m) 1 = m := by
  by_cases hm : m < 2 ^ 52
  · have hlog : m.log2 - 52 = 0 := by
      rcases Nat.eq_zero_or_pos m with rfl | hpos
      · simp
      · have := (Nat.log2_lt (by omega)).mpr hm
        omega
    rw [Binary64.units_of_lt hm, magnitudeOfUnits, Nat.div_one, hlog]
    simp [roundHalfEven_one]
  · -- A larger magnitude is rounded at the place of the last of its 53 bits.
    have hle : 2 ^ 52 ≤ m := Nat.le_of_not_lt hm
    have hmod : m % 2 ^ 52 < 2 ^ 52 := Nat.mod_lt _ (by decide)
    have hquot : 1 ≤ m / 2 ^ 52 := (Nat.one_le_div_iff (by decide)).mpr hle
    have hsplit := Nat.div_add_mod m (2 ^ 52)
    generalize hq : m / 2 ^ 52 - 1 = q
    have hunits : Binary64.unitsOfMagnitude m = (2 ^ 52 + m % 2 ^ 52) * 2 ^ q := by
      rw [Binary64.units_of_le hle, hq]
    have hlog := log2_mul_two_pow (s := 2 ^ 52 + m % 2 ^ 52) (k := 52) q (by omega) (by omega)
    have hround := roundHalfEven_mul_right (2 ^ 52 + m % 2 ^ 52) 1 (Nat.two_pow_pos q)
    rw [roundHalfEven_one] at hround
    rw [hunits, magnitudeOfUnits, Nat.div_one, hlog]
    simp only [Nat.add_sub_cancel_left, hround]
    omega

/-- The 53 leading bits of a number are below 2^53, so the doublings of the distance between
neighbours bound its magnitude. -/
theorem magnitudeOfUnits_le
    (n : Nat) :
    magnitudeOfUnits n 1 ≤ (n.log2 - 52 + 2) * 2 ^ 52 := by
  have hbits : n < 2 ^ (n.log2 - 52) * 2 ^ 53 := by
    rw [← Nat.pow_add]
    exact Nat.lt_of_lt_of_le Nat.lt_log2_self (Nat.pow_le_pow_right (by decide) (by omega))
  have hdiv : n / 2 ^ (n.log2 - 52) < 2 ^ 53 := Nat.div_lt_of_lt_mul hbits
  have hround := (roundHalfEven_bounds n (2 ^ (n.log2 - 52))).2
  rw [magnitudeOfUnits, Nat.div_one, Nat.one_mul]
  omega

namespace Decimal

/-- The magnitude nearest to a decimal, without shortcuts. -/
def rounded (d : Decimal) : Nat := magnitudeOfUnits d.numerator d.denominator

theorem two_pow_le_ten_pow
    (n : Nat) :
    2 ^ (3 * n) ≤ 10 ^ n := by
  rw [Nat.pow_mul]
  exact Nat.pow_le_pow_left (by decide) n

/-- A decimal above 10^400 is rounded to infinity. -/
theorem infinityMagnitude_le_rounded
    {d : Decimal} (hc : d.coefficient ≠ 0)
    (he : 400 < d.exponent) :
    Binary64.infinityMagnitude ≤ d.rounded := by
  have hden : d.denominator = 1 := by
    rw [denominator, show (-d.exponent).toNat = 0 by omega, Nat.pow_zero]
  have hnum : 2 ^ (3 * d.exponent.toNat + 1074) ≤ d.numerator := by
    rw [Nat.pow_add, numerator]
    refine Nat.mul_le_mul_right _ (Nat.le_trans (two_pow_le_ten_pow _) ?_)
    exact Nat.le_mul_of_pos_left _ (Nat.pos_of_ne_zero hc)
  have hpos : d.numerator ≠ 0 :=
    Nat.ne_of_gt (Nat.lt_of_lt_of_le (Nat.two_pow_pos _) hnum)
  have hlog : 3 * d.exponent.toNat + 1074 ≤ d.numerator.log2 :=
    (Nat.le_log2 hpos).mpr hnum
  rw [rounded, magnitudeOfUnits, hden, Nat.div_one, Binary64.infinityMagnitude]
  refine Nat.le_trans (Nat.mul_le_mul_right (2 ^ 52) ?_) (Nat.le_add_right _ _)
  omega

/-- What is less than half a unit is rounded to zero. -/
theorem magnitudeOfUnits_of_small
    {n d : Nat} (h : 2 * n < d) :
    magnitudeOfUnits n d = 0 := by
  have hdiv : n / d = 0 := Nat.div_eq_of_lt (by omega)
  rw [magnitudeOfUnits, hdiv]
  simp [roundHalfEven_of_small h]

/-- A decimal below 10^-400 is rounded to zero. -/
theorem rounded_of_small
    {d : Decimal} (he : d.exponent + d.coefficient.log2 < -400) :
    d.rounded = 0 := by
  have hden : 2 ^ (3 * (-d.exponent).toNat) ≤ d.denominator := two_pow_le_ten_pow _
  have hnum : d.numerator < 2 ^ (d.coefficient.log2 + 1 + 1074) := by
    have hexponent : d.exponent.toNat = 0 := by omega
    rw [Nat.pow_add, numerator]
    refine Nat.mul_lt_mul_of_pos_right ?_ (Nat.two_pow_pos 1074)
    rw [hexponent, Nat.pow_zero, Nat.mul_one]
    exact Nat.lt_log2_self
  have hpow : 2 ^ (d.coefficient.log2 + 1 + 1074 + 1) ≤ 2 ^ (3 * (-d.exponent).toNat) :=
    Nat.pow_le_pow_right (by decide) (by omega)
  rw [Nat.pow_succ] at hpow
  apply magnitudeOfUnits_of_small
  calc
    2 * d.numerator < 2 * 2 ^ (d.coefficient.log2 + 1 + 1074) :=
        Nat.mul_lt_mul_of_pos_left hnum (by decide)
    _ = 2 ^ (d.coefficient.log2 + 1 + 1074) * 2 := Nat.mul_comm _ _
    _ ≤ d.denominator := Nat.le_trans hpow hden

theorem rounded_of_coefficient_eq_zero
    {d : Decimal} (h : d.coefficient = 0) :
    d.rounded = 0 := by
  have hden : 0 < d.denominator := Nat.pow_pos (by decide)
  have hnum : d.numerator = 0 := by
    rw [numerator, h, Nat.zero_mul]
    generalize 2 ^ 1074 = unit
    exact Nat.zero_mul unit
  apply magnitudeOfUnits_of_small
  omega

end Decimal

/-- All magnitudes from that of infinity on are cut to it. -/
theorem Binary64.ofMagnitude_of_le
    (negative : Bool) {m : Nat}
    (h : infinityMagnitude ≤ m) :
    ofMagnitude negative m = infinity negative := by
  rw [ofMagnitude, dif_neg (Nat.not_lt.mpr h)]
  rfl

theorem Binary64.ofMagnitude_magnitude
    {x : Binary64} (h : x.isFinite = true) :
    ofMagnitude x.negative x.magnitude = x := by
  have hlt : x.magnitude < infinityMagnitude := by
    simpa [isFinite] using h
  rw [ofMagnitude, dif_pos hlt]

namespace Decimal

/-- The double of a decimal is its exact rounding: the shortcuts change nothing. -/
theorem toBinary64_eq_rounded
    (d : Decimal) :
    d.toBinary64 = Binary64.ofMagnitude d.negative d.rounded := by
  unfold toBinary64 magnitude
  split
  · next hc =>
      rw [rounded_of_coefficient_eq_zero hc]
  · next hc =>
      split
      · next he =>
          rw [Binary64.ofMagnitude_of_le _ (infinityMagnitude_le_rounded hc he)]
          rw [Binary64.ofMagnitude_of_le _ (Nat.le_refl _)]
      · split
        · next he =>
            rw [rounded_of_small he]
        · rfl

theorem rounded_mk
    (negative : Bool) (c : Nat) (e : Int) :
    rounded ⟨negative, c, e⟩ =
      magnitudeOfUnits (c * 10 ^ e.toNat * 2 ^ 1074) (10 ^ (-e).toNat) := by
  unfold rounded numerator denominator
  rfl

/-- A whole number below 2^1023 has a finite double. -/
theorem isFinite_toBinary64
    (negative : Bool) {c k : Nat} (h : c < 2 ^ k) (hk : k ≤ 1023) :
    (toBinary64 ⟨negative, c, 0⟩).isFinite = true := by
  have hlog : (c * 2 ^ 1074).log2 - 52 ≤ 2044 := by
    rcases Nat.eq_zero_or_pos (c * 2 ^ 1074) with hzero | hpos
    · rw [hzero]
      decide
    · have := log2_mul_two_pow_lt 1074 hpos h
      omega
  have hrounded : rounded ⟨negative, c, 0⟩ = magnitudeOfUnits (c * 2 ^ 1074) 1 := by
    rw [rounded_mk]
    simp only [Int.toNat_zero, Int.neg_zero, Nat.pow_zero, Nat.mul_one]
  have hmagnitude : rounded ⟨negative, c, 0⟩ < Binary64.infinityMagnitude := by
    have hle := magnitudeOfUnits_le (c * 2 ^ 1074)
    have hbound : ((c * 2 ^ 1074).log2 - 52 + 2) * 2 ^ 52 ≤ 2046 * 2 ^ 52 :=
      Nat.mul_le_mul_right _ (by omega)
    rw [hrounded, Binary64.infinityMagnitude]
    omega
  rw [toBinary64_eq_rounded, Binary64.ofMagnitude, dif_pos hmagnitude]
  exact decide_eq_true hmagnitude

/-- One zero less in the coefficient is one more in the exponent. -/
theorem rounded_shift_one
    (negative : Bool) (c : Nat) (e : Int) :
    rounded ⟨negative, c * 10, e - 1⟩ = rounded ⟨negative, c, e⟩ := by
  rw [rounded_mk, rounded_mk]
  generalize 2 ^ 1074 = unit
  by_cases he : 1 ≤ e
  · have hnum : e.toNat = (e - 1).toNat + 1 := by omega
    have hden : (-(e - 1)).toNat = 0 := by omega
    have hden' : (-e).toNat = 0 := by omega
    rw [hden, hden', hnum, Nat.pow_succ]
    congr 1
    ring
  · have hnum : (e - 1).toNat = 0 := by omega
    have hnum' : e.toNat = 0 := by omega
    have hden : (-(e - 1)).toNat = (-e).toNat + 1 := by omega
    rw [hnum, hnum', hden, Nat.pow_succ]
    rw [← magnitudeOfUnits_mul_right (c * 10 ^ 0 * unit) _ (by decide : 0 < 10)]
    congr 1
    ring

/-- Moving zeros between coefficient and exponent changes nothing. -/
theorem toBinary64_shift
    (negative : Bool) (c k : Nat) (e : Int) :
    toBinary64 ⟨negative, c * 10 ^ k, e - k⟩ = toBinary64 ⟨negative, c, e⟩ := by
  induction k with
  | zero =>
      simp
  | succ k ih =>
      rw [← ih, toBinary64_eq_rounded, toBinary64_eq_rounded]
      have hstep := rounded_shift_one negative (c * 10 ^ k) (e - k)
      have hcoefficient : c * 10 ^ (k + 1) = c * 10 ^ k * 10 := by ring
      have hexponent : e - ((k + 1 : Nat) : Int) = e - k - 1 := by omega
      rw [← hstep, hcoefficient, hexponent]

end Decimal

namespace Binary64

/-- Moving zeros at the end of a coefficient into the exponent changes nothing. -/
theorem toBinary64_dropZeros
    (negative : Bool) (fuel c : Nat) (k : Int) :
    Decimal.toBinary64 ⟨negative, (dropZeros fuel c k).1, (dropZeros fuel c k).2⟩ =
      Decimal.toBinary64 ⟨negative, c, k⟩ := by
  induction fuel generalizing c k with
  | zero =>
      rfl
  | succ fuel ih =>
      unfold dropZeros
      split
      · next h =>
          rw [ih, ← Decimal.toBinary64_shift negative (c / 10) 1 (k + 1)]
          congr 2
          · omega
          · omega
      · rfl

/-- A unit is a power of five over the same power of ten, so units cancel. -/
theorem magnitudeOfUnits_expanded
    (units n : Nat) :
    magnitudeOfUnits (units * 5 ^ n * 2 ^ n) (10 ^ n) = magnitudeOfUnits units 1 := by
  have hten : 10 ^ n = 1 * 10 ^ n := by ring
  have hunits : units * 5 ^ n * 2 ^ n = units * 10 ^ n := by
    rw [Nat.mul_assoc, ← Nat.mul_pow]
  rw [hunits, hten, Nat.one_mul (10 ^ n)]
  have := magnitudeOfUnits_mul_right units 1 (Nat.pow_pos (n := n) (by decide : 0 < 10))
  rwa [Nat.one_mul] at this

theorem rounded_exactExpansion
    (negative : Bool) (m : Nat) :
    Decimal.rounded ⟨negative, (exactExpansion m).1, (exactExpansion m).2⟩ = m := by
  have hexpanded := magnitudeOfUnits_expanded (unitsOfMagnitude m) 1074
  have hzero : (-1074 : Int).toNat = 0 := rfl
  have hneg : (- -1074 : Int).toNat = 1074 := rfl
  rw [exactExpansion, Decimal.rounded_mk, hzero, hneg, Nat.pow_zero, Nat.mul_one]
  exact hexpanded.trans (magnitudeOfUnits_unitsOfMagnitude m)

/-- The decimal that the search settles on, or the exact expansion, has the magnitude. -/
theorem toBinary64_search
    (negative : Bool) (m : Nat) (lead : Int) :
    let found := (searchGrids m lead 17 1).getD (exactExpansion m)
    Decimal.toBinary64 ⟨negative, found.1, found.2⟩ = ofMagnitude negative m := by
  intro found
  cases hs : searchGrids m lead 17 1 with
  | none =>
      have hfound : found = exactExpansion m := by
        simp [found, hs]
      rw [hfound, Decimal.toBinary64_eq_rounded, rounded_exactExpansion]
  | some r =>
      have hfound : found = r := by
        simp [found, hs]
      have hback : readsBack m r.1 r.2 = true := readsBack_of_searchGrids hs
      have hmagnitude : (Decimal.mk false r.1 r.2).magnitude = m := by
        simpa [readsBack] using hback
      rw [hfound, Decimal.toBinary64]
      exact congrArg (ofMagnitude negative) hmagnitude

theorem negative_shortest
    (x : Binary64) :
    x.shortest.negative = x.negative := by
  unfold shortest
  split <;> rfl

/-- The shortest decimal of a finite double reads back. -/
theorem toBinary64_shortest
    {x : Binary64} (h : x.isFinite = true) :
    x.shortest.toBinary64 = x := by
  unfold shortest
  split
  · next hzero =>
      rw [Decimal.toBinary64_eq_rounded, Decimal.rounded_of_coefficient_eq_zero rfl]
      rw [← hzero]
      exact ofMagnitude_magnitude h
  · simp only []
    rw [toBinary64_dropZeros, toBinary64_search]
    exact ofMagnitude_magnitude h

end Binary64
end Audience
