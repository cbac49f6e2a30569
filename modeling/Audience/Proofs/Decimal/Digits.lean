import Audience.Text.Digit
import Mathlib.Tactic.Ring

/-!
# The value of written digits

`digitsOf` writes a number and `valueOf` reads digits back.  This module connects the two
and says how runs of written digits are taken off the front of a text.

**Results.**
* `valueOf_digitsOf`, `valueOf_padded`: written digits stand for the number they were
  made from.
* `head?_digitsOf`: only zero is written with a leading zero.
* `takeDigitsUpTo_append`: a bounded run of written digits is taken back in full.
-/

namespace Audience
namespace Text

/-- Reading digits after some that are already read. -/
theorem foldl_digits
    (ds : List Digit) (n : Nat) :
    ds.foldl (fun n d => 10 * n + d.val) n =
      n * 10 ^ ds.length + valueOf ds := by
  induction ds generalizing n with
  | nil =>
      simp [valueOf]
  | cons d ds ih =>
      have hvalue : valueOf (d :: ds) = d.val * 10 ^ ds.length + valueOf ds := by
        rw [show valueOf (d :: ds) =
          ds.foldl (fun n d => 10 * n + d.val) (10 * 0 + d.val) from rfl, ih]
        ring
      rw [List.foldl_cons, ih, hvalue, List.length_cons]
      ring

@[simp] theorem valueOf_append
    (xs ys : List Digit) :
    valueOf (xs ++ ys) =
      valueOf xs * 10 ^ ys.length + valueOf ys := by
  rw [valueOf, List.foldl_append]
  exact foldl_digits ys (valueOf xs)

@[simp] theorem valueOf_singleton
    (d : Digit) :
    valueOf [d] = d.val := by
  simp [valueOf]

@[simp] theorem valueOf_replicate_zero
    (n : Nat) :
    valueOf (List.replicate n Digit.zero) = 0 := by
  induction n with
  | zero =>
      rfl
  | succ n ih =>
      rw [List.replicate_succ']
      simp [ih]

/-- Digits are put in front of a tail without looking at it. -/
theorem digitsOnto_append
    (fuel n : Nat) (tail : List Digit) :
    digitsOnto fuel n tail = digitsOnto fuel n [] ++ tail := by
  induction fuel generalizing n tail with
  | zero =>
      rfl
  | succ fuel ih =>
      unfold digitsOnto
      split
      · rfl
      · rw [ih (n / 10) (Fin.ofNat 10 n :: tail)]
        rw [ih (n / 10) [Fin.ofNat 10 n]]
        simp

/-- Fuel above the number does not matter. -/
theorem digitsOnto_of_lt
    {fuel n : Nat} (h : n < fuel) :
    digitsOnto fuel n [] = digitsOf n := by
  unfold digitsOf
  induction n using Nat.strong_induction_on generalizing fuel with
  | _ n ih =>
      obtain ⟨fuel, rfl⟩ : ∃ k, fuel = k + 1 :=
        ⟨fuel - 1, by omega⟩
      simp only [digitsOnto]
      split
      · rfl
      · next hn =>
          have hlt : n / 10 < n := by omega
          rw [digitsOnto_append fuel, digitsOnto_append n]
          rw [ih (n / 10) hlt (by omega : n / 10 < fuel)]
          rw [ih (n / 10) hlt (by omega : n / 10 < n)]

theorem digitsOf_of_lt
    {n : Nat} (h : n < 10) :
    digitsOf n = [Fin.ofNat 10 n] := by
  simp [digitsOf, digitsOnto, h]

/-- The last digit stands behind the digits of the tenth part. -/
theorem digitsOf_of_le
    {n : Nat} (h : 10 ≤ n) :
    digitsOf n = digitsOf (n / 10) ++ [Fin.ofNat 10 n] := by
  have hn : ¬ n < 10 := by omega
  rw [digitsOf, digitsOnto, if_neg hn, digitsOnto_append]
  rw [digitsOnto_of_lt (by omega : n / 10 < n)]

/-- Written digits stand for the number they were made from. -/
@[simp] theorem valueOf_digitsOf
    (n : Nat) :
    valueOf (digitsOf n) = n := by
  induction n using Nat.strong_induction_on with
  | _ n ih =>
      by_cases h : n < 10
      · rw [digitsOf_of_lt h]
        simp [Fin.ofNat, Nat.mod_eq_of_lt h]
      · rw [digitsOf_of_le (by omega)]
        rw [valueOf_append, ih (n / 10) (by omega)]
        simp only [valueOf_singleton, List.length_singleton, Fin.val_ofNat]
        omega

theorem digitsOf_ne_nil
    (n : Nat) :
    digitsOf n ≠ [] := by
  by_cases h : n < 10
  · simp [digitsOf_of_lt h]
  · simp [digitsOf_of_le (by omega : 10 ≤ n)]

/-- Only zero is written with a leading zero. -/
theorem head?_digitsOf
    {n : Nat} (h : n ≠ 0) :
    (digitsOf n).head? ≠ some Digit.zero := by
  induction n using Nat.strong_induction_on with
  | _ n ih =>
      by_cases hn : n < 10
      · rw [digitsOf_of_lt hn]
        intro hzero
        have hval := congrArg (Option.map Fin.val) hzero
        simp [Fin.ofNat, Nat.mod_eq_of_lt hn] at hval
        exact h hval
      · rw [digitsOf_of_le (by omega)]
        have hhead := List.head?_eq_some_head (digitsOf_ne_nil (n / 10))
        rw [List.head?_append, hhead, Option.some_or, ← hhead]
        exact ih (n / 10) (by omega) (by omega)

/-- A number below a power of ten has at most that many digits. -/
theorem length_digitsOf_le
    {n width : Nat} (hwidth : 0 < width) (h : n < 10 ^ width) :
    (digitsOf n).length ≤ width := by
  induction n using Nat.strong_induction_on generalizing width with
  | _ n ih =>
      by_cases hn : n < 10
      · rw [digitsOf_of_lt hn]
        exact hwidth
      · obtain ⟨k, rfl⟩ : ∃ k, width = k + 1 :=
          ⟨width - 1, by omega⟩
        have hk : 0 < k := by
          rcases Nat.eq_zero_or_pos k with rfl | hk
          · simp at h
            omega
          · exact hk
        have hdiv : n / 10 < 10 ^ k := by
          rw [Nat.pow_succ] at h
          omega
        rw [digitsOf_of_le (by omega)]
        have := ih (n / 10) (by omega) hk hdiv
        simp
        omega

@[simp] theorem valueOf_padded
    (width n : Nat) :
    valueOf (padded width n) = n := by
  simp [padded]

theorem length_padded
    {width n : Nat} (hwidth : 0 < width) (h : n < 10 ^ width) :
    (padded width n).length = width := by
  have := length_digitsOf_le hwidth h
  simp [padded]
  omega

theorem padded_ne_nil
    (width n : Nat) :
    padded width n ≠ [] := by
  simp [padded, digitsOf_ne_nil]

/-- A bounded run of written digits is taken back in full if it fills the bound or if no
digit follows. -/
theorem takeDigitsUpTo_append
    {limit : Nat} (ds : List Digit) (rest : List Char)
    (hlimit : ds.length ≤ limit)
    (hrest : ds.length = limit ∨ NoDigitFirst rest) :
    takeDigitsUpTo limit (ds.map Digit.char ++ rest) = (ds, rest) := by
  induction ds generalizing limit with
  | nil =>
      cases limit with
      | zero =>
          rfl
      | succ limit =>
          have hno : NoDigitFirst rest := by
            simpa using hrest
          cases rest with
          | nil =>
              rfl
          | cons c rest =>
              have hc : Digit.ofChar? c = none := hno
              simp [takeDigitsUpTo, hc]
  | cons d ds ih =>
      cases limit with
      | zero =>
          simp at hlimit
      | succ limit =>
          have hfit : ds.length ≤ limit := by simpa using hlimit
          have htail := ih hfit (by simpa using hrest)
          simp [takeDigitsUpTo, htail]

end Text
end Audience
