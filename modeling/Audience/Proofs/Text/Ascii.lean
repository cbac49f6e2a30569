import Audience.Text.Lowercase

/-!
# Lower-casing ASCII characters

An ASCII character is lower-cased by itself: the rules that look at the characters around are not
about one.  Capital letters get their small form, and all others stay.

**Tables.**  The tables of characters increase, and only their first entries are about ASCII
characters.

**Results.**
* `Text.toLower_cases`: which characters `Char.toLower` changes.
* `Text.lowerIn_ascii`: an ASCII character is lower-cased as `Char.toLower` does it.
* `Text.lowercase_ascii`: so is a text of ASCII characters.
* `Text.isCaseIgnorable_ascii`: which entries of the table decide for an ASCII character.
-/

namespace Audience
namespace Text

/-- The capital form of an ASCII letter. -/
def capital (letter : Fin 26) : Char := Char.ofNat ('A'.toNat + letter)

/-- The small form of an ASCII letter. -/
def small (letter : Fin 26) : Char := Char.ofNat ('a'.toNat + letter)

/-- All characters of a text are ASCII characters. -/
def IsAscii (cs : List Char) : Prop := ∀ c ∈ cs, c.toNat < 128

instance (cs : List Char) : Decidable (IsAscii cs) := List.decidableBAll _ cs

section Forms

theorem toLower_capital (letter : Fin 26) : (capital letter).toLower = small letter := by
  revert letter
  decide

theorem toLower_small (letter : Fin 26) : (small letter).toLower = small letter := by
  revert letter
  decide

theorem toUpper_small (letter : Fin 26) : (small letter).toUpper = capital letter := by
  revert letter
  decide

/-- Only capital ASCII letters are changed by `Char.toLower`. -/
theorem toLower_cases
    (c : Char) :
    (¬ ('A'.toNat ≤ c.toNat ∧ c.toNat ≤ 'Z'.toNat) ∧ c.toLower = c) ∨
      ∃ letter, c = capital letter := by
  by_cases h : 'A'.toNat ≤ c.toNat ∧ c.toNat ≤ 'Z'.toNat
  · have hlast : c.toNat < 'A'.toNat + 26 := Nat.lt_succ_of_le h.2
    refine Or.inr ⟨⟨c.toNat - 'A'.toNat, by omega⟩, ?_⟩
    rw [capital, Nat.add_sub_cancel' h.1, Char.ofNat_toNat]
  · exact Or.inl ⟨h, dif_neg h⟩

end Forms

section Tables

variable {c : Char}

/-- The first run of the mapping is that of the capital ASCII letters, and no other one has an
ASCII character. -/
theorem find?_lowercaseRuns_ascii
    (h : c.toNat < 128) :
    lowercaseRuns.find? (·.covers c.toNat) =
      if 'A'.toNat ≤ c.toNat ∧ c.toNat ≤ 'Z'.toNat then lowercaseRuns.head? else none := by
  have habove : ∀ run ∈ lowercaseRuns.drop 1, 128 ≤ run.first := by
    decide +kernel
  have hrest : (lowercaseRuns.drop 1).find? (·.covers c.toNat) = none := by
    refine List.find?_eq_none.mpr fun run hrun => ?_
    have hfirst := habove run hrun
    simp only [CaseRun.covers, Bool.and_eq_true, decide_eq_true_eq]
    omega
  have hsplit : lowercaseRuns = ⟨'A'.toNat, 'Z'.toNat, 1, 32⟩ :: lowercaseRuns.drop 1 := rfl
  have hfirst : CaseRun.covers ⟨'A'.toNat, 'Z'.toNat, 1, 32⟩ c.toNat =
      decide ('A'.toNat ≤ c.toNat ∧ c.toNat ≤ 'Z'.toNat) := by
    simp [CaseRun.covers, Nat.mod_one]
  rw [hsplit, List.find?_cons, hrest, hfirst]
  by_cases hrange : 'A'.toNat ≤ c.toNat ∧ c.toNat ≤ 'Z'.toNat
  · rw [decide_eq_true hrange, if_pos hrange]
    rfl
  · rw [decide_eq_false hrange, if_neg hrange]

theorem lowerChar_ascii
    (h : c.toNat < 128) :
    lowerChar c = c.toLower := by
  rw [lowerChar, find?_lowercaseRuns_ascii h]
  rcases toLower_cases c with ⟨hrange, hsame⟩ | ⟨letter, rfl⟩
  · rw [if_neg hrange, hsame]
  · rw [toLower_capital]
    revert letter
    decide

/-- The first five ranges of the table decide whether an ASCII character is to be skipped. -/
theorem isCaseIgnorable_ascii
    (h : c.toNat < 128) :
    isCaseIgnorable c = inRanges (caseIgnorableRanges.take 5) c.toNat := by
  have habove : ∀ r ∈ caseIgnorableRanges.drop 5, 128 ≤ r.1 := by
    decide +kernel
  have hrest : inRanges (caseIgnorableRanges.drop 5) c.toNat = false := by
    refine List.any_eq_false.mpr fun r hr => ?_
    have hfirst := habove r hr
    simp only [Bool.and_eq_true, decide_eq_true_eq]
    omega
  unfold isCaseIgnorable
  conv => lhs; rw [← List.take_append_drop 5 caseIgnorableRanges]
  unfold inRanges at hrest ⊢
  rw [List.any_append, hrest, Bool.or_false]

end Tables

section Lowercase

variable {c : Char} {cs : List Char}

theorem lowerIn_ascii
    (h : c.toNat < 128) (before after : List Char) :
    lowerIn before c after = [c.toLower] := by
  have hsigma : c ≠ 'Σ' := by
    rintro rfl
    exact absurd h (by decide)
  have hdotted : c ≠ 'İ' := by
    rintro rfl
    exact absurd h (by decide)
  rw [lowerIn, if_neg hsigma, if_neg hdotted, lowerChar_ascii h]

theorem lowercaseAfter_ascii
    (h : IsAscii cs) (before : List Char) :
    lowercaseAfter before cs = cs.map Char.toLower := by
  induction cs generalizing before with
  | nil =>
      rfl
  | cons c rest ih =>
      obtain ⟨hc, hrest⟩ := List.forall_mem_cons.mp h
      rw [lowercaseAfter_cons, lowerIn_ascii hc, ih hrest, List.map_cons, List.singleton_append]

/-- A text of ASCII characters is lower-cased character by character. -/
theorem lowercase_ascii
    (h : IsAscii cs) :
    lowercase cs = cs.map Char.toLower :=
  lowercaseAfter_ascii h []

end Lowercase

end Text
end Audience
