import Audience.Comparison
import Audience.Proofs.Text.Ascii
import Mathlib.Data.List.Forall2

/-!
# Letter case does not count

Two spellings of a text that differ only in the case of ASCII letters are the same text for
every operator.  This needs more than that both forms of such a letter have one lower-case
form: lower-casing looks at the letters around a capital sigma, and those may be ASCII letters
whose case is changed, in the text that is searched and in the one that is searched for.

**Sigma.**  Around a sigma it only counts which characters are letters and which are to be
skipped.  The two forms of an ASCII letter are both letters, and neither is skipped, so the end
of a word is at the same place in both spellings.

**Results.**
* `Text.sameLetter_iff`: the relation is equality up to `Char.toLower`, so it can be decided.
* `Text.lowercase_congr`: two spellings of a text are lower-cased to the same text.
* `Comparison.ofText_congr`: no operator tells two spellings apart.
-/

namespace Audience

namespace Text

/-- Two characters are the same up to the case of ASCII letters. -/
inductive SameLetter : Char → Char → Prop
  | same (c : Char) :
      SameLetter c c
  | lowered (letter : Fin 26) :
      SameLetter (capital letter) (small letter)
  | raised (letter : Fin 26) :
      SameLetter (small letter) (capital letter)

/-- Two texts are the same up to the case of ASCII letters. -/
def SameLetters (s t : String) : Prop := List.Forall₂ SameLetter s.toList t.toList

section Decidable

/-- Being the same up to the case of ASCII letters is having the same small form. -/
theorem sameLetter_iff
    (c d : Char) :
    SameLetter c d ↔ c.toLower = d.toLower := by
  constructor
  · intro h
    cases h with
    | same => rfl
    | lowered letter => rw [toLower_capital, toLower_small]
    | raised letter => rw [toLower_capital, toLower_small]
  · intro h
    rcases toLower_cases c with ⟨-, hc⟩ | ⟨i, rfl⟩ <;>
      rcases toLower_cases d with ⟨-, hd⟩ | ⟨j, rfl⟩
    · rw [hc, hd] at h
      exact h ▸ .same c
    · rw [hc, toLower_capital] at h
      exact h ▸ .raised j
    · rw [hd, toLower_capital] at h
      exact h ▸ .lowered i
    · rw [toLower_capital, toLower_capital] at h
      rw [← toUpper_small, h, toUpper_small]
      exact .same (capital j)

instance (c d : Char) : Decidable (SameLetter c d) := decidable_of_iff _ (sameLetter_iff c d).symm

instance (s t : String) : Decidable (SameLetters s t) :=
  inferInstanceAs (Decidable (List.Forall₂ SameLetter s.toList t.toList))

end Decidable

section Lowercase

variable {c d : Char} {before before' text text' : List Char}

/-- Both forms of an ASCII letter are ASCII characters. -/
theorem letter_lt
    (letter : Fin 26) :
    (capital letter).toNat < 128 ∧ (small letter).toNat < 128 := by
  revert letter
  decide

/-- Both forms of an ASCII letter are letters, and none of them is skipped. -/
theorem cased_letter
    (letter : Fin 26) :
    (isCased (capital letter) = true ∧ isCaseIgnorable (capital letter) = false) ∧
      isCased (small letter) = true ∧ isCaseIgnorable (small letter) = false := by
  rw [isCaseIgnorable_ascii (letter_lt letter).1, isCaseIgnorable_ascii (letter_lt letter).2]
  revert letter
  decide +kernel

/-- An ASCII letter is lower-cased to its small form, whatever stands around it. -/
theorem lowerIn_letter
    (letter : Fin 26) (before after : List Char) :
    lowerIn before (capital letter) after = [small letter] ∧
      lowerIn before (small letter) after = [small letter] := by
  rw [lowerIn_ascii (letter_lt letter).1, lowerIn_ascii (letter_lt letter).2, toLower_capital,
    toLower_small]
  exact ⟨rfl, rfl⟩

theorem SameLetter.isCased (h : SameLetter c d) : isCased c = isCased d := by
  cases h with
  | same => rfl
  | lowered letter => rw [(cased_letter letter).1.1, (cased_letter letter).2.1]
  | raised letter => rw [(cased_letter letter).1.1, (cased_letter letter).2.1]

theorem SameLetter.isCaseIgnorable (h : SameLetter c d) :
    isCaseIgnorable c = isCaseIgnorable d := by
  cases h with
  | same => rfl
  | lowered letter => rw [(cased_letter letter).1.2, (cased_letter letter).2.2]
  | raised letter => rw [(cased_letter letter).1.2, (cased_letter letter).2.2]

/-- Whether a letter comes next does not depend on letter case. -/
theorem meetsCased_congr
    (h : List.Forall₂ SameLetter text text') :
    meetsCased text = meetsCased text' := by
  induction h with
  | nil =>
      rfl
  | cons hhead _ ih =>
      rw [meetsCased, meetsCased, hhead.isCaseIgnorable, hhead.isCased, ih]

theorem lowerIn_congr
    (hbefore : List.Forall₂ SameLetter before before') (h : SameLetter c d)
    (hafter : List.Forall₂ SameLetter text text') :
    lowerIn before c text = lowerIn before' d text' := by
  cases h with
  | same =>
      simp only [lowerIn, smallSigma, meetsCased_congr hbefore, meetsCased_congr hafter]
  | lowered letter =>
      rw [(lowerIn_letter letter before text).1, (lowerIn_letter letter before' text').2]
  | raised letter =>
      rw [(lowerIn_letter letter before text).2, (lowerIn_letter letter before' text').1]

theorem lowercaseAfter_congr
    (hbefore : List.Forall₂ SameLetter before before')
    (h : List.Forall₂ SameLetter text text') :
    lowercaseAfter before text = lowercaseAfter before' text' := by
  induction h generalizing before before' with
  | nil =>
      rfl
  | cons hhead hrest ih =>
      rw [lowercaseAfter_cons, lowercaseAfter_cons, lowerIn_congr hbefore hhead hrest,
        ih (.cons hhead hbefore)]

/-- Two spellings of a text are lower-cased to the same text. -/
theorem lowercase_congr
    (h : List.Forall₂ SameLetter text text') :
    lowercase text = lowercase text' :=
  lowercaseAfter_congr .nil h

end Lowercase

end Text

namespace Comparison

/-- No operator on text tells two texts apart that differ only in the case of ASCII letters. -/
theorem ofText_congr
    {actual actual' expected expected' : String}
    (hactual : Text.SameLetters actual actual') (hexpected : Text.SameLetters expected expected')
    (op : Operator) :
    ofText op actual expected = ofText op actual' expected' := by
  rw [ofText, ofText, Text.lowercase_congr hactual, Text.lowercase_congr hexpected]

/-- Both texts have an ASCII letter before a sigma that ends a word. -/
theorem ofText_congr_beforeSigma :
    Text.SameLetters "Vitamin AΣ, dose ΔΣb" "vitaMIN aΣ, DOSE ΔΣB" ∧
      Text.SameLetters "AΣ" "aΣ" ∧
      ofText .contains "Vitamin AΣ, dose ΔΣb" "AΣ" =
        ofText .contains "vitaMIN aΣ, DOSE ΔΣB" "aΣ" := by
  have hactual : Text.SameLetters "Vitamin AΣ, dose ΔΣb" "vitaMIN aΣ, DOSE ΔΣB" := by decide
  have hexpected : Text.SameLetters "AΣ" "aΣ" := by decide
  exact ⟨hactual, hexpected, ofText_congr hactual hexpected .contains⟩

end Comparison
end Audience
