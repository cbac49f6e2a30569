import Audience.Comparison
import Audience.Proofs.Text.Pieces

/-!
# Literal matches

A text that stands in another one literally should also be found there if letter case does not
count.  Both texts are lower-cased as a whole and then searched, so this is so wherever the
piece that matches literally is lower-cased as it is by itself.

**Cuts.**  A capital sigma has another small form at the end of a word.  A text that was cut out
of a word at a sigma may therefore not be found in the text it was cut from; at the front and at
the end of a text, where there is one place only to look at, it is never found.

**Results.**
* `Comparison.isPrefix_lowercase_iff`, `Comparison.isSuffix_lowercase_iff`: literal matches at
  the front and at the end.
* `Comparison.ofText_literal`: what the operators on text say of literal matches.
-/

namespace Audience
namespace Comparison

open Text

theorem isInfix_lowercase
    {front piece back : List Char} (h : ¬ CutsSigma front.reverse piece back) :
    lowercase piece <:+: lowercase (front ++ piece ++ back) := by
  have hpiece := (lowercaseBetween_eq_lowercase_iff front.reverse piece back).mpr h
  rw [lowercase_append, lowercaseBetween_append, List.append_nil, hpiece]
  exact ⟨_, _, rfl⟩

theorem isPrefix_lowercase_iff
    (piece back : List Char) :
    lowercase piece <+: lowercase (piece ++ back) ↔ ¬ CutsSigma [] piece back := by
  have hlength : (lowercase piece).length = (lowercaseBetween [] piece back).length := by
    rw [lowercase_eq_lowercaseBetween]
    exact length_lowercaseBetween _ _ _ _ _
  rw [← lowercaseBetween_eq_lowercase_iff, lowercase_append]
  constructor
  · rintro ⟨rest, hrest⟩
    exact (List.append_inj_left hrest hlength).symm
  · intro hpiece
    rw [hpiece]
    exact List.prefix_append _ _

theorem isSuffix_lowercase_iff
    (front piece : List Char) :
    lowercase piece <:+ lowercase (front ++ piece) ↔ ¬ CutsSigma front.reverse piece [] := by
  have hlength : (lowercase piece).length = (lowercaseBetween front.reverse piece []).length := by
    rw [lowercase_eq_lowercaseBetween]
    exact length_lowercaseBetween _ _ _ _ _
  rw [← lowercaseBetween_eq_lowercase_iff, lowercase_append]
  constructor
  · rintro ⟨rest, hrest⟩
    exact (List.append_inj_right' hrest hlength).symm
  · intro hpiece
    rw [hpiece]
    exact List.suffix_append _ _

/-- A text that stands literally in another one is found there without regard to letter case, if
it was not cut out at a sigma.  At the front and at the end it is found only then. -/
theorem ofText_literal
    (actual expected : String) :
    (∀ front back : String, actual = front ++ expected ++ back →
      ¬ CutsSigma front.toList.reverse expected.toList back.toList →
        ofText .contains actual expected = true ∧ ofText .notContains actual expected = false) ∧
    (∀ back : String, actual = expected ++ back →
      (ofText .startsWith actual expected = true ↔
        ¬ CutsSigma [] expected.toList back.toList)) ∧
    ∀ front : String, actual = front ++ expected →
      (ofText .endsWith actual expected = true ↔
        ¬ CutsSigma front.toList.reverse expected.toList []) := by
  refine ⟨?_, ?_, ?_⟩
  · rintro front back rfl h
    have hfound : ofText .contains (front ++ expected ++ back) expected = true := by
      rw [ofText, String.toList_append, String.toList_append]
      exact (occursIn_iff_isInfix _ _).mpr (isInfix_lowercase h)
    refine ⟨hfound, ?_⟩
    show (!ofText .contains (front ++ expected ++ back) expected) = false
    rw [hfound]
    rfl
  · rintro back rfl
    rw [ofText, String.toList_append, ← isPrefix_lowercase_iff]
    exact List.isPrefixOf_iff_prefix
  · rintro front rfl
    rw [ofText, String.toList_append, ← isSuffix_lowercase_iff]
    exact List.isSuffixOf_iff_suffix

/-- A word whose last letter is a sigma is found at the front, in the middle and at the end. -/
theorem ofText_literal_wholeWord :
    ofText .contains "Η ΟΔΟΣ ΜΟΥ" "ΟΔΟΣ" = true ∧
      ofText .notContains "Η ΟΔΟΣ ΜΟΥ" "ΟΔΟΣ" = false ∧
      ofText .startsWith "ΟΔΟΣ ΜΟΥ" "ΟΔΟΣ" = true ∧
      ofText .endsWith "Η ΟΔΟΣ" "ΟΔΟΣ" = true := by
  obtain ⟨hcontains, hnotContains⟩ :=
    (ofText_literal "Η ΟΔΟΣ ΜΟΥ" "ΟΔΟΣ").1 "Η " " ΜΟΥ" rfl (by decide +kernel)
  refine ⟨hcontains, hnotContains, ?_, ?_⟩
  · exact ((ofText_literal "ΟΔΟΣ ΜΟΥ" "ΟΔΟΣ").2.1 " ΜΟΥ" rfl).mpr (by decide +kernel)
  · exact ((ofText_literal "Η ΟΔΟΣ" "ΟΔΟΣ").2.2 "Η " rfl).mpr (by decide +kernel)

/-- Literal matches are not found in general: the first letters of a word that goes on after a
sigma are neither in it nor at its front, and the sigma at the end of a word is not at its end. -/
theorem not_ofText_literal :
    (¬ ∀ actual expected : String, expected.toList <:+: actual.toList →
      ofText .contains actual expected = true) ∧
    (¬ ∀ actual expected : String, expected.toList <:+: actual.toList →
      ofText .notContains actual expected = false) ∧
    (¬ ∀ actual expected : String, expected.toList <+: actual.toList →
      ofText .startsWith actual expected = true) ∧
    ¬ ∀ actual expected : String, expected.toList <:+ actual.toList →
      ofText .endsWith actual expected = true := by
  refine ⟨?_, ?_, ?_, ?_⟩
  · intro h
    exact absurd (h "ΑΣΑ" "ΑΣ" ⟨[], ['Α'], rfl⟩) (by decide +kernel)
  · intro h
    exact absurd (h "ΑΣΑ" "ΑΣ" ⟨[], ['Α'], rfl⟩) (by decide +kernel)
  · intro h
    exact absurd (h "ΑΣΑ" "ΑΣ" ⟨['Α'], rfl⟩) (by decide +kernel)
  · intro h
    exact absurd (h "ΑΣ" "Σ" ⟨['Α'], rfl⟩) (by decide +kernel)

end Comparison
end Audience
