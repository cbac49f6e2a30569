import Audience.Text.Lowercase

/-!
# Lower-casing a piece of a text

Lower-casing looks around a character only at a capital sigma, which has another small form at
the end of a word.  So a piece of a text is lower-cased to as many characters as it would be by
itself, and to the same ones unless some capital sigma ends a word in only one of the two.

**Cuts.**  This happens where the piece is cut out of a word at a sigma: the sigma ends a word in
the piece, but the word goes on in the text; or the sigma has no letter before it in the piece,
but ends a word in the text.

**Results.**
* `lowercase_append`: a text is lower-cased piece by piece.
* `length_lowercaseBetween`: the length does not depend on the text around.
* `lowercaseBetween_eq_lowercase_iff`: when a piece is lower-cased as it is by itself.
-/

namespace Audience
namespace Text

/-- Lower-cases a piece that stands between `before` (nearest first) and `after`. -/
def lowercaseBetween (before : List Char) : List Char → List Char → List Char
  | [], _ => []
  | c :: rest, after =>
      lowerIn before c (rest ++ after) ++ lowercaseBetween (c :: before) rest after

theorem lowercaseBetween_append
    (before piece rest after : List Char) :
    lowercaseBetween before (piece ++ rest) after =
      lowercaseBetween before piece (rest ++ after) ++
        lowercaseBetween (piece.reverse ++ before) rest after := by
  induction piece generalizing before with
  | nil =>
      rfl
  | cons c piece ih =>
      rw [List.cons_append, lowercaseBetween, ih, lowercaseBetween, List.append_assoc,
        List.append_assoc, List.reverse_cons, List.append_assoc]
      rfl

theorem lowercaseBetween_nil_right
    (before piece : List Char) :
    lowercaseBetween before piece [] = lowercaseAfter before piece := by
  induction piece generalizing before with
  | nil =>
      rfl
  | cons c piece ih =>
      rw [lowercaseBetween, lowercaseAfter_cons, ih, List.append_nil]

/-- A whole text is a piece with nothing around it. -/
theorem lowercase_eq_lowercaseBetween
    (text : List Char) :
    lowercase text = lowercaseBetween [] text [] :=
  (lowercaseBetween_nil_right [] text).symm

/-- A text is lower-cased piece by piece. -/
theorem lowercase_append
    (piece rest : List Char) :
    lowercase (piece ++ rest) =
      lowercaseBetween [] piece rest ++ lowercaseBetween piece.reverse rest [] := by
  rw [lowercase_eq_lowercaseBetween, lowercaseBetween_append, List.append_nil, List.append_nil]

section Sigma

variable {before before' after after' : List Char}

/-- A capital sigma between these texts, the first of them nearest first, ends a word. -/
def EndsWord (before after : List Char) : Prop :=
  meetsCased before = true ∧ meetsCased after = false

theorem smallSigma_eq_iff :
    smallSigma before after = smallSigma before' after' ↔
      (EndsWord before after ↔ EndsWord before' after') := by
  unfold smallSigma EndsWord
  cases meetsCased before <;> cases meetsCased after <;> cases meetsCased before' <;>
    cases meetsCased after' <;> decide

theorem lowerIn_eq_iff
    (c : Char) :
    lowerIn before c after = lowerIn before' c after' ↔
      (c = 'Σ' → (EndsWord before after ↔ EndsWord before' after')) := by
  by_cases hsigma : c = 'Σ'
  · simp [lowerIn, hsigma, smallSigma_eq_iff]
  · simp [lowerIn, hsigma]

theorem length_lowerIn
    (before before' after after' : List Char) (c : Char) :
    (lowerIn before c after).length = (lowerIn before' c after').length := by
  unfold lowerIn
  split
  · rfl
  · split <;> rfl

/-- The length of a piece in lower case does not depend on the text around it. -/
theorem length_lowercaseBetween
    (before before' piece after after' : List Char) :
    (lowercaseBetween before piece after).length =
      (lowercaseBetween before' piece after').length := by
  induction piece generalizing before before' with
  | nil =>
      rfl
  | cons c rest ih =>
      rw [lowercaseBetween, lowercaseBetween, List.length_append, List.length_append,
        ih (c :: before) (c :: before'), length_lowerIn]

/-- Two surroundings of a piece make it the same in lower case exactly if its capital sigmas end
words in both or in neither. -/
theorem lowercaseBetween_eq_iff
    (piece : List Char) :
    lowercaseBetween before piece after = lowercaseBetween before' piece after' ↔
      ∀ front back, piece = front ++ 'Σ' :: back →
        (EndsWord (front.reverse ++ before) (back ++ after) ↔
          EndsWord (front.reverse ++ before') (back ++ after')) := by
  induction piece generalizing before before' with
  | nil =>
      simp [lowercaseBetween]
  | cons c rest ih =>
      rw [lowercaseBetween, lowercaseBetween, List.append_eq_append_iff_of_size_eq_left
        (length_lowerIn before before' (rest ++ after) (rest ++ after') c), lowerIn_eq_iff, ih]
      constructor
      · rintro ⟨hhead, hrest⟩ front back hplace
        rcases List.cons_eq_append_iff.mp hplace with ⟨rfl, hcons⟩ | ⟨front', rfl, hplace'⟩
        · cases hcons
          exact hhead rfl
        · have hback := hrest front' back hplace'
          rw [List.reverse_cons, List.append_assoc, List.append_assoc]
          exact hback
      · intro hall
        constructor
        · rintro rfl
          exact hall [] rest rfl
        · rintro front back rfl
          have hback := hall (c :: front) back rfl
          rw [List.reverse_cons, List.append_assoc, List.append_assoc] at hback
          exact hback

end Sigma

/-- Cut out of the text around it, the piece has a capital sigma that ends a word in the piece by
itself or in the text, but not in both. -/
def CutsSigma (before piece after : List Char) : Prop :=
  ∃ front back, piece = front ++ 'Σ' :: back ∧
    ¬ (EndsWord (front.reverse ++ before) (back ++ after) ↔ EndsWord front.reverse back)

/-- A piece is lower-cased as it is by itself, unless it is cut out at a sigma. -/
theorem lowercaseBetween_eq_lowercase_iff
    (before piece after : List Char) :
    lowercaseBetween before piece after = lowercase piece ↔ ¬ CutsSigma before piece after := by
  rw [lowercase_eq_lowercaseBetween, lowercaseBetween_eq_iff, CutsSigma]
  simp only [List.append_nil, not_exists, not_and, Classical.not_not]

theorem not_cutsSigma_of_not_mem
    {piece : List Char} (h : 'Σ' ∉ piece) (before after : List Char) :
    ¬ CutsSigma before piece after := by
  rintro ⟨front, back, rfl, _⟩
  exact h (List.mem_append_right front List.mem_cons_self)

instance (before piece after : List Char) : Decidable (CutsSigma before piece after) :=
  decidable_of_iff (lowercaseBetween before piece after ≠ lowercase piece) (by
    rw [Ne, lowercaseBetween_eq_lowercase_iff, Classical.not_not])

end Text
end Audience
