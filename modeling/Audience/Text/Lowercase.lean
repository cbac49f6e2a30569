import Audience.Text.CaseTable

/-!
# Lower-casing a text

A text is lower-cased character by character, with two exceptions to the
one-to-one mapping:

* U+0130 (capital I with a dot) becomes two characters, an `i` and a dot above;
* a capital sigma becomes the final form when it ends a word, that is when a
  cased character stands before it and none after it, case-ignorable characters
  in between being skipped on both sides.

**Results.**
* `lowercaseAfter_nil`, `lowercaseAfter_cons`: lower-casing goes from left to right;
  the characters around a character count only through the sigma rule.
-/

namespace Audience
namespace Text

/-- The property `Cased`. -/
def isCased (c : Char) : Bool :=
  inRanges casedRanges c.toNat

/-- The property `Case_Ignorable`. -/
def isCaseIgnorable (c : Char) : Bool :=
  inRanges caseIgnorableRanges c.toNat

/-- The one-to-one lower-case mapping. -/
def lowerChar (c : Char) : Char :=
  match lowercaseRuns.find? (·.covers c.toNat) with
  | some run => Char.ofNat (c.toNat + run.shift).toNat
  | none => c

/-- The first character that is not case-ignorable is there and is cased. -/
def meetsCased : List Char → Bool
  | [] => false
  | c :: rest => if isCaseIgnorable c then meetsCased rest else isCased c

/-- The small sigma for a capital one with `before` (nearest first) and `after` around it. -/
def smallSigma (before after : List Char) : Char :=
  if meetsCased before && !meetsCased after then 'ς' else 'σ'

/-- The lower-case form of one character in its context. -/
def lowerIn (before : List Char) (c : Char) (after : List Char) : List Char :=
  if c = 'Σ' then [smallSigma before after]
  else if c = 'İ' then ['i', Char.ofNat 0x307]
  else [lowerChar c]

/-- Lower-cases a text that follows `before` (nearest first). -/
def lowercaseAfter (before : List Char) : List Char → List Char
  | [] => []
  | c :: rest => lowerIn before c rest ++ lowercaseAfter (c :: before) rest

@[simp] theorem lowercaseAfter_nil (before : List Char) : lowercaseAfter before [] = [] := rfl

@[simp] theorem lowercaseAfter_cons (before : List Char) (c : Char) (rest : List Char) :
    lowercaseAfter before (c :: rest) =
      lowerIn before c rest ++ lowercaseAfter (c :: before) rest := rfl

/-- The lower-case form of a text. -/
def lowercase (s : List Char) : List Char :=
  lowercaseAfter [] s

@[simp] theorem lowercase_nil : lowercase [] = [] := rfl

end Text
end Audience
