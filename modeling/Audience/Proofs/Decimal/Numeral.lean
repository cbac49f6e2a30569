import Audience.Proofs.Decimal.Digits
import Audience.Proofs.Decimal.Rounding
import Audience.Number.Numeral

/-!
# Numerals that read back

A numeral whose whole digits have no superfluous zero in front is read back from its text.
The numerals of integers and doubles are of this kind, and the numeral of a double stands
for that double.

**Results.**
* `read_text`: a spelled numeral is taken back from the front of a text.
* `spelled_ofInt`, `spelled_ofBinary64`: which numerals are spelled.
* `toBinary64_ofBinary64`: the numeral of a finite double stands for that double.
-/

namespace Audience

open Text

namespace Numeral

/-- The whole digits of a numeral can be read. -/
def Spelled (n : Numeral) : Prop := wholeAllowed n.whole = true

/-- What follows a numeral cannot be taken for a part of it. -/
def Ends : List Char → Prop
  | [] => True
  | c :: _ => Digit.ofChar? c = none ∧ c ≠ '.' ∧ c ≠ 'e' ∧ c ≠ 'E'

theorem Ends.noDigitFirst
    {rest : List Char} (h : Ends rest) :
    NoDigitFirst rest := by
  cases rest with
  | nil =>
      trivial
  | cons c rest =>
      exact h.1

theorem noDigitFirst_fractionText
    (fraction : List Digit) {rest : List Char}
    (h : NoDigitFirst rest) :
    NoDigitFirst (fractionText fraction ++ rest) := by
  cases fraction with
  | nil =>
      exact h
  | cons d ds =>
      show Digit.ofChar? '.' = none
      decide

theorem noDigitFirst_exponentText
    (exponent : Option Int) {rest : List Char}
    (h : NoDigitFirst rest) :
    NoDigitFirst (exponentText exponent ++ rest) := by
  cases exponent with
  | none =>
      exact h
  | some e =>
      show Digit.ofChar? 'e' = none
      decide

/-- An exponent is read back. -/
theorem readExponent_exponentText
    (exponent : Option Int) {rest : List Char}
    (h : Ends rest) :
    readExponent (exponentText exponent ++ rest) = some (exponent, rest) := by
  cases exponent with
  | none =>
      cases rest with
      | nil =>
          rfl
      | cons c rest =>
          obtain ⟨-, -, he, hE⟩ := h
          simp [exponentText, readExponent, he, hE]
  | some e =>
      have htake := takeDigits_append (digitsOf e.natAbs) rest h.noDigitFirst
      have hvalue := valueOf_digitsOf e.natAbs
      -- The digits are not empty, so the reader accepts them.
      cases hds : digitsOf e.natAbs with
      | nil =>
          exact absurd hds (digitsOf_ne_nil _)
      | cons d ds =>
          rw [hds] at htake hvalue
          by_cases he : e < 0
          · have hback : -(e.natAbs : Int) = e := by omega
            simp only [exponentText, if_pos he, Text.decimal, hds, List.cons_append,
              readExponent, readSignedExponent, readExponentDigits]
            rw [htake]
            simp only [hvalue, hback]
            rfl
          · have hback : (e.natAbs : Int) = e := by omega
            simp only [exponentText, if_neg he, Text.decimal, hds, List.cons_append,
              readExponent, readSignedExponent, readExponentDigits]
            rw [htake]
            simp only [hvalue, hback]
            rfl

/-- A fraction is read back. -/
theorem readFraction_fractionText
    (fraction : List Digit) {rest : List Char}
    (hdigit : NoDigitFirst rest) (hpoint : rest.head? ≠ some '.') :
    readFraction (fractionText fraction ++ rest) = some (fraction, rest) := by
  cases fraction with
  | nil =>
      cases rest with
      | nil =>
          rfl
      | cons c rest =>
          have hc : c ≠ '.' := by
            simpa using hpoint
          simp [fractionText, readFraction, hc]
  | cons d ds =>
      have htake := takeDigits_append (d :: ds) rest hdigit
      simp only [fractionText, List.cons_append, readFraction]
      rw [htake]

theorem head?_exponentText_ne_point
    (exponent : Option Int) {rest : List Char}
    (h : Ends rest) :
    (exponentText exponent ++ rest).head? ≠ some '.' := by
  cases exponent with
  | none =>
      cases rest with
      | nil =>
          simp [exponentText]
      | cons c rest =>
          simpa [exponentText] using h.2.1
  | some e =>
      simp [exponentText]

/-- A numeral is read back after its sign. -/
theorem readUnsigned_digits
    (n : Numeral) {rest : List Char}
    (hn : n.Spelled) (h : Ends rest) :
    readUnsigned n.negative
        (n.whole.map Digit.char ++
          (fractionText n.fraction ++ (exponentText n.exponent ++ rest))) =
      some (n, rest) := by
  have hexponent := noDigitFirst_exponentText n.exponent h.noDigitFirst
  have hfraction := noDigitFirst_fractionText n.fraction hexponent
  have hpoint := head?_exponentText_ne_point n.exponent h
  have hallowed : wholeAllowed n.whole = true := hn
  simp only [readUnsigned, takeDigits_append _ _ hfraction, hallowed, if_true]
  simp [readFraction_fractionText _ hexponent hpoint, readExponent_exponentText _ h]

theorem char_ne_minus (d : Digit) : d.char ≠ '-' := by
  revert d
  decide

/-- A spelled numeral is taken back from the front of a text. -/
theorem read_text
    (n : Numeral) {rest : List Char}
    (hn : n.Spelled) (h : Ends rest) :
    read (n.text ++ rest) = some (n, rest) := by
  have hread := readUnsigned_digits n hn h
  cases hneg : n.negative with
  | true =>
      rw [hneg] at hread
      simp only [text, hneg, if_true, List.append_assoc, List.cons_append, List.nil_append, read]
      exact hread
  | false =>
      rw [hneg] at hread
      cases hwhole : n.whole with
      | nil =>
          rw [Spelled, hwhole] at hn
          cases hn
      | cons d ds =>
          rw [hwhole] at hread
          have hd := char_ne_minus d
          simp only [text, hneg, hwhole, Bool.false_eq_true, if_false, List.nil_append,
            List.append_assoc, List.map_cons, List.cons_append]
          rw [read]
          · simpa using hread
          · simpa using hd

/-- The text of a spelled numeral starts with a minus sign or a digit. -/
theorem text_head
    (n : Numeral) (hn : n.Spelled) :
    ∃ c cs, n.text = c :: cs ∧ (c = '-' ∨ ∃ d : Digit, c = d.char) := by
  let tail := fractionText n.fraction ++ exponentText n.exponent
  cases hneg : n.negative with
  | true =>
      refine ⟨'-', n.whole.map Digit.char ++ tail, ?_, Or.inl rfl⟩
      simp [text, hneg, tail]
  | false =>
      cases hwhole : n.whole with
      | nil =>
          rw [Spelled, hwhole] at hn
          cases hn
      | cons d ds =>
          refine ⟨d.char, ds.map Digit.char ++ tail, ?_, Or.inr ⟨d, rfl⟩⟩
          simp [text, hneg, hwhole, tail]

/-- Digits of a number without leading zeros may be followed by further digits. -/
theorem wholeAllowed_of_head?
    {ds : List Digit} (hne : ds ≠ [])
    (h : ds.head? ≠ some Digit.zero) :
    wholeAllowed ds = true := by
  cases ds with
  | nil =>
      exact absurd rfl hne
  | cons d ds =>
      cases ds with
      | nil =>
          rfl
      | cons e ds =>
          simpa [wholeAllowed] using h

theorem wholeAllowed_digitsOf
    (n : Nat) :
    wholeAllowed (digitsOf n) = true := by
  by_cases hn : n = 0
  · subst hn
    rfl
  · exact wholeAllowed_of_head? (digitsOf_ne_nil n) (head?_digitsOf hn)

theorem spelled_ofInt (i : Int) : (ofInt i).Spelled :=
  wholeAllowed_digitsOf i.natAbs

section Layout

variable {layout : Layout} {negative : Bool} {ds : List Digit}

/-- The four shapes of a laid out numeral: the digits stand behind the point, before it,
around it, or after one leading digit with an exponent. -/
theorem layOut_cases
    (layout : Layout) (negative : Bool) (ds : List Digit) (lead : Int) :
    (lead < 0 ∧
      layOut layout negative ds lead =
        ⟨negative, [Digit.zero], List.replicate (-lead - 1).toNat Digit.zero ++ ds, none⟩)
      ∨
    (0 ≤ lead ∧ ds.length ≤ lead.toNat + 1 ∧
      layOut layout negative ds lead =
        ⟨negative, ds ++ List.replicate (lead.toNat + 1 - ds.length) Digit.zero, [Digit.zero],
          none⟩)
      ∨
    (0 ≤ lead ∧ lead.toNat + 1 < ds.length ∧
      layOut layout negative ds lead =
        ⟨negative, ds.take (lead.toNat + 1), ds.drop (lead.toNat + 1), none⟩)
      ∨
    layOut layout negative ds lead = ⟨negative, ds.take 1, ds.drop 1, some lead⟩ := by
  by_cases hplace : layout.least ≤ lead ∧ lead < layout.limit
  · by_cases hlead : lead < 0
    · exact Or.inl ⟨hlead, by simp [layOut, hplace, hlead]⟩
    · by_cases hfew : ds.length ≤ lead.toNat + 1
      · exact Or.inr (Or.inl ⟨by omega, hfew, by simp [layOut, hplace, hlead, hfew]⟩)
      · refine Or.inr (Or.inr (Or.inl ⟨by omega, by omega, ?_⟩))
        simp [layOut, hplace, hlead, hfew]
  · exact Or.inr (Or.inr (Or.inr (by simp [layOut, hplace])))

/-- Laying digits out neither loses a digit nor moves the point: at most zeros are added
behind the last digit. -/
theorem decimal_layOut
    (hne : ds ≠ []) (lead : Int) :
    ∃ zeros : Nat,
      (layOut layout negative ds lead).decimal =
        ⟨negative, valueOf ds * 10 ^ zeros, lead + 1 - ds.length - zeros⟩ := by
  have hlength : 0 < ds.length := List.length_pos_iff.mpr hne
  rcases layOut_cases layout negative ds lead with
    ⟨hlead, hshape⟩ | ⟨hlead, hfew, hshape⟩ | ⟨hlead, hmany, hshape⟩ | hshape
  · refine ⟨0, ?_⟩
    rw [hshape]
    simp only [decimal, Option.getD_none, valueOf_append, valueOf_replicate_zero,
      valueOf_singleton, List.length_append, List.length_replicate, Decimal.mk.injEq]
    exact ⟨trivial, by simp, by omega⟩
  · refine ⟨lead.toNat + 1 - ds.length + 1, ?_⟩
    rw [hshape]
    simp only [decimal, Option.getD_none, valueOf_append, valueOf_replicate_zero,
      valueOf_singleton, List.length_replicate, List.length_singleton, Decimal.mk.injEq]
    refine ⟨trivial, ?_, by omega⟩
    rw [Nat.pow_succ]
    simp
    ring
  · refine ⟨0, ?_⟩
    rw [hshape]
    simp only [decimal, Option.getD_none, List.take_append_drop, List.length_drop,
      Decimal.mk.injEq]
    exact ⟨trivial, by simp, by omega⟩
  · refine ⟨0, ?_⟩
    rw [hshape]
    simp only [decimal, Option.getD_some, List.take_append_drop, List.length_drop,
      Decimal.mk.injEq]
    exact ⟨trivial, by simp, by omega⟩

/-- The whole digits are allowed if a leading zero is the only digit, in the place of ones. -/
theorem spelled_layOut
    (hne : ds ≠ []) {lead : Int}
    (hzero : ds.head? = some Digit.zero → ds = [Digit.zero] ∧ lead = 0) :
    (layOut layout negative ds lead).Spelled := by
  obtain ⟨d, rest, rfl⟩ := List.exists_cons_of_ne_nil hne
  rcases layOut_cases layout negative (d :: rest) lead with
    ⟨hlead, hshape⟩ | ⟨hlead, hfew, hshape⟩ | ⟨hlead, hmany, hshape⟩ | hshape
  · rw [hshape]
    rfl
  · rw [hshape]
    by_cases hd : d = Digit.zero
    · obtain ⟨hds, rfl⟩ := hzero (by simp [hd])
      rw [hds]
      rfl
    · exact wholeAllowed_of_head? (by simp) (by simpa using hd)
  · rw [hshape]
    by_cases hd : d = Digit.zero
    · obtain ⟨hds, rfl⟩ := hzero (by simp [hd])
      simp [hds] at hmany
    · exact wholeAllowed_of_head? (by simp) (by simpa using hd)
  · rw [hshape]
    rfl

/-- A laid out numeral is not written as an integer: it has a point or an exponent. -/
theorem isWhole_layOut
    (hne : ds ≠ []) (lead : Int) :
    (layOut layout negative ds lead).isWhole = false := by
  rcases layOut_cases layout negative ds lead with
    ⟨hlead, hshape⟩ | ⟨hlead, hfew, hshape⟩ | ⟨hlead, hmany, hshape⟩ | hshape
  · rw [hshape]
    simp [isWhole, hne]
  · rw [hshape]
    rfl
  · rw [hshape]
    simp [isWhole, hmany]
  · rw [hshape]
    simp [isWhole]

end Layout

/-- The place of the leading digit of a double's shortest decimal. -/
def lead (x : Binary64) : Int :=
  if x.shortest.coefficient = 0 then 0
  else x.shortest.exponent + (digitsOf x.shortest.coefficient).length - 1

theorem ofBinary64_eq_layOut
    (x : Binary64) :
    ofBinary64 x =
      layOut standard x.negative (digitsOf x.shortest.coefficient) (lead x) := by
  rw [← Binary64.negative_shortest x]
  rfl

theorem spelled_ofBinary64
    (x : Binary64) :
    (ofBinary64 x).Spelled := by
  rw [ofBinary64_eq_layOut]
  apply spelled_layOut (digitsOf_ne_nil _)
  intro hhead
  by_cases hc : x.shortest.coefficient = 0
  · rw [lead, if_pos hc, hc]
    exact ⟨rfl, rfl⟩
  · exact absurd hhead (head?_digitsOf hc)

theorem isWhole_ofBinary64
    (x : Binary64) :
    (ofBinary64 x).isWhole = false := by
  rw [ofBinary64_eq_layOut]
  exact isWhole_layOut (digitsOf_ne_nil _) _

/-- The numeral of a finite double stands for that double. -/
theorem toBinary64_ofBinary64
    {x : Binary64} (h : x.isFinite = true) :
    (ofBinary64 x).decimal.toBinary64 = x := by
  have hback := Binary64.toBinary64_shortest h
  have hnegative := Binary64.negative_shortest x
  rw [ofBinary64_eq_layOut]
  obtain ⟨zeros, hdecimal⟩ := decimal_layOut (digitsOf_ne_nil x.shortest.coefficient) (lead x)
  rw [hdecimal, valueOf_digitsOf, Decimal.toBinary64_shift]
  by_cases hc : x.shortest.coefficient = 0
  · rw [Decimal.toBinary64_eq_rounded, Decimal.rounded_of_coefficient_eq_zero hc] at hback
    rw [Decimal.toBinary64_eq_rounded, Decimal.rounded_of_coefficient_eq_zero (by exact hc)]
    rw [← hnegative]
    exact hback
  · have hexponent : lead x + 1 - (digitsOf x.shortest.coefficient).length =
        x.shortest.exponent := by
      rw [lead, if_neg hc]
      omega
    rw [hexponent, ← hnegative]
    exact hback

end Numeral
end Audience
