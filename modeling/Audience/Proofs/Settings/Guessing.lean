import Audience.Proofs.Decimal.Rounding
import Audience.Proofs.Text.Ascii
import Audience.Settings.Environment

/-!
# What a text of the environment is taken as

A text of the environment is taken as a boolean or as a number wherever it can be, so a whole
number of 64 bits comes through a setting as it was written if it is an integer with a sign, and
is rounded to a double otherwise.

**Rounding.**  Doubles from 2^63 to 2^64 are multiples of 2048.  A whole number between two of
them is lost, except the largest one: it is rounded to 2^64, which is beyond the limit of settings
and is cut to the largest number again.

**Results.**
* `Decimal.rounded_whole`: the magnitude of a whole number with more than 53 bits.
* `Setting.rounded_whole`: the natural number that a setting makes of its double.
* `Environment.isSome_text?_guess_iff`: which texts of the environment are texts of settings.
* `Environment.natural?_guess`: the natural number of a text of the environment.
* `Environment.wholeTaken_eq_iff`: which whole numbers come through.
-/

namespace Audience

open Text

section Rounding

variable {n j : Nat}

/-- A whole number with 53 + j bits is rounded to a multiple of 2^j. -/
theorem Decimal.rounded_whole
    (negative : Bool) (hlow : 2 ^ (52 + j) ≤ n) (hhigh : n < 2 ^ (52 + j + 1)) :
    rounded ⟨negative, n, 0⟩ = (1074 + j) * 2 ^ 52 + roundHalfEven n (2 ^ j) := by
  have hrounded : rounded ⟨negative, n, 0⟩ = magnitudeOfUnits (n * 2 ^ 1074) 1 := by
    rw [rounded_mk]
    simp only [Int.toNat_zero, Int.neg_zero, Nat.pow_zero, Nat.mul_one]
  have hdoublings : 52 + j + 1074 - 52 = j + 1074 := by
    omega
  rw [hrounded, magnitudeOfUnits, Nat.div_one, log2_mul_two_pow 1074 hlow hhigh, Nat.one_mul]
  simp only [hdoublings]
  rw [Nat.pow_add, roundHalfEven_mul_right _ _ (Nat.two_pow_pos 1074), Nat.add_comm j]

theorem roundHalfEven_whole_bounds
    (hlow : 2 ^ (52 + j) ≤ n) (hhigh : n < 2 ^ (52 + j + 1)) :
    2 ^ 52 ≤ roundHalfEven n (2 ^ j) ∧ roundHalfEven n (2 ^ j) ≤ 2 ^ 53 := by
  have hpos := Nat.two_pow_pos j
  have hdiv : 2 ^ 52 ≤ n / 2 ^ j := by
    rw [Nat.le_div_iff_mul_le hpos, ← Nat.pow_add]
    exact hlow
  have hdiv' : n / 2 ^ j < 2 ^ 53 := by
    rw [Nat.div_lt_iff_lt_mul hpos, ← Nat.pow_add]
    rwa [Nat.add_right_comm] at hhigh
  have hbounds := roundHalfEven_bounds n (2 ^ j)
  omega

/-- A significand of 53 bits, or the first one of the next exponent, times its power of two. -/
theorem Binary64.unitsOfMagnitude_significand
    {r : Nat} (q : Nat) (hlow : 2 ^ 52 ≤ r) (hhigh : r ≤ 2 ^ 53) :
    unitsOfMagnitude (q * 2 ^ 52 + r) = r * 2 ^ q := by
  have hle : 2 ^ 52 ≤ q * 2 ^ 52 + r := by
    omega
  rw [units_of_le hle]
  by_cases hr : r < 2 ^ 53
  · have hquot : (q * 2 ^ 52 + r) / 2 ^ 52 - 1 = q := by
      omega
    have hsum : 2 ^ 52 + (q * 2 ^ 52 + r) % 2 ^ 52 = r := by
      omega
    rw [hquot, hsum]
  · have hquot : (q * 2 ^ 52 + r) / 2 ^ 52 - 1 = q + 1 := by
      omega
    have hsum : 2 ^ 52 + (q * 2 ^ 52 + r) % 2 ^ 52 = 2 ^ 52 := by
      omega
    have hlast : r = 2 ^ 52 * 2 := by
      omega
    rw [hquot, hsum, hlast, Nat.mul_assoc, ← Nat.pow_succ']

/-- Half a unit more does not change the whole part of a whole number of units. -/
theorem shifted_half_div
    (r q k : Nat) :
    (r * 2 ^ (q + (k + 1)) + 2 ^ k) / 2 ^ (k + 1) = r * 2 ^ q := by
  have hhalf : 2 ^ k / 2 ^ (k + 1) = 0 :=
    Nat.div_eq_of_lt (Nat.pow_lt_pow_right (by decide) (Nat.lt_succ_self k))
  rw [Nat.pow_add, ← Nat.mul_assoc, Nat.add_comm,
    Nat.add_mul_div_right _ _ (Nat.two_pow_pos (k + 1)), hhalf, Nat.zero_add]

end Rounding

namespace Setting

/-- The double of a whole number of 64 bits is a multiple of 2048, cut to the limit. -/
theorem rounded_whole
    {n : Nat} (hlow : 2 ^ 63 ≤ n) (hhigh : n < 2 ^ 64) :
    rounded (Decimal.toBinary64 ⟨false, n, 0⟩) =
      min (roundHalfEven n 2048 * 2048) (2 ^ 64 - 1) := by
  have hmagnitude : Decimal.rounded ⟨false, n, 0⟩ = 1085 * 2 ^ 52 + roundHalfEven n 2048 :=
    Decimal.rounded_whole (j := 11) false hlow hhigh
  have hbounds : 2 ^ 52 ≤ roundHalfEven n 2048 ∧ roundHalfEven n 2048 ≤ 2 ^ 53 :=
    roundHalfEven_whole_bounds (j := 11) hlow hhigh
  generalize roundHalfEven n 2048 = r at hmagnitude hbounds
  have hfinite : 1085 * 2 ^ 52 + r < Binary64.infinityMagnitude := by
    unfold Binary64.infinityMagnitude
    omega
  have hunits := Binary64.unitsOfMagnitude_significand 1085 hbounds.1 hbounds.2
  rw [Decimal.toBinary64_eq_rounded, hmagnitude, Binary64.ofMagnitude, dif_pos hfinite]
  have hnotNaN : ¬ Binary64.infinityMagnitude < 1085 * 2 ^ 52 + r := Nat.not_lt.mpr hfinite.le
  have hwhole := shifted_half_div r 11 1073
  simp only [Nat.reduceAdd] at hwhole
  simp only [rounded, Binary64.isNaN, Binary64.isFinite, Binary64.units, hfinite, hnotNaN, hunits,
    decide_true, decide_false, Bool.or_false, Bool.false_eq_true, if_false, if_true,
    Int.toNat_natCast, hwhole, naturalLimit]

end Setting

namespace Text

theorem Digit.eq_char_of_ofChar?
    {c : Char} {d : Digit} (h : Digit.ofChar? c = some d) :
    c = d.char := by
  unfold Digit.ofChar? at h
  split at h
  · next hrange =>
      cases h
      have hsum : '0'.toNat + (c.toNat - '0'.toNat) = c.toNat := by
        omega
      rw [Digit.char, hsum, Char.ofNat_toNat]
  · cases h

/-- The digits that are taken off a text stand at its front. -/
theorem eq_append_of_takeDigits
    {cs rest : List Char} {ds : List Digit} (h : takeDigits cs = (ds, rest)) :
    cs = ds.map Digit.char ++ rest := by
  induction cs generalizing ds with
  | nil =>
      cases h
      rfl
  | cons c cs ih =>
      unfold takeDigits at h
      split at h
      · next d hd =>
          cases htail : takeDigits cs with
          | mk tail after =>
              rw [htail] at h
              cases h
              rw [Digit.eq_char_of_ofChar? hd, ih htail]
              rfl
      · cases h
        rfl

end Text

namespace Entered

/-- What a sign leaves of a text, if it is no minus sign, is the text but for a plus sign. -/
theorem eq_of_takeSign
    {cs rest : List Char} (h : takeSign cs = (false, rest)) :
    cs = rest ∨ cs = '+' :: rest := by
  unfold takeSign at h
  split at h <;> cases h
  · exact Or.inr rfl
  · exact Or.inl rfl

/-- The text of a whole number: digits, perhaps after a plus sign. -/
def IsWhole (cs : List Char) (n : Nat) : Prop :=
  ∃ d ds, takeSign cs = (false, (d :: ds).map Digit.char) ∧ valueOf (d :: ds) = n

theorem exists_digits_of_readInteger
    {cs rest : List Char} {negative : Bool} {i : Int} (hsign : takeSign cs = (negative, rest))
    (h : readInteger cs = some i) :
    ∃ d ds, rest = (d :: ds).map Digit.char ∧
      i = if negative then -(valueOf (d :: ds) : Int) else valueOf (d :: ds) := by
  unfold readInteger at h
  rw [hsign] at h
  cases hdigits : takeDigits rest with
  | mk digits after =>
      have hrest := eq_append_of_takeDigits hdigits
      simp only [hdigits] at h
      cases digits with
      | nil =>
          cases h
      | cons d ds =>
          cases after with
          | nil =>
              cases h
              rw [List.append_nil] at hrest
              exact ⟨d, ds, hrest, rfl⟩
          | cons =>
              cases h

theorem isWhole_of_readUnsigned64
    {cs : List Char} {n : Nat} (h : readUnsigned64 cs = some n) :
    IsWhole cs n ∧ n < 2 ^ 64 := by
  unfold readUnsigned64 at h
  split at h
  · cases h
  · next hminus =>
      obtain ⟨hread, hlimit⟩ := Option.filter_eq_some_iff.mp h
      obtain ⟨i, hi, rfl⟩ := Option.map_eq_some_iff.mp hread
      refine ⟨?_, of_decide_eq_true hlimit⟩
      have hsign : (takeSign cs).1 = false := by
        unfold takeSign
        split
        · exact absurd rfl hminus
        · rfl
        · rfl
      obtain ⟨d, ds, hrest, rfl⟩ := exists_digits_of_readInteger (Prod.ext hsign rfl) hi
      exact ⟨d, ds, Prod.ext hsign hrest, rfl⟩

section Whole

variable {cs : List Char} {n : Nat}

theorem IsWhole.readInteger (h : IsWhole cs n) : readInteger cs = some (n : Int) := by
  obtain ⟨d, ds, hsign, rfl⟩ := h
  have hdigits := takeDigits_append (d :: ds) [] trivial
  rw [List.append_nil] at hdigits
  unfold Entered.readInteger
  rw [hsign]
  simp only [hdigits]
  rfl

/-- A whole number is the real number of its digits. -/
theorem IsWhole.readReal
    (h : IsWhole cs n) :
    readReal cs = some (Decimal.toBinary64 ⟨false, n, 0⟩) := by
  obtain ⟨d, ds, hsign, rfl⟩ := h
  -- The names of infinity and not-a-number start with a letter.
  have hletter : ∀ d : Digit, d.char.toLower ≠ 'i' ∧ d.char.toLower ≠ 'n' := by
    decide
  have hname : ∀ c name, d.char.toLower ≠ c →
      String.ofList (lowerAscii ((d :: ds).map Digit.char)) ≠ String.ofList (c :: name) := by
    intro c name hne heq
    have hlist := String.ofList_injective heq
    exact hne (List.cons.inj hlist).1
  have hinf := hname 'i' ['n', 'f'] (hletter d).1
  have hinfinity := hname 'i' ['n', 'f', 'i', 'n', 'i', 't', 'y'] (hletter d).1
  have hnan := hname 'n' ['a', 'n'] (hletter d).2
  have hdigits := takeDigits_append (d :: ds) [] trivial
  rw [List.append_nil] at hdigits
  unfold Entered.readReal
  rw [hsign]
  simp only
  rw [if_neg (not_or.mpr ⟨hinf, hinfinity⟩), if_neg hnan, readDigits, hdigits]
  simp [takeFraction, Numeral.readExponent, Numeral.decimal]

/-- A whole number is no word: lower-casing does not make its first character a letter. -/
theorem IsWhole.lowercase_ne
    (h : IsWhole cs n) :
    lowercase cs ≠ "true".toList ∧ lowercase cs ≠ "false".toList := by
  obtain ⟨d, ds, hsign, -⟩ := h
  have hdigit : ∀ d : Digit,
      d.char.toNat < 128 ∧ d.char.toLower ≠ 't' ∧ d.char.toLower ≠ 'f' := by
    decide
  have hstart : ∃ c rest, cs = c :: rest ∧
      c.toNat < 128 ∧ c.toLower ≠ 't' ∧ c.toLower ≠ 'f' := by
    rcases eq_of_takeSign hsign with hcs | hcs
    · exact ⟨d.char, ds.map Digit.char, hcs, hdigit d⟩
    · exact ⟨'+', (d :: ds).map Digit.char, hcs, by decide⟩
  obtain ⟨c, rest, rfl, hascii, htrue, hfalse⟩ := hstart
  have hlower : lowercase (c :: rest) = c.toLower :: lowercaseAfter [c] rest := by
    rw [lowercase, lowercaseAfter_cons, lowerIn_ascii hascii, List.singleton_append]
  rw [hlower]
  exact ⟨fun hword => htrue (List.cons.inj hword).1, fun hword => hfalse (List.cons.inj hword).1⟩

end Whole

end Entered

namespace Environment

/-- A text that is taken as a boolean or as a number. -/
def IsPlain (s : String) : Prop :=
  String.ofList (lowercase s.toList) ∈ ["true", "false"] ∨
    (Entered.readSigned64 s.toList).isSome ∨ (Entered.readReal s.toList).isSome

/-- What a text is taken as has a text itself exactly if it is no list. -/
theorem isSome_text?_guess_iff
    (s : String) :
    (guess s).text?.isSome ↔ IsPlain s := by
  rw [IsPlain, guess]
  by_cases htrue : String.ofList (lowercase s.toList) = "true"
  · simp [htrue, Setting.text?]
  · by_cases hfalse : String.ofList (lowercase s.toList) = "false"
    · simp [hfalse, Setting.text?]
    · have hword : String.ofList (lowercase s.toList) ∉ ["true", "false"] := by
        simp [htrue, hfalse]
      simp only [htrue, hfalse, hword, if_false, false_or]
      cases Entered.readSigned64 s.toList <;> cases Entered.readReal s.toList <;>
        simp [Setting.text?]

/-- The natural number that a setting makes of a whole number in the environment. -/
def wholeTaken (n : Nat) : Nat :=
  if n < 2 ^ 63 then n else min (roundHalfEven n 2048 * 2048) (2 ^ 64 - 1)

theorem natural?_guess
    {s : String} {n : Nat} (h : Entered.readUnsigned64 s.toList = some n) :
    (guess s).natural? = some (wholeTaken n) := by
  obtain ⟨hwhole, hlimit⟩ := Entered.isWhole_of_readUnsigned64 h
  have htrue : String.ofList (lowercase s.toList) ≠ "true" := fun heq =>
    hwhole.lowercase_ne.1 (by rw [← heq, String.toList_ofList])
  have hfalse : String.ofList (lowercase s.toList) ≠ "false" := fun heq =>
    hwhole.lowercase_ne.2 (by rw [← heq, String.toList_ofList])
  unfold guess
  simp only [if_neg htrue, if_neg hfalse, hwhole.readReal]
  unfold Entered.readSigned64 wholeTaken
  rw [hwhole.readInteger]
  by_cases hsmall : n < 2 ^ 63
  · have hfits : (-(2 ^ 63) ≤ (n : Int) && (n : Int) < 2 ^ 63) = true := by
      simp only [Bool.and_eq_true, decide_eq_true_eq]
      omega
    rw [Option.filter_some, if_pos hfits, if_pos hsmall]
    exact Setting.natural?_ofNat hlimit
  · have hfits : ¬ (-(2 ^ 63) ≤ (n : Int) && (n : Int) < 2 ^ 63) = true := by
      simp only [Bool.and_eq_true, decide_eq_true_eq]
      omega
    rw [Option.filter_some, if_neg hfits, if_neg hsmall]
    exact congrArg some (Setting.rounded_whole (Nat.le_of_not_lt hsmall) hlimit)

/-- Whole numbers come through below 2^63, and from there on if they are multiples of 2048 or the
largest number of 64 bits. -/
theorem wholeTaken_eq_iff
    {n : Nat} (h : n < 2 ^ 64) :
    wholeTaken n = n ↔ n < 2 ^ 63 ∨ 2048 ∣ n ∨ n = 2 ^ 64 - 1 := by
  unfold wholeTaken
  split
  · next hsmall =>
      simp [hsmall]
  · next hlarge =>
      have hmultiple : roundHalfEven n 2048 * 2048 = n ↔ 2048 ∣ n := by
        refine ⟨Dvd.intro_left _, fun hdvd => ?_⟩
        rw [roundHalfEven_of_dvd (by decide) hdvd, Nat.div_mul_cancel hdvd]
      have hlast : n = 2 ^ 64 - 1 → roundHalfEven n 2048 * 2048 = 2 ^ 64 := fun hlast => by
        rw [hlast]
        decide
      generalize roundHalfEven n 2048 * 2048 = r at hmultiple hlast
      omega

end Environment

end Audience
