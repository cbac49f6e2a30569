import Audience.Time.Timestamp
import Audience.Proofs.Decimal.Digits
import Audience.Proofs.Time.LeapSeconds

/-!
# Instants that read back

The written form of an instant is read back in the relaxed form: years with a sign,
fractions of any of the four lengths and leap seconds that end their minutes included.  In
the strict form it is read back if its year has four digits and no sign.

**Stray leap seconds** are written as the second after them, so in their place that second is
read back.  No text is read as an instant with one.

**Results.**
* `takeYear_yearText`, `takeSmall_twoDigits`, `takeNanoseconds_fractionText`: each part is
  taken back.
* `readRelaxed_text`, `readStrict_text`: an instant is read back from its text, settled.
* `text_settled`: settling an instant does not change its text.
* `isStray_of_readRelaxed`: an instant that was read has no stray leap second.
-/

namespace Audience

open Text

namespace Timestamp

theorem digit_not_blank (d : Digit) : isBlank d.char = false := by
  revert d
  decide

theorem digit_ne_sign (d : Digit) : d.char ≠ '-' ∧ d.char ≠ '+' := by
  revert d
  decide

/-- Written digits are not trimmed. -/
theorem trimStart_digits
    {ds : List Digit} (hne : ds ≠ []) (rest : List Char) :
    trimStart (ds.map Digit.char ++ rest) = ds.map Digit.char ++ rest := by
  obtain ⟨d, ds, rfl⟩ := List.exists_cons_of_ne_nil hne
  exact trimStart_of_not_blank (digit_not_blank d)

/-- A sign in front of written digits is not trimmed. -/
theorem trimStart_sign
    {c : Char} (h : isBlank c = false) (ds : List Digit) (rest : List Char) :
    trimStart (c :: (ds.map Digit.char ++ rest)) = c :: (ds.map Digit.char ++ rest) :=
  trimStart_of_not_blank h

/-- Written digits within the bounds are taken back as their number. -/
theorem takeNumber_append
    {least most : Nat} (ds : List Digit) (rest : List Char)
    (hleast : least ≤ ds.length) (hmost : ds.length ≤ most)
    (hrest : ds.length = most ∨ NoDigitFirst rest) :
    takeNumber least most (ds.map Digit.char ++ rest) = some (valueOf ds, rest) := by
  rw [takeNumber, takeDigitsUpTo_append ds rest hmost hrest]
  simp
  omega

theorem noDigitFirst_hyphen (rest : List Char) : NoDigitFirst ('-' :: rest) := by
  show Digit.ofChar? '-' = none
  decide

/-- The digits of a year after its sign are taken back. -/
theorem takeNumber_year
    (n : Nat) (rest : List Char) :
    takeNumber 1 ((padded 4 n).map Digit.char ++ '-' :: rest).length
        ((padded 4 n).map Digit.char ++ '-' :: rest) =
      some (n, '-' :: rest) := by
  have hpos : 0 < (padded 4 n).length := List.length_pos_iff.mpr (padded_ne_nil 4 n)
  rw [takeNumber_append (padded 4 n) _ hpos (by simp) (Or.inr (noDigitFirst_hyphen rest))]
  rw [valueOf_padded]

/-- A year with at most four digits has four of them and no sign. -/
theorem yearText_of_le
    {year : Int} (hlow : 0 ≤ year) (hhigh : year ≤ 9999) :
    yearText year = (padded 4 year.natAbs).map Digit.char := by
  simp [yearText, Int.not_lt.mpr hlow, Int.not_lt.mpr hhigh]

/-- A year without a sign is taken back, whether or not all four digits are asked for. -/
theorem takeNumber_yearText
    {least : Nat} {year : Int} (rest : List Char) (hleast : least ≤ 4)
    (hlow : 0 ≤ year) (hhigh : year ≤ 9999) :
    takeNumber least 4 (yearText year ++ rest) = some (year.natAbs, rest) := by
  have hlength : (padded 4 year.natAbs).length = 4 := length_padded (by decide) (by omega)
  rw [yearText_of_le hlow hhigh, takeNumber_append (padded 4 year.natAbs) rest (by omega)
    (by omega) (Or.inl hlength)]
  rw [valueOf_padded]

/-- A year is taken back. -/
theorem takeYear_yearText
    (year : Int) (rest : List Char) :
    takeYear (yearText year ++ '-' :: rest) = some (year, '-' :: rest) := by
  have hsigned := takeNumber_year year.natAbs rest
  by_cases hneg : year < 0
  · have htext : yearText year = '-' :: (padded 4 year.natAbs).map Digit.char := by
      simp [yearText, hneg]
    have htrim := trimStart_sign (c := '-') (by decide) (padded 4 year.natAbs) ('-' :: rest)
    have hback : -(year.natAbs : Int) = year := by omega
    rw [htext, List.cons_append, takeYear, htrim]
    simp only [hsigned, Option.map_some, hback]
  · by_cases hlarge : 9999 < year
    · have htext : yearText year = '+' :: (padded 4 year.natAbs).map Digit.char := by
        simp [yearText, hneg, hlarge]
      have htrim := trimStart_sign (c := '+') (by decide) (padded 4 year.natAbs) ('-' :: rest)
      have hback : (year.natAbs : Int) = year := by omega
      rw [htext, List.cons_append, takeYear, htrim]
      simp only [hsigned, Option.map_some, hback]
    · -- Four digits and no sign.
      have hlow : 0 ≤ year := Int.not_lt.mp hneg
      have hhigh : year ≤ 9999 := Int.not_lt.mp hlarge
      have hnumber := takeNumber_yearText ('-' :: rest) (by decide : 1 ≤ 4) hlow hhigh
      have htrim := trimStart_digits (padded_ne_nil 4 year.natAbs) ('-' :: rest)
      have hback : (year.natAbs : Int) = year := Int.natAbs_of_nonneg hlow
      obtain ⟨d, ds, hds⟩ := List.exists_cons_of_ne_nil (padded_ne_nil 4 year.natAbs)
      obtain ⟨hminus, hplus⟩ := digit_ne_sign d
      rw [yearText_of_le hlow hhigh] at hnumber ⊢
      rw [takeYear, htrim]
      split
      · next hhead =>
          simp [hds, hminus] at hhead
      · next hhead =>
          simp [hds, hplus] at hhead
      · rw [hnumber]
        simp [hback]

/-- A number of two digits is taken back, whether or not both are asked for. -/
theorem takeNumber_twoDigits
    {least n : Nat} (rest : List Char) (hleast : least ≤ 2) (h : n < 100) :
    takeNumber least 2 (twoDigits n ++ rest) = some (n, rest) := by
  have hlength : (padded 2 n).length = 2 := length_padded (by decide) (by omega)
  rw [twoDigits, takeNumber_append (padded 2 n) rest (by omega) (by omega) (Or.inl hlength)]
  rw [valueOf_padded]

theorem takeSmall_twoDigits
    {n : Nat} (rest : List Char) (h : n < 100) :
    takeSmall (twoDigits n ++ rest) = some (n, rest) := by
  rw [takeSmall, twoDigits, trimStart_digits (padded_ne_nil 2 n)]
  exact takeNumber_twoDigits rest (by decide) h

theorem takeMark_hyphen (rest : List Char) : takeMark '-' ('-' :: rest) = some rest := by
  rw [takeMark, trimStart_of_not_blank (by decide)]
  rfl

theorem takeMark_colon (rest : List Char) : takeMark ':' (':' :: rest) = some rest := by
  rw [takeMark, trimStart_of_not_blank (by decide)]
  rfl

theorem noDigitFirst_zulu : NoDigitFirst ['Z'] := by
  show Digit.ofChar? 'Z' = none
  decide

/-- The fraction digits of a given width are taken back. -/
theorem takeNanoseconds_padded
    {width n : Nat} (hwidth : 0 < width) (hle : width ≤ 9) (h : n < 10 ^ width) :
    takeNanoseconds ('.' :: (padded width n).map Digit.char ++ ['Z']) =
      some (n * 10 ^ (9 - width), ['Z']) := by
  have hlength := length_padded hwidth h
  have htake := takeDigits_append (padded width n) ['Z'] noDigitFirst_zulu
  have hnano : nanoseconds (padded width n) = n * 10 ^ (9 - width) := by
    rw [nanoseconds, List.take_of_length_le (by omega), valueOf_padded, hlength]
  rw [List.cons_append, takeNanoseconds, htake]
  obtain ⟨d, ds, hds⟩ := List.exists_cons_of_ne_nil (padded_ne_nil width n)
  rw [← hnano, hds]

/-- A fraction of a second is taken back. -/
theorem takeNanoseconds_fractionText
    {nano : Nat} (h : nano < 10 ^ 9) :
    takeNanoseconds (fractionText nano ++ ['Z']) = some (nano, ['Z']) := by
  unfold fractionText
  split
  · next hzero =>
      rw [hzero]
      rfl
  · split
    · next hmilli =>
        rw [takeNanoseconds_padded (by decide) (by decide) (by omega)]
        congr 2
        omega
    · split
      · next hmicro =>
          rw [takeNanoseconds_padded (by decide) (by decide) (by omega)]
          congr 2
          omega
      · rw [takeNanoseconds_padded (by decide) (by decide) h]
        simp

theorem takeRelaxedOffset_zulu : takeRelaxedOffset (trimStart ['Z']) = some (0, []) := by
  decide

theorem takeOffset_zulu : takeOffset (takeChar ':') ['Z'] = some (0, []) := rfl

theorem date_parts_lt
    (d : Date) :
    d.month < 100 ∧ d.day < 100 := by
  have hvalid := d.valid
  simp only [isDate, Bool.and_eq_true, decide_eq_true_eq] at hvalid
  have hlength : monthLength d.year d.month ≤ 31 := by
    unfold monthLength
    split
    · split <;> omega
    · split <;> omega
  omega

theorem clock_parts_lt
    (c : Clock) :
    c.hour < 100 ∧ c.minute < 100 ∧ c.writtenSecond < 100 := by
  have hvalid := c.valid
  have hsecond := c.writtenSecond_le
  simp only [isClock, Bool.and_eq_true, decide_eq_true_eq] at hvalid
  omega

/-- The written components of an instant name it settled, without an offset. -/
theorem atOffset?_zero
    (t : Instant) :
    atOffset? (Date.of? t.date.year t.date.month t.date.day)
      (Clock.ofWritten? t.clock.hour t.clock.minute t.clock.writtenSecond t.clock.writtenNano) 0 =
        some t.settled := by
  have hday : (0 : Int).natAbs < 1440 := by decide
  rw [atOffset?, Date.of?_self, Clock.ofWritten?_written]
  simp only [Option.bind_eq_bind, Option.bind_some, if_pos hday, Instant.minusMinutes?_zero]
  rfl

/-- An instant is read back from its text, settled. -/
theorem readRelaxed_text
    (t : Instant) :
    readRelaxed (text t) = some t.settled := by
  obtain ⟨hmonth, hday⟩ := date_parts_lt t.date
  obtain ⟨hhour, hminute, hsecond⟩ := clock_parts_lt t.clock
  have hnano := t.clock.writtenNano_lt
  simp only [text, dateText, clockText, List.append_assoc, List.cons_append]
  unfold readRelaxed
  refine Option.bind_eq_some_iff.mpr ⟨_, takeYear_yearText _ _, ?_⟩
  refine Option.bind_eq_some_iff.mpr ⟨_, takeMark_hyphen _, ?_⟩
  refine Option.bind_eq_some_iff.mpr ⟨_, takeSmall_twoDigits _ hmonth, ?_⟩
  refine Option.bind_eq_some_iff.mpr ⟨_, takeMark_hyphen _, ?_⟩
  refine Option.bind_eq_some_iff.mpr ⟨_, takeSmall_twoDigits _ hday, ?_⟩
  refine Option.bind_eq_some_iff.mpr ⟨_, rfl, ?_⟩
  refine Option.bind_eq_some_iff.mpr ⟨_, takeSmall_twoDigits _ hhour, ?_⟩
  refine Option.bind_eq_some_iff.mpr ⟨_, takeMark_colon _, ?_⟩
  refine Option.bind_eq_some_iff.mpr ⟨_, takeSmall_twoDigits _ hminute, ?_⟩
  refine Option.bind_eq_some_iff.mpr ⟨_, takeMark_colon _, ?_⟩
  refine Option.bind_eq_some_iff.mpr ⟨_, takeSmall_twoDigits _ hsecond, ?_⟩
  refine Option.bind_eq_some_iff.mpr ⟨_, takeNanoseconds_fractionText hnano, ?_⟩
  refine Option.bind_eq_some_iff.mpr ⟨_, takeRelaxedOffset_zulu, ?_⟩
  exact atOffset?_zero t

/-- An instant of a year with four digits is read back in the strict form, settled. -/
theorem readStrict_text
    {t : Instant} (hlow : 0 ≤ t.date.year) (hhigh : t.date.year ≤ 9999) :
    readStrict (text t) = some t.settled := by
  obtain ⟨hmonth, hday⟩ := date_parts_lt t.date
  obtain ⟨hhour, hminute, hsecond⟩ := clock_parts_lt t.clock
  have hnano := t.clock.writtenNano_lt
  have hyear : (t.date.year.natAbs : Int) = t.date.year := Int.natAbs_of_nonneg hlow
  simp only [text, dateText, clockText, List.append_assoc, List.cons_append]
  unfold readStrict
  refine Option.bind_eq_some_iff.mpr ⟨_, takeNumber_yearText _ (by decide) hlow hhigh, ?_⟩
  refine Option.bind_eq_some_iff.mpr ⟨_, rfl, ?_⟩
  refine Option.bind_eq_some_iff.mpr ⟨_, takeNumber_twoDigits _ (by decide) hmonth, ?_⟩
  refine Option.bind_eq_some_iff.mpr ⟨_, rfl, ?_⟩
  refine Option.bind_eq_some_iff.mpr ⟨_, takeNumber_twoDigits _ (by decide) hday, ?_⟩
  refine Option.bind_eq_some_iff.mpr ⟨_, rfl, ?_⟩
  refine Option.bind_eq_some_iff.mpr ⟨_, takeNumber_twoDigits _ (by decide) hhour, ?_⟩
  refine Option.bind_eq_some_iff.mpr ⟨_, rfl, ?_⟩
  refine Option.bind_eq_some_iff.mpr ⟨_, takeNumber_twoDigits _ (by decide) hminute, ?_⟩
  refine Option.bind_eq_some_iff.mpr ⟨_, rfl, ?_⟩
  refine Option.bind_eq_some_iff.mpr ⟨_, takeNumber_twoDigits _ (by decide) hsecond, ?_⟩
  refine Option.bind_eq_some_iff.mpr ⟨_, takeNanoseconds_fractionText hnano, ?_⟩
  refine Option.bind_eq_some_iff.mpr ⟨_, takeOffset_zulu, ?_⟩
  show atOffset? (Date.of? t.date.year.natAbs t.date.month t.date.day) _ 0 = some t.settled
  rw [hyear]
  exact atOffset?_zero t

/-- Settling an instant does not change its text. -/
theorem text_settled
    (t : Instant) :
    text t.settled = text t := by
  obtain ⟨hhour, hminute, hsecond, hnano⟩ := t.clock.written_settled
  simp only [text, clockText, Instant.settled, hhour, hminute, hsecond, hnano]

/-- Written components and an offset name no stray leap second. -/
theorem isStray_of_atOffset?
    {date : Option Date} {hour minute second nano : Nat} {offset : Int} {t : Instant}
    (h : atOffset? date (Clock.ofWritten? hour minute second nano) offset = some t) :
    t.isStray = false := by
  obtain ⟨date, _, h⟩ := Option.bind_eq_some_iff.mp h
  obtain ⟨clock, hclock, h⟩ := Option.bind_eq_some_iff.mp h
  split at h
  · rw [Instant.isStray_of_minusMinutes? h]
    exact (Clock.written_of_ofWritten? hclock).1
  · cases h

/-- An instant that was read in the relaxed form has no stray leap second. -/
theorem isStray_of_readRelaxed
    {cs : List Char} {t : Instant} (h : readRelaxed cs = some t) :
    t.isStray = false := by
  -- Of the parts only the last step makes an instant.
  obtain ⟨⟨year, _⟩, _, h⟩ := Option.bind_eq_some_iff.mp h
  obtain ⟨_, _, h⟩ := Option.bind_eq_some_iff.mp h
  obtain ⟨⟨month, _⟩, _, h⟩ := Option.bind_eq_some_iff.mp h
  obtain ⟨_, _, h⟩ := Option.bind_eq_some_iff.mp h
  obtain ⟨⟨day, _⟩, _, h⟩ := Option.bind_eq_some_iff.mp h
  obtain ⟨_, _, h⟩ := Option.bind_eq_some_iff.mp h
  obtain ⟨⟨hour, _⟩, _, h⟩ := Option.bind_eq_some_iff.mp h
  obtain ⟨_, _, h⟩ := Option.bind_eq_some_iff.mp h
  obtain ⟨⟨minute, _⟩, _, h⟩ := Option.bind_eq_some_iff.mp h
  obtain ⟨_, _, h⟩ := Option.bind_eq_some_iff.mp h
  obtain ⟨⟨second, _⟩, _, h⟩ := Option.bind_eq_some_iff.mp h
  obtain ⟨⟨nano, _⟩, _, h⟩ := Option.bind_eq_some_iff.mp h
  obtain ⟨⟨offset, _⟩, _, h⟩ := Option.bind_eq_some_iff.mp h
  simp only at h
  split at h
  · exact isStray_of_atOffset? h
  · cases h

end Timestamp
end Audience
