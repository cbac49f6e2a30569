import Audience.Time.Timestamp

/-!
# Moments of TOML documents

A moment is a date, a time of day or both, with or without an offset from UTC.  It is kept
as text in one spelling: a `T` between date and time, a fraction without zeros at its end,
and a `Z` or an offset of hours and minutes.

**Rules.**  A moment in a document and a moment in a text have the same form, but the numbers
of the latter may be a little larger.
-/

namespace Audience
namespace Toml

open Text

namespace Moment

/-- How large the numbers of a moment may be. -/
structure Rules where
  lastHour : Nat
  lastOffsetMinute : Nat
  lastOffset : Nat

/-- The rules for a moment in a document. -/
def documentRules : Rules := ⟨23, 59, 1439⟩

/-- The rules for a moment in a text. -/
def textRules : Rules := ⟨24, 99, 1440⟩

/-- The text of a fraction of a second without zeros at its end. -/
def fractionText (nano : Nat) : List Char :=
  if nano = 0 then []
  else '.' :: (((padded 9 nano).reverse.dropWhile (· == Digit.zero)).reverse).map Digit.char

/-- Takes a date from the front, and gives its text. -/
def takeDate? (cs : List Char) : Option (List Char × List Char) := do
  let (year, cs) ← Timestamp.takeNumber 4 4 cs
  let cs ← Timestamp.takeChar '-' cs
  let (month, cs) ← Timestamp.takeNumber 2 2 cs
  let cs ← Timestamp.takeChar '-' cs
  let (day, cs) ← Timestamp.takeNumber 2 2 cs
  let d ← Date.of? year month day
  return (Timestamp.dateText d, cs)

/-- Takes a time of day from the front, and gives its text. -/
def takeClock? (rules : Rules) (cs : List Char) : Option (List Char × List Char) := do
  let (hour, cs) ← Timestamp.takeNumber 2 2 cs
  let cs ← Timestamp.takeChar ':' cs
  let (minute, cs) ← Timestamp.takeNumber 2 2 cs
  let cs ← Timestamp.takeChar ':' cs
  let (second, cs) ← Timestamp.takeNumber 2 2 cs
  let (nano, cs) ← Timestamp.takeNanoseconds cs
  if hour ≤ rules.lastHour ∧ minute < 60 ∧ second ≤ 60 then
    return (Timestamp.twoDigits hour ++ ':' :: Timestamp.twoDigits minute ++
      ':' :: Timestamp.twoDigits second ++ fractionText nano, cs)
  else none

/-- The text of an offset of minutes. -/
def offsetText (negative : Bool) (minutes : Nat) : List Char :=
  (if negative && minutes != 0 then '-' else '+') :: Timestamp.twoDigits (minutes / 60) ++
    ':' :: Timestamp.twoDigits (minutes % 60)

/-- The text of an offset of hours and minutes that fills the rest. -/
def signedOffset? (rules : Rules) (negative : Bool) (cs : List Char) : Option (List Char) := do
  let (hours, cs) ← Timestamp.takeNumber 2 2 cs
  let cs ← Timestamp.takeChar ':' cs
  let (minutes, cs) ← Timestamp.takeNumber 2 2 cs
  if cs.isEmpty ∧ minutes ≤ rules.lastOffsetMinute ∧
      hours * 60 + minutes ≤ rules.lastOffset then
    some (offsetText negative (hours * 60 + minutes))
  else none

/-- The text of an offset that fills the rest; there may be none. -/
def offsetOf? (rules : Rules) : List Char → Option (List Char)
  | [] => some []
  | ['Z'] => some ['Z']
  | ['z'] => some ['Z']
  | '+' :: cs => signedOffset? rules false cs
  | '-' :: cs => signedOffset? rules true cs
  | _ => none

/-- The text of a time of day alone. -/
def clockOf? (rules : Rules) (cs : List Char) : Option (List Char) :=
  match takeClock? rules cs with
  | some (clock, []) => some clock
  | _ => none

/-- The text of a time of day with an offset, or without one. -/
def clockAndOffset? (rules : Rules) (cs : List Char) : Option (List Char) := do
  let (clock, rest) ← takeClock? rules cs
  let offset ← offsetOf? rules rest
  return clock ++ offset

/-- The text of a moment that fills a word. -/
def of? (rules : Rules) (cs : List Char) : Option (List Char) :=
  match takeDate? cs with
  | some (date, []) => some date
  | some (date, rest) => do
      let rest ← Timestamp.takeSeparator rest
      let clock ← clockAndOffset? rules rest
      return date ++ 'T' :: clock
  | none => clockOf? rules cs

/-- The moment of a word in a document. -/
def ofWord? (cs : List Char) : Option String := (of? documentRules cs).map String.ofList

/-- The moment of a text. -/
def ofText? (s : String) : Option String := (of? textRules s.toList).map String.ofList

end Moment
end Toml
end Audience
