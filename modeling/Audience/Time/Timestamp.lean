import Audience.Number.Numeral
import Audience.Text.Blank
import Audience.Time.Instant

/-!
# Timestamps

The written form of an instant in UTC, and three readers for it.

**Writing.**  Year, month, day, a `T`, the time of day and a `Z`.  Years from 0 to
9999 have four digits, other years a sign and at least four.  The fraction of a
second has 0, 3, 6 or 9 digits, the fewest that are exact.

**Reading.**
* `Timestamp.readStrict` takes the fixed-width form with four-digit years, a `T`,
  `t` or blank between date and time, an optional fraction, and `Z`, `z` or an
  offset of hours and minutes.
* `Timestamp.readRelaxed` takes numbers of variable width, signed years, and blanks
  before numbers, separators and the offset; it also takes `UTC` as an offset.
* `Timestamp.readDate` takes a date alone, which means its midnight in UTC.
-/

namespace Audience

open Text

namespace Timestamp

/-- The text of a year. -/
def yearText (year : Int) : List Char :=
  let digits := (padded 4 year.natAbs).map Digit.char
  if year < 0 then '-' :: digits
  else if 9999 < year then '+' :: digits
  else digits

/-- A number of at most two digits, with a zero in front if it has only one. -/
def twoDigits (n : Nat) : List Char := (padded 2 n).map Digit.char

/-- The text of the fraction of a second. -/
def fractionText (nano : Nat) : List Char :=
  if nano = 0 then []
  else if nano % 10 ^ 6 = 0 then '.' :: (padded 3 (nano / 10 ^ 6)).map Digit.char
  else if nano % 10 ^ 3 = 0 then '.' :: (padded 6 (nano / 10 ^ 3)).map Digit.char
  else '.' :: (padded 9 nano).map Digit.char

/-- The text of a date. -/
def dateText (d : Date) : List Char :=
  yearText d.year ++ '-' :: twoDigits d.month ++ '-' :: twoDigits d.day

/-- The text of a time of day. -/
def clockText (c : Clock) : List Char :=
  twoDigits c.hour ++ ':' :: twoDigits c.minute ++ ':' :: twoDigits c.writtenSecond ++
    fractionText c.writtenNano

/-- The written form of an instant. -/
def text (t : Instant) : List Char :=
  dateText t.date ++ 'T' :: clockText t.clock ++ ['Z']

/-- The written form of an instant as a string. -/
def toString (t : Instant) : String := String.ofList (text t)

/-- Takes a number of at least `least` and at most `most` digits. -/
def takeNumber (least most : Nat) (cs : List Char) : Option (Nat × List Char) :=
  let (ds, rest) := takeDigitsUpTo most cs
  if ds.length < least then none else some (valueOf ds, rest)

/-- Takes a given character. -/
def takeChar (c : Char) : List Char → Option (List Char)
  | [] => none
  | d :: rest => if d = c then some rest else none

/-- Takes the separator between a date and a time of day. -/
def takeSeparator : List Char → Option (List Char)
  | 'T' :: rest => some rest
  | 't' :: rest => some rest
  | ' ' :: rest => some rest
  | _ => none

/-- The nanoseconds of the digits after the point; digits beyond the ninth are dropped. -/
def nanoseconds (ds : List Digit) : Nat :=
  valueOf (ds.take 9) * 10 ^ (9 - ds.length)

/-- Takes an optional fraction of a second: a point and at least one digit. -/
def takeNanoseconds : List Char → Option (Nat × List Char)
  | '.' :: rest =>
      match takeDigits rest with
      | ([], _) => none
      | (ds, after) => some (nanoseconds ds, after)
  | rest => some (0, rest)

/-- Takes the minutes of an offset: two digits below 60. -/
def takeOffsetMinutes (cs : List Char) : Option (Nat × List Char) := do
  let (minutes, rest) ← takeNumber 2 2 cs
  if minutes < 60 then some (minutes, rest) else none

/-- Takes hours and minutes of an offset with `gap` between them. -/
def takeSignedOffset (gap : List Char → Option (List Char)) (negative : Bool)
    (cs : List Char) : Option (Int × List Char) := do
  let (hours, rest) ← takeNumber 2 2 cs
  let rest ← gap rest
  let (minutes, rest) ← takeOffsetMinutes rest
  let total : Int := hours * 60 + minutes
  return (if negative then -total else total, rest)

/-- Takes an offset from UTC in minutes: `Z`, or a sign, hours and minutes. -/
def takeOffset (gap : List Char → Option (List Char)) : List Char → Option (Int × List Char)
  | 'Z' :: rest => some (0, rest)
  | 'z' :: rest => some (0, rest)
  | '+' :: rest => takeSignedOffset gap false rest
  | '-' :: rest => takeSignedOffset gap true rest
  | '−' :: rest => takeSignedOffset gap true rest
  | _ => none

/-- The instant of a local date and time at an offset of less than a day. -/
def atOffset? (date : Option Date) (clock : Option Clock) (offset : Int) : Option Instant := do
  let date ← date
  let clock ← clock
  if offset.natAbs < 1440 then (Instant.mk date clock).minusMinutes? offset else none

/-- Reads the fixed-width form. -/
def readStrict (cs : List Char) : Option Instant := do
  let (year, cs) ← takeNumber 4 4 cs
  let cs ← takeChar '-' cs
  let (month, cs) ← takeNumber 2 2 cs
  let cs ← takeChar '-' cs
  let (day, cs) ← takeNumber 2 2 cs
  let cs ← takeSeparator cs
  let (hour, cs) ← takeNumber 2 2 cs
  let cs ← takeChar ':' cs
  let (minute, cs) ← takeNumber 2 2 cs
  let cs ← takeChar ':' cs
  let (second, cs) ← takeNumber 2 2 cs
  let (nano, cs) ← takeNanoseconds cs
  let (offset, cs) ← takeOffset (takeChar ':') cs
  if cs.isEmpty then
    atOffset? (Date.of? year month day) (Clock.ofWritten? hour minute second nano) offset
  else none

/-- Takes a year: at most four digits, or a sign and any number of digits. -/
def takeYear (cs : List Char) : Option (Int × List Char) :=
  match trimStart cs with
  | '-' :: rest => (takeNumber 1 rest.length rest).map fun (n, after) => (-(n : Int), after)
  | '+' :: rest => (takeNumber 1 rest.length rest).map fun (n, after) => ((n : Int), after)
  | rest => (takeNumber 1 4 rest).map fun (n, after) => ((n : Int), after)

/-- Takes a number of one or two digits after blanks. -/
def takeSmall (cs : List Char) : Option (Nat × List Char) := takeNumber 1 2 (trimStart cs)

/-- Takes a given character after blanks. -/
def takeMark (c : Char) (cs : List Char) : Option (List Char) := takeChar c (trimStart cs)

/-- Removes the colons and blanks in front. -/
def skipColons : List Char → List Char
  | [] => []
  | c :: rest => if c = ':' ∨ isBlank c = true then skipColons rest else c :: rest

/-- Takes an offset in the relaxed form. -/
def takeRelaxedOffset (cs : List Char) : Option (Int × List Char) :=
  if (cs.take 3).map Char.toLower = ['u', 't', 'c'] then some (0, cs.drop 3)
  else takeOffset (fun rest => some (skipColons rest)) cs

/-- Reads the relaxed form. -/
def readRelaxed (cs : List Char) : Option Instant := do
  let (year, cs) ← takeYear cs
  let cs ← takeMark '-' cs
  let (month, cs) ← takeSmall cs
  let cs ← takeMark '-' cs
  let (day, cs) ← takeSmall cs
  let cs ← takeSeparator cs
  let (hour, cs) ← takeSmall cs
  let cs ← takeMark ':' cs
  let (minute, cs) ← takeSmall cs
  let cs ← takeMark ':' cs
  let (second, cs) ← takeSmall cs
  let (nano, cs) ← takeNanoseconds cs
  let (offset, cs) ← takeRelaxedOffset (trimStart cs)
  if (trimStart cs).isEmpty then
    atOffset? (Date.of? year month day) (Clock.ofWritten? hour minute second nano) offset
  else none

/-- Reads a date alone. -/
def readDate (cs : List Char) : Option Instant := do
  let (year, cs) ← takeYear cs
  let cs ← takeChar '-' cs
  let (month, cs) ← takeSmall cs
  let cs ← takeChar '-' cs
  let (day, cs) ← takeSmall cs
  if cs.isEmpty then (Date.of? year month day).map (⟨·, Clock.midnight⟩) else none

end Timestamp
end Audience
