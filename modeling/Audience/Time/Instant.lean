import Audience.Number.Power

/-!
# Points in time

An instant is a calendar date and a time of day in UTC.  Dates are those of the
proleptic Gregorian calendar with years from -262143 to 262142.

**Leap seconds.**  The nanoseconds of a time of day run through two seconds, of which the
other one is a leap second.  It may follow any second.  Written, it has the number of the next
second, which is 60 at the end of a minute; read, only second 60 is a leap second.

**Order.**  `Instant.rank` reads the seven components as the digits of one number
in a mixed base, so instants are compared by comparing integers.

**Shifting.**  `Instant.minusMinutes?` moves an instant by less than a day, which
is all that an offset from UTC needs; it fails outside the range of years.

**Results.**
* `Date.of?_self`, `Clock.of?_self`: the components of a date or time name it.
* `Clock.writtenSecond_le`, `Clock.writtenNano_lt`: what the written components of a time can be.
* `Instant.minusMinutes?_zero`: an offset of zero changes nothing.
-/

namespace Audience

/-- A leap year has a 29th of February. -/
def isLeapYear (year : Int) : Bool :=
  year % 4 == 0 && (year % 100 != 0 || year % 400 == 0)

/-- The number of days of a month. -/
def monthLength (year : Int) (month : Nat) : Nat :=
  if month = 2 then (if isLeapYear year then 29 else 28)
  else if month = 4 ∨ month = 6 ∨ month = 9 ∨ month = 11 then 30
  else 31

/-- The first year. -/
def firstYear : Int := -262143

/-- The last year. -/
def lastYear : Int := 262142

/-- A year, month and day that name a date. -/
def isDate (year : Int) (month day : Nat) : Bool :=
  firstYear ≤ year && year ≤ lastYear && 1 ≤ month && month ≤ 12 &&
    1 ≤ day && day ≤ monthLength year month

/-- A calendar date. -/
structure Date where
  year : Int
  month : Nat
  day : Nat
  valid : isDate year month day = true
deriving DecidableEq

namespace Date

/-- The date with these components, if there is one. -/
def of? (year : Int) (month day : Nat) : Option Date :=
  if h : isDate year month day = true then some ⟨year, month, day, h⟩ else none

@[simp] theorem of?_self (d : Date) : of? d.year d.month d.day = some d := by
  simp [of?, d.valid]

/-- The day after, unless the range ends. -/
def next? (d : Date) : Option Date :=
  if d.day < monthLength d.year d.month then of? d.year d.month (d.day + 1)
  else if d.month < 12 then of? d.year (d.month + 1) 1
  else of? (d.year + 1) 1 1

/-- The day before, unless the range starts. -/
def previous? (d : Date) : Option Date :=
  if 1 < d.day then of? d.year d.month (d.day - 1)
  else if 1 < d.month then of? d.year (d.month - 1) (monthLength d.year (d.month - 1))
  else of? (d.year - 1) 12 31

end Date

/-- Hours, minutes, seconds and nanoseconds that name a time of day. -/
def isClock (hour minute second nano : Nat) : Bool :=
  hour < 24 && minute < 60 && second < 60 && nano < 2 * 10 ^ 9

/-- A time of day. -/
structure Clock where
  hour : Nat
  minute : Nat
  second : Nat
  nano : Nat
  valid : isClock hour minute second nano = true
deriving DecidableEq

namespace Clock

/-- The time of day with these components, if there is one. -/
def of? (hour minute second nano : Nat) : Option Clock :=
  if h : isClock hour minute second nano = true then some ⟨hour, minute, second, nano, h⟩
  else none

@[simp] theorem of?_self (c : Clock) : of? c.hour c.minute c.second c.nano = some c := by
  simp [of?, c.valid]

/-- The nanoseconds have run into the leap second. -/
def isLeap (c : Clock) : Bool := 10 ^ 9 ≤ c.nano

/-- The second as it is written. -/
def writtenSecond (c : Clock) : Nat := if c.isLeap then c.second + 1 else c.second

/-- The nanoseconds as they are written. -/
def writtenNano (c : Clock) : Nat := if c.isLeap then c.nano - 10 ^ 9 else c.nano

/-- The time of day with these written components, if there is one. -/
def ofWritten? (hour minute second nano : Nat) : Option Clock :=
  if 10 ^ 9 ≤ nano then none
  else if second = 60 then of? hour minute 59 (10 ^ 9 + nano)
  else of? hour minute second nano

theorem writtenSecond_le (c : Clock) : c.writtenSecond ≤ 60 := by
  have hvalid := c.valid
  simp only [isClock, Bool.and_eq_true, decide_eq_true_eq] at hvalid
  unfold writtenSecond
  split <;> omega

theorem writtenNano_lt (c : Clock) : c.writtenNano < 10 ^ 9 := by
  have hvalid := c.valid
  simp only [isClock, Bool.and_eq_true, decide_eq_true_eq] at hvalid
  simp only [writtenNano, isLeap, decide_eq_true_eq]
  split <;> omega

/-- The start of the day. -/
def midnight : Clock := ⟨0, 0, 0, 0, by decide⟩

/-- The minute of the day. -/
def minuteOfDay (c : Clock) : Nat := c.hour * 60 + c.minute

end Clock

/-- A point in time: a date and a time of day in UTC. -/
structure Instant where
  date : Date
  clock : Clock
deriving DecidableEq

namespace Instant

/-- The components of an instant as one number. -/
def rank (t : Instant) : Int :=
  (((((t.date.year * 13 + t.date.month) * 32 + t.date.day) * 24 + t.clock.hour) * 60 +
    t.clock.minute) * 60 + t.clock.second) * (2 * 10 ^ 9) + t.clock.nano

/-- Earlier instants come first. -/
def compare (s t : Instant) : Ordering := Ord.compare s.rank t.rank

/-- The same second of the minute at another minute of the day. -/
def atMinute? (date : Date) (minuteOfDay : Nat) (clock : Clock) : Option Instant :=
  (Clock.of? (minuteOfDay / 60) (minuteOfDay % 60) clock.second clock.nano).map (⟨date, ·⟩)

/-- The instant `offset` minutes earlier, for less than a day in either direction. -/
def minusMinutes? (t : Instant) (offset : Int) : Option Instant :=
  let shifted : Int := t.clock.minuteOfDay - offset
  if shifted < 0 then
    t.date.previous?.bind (atMinute? · (shifted + 1440).toNat t.clock)
  else if shifted < 1440 then atMinute? t.date shifted.toNat t.clock
  else t.date.next?.bind (atMinute? · (shifted - 1440).toNat t.clock)

@[simp] theorem minusMinutes?_zero (t : Instant) : t.minusMinutes? 0 = some t := by
  have hvalid := t.clock.valid
  simp only [isClock, Bool.and_eq_true, decide_eq_true_eq] at hvalid
  have hdiv : (t.clock.hour * 60 + t.clock.minute) / 60 = t.clock.hour := by omega
  have hmod : (t.clock.hour * 60 + t.clock.minute) % 60 = t.clock.minute := by omega
  have hlow : ¬ ((t.clock.hour * 60 + t.clock.minute : Nat) : Int) < 0 := by omega
  have hhigh : ((t.clock.hour * 60 + t.clock.minute : Nat) : Int) < 1440 := by omega
  simp only [minusMinutes?, Clock.minuteOfDay, Int.sub_zero, if_neg hlow, if_pos hhigh,
    atMinute?, Int.toNat_natCast, hdiv, hmod, Clock.of?_self, Option.map_some]

end Instant
end Audience
