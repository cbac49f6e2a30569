import Audience.Time.Instant

/-!
# Stray leap seconds

A leap second is *stray* if it does not end its minute.  Written, it cannot be told from the
second after it, so its written components name another time of day, in that second.

**Settling.**  Settling a time of day puts the second after it in the place of a stray leap
second, and changes nothing else.  The written components of a time name it settled, and
whatever they name has them as its own.

**Results.**
* `Clock.ofWritten?_written`: the written components of a time of day name it settled.
* `Clock.written_of_ofWritten?`: what components name is no stray leap second, and is written so.
* `Clock.settled_eq_self_iff`, `Instant.settled_eq_self_iff`: what settling leaves alone.
* `Instant.isStray_of_minusMinutes?`: an offset keeps leap seconds in their places.
-/

namespace Audience

namespace Clock

variable {hour minute second nano : Nat} {c : Clock}

theorem components_of_of?
    (h : of? hour minute second nano = some c) :
    c.hour = hour ∧ c.minute = minute ∧ c.second = second ∧ c.nano = nano := by
  unfold of? at h
  split at h
  · cases h
    exact ⟨rfl, rfl, rfl, rfl⟩
  · cases h

/-- A leap second that does not end its minute. -/
def isStray (c : Clock) : Bool := c.isLeap && c.second ≠ 59

/-- The second after a stray leap second is one of the same minute. -/
theorem isClock_after
    (h : c.isStray = true) :
    isClock c.hour c.minute (c.second + 1) (c.nano - 10 ^ 9) = true := by
  have hvalid := c.valid
  simp only [isStray, Bool.and_eq_true, decide_eq_true_eq] at h
  simp only [isClock, Bool.and_eq_true, decide_eq_true_eq] at hvalid ⊢
  omega

/-- The time of day with the second after it in the place of a stray leap second. -/
def settled (c : Clock) : Clock :=
  if h : c.isStray = true then ⟨c.hour, c.minute, c.second + 1, c.nano - 10 ^ 9, isClock_after h⟩
  else c

theorem settled_of_not_stray
    (h : c.isStray = false) :
    c.settled = c := by
  simp [settled, h]

/-- The written components of a time of day name it settled. -/
theorem ofWritten?_written
    (c : Clock) :
    ofWritten? c.hour c.minute c.writtenSecond c.writtenNano = some c.settled := by
  have hvalid := c.valid
  have hself := c.of?_self
  simp only [isClock, Bool.and_eq_true, decide_eq_true_eq] at hvalid
  rw [ofWritten?, if_neg (Nat.not_le.mpr c.writtenNano_lt)]
  cases hleap : c.isLeap with
  | false =>
      have hstray : c.isStray = false := by
        simp [isStray, hleap]
      have hsecond : ¬ c.second = 60 := by omega
      simp [writtenSecond, writtenNano, hleap, hsecond, settled_of_not_stray hstray]
  | true =>
      by_cases hlast : c.second = 59
      · -- The leap second ends its minute, so it is written as second 60.
        have hstray : c.isStray = false := by
          simp [isStray, hlast]
        have hback : 10 ^ 9 + (c.nano - 10 ^ 9) = c.nano := by
          simp only [isLeap, decide_eq_true_eq] at hleap
          omega
        rw [hlast] at hself
        simp [writtenSecond, writtenNano, hleap, hlast, hback, hself,
          settled_of_not_stray hstray]
      · have hstray : c.isStray = true := by
          simp [isStray, hleap, hlast]
        have hafter := isClock_after hstray
        simp [writtenSecond, writtenNano, hleap, hlast, of?, hafter, settled, hstray]

/-- What written components name is no stray leap second, and is written with them. -/
theorem written_of_ofWritten?
    (h : ofWritten? hour minute second nano = some c) :
    c.isStray = false ∧ c.hour = hour ∧ c.minute = minute ∧ c.writtenSecond = second ∧
      c.writtenNano = nano := by
  unfold ofWritten? at h
  split at h
  · cases h
  · next hnano =>
      split at h
      · next hsixty =>
          obtain ⟨hhour, hminute, hsecond, hboth⟩ := components_of_of? h
          have hleap : c.isLeap = true := by
            simp [isLeap, hboth]
          simp [isStray, writtenSecond, writtenNano, hleap, hhour, hminute, hsecond, hboth, hsixty]
      · obtain ⟨hhour, hminute, hsecond, hboth⟩ := components_of_of? h
        have hleap : c.isLeap = false := by
          simp only [isLeap, hboth, hnano, decide_false]
        simp [isStray, writtenSecond, writtenNano, hleap, hhour, hminute, hsecond, hboth]

/-- Settling leaves no stray leap second. -/
@[simp] theorem isStray_settled
    (c : Clock) :
    c.settled.isStray = false :=
  (written_of_ofWritten? c.ofWritten?_written).1

/-- Settling changes nothing that is written. -/
theorem written_settled
    (c : Clock) :
    c.settled.hour = c.hour ∧ c.settled.minute = c.minute ∧
      c.settled.writtenSecond = c.writtenSecond ∧ c.settled.writtenNano = c.writtenNano :=
  (written_of_ofWritten? c.ofWritten?_written).2

theorem settled_eq_self_iff
    (c : Clock) :
    c.settled = c ↔ c.isStray = false := by
  constructor
  · intro h
    rw [← h, isStray_settled]
  · exact settled_of_not_stray

end Clock

namespace Instant

/-- The time of day is a stray leap second. -/
def isStray (t : Instant) : Bool := t.clock.isStray

/-- The instant with the second after it in the place of a stray leap second. -/
def settled (t : Instant) : Instant := ⟨t.date, t.clock.settled⟩

theorem settled_eq_self_iff
    (t : Instant) :
    t.settled = t ↔ t.isStray = false := by
  rw [isStray, ← t.clock.settled_eq_self_iff]
  constructor
  · intro h
    exact congrArg clock h
  · intro h
    rw [settled, h]

/-- The middle of a stray leap second just after noon. -/
def strayNoon : Instant :=
  ⟨⟨2024, 3, 1, by decide⟩, ⟨12, 0, 0, 10 ^ 9 + 5 * 10 ^ 8, by decide⟩⟩

theorem isStray_of_atMinute?
    {date : Date} {minuteOfDay : Nat} {clock : Clock} {t : Instant}
    (h : atMinute? date minuteOfDay clock = some t) :
    t.isStray = clock.isStray := by
  obtain ⟨c, hc, rfl⟩ := Option.map_eq_some_iff.mp h
  obtain ⟨_, _, hsecond, hnano⟩ := Clock.components_of_of? hc
  simp only [isStray, Clock.isStray, Clock.isLeap, hsecond, hnano]

/-- An offset of whole minutes keeps leap seconds in their places. -/
theorem isStray_of_minusMinutes?
    {t t' : Instant} {offset : Int} (h : t.minusMinutes? offset = some t') :
    t'.isStray = t.isStray := by
  unfold minusMinutes? at h
  simp only at h
  split at h
  · obtain ⟨date, _, hat⟩ := Option.bind_eq_some_iff.mp h
    exact isStray_of_atMinute? hat
  · split at h
    · exact isStray_of_atMinute? h
    · obtain ⟨date, _, hat⟩ := Option.bind_eq_some_iff.mp h
      exact isStray_of_atMinute? hat

end Instant
end Audience
