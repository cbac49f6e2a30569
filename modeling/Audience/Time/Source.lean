import Audience.Time.Instant

/-!
# Clocks

A clock is a sequence of instants and the number of those already read.  Everything that
notes when it happened reads it off such a clock, so that noting the time is an ordinary
function.  Nothing is assumed of the sequence: a clock may stand still or go back.
-/

namespace Audience

/-- A clock. -/
structure TimeSource where
  sequence : Nat → Instant
  read : Nat

namespace TimeSource

/-- The start of the year 1970. -/
def epoch : Date := ⟨1970, 1, 1, by decide⟩

theorem isClock_nano (n : Nat) : isClock 0 0 0 (n % 10 ^ 9) = true := by
  have hlt : n % 10 ^ 9 < 2 * 10 ^ 9 := by omega
  simp [isClock, hlt]

/-- A clock that moves on by a nanosecond with each reading.  It has the nanoseconds of one
second. -/
def ticking : TimeSource where
  sequence n := ⟨epoch, ⟨0, 0, 0, n % 10 ^ 9, isClock_nano n⟩⟩
  read := 0

/-- The instant that is read next. -/
def now (clock : TimeSource) : Instant := clock.sequence clock.read

/-- The clock after one reading. -/
def advance (clock : TimeSource) : TimeSource := { clock with read := clock.read + 1 }

end TimeSource
end Audience
