import Mathlib.Order.Monotone.Basic
import Mathlib.Algebra.Order.Ring.Nat
import Mathlib.Data.Nat.Cast.Order.Ring

/-!
# Clock readings

A `time.Time` is a natural number, its nanoseconds since the zero time (January 1 of year 1, UTC),
so the zero value of the source is `0` and `IsZero` compares with it.  The source reads the clock
several times inside one call; the readings of a call are a nondecreasing sequence (`Clock`), and a
call that works on several matches has one such sequence for each (`TickClock`).
-/

namespace GeoDuels

namespace Time

def millisecond : ℕ := 1000000

def second : ℕ := 1000 * millisecond

def minute : ℕ := 60 * second

/-- January 1, 1970 UTC. -/
def unixEpoch : ℕ := 62135596800 * second

def isZero (t : ℕ) : Bool := t == 0

/-- `t.UnixMilli()`; the division rounds down, also before the epoch. -/
def unixMilli (t : ℕ) : ℤ := ((t : ℤ) - (unixEpoch : ℤ)) / (millisecond : ℤ)

/-- `t.Sub(u).Milliseconds()`; a duration is truncated towards zero. -/
def subMilliseconds (t u : ℕ) : ℤ := ((t : ℤ) - (u : ℤ)).tdiv (millisecond : ℤ)

theorem unixMilli_pos {t : ℕ} (h : unixEpoch + second ≤ t) : 0 < unixMilli t := by
  simp only [unixMilli, unixEpoch, second, millisecond] at *
  omega

end Time

/-- The successive clock readings of one call. -/
structure Clock where
  read : ℕ → ℕ
  stop : ℕ
  mono : Monotone read
  le_stop : ∀ i, read i ≤ stop

namespace Clock

/-- The first reading of the call. -/
def start (c : Clock) : ℕ := c.read 0

/-- A call during which the clock stands still. -/
def still (t : ℕ) : Clock := ⟨fun _ => t, t, monotone_const, fun _ => le_rfl⟩

theorem start_le_read (c : Clock) (i : ℕ) : c.start ≤ c.read i := c.mono (Nat.zero_le i)

theorem start_le_stop (c : Clock) : c.start ≤ c.stop := c.le_stop 0

/-- The readings of the call from its `n`-th on. -/
def drop (c : Clock) (n : ℕ) : Clock where
  read i := c.read (i + n)
  stop := c.stop
  mono := fun _ _ h => c.mono (Nat.add_le_add_right h n)
  le_stop i := c.le_stop (i + n)

end Clock

/-- The clock readings of a call that reads `now` once and then works on every key on its own. -/
structure TickClock (K : Type*) where
  now : ℕ
  later : K → Clock
  stop : ℕ
  now_le_stop : now ≤ stop
  now_le : ∀ k, now ≤ (later k).start
  le_stop : ∀ k, (later k).stop ≤ stop

/-- A tick during which the clock stands still. -/
def TickClock.still {K : Type*} (t : ℕ) : TickClock K :=
  ⟨t, fun _ => .still t, t, le_rfl, fun _ => le_rfl, fun _ => le_rfl⟩

end GeoDuels
