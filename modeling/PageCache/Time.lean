/-!
# Instants and durations

Time is counted in whole nanoseconds. A `Duration` has at most `2 ^ 64 - 1` seconds and a fraction
below one; an `Instant` lies in the years -9999 to 9999. Both ranges are part of the types, so the
arithmetic here saturates at the ends instead of wrapping, and never fails.
-/

namespace PageCache

/-- A length of time. -/
structure Duration where
  /-- the nanoseconds it lasts -/
  nanos : Nat
  /-- it is at most `2 ^ 64 - 1` seconds and `999999999` nanoseconds -/
  le_longest : nanos ≤ 18446744073709551615999999999
deriving DecidableEq

namespace Duration

/-- The nanoseconds of the longest duration. -/
def longest : Nat := 18446744073709551615999999999

/-- The duration of so many nanoseconds, or the longest one. -/
def ofNanos (n : Nat) : Duration := ⟨min n longest, Nat.min_le_right n longest⟩

/-- The empty duration. -/
def zero : Duration := ⟨0, Nat.zero_le _⟩

instance : Inhabited Duration := ⟨zero⟩

/-- Whole seconds. -/
def ofSecs (n : Nat) : Duration := ofNanos (n * 1000000000)

/-- Whole milliseconds. -/
def ofMillis (n : Nat) : Duration := ofNanos (n * 1000000)

/-- The seconds completed. -/
def secs (d : Duration) : Nat := d.nanos / 1000000000

/-- The nanoseconds beyond the last full second. -/
def subsec (d : Duration) : Nat := d.nanos % 1000000000

/-- The milliseconds completed. -/
def millis (d : Duration) : Nat := d.nanos / 1000000

/-- The sum, or the longest duration. -/
def add (d e : Duration) : Duration := ofNanos (d.nanos + e.nanos)

instance : Add Duration := ⟨add⟩
instance : LT Duration := ⟨fun d e => d.nanos < e.nanos⟩
instance : LE Duration := ⟨fun d e => d.nanos ≤ e.nanos⟩
instance : DecidableLT Duration := fun d e => inferInstanceAs (Decidable (d.nanos < e.nanos))
instance : DecidableLE Duration := fun d e => inferInstanceAs (Decidable (d.nanos ≤ e.nanos))

end Duration

/-- A moment of the calendar, in nanoseconds since 1970-01-01T00:00:00Z. -/
structure Instant where
  /-- the nanoseconds since the epoch, negative before it -/
  nanos : Int
  /-- it is not before the year -9999 -/
  ge_first : -377705116800000000000 ≤ nanos
  /-- it is not after the year 9999 -/
  le_last : nanos ≤ 253402300799999999999
deriving DecidableEq

namespace Instant

/-- The moment so many nanoseconds from the epoch, if the calendar has it. -/
def ofNanos? (n : Int) : Option Instant :=
  if h : -377705116800000000000 ≤ n ∧ n ≤ 253402300799999999999 then some ⟨n, h.1, h.2⟩ else none

/-- 1970-01-01T00:00:00Z. -/
def epoch : Instant := ⟨0, by decide, by decide⟩

instance : Inhabited Instant := ⟨epoch⟩
instance : LE Instant := ⟨fun a b => a.nanos ≤ b.nanos⟩
instance : DecidableLE Instant := fun a b => inferInstanceAs (Decidable (a.nanos ≤ b.nanos))

/-- The time from `start` to `now`; none if `start` lies ahead. -/
def since (now start : Instant) : Duration := Duration.ofNanos (now.nanos - start.nanos).toNat

/-- The whole milliseconds from the epoch, towards it. -/
def millis (t : Instant) : Int := t.nanos.tdiv 1000000

/-- The moment so many milliseconds from the epoch, if the calendar has it. -/
def ofMillis? (ms : Int) : Option Instant := ofNanos? (ms * 1000000)

end Instant

end PageCache
