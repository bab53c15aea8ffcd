/-!
# Retries

When an exchange with a backend is tried again, and how long to wait before it. Times are 64-bit
numbers of milliseconds, read off spans of time that count seconds and nanoseconds.

## Main definitions

* `Millis`: a time in milliseconds.
* `Duration`: a span of time, and `Duration.ofMillis`, `Duration.toMillis` between the two.
* `RetryPolicy`: how often and after which statuses to try again, and the waiting times.
* `RetryPolicy.shouldRetry`: is a status worth another attempt?
* `RetryPolicy.backoff`: the waiting time before another attempt.
* `TrafficPolicy`: retries and time limits of the exchanges with backends.
-/

namespace TrafficGateway

/-- A time in milliseconds. -/
abbrev Millis := UInt64

namespace Millis

/-- The largest time. -/
def largest : Nat := UInt64.size - 1

/-- The whole milliseconds of a number of seconds and nanoseconds, as far as 64 bits hold them. -/
def ofDuration (seconds nanos : Nat) : Millis :=
  UInt64.ofNat (seconds * 1000 + nanos / 1000000)

/-- The product of two times, or the largest time if it is larger. -/
def saturatingMul (a b : Millis) : Millis :=
  UInt64.ofNat (Nat.min (a.toNat * b.toNat) largest)

/-- The power of two, or the largest time if it is larger. -/
def saturatingPow2 (n : Nat) : Millis :=
  if n < 64 then UInt64.ofNat (Nat.pow 2 n) else UInt64.ofNat largest

end Millis

/-- The nanoseconds of the milliseconds beyond whole seconds. -/
def Millis.nanosBeyond (m : Millis) : UInt32 :=
  (m % 1000).toUInt32 * 1000000

theorem Millis.toNat_nanosBeyond (m : Millis) :
    m.nanosBeyond.toNat = m.toNat % 1000 * 1000000 := by
  have hlt : m.toNat % 1000 < 1000 := Nat.mod_lt _ (by decide)
  rw [nanosBeyond, UInt32.toNat_mul, UInt64.toNat_toUInt32, UInt64.toNat_mod]
  show m.toNat % 1000 % 2 ^ 32 * 1000000 % 2 ^ 32 = m.toNat % 1000 * 1000000
  omega

/-- A span of time: whole seconds, and the nanoseconds that do not make up another one. -/
structure Duration where
  seconds : UInt64
  nanos : UInt32
  nanos_lt : nanos < 1000000000
  deriving DecidableEq, Repr

namespace Duration

/-- The span of some milliseconds. -/
def ofMillis (m : Millis) : Duration where
  seconds := m / 1000
  nanos := m.nanosBeyond
  nanos_lt := by
    rw [UInt32.lt_iff_toNat_lt, Millis.toNat_nanosBeyond]
    show m.toNat % 1000 * 1000000 < 1000000000
    omega

/-- The whole milliseconds of a span, as far as 64 bits hold them. -/
def toMillis (d : Duration) : Millis :=
  .ofDuration d.seconds.toNat d.nanos.toNat

end Duration

/-- How often and after which statuses to try again, and the waiting times. -/
structure RetryPolicy where
  maxRetries : UInt32 := 1
  retryableStatusCodes : List UInt16 := [502, 503, 504]
  initialBackoff : Millis := 50
  maxBackoff : Millis := 1000
  deriving DecidableEq, Repr, Inhabited

namespace RetryPolicy

/-- The policy that never tries again. -/
def disabled : RetryPolicy :=
  { maxRetries := 0 }

/-- Is a status worth another attempt? -/
def shouldRetry (p : RetryPolicy) (status : Nat) : Bool :=
  p.retryableStatusCodes.any fun code => code.toNat == status

/-- The waiting time after an attempt, of which the first has number zero: it doubles with each
attempt up to a largest time. -/
def backoff (p : RetryPolicy) (attempt : Nat) : Millis :=
  min (p.initialBackoff.saturatingMul (Millis.saturatingPow2 attempt)) p.maxBackoff

end RetryPolicy

/-- Retries and time limits of the exchanges with backends, in milliseconds. -/
structure TrafficPolicy where
  requestTimeout : Nat := 30000
  connectTimeout : Nat := 10000
  retry : RetryPolicy := {}
  deriving DecidableEq, Repr, Inhabited

end TrafficGateway
