import Mathlib.Algebra.Group.Nat.Defs
import TrafficGateway.Config.Settings

/-!
# The pauses before retries

A pause is computed with words of 64 bits, and where a power or a product outgrows them, the largest word
stands for it. This is never seen: what is put in the place of such a number is not below the longest
pause that a policy allows, which cuts it off as it would the number itself. So the pauses are
`min (b * 2 ^ k) m`, computed without any bound (`RetryPolicy.toNat_backoff`).

A configuration gives the two times of its policy in milliseconds, and the policy reads them off spans
of seconds and nanoseconds. No millisecond is lost on this way (`Duration.toMillis_ofMillis`), nor on the
way from a pause to the span that is waited for (`Duration.toNanos_ofMillis`).

## Main definitions

* `Duration.toNanos`: how long a span of time is.
-/

namespace TrafficGateway

/-! ## Words that do not grow further -/

/-- A factor that is cut off makes no difference to a product that is cut off at the same number. -/
theorem min_mul_min (a b largest : Nat) : min (a * min b largest) largest = min (a * b) largest := by
  rcases Nat.le_total b largest with hle | hle
  · rw [Nat.min_eq_left hle]
  · rw [Nat.min_eq_right hle]
    rcases Nat.eq_zero_or_pos a with rfl | ha
    · rw [Nat.zero_mul, Nat.zero_mul]
    · have hcut : largest ≤ a * largest := Nat.le_mul_of_pos_left largest ha
      rw [Nat.min_eq_right hcut, Nat.min_eq_right (Nat.le_trans hcut (Nat.mul_le_mul_left a hle))]

namespace Millis

theorem toNat_le_largest (m : Millis) : m.toNat ≤ largest :=
  Nat.le_sub_one_of_lt m.toNat_lt

theorem toNat_ofNat_of_le {n : Nat} (h : n ≤ largest) : (UInt64.ofNat n).toNat = n :=
  UInt64.toNat_ofNat_of_lt' (Nat.lt_of_le_of_lt h (by decide))

theorem toNat_saturatingMul (a b : Millis) :
    (a.saturatingMul b).toNat = min (a.toNat * b.toNat) largest :=
  toNat_ofNat_of_le (Nat.min_le_right ..)

theorem toNat_saturatingPow2 (n : Nat) : (saturatingPow2 n).toNat = min (2 ^ n) largest := by
  rw [saturatingPow2]
  by_cases hn : n < 64
  · have hle : 2 ^ n ≤ largest := by
      have : 2 ^ n ≤ 2 ^ 63 := Nat.pow_le_pow_right (by decide) (by omega)
      exact Nat.le_trans this (by decide)
    rw [if_pos hn, Nat.min_eq_left hle]
    exact toNat_ofNat_of_le hle
  · have hle : largest ≤ 2 ^ n := by
      have : 2 ^ 64 ≤ 2 ^ n := Nat.pow_le_pow_right (by decide) (by omega)
      exact Nat.le_trans (by decide) this
    rw [if_neg hn, toNat_ofNat_of_le (Nat.le_refl _), Nat.min_eq_right hle]

theorem toNat_min (a b : Millis) : (min a b).toNat = min a.toNat b.toNat := by
  show (if a ≤ b then a else b).toNat = min a.toNat b.toNat
  rw [apply_ite UInt64.toNat, Nat.min_def]
  simp only [UInt64.le_iff_toNat_le]

end Millis

/-! ## Spans of time -/

namespace Duration

/-- The number of nanoseconds. -/
def toNanos (d : Duration) : Nat :=
  1000000000 * d.seconds.toNat + d.nanos.toNat

theorem toNat_seconds_ofMillis (m : Millis) : (ofMillis m).seconds.toNat = m.toNat / 1000 :=
  UInt64.toNat_div ..

theorem toNat_nanos_ofMillis (m : Millis) : (ofMillis m).nanos.toNat = m.toNat % 1000 * 1000000 :=
  m.toNat_nanosBeyond

theorem toNanos_ofMillis (m : Millis) : (ofMillis m).toNanos = 1000000 * m.toNat := by
  rw [toNanos, toNat_seconds_ofMillis, toNat_nanos_ofMillis]
  omega

theorem toMillis_ofMillis (m : Millis) : (ofMillis m).toMillis = m := by
  have hwhole : m.toNat / 1000 * 1000 + m.toNat % 1000 * 1000000 / 1000000 = m.toNat := by omega
  rw [toMillis, Millis.ofDuration, toNat_seconds_ofMillis, toNat_nanos_ofMillis, hwhole,
    UInt64.ofNat_toNat]

end Duration

/-! ## Pauses -/

namespace RetryPolicy

/-- A pause is the exact exponential, cut off at the longest pause. -/
theorem toNat_backoff (p : RetryPolicy) (k : Nat) :
    (p.backoff k).toNat = min (p.initialBackoff.toNat * 2 ^ k) p.maxBackoff.toNat := by
  rw [backoff, Millis.toNat_min, Millis.toNat_saturatingMul, Millis.toNat_saturatingPow2,
    min_mul_min, Nat.min_assoc, Nat.min_eq_right p.maxBackoff.toNat_le_largest]

theorem backoff_mono (p : RetryPolicy) {j k : Nat} (h : j ≤ k) : p.backoff j ≤ p.backoff k := by
  rw [UInt64.le_iff_toNat_le, toNat_backoff, toNat_backoff]
  have hgrows : p.initialBackoff.toNat * 2 ^ j ≤ p.initialBackoff.toNat * 2 ^ k :=
    Nat.mul_le_mul_left _ (Nat.pow_le_pow_right (by decide) h)
  exact Nat.le_min.2 ⟨Nat.le_trans (Nat.min_le_left ..) hgrows, Nat.min_le_right ..⟩

end RetryPolicy

/-- **Pauses grow exponentially up to a longest one.** Let a configuration give any two times `b` and `m`
in milliseconds. Before retry `k`, counted from zero, the pause is `b * 2 ^ k` milliseconds or `m`,
whichever is less, as numbers without bound; and so long is the span of time that is waited for. Hence no
pause is shorter than one before it, and none is longer than `m`. -/
theorem GatewayConfig.backoff_exact (c : GatewayConfig) (k : UInt32) :
    let b := c.retry.initialBackoffMs.toNat
    let m := c.retry.maxBackoffMs.toNat
    let pause (k : UInt32) : Millis := c.trafficPolicy.retry.backoff k.toNat
    (pause k).toNat = min (b * 2 ^ k.toNat) m ∧
      (Duration.ofMillis (pause k)).toNanos = 1000000 * min (b * 2 ^ k.toNat) m ∧
      (∀ j ≤ k, pause j ≤ pause k) ∧ pause k ≤ c.retry.maxBackoffMs := by
  intro b m pause
  have hexact : (pause k).toNat = min (b * 2 ^ k.toNat) m := by
    show (c.trafficPolicy.retry.backoff k.toNat).toNat = _
    rw [RetryPolicy.toNat_backoff]
    show min ((Duration.ofMillis c.retry.initialBackoffMs).toMillis.toNat * 2 ^ k.toNat)
      (Duration.ofMillis c.retry.maxBackoffMs).toMillis.toNat = _
    rw [Duration.toMillis_ofMillis, Duration.toMillis_ofMillis]
  refine ⟨hexact, ?_, fun j hj => ?_, ?_⟩
  · rw [Duration.toNanos_ofMillis, hexact]
  · exact c.trafficPolicy.retry.backoff_mono (UInt32.le_iff_toNat_le.1 hj)
  · rw [UInt64.le_iff_toNat_le, hexact]
    exact Nat.min_le_right ..

/-- Without other times in the configuration, pauses begin with 50 milliseconds and end with a second. -/
example : [0, 1, 2, 3, 4, 5, 64].map (GatewayConfig.trafficPolicy {}).retry.backoff =
    [50, 100, 200, 400, 800, 1000, 1000] := by
  decide

end TrafficGateway
