import Mathlib.Order.Basic
import Mathlib.Tactic.Common

/-!
This module contains the identifiers and the points in time all of the servers share. Clock readings
and durations count nanoseconds, the clock readings from the Unix epoch on. A stored point in time
counts milliseconds, to which the conversion truncates.
-/

namespace TomNotifier

structure Uuid where
  bits : BitVec 128
  deriving DecidableEq, Repr

structure ObjectId where
  bytes : BitVec 96
  deriving DecidableEq, Repr

abbrev OffsetDateTime := Int

abbrev DateTime := Int

abbrev Duration := Nat

abbrev Bytes := List UInt8

def DateTime.ofOffsetDateTime (t : OffsetDateTime) : DateTime := t.tdiv 1000000

def OffsetDateTime.ofDateTime (t : DateTime) : OffsetDateTime := t * 1000000

namespace DateTime

theorem ofOffsetDateTime_mono {t t' : OffsetDateTime} (h : t ≤ t')
    : ofOffsetDateTime t ≤ ofOffsetDateTime t' := by
  exact Int.tdiv_le_tdiv (by decide) h

theorem lt_of_ofOffsetDateTime_lt {t t' : OffsetDateTime}
    (h : ofOffsetDateTime t < ofOffsetDateTime t') : t < t' := by
  by_contra hle
  have := ofOffsetDateTime_mono (Int.not_lt.mp hle)
  exact absurd h (Int.not_lt.mpr this)

theorem ofDateTime_ofOffsetDateTime_le {t : OffsetDateTime} (h : 0 ≤ t)
    : OffsetDateTime.ofDateTime (ofOffsetDateTime t) ≤ t := by
  unfold OffsetDateTime.ofDateTime ofOffsetDateTime
  rw [Int.tdiv_eq_ediv_of_nonneg h]
  exact Int.ediv_mul_le t (by decide)

theorem ofOffsetDateTime_lt_iff {t : OffsetDateTime} {t' : DateTime} (h : 0 ≤ t)
    : ofOffsetDateTime t < t' ↔ t < OffsetDateTime.ofDateTime t' := by
  unfold OffsetDateTime.ofDateTime ofOffsetDateTime
  rw [Int.tdiv_eq_ediv_of_nonneg h]
  exact Int.ediv_lt_iff_lt_mul (by decide)

end DateTime

end TomNotifier
