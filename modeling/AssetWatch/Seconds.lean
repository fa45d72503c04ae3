/-!
# Seconds

Liveness is reckoned in whole seconds since the Unix epoch, held in 64-bit words. Sums that
would pass the last word stay at it, so an instant that lies too far ahead to be written is
simply the latest one. The lemmas say what each sum is over the natural numbers.
-/

namespace AssetWatch

/-- A number of seconds: a length of time, or an instant counted from the Unix epoch. -/
abbrev Seconds := UInt64

namespace Seconds

/-- The last instant a word can hold. -/
def latest : Seconds := UInt64.ofNat (UInt64.size - 1)

/-- The sum, or the latest instant when the sum lies beyond it. -/
def addSat (a b : Seconds) : Seconds :=
  if a.toNat + b.toNat < UInt64.size then a + b else latest

/-- Twice the given time, or the latest instant when that lies beyond it. -/
def twiceSat (a : Seconds) : Seconds := addSat a a

theorem size_eq : UInt64.size = 18446744073709551616 := rfl

theorem toNat_latest : latest.toNat = UInt64.size - 1 := rfl

theorem toNat_le_latest (a : Seconds) : a.toNat ≤ UInt64.size - 1 :=
  Nat.le_sub_one_of_lt a.toNat_lt

theorem toNat_addSat (a b : Seconds) :
    (addSat a b).toNat = min (a.toNat + b.toNat) (UInt64.size - 1) := by
  have size := size_eq
  unfold addSat
  split
  · rw [UInt64.toNat_add]
    omega
  · rw [toNat_latest]
    omega

theorem toNat_twiceSat (a : Seconds) :
    (twiceSat a).toNat = min (2 * a.toNat) (UInt64.size - 1) := by
  rw [twiceSat, toNat_addSat, Nat.two_mul]

theorem toNat_min (a b : Seconds) : (min a b).toNat = min a.toNat b.toNat := by
  show (if a ≤ b then a else b).toNat = _
  split
  next below => exact (Nat.min_eq_left (UInt64.le_iff_toNat_le.1 below)).symm
  next above =>
    have below := UInt64.lt_iff_toNat_lt.1 (UInt64.not_le.1 above)
    exact (Nat.min_eq_right (Nat.le_of_lt below)).symm

theorem toNat_max (a b : Seconds) : (max a b).toNat = max a.toNat b.toNat := by
  show (if a ≤ b then b else a).toNat = _
  split
  next below => exact (Nat.max_eq_right (UInt64.le_iff_toNat_le.1 below)).symm
  next above =>
    have below := UInt64.lt_iff_toNat_lt.1 (UInt64.not_le.1 above)
    exact (Nat.max_eq_left (Nat.le_of_lt below)).symm

/-- The later of two instants is their least upper bound. -/
instance : Std.LawfulOrderMax Seconds where
  max_le_iff a b c := by
    rw [UInt64.le_iff_toNat_le, UInt64.le_iff_toNat_le, UInt64.le_iff_toNat_le, toNat_max]
    exact Nat.max_le
  max_eq_or a b := by
    rw [← UInt64.toNat_inj, ← UInt64.toNat_inj, toNat_max]
    omega

end Seconds

end AssetWatch
