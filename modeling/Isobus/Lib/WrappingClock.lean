import Mathlib.Data.UInt

/-!
# Clocks that come round

A clock of 32 bits shows the time modulo `2 ^ 32`.
-/

namespace Isobus.Lib

variable {since now : Nat} {timeout : UInt32}

abbrev reading (time : Nat) : UInt32 := UInt32.ofNat time

theorem toNat_reading_sub (h : since ≤ now) :
    (reading now - reading since).toNat = (now - since) % 2 ^ 32 := by
  rw [UInt32.toNat_sub, UInt32.toNat_ofNat', UInt32.toNat_ofNat']
  omega

theorem le_reading_sub_iff (h : since ≤ now) :
    timeout ≤ reading now - reading since ↔ timeout.toNat ≤ (now - since) % 2 ^ 32 := by
  rw [UInt32.le_iff_toNat_le, toNat_reading_sub h]

theorem reading_sub_lt_iff (h : since ≤ now) :
    reading now - reading since < timeout ↔ (now - since) % 2 ^ 32 < timeout.toNat := by
  rw [UInt32.lt_iff_toNat_lt, toNat_reading_sub h]

end Isobus.Lib
