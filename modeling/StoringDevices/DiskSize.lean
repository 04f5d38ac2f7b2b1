import Mathlib.Data.Int.ModEq
import Mathlib.Data.Nat.ModEq
import Mathlib.Data.Nat.Prime.Basic
import Mathlib.Algebra.Ring.Parity
import Mathlib.Tactic.Linarith
import Mathlib.Tactic.Ring
import StoringDevices.DiskProbe
import StoringDevices.Lib.Numbers

/-! # The size of a disk without `BLKGETSIZE64`

`BLKGETSIZE` counts blocks of 512 bytes, whatever the logical sector size is, and
the fallback multiplies the count by the logical sector size. -/
set_option autoImplicit false

namespace StoringDevices

/-- On a device of so many bytes and logical sectors of this size, `BLKGETSIZE64`
fails and the other calls succeed. -/
structure FallsBack (answers : DiskAnswers) (bytes : UInt64) (sector : Nat) : Prop where
  measured : answers.Measured
  direct : answers.blkgetsize64 = none
  sectorSize : ∃ sectsize : Int32, answers.blksszget = some sectsize ∧ sectsize.toInt = sector
  blocks : ∃ size : Int64, answers.blkgetsize = some size ∧ size.toInt = (bytes.toNat / 512 : Nat)

/-- The fallback stores the product modulo 2^64. -/
theorem FallsBack.sizeOfDisk_toNat {answers : DiskAnswers} {bytes : UInt64} {sector : Nat}
    (falls : FallsBack answers bytes sector) (some : 0 < bytes.toNat / 512) (positive : 0 < sector) :
    (sizeOfDisk answers).toNat = bytes.toNat / 512 * sector % 2 ^ 64 := by
  obtain ⟨sectsize, sectorAnswer, sectorValue⟩ := falls.sectorSize
  obtain ⟨size, sizeAnswer, sizeValue⟩ := falls.blocks
  have guarded : 0 < size ∧ 0 < sectsize := by
    rw [Int64.lt_iff_toInt_lt, Int32.lt_iff_toInt_lt, Int64.toInt_zero, Int32.toInt_zero,
      sizeValue, sectorValue]
    omega
  have sectorValue' : sectsize.toInt64.toInt = sector := by rw [Int32.toInt_toInt64, sectorValue]
  unfold sizeOfDisk
  simp only [falls.direct, sectorAnswer, sizeAnswer, Option.getD_some, if_pos guarded]
  rw [UInt64.toNat_mul, Numbers.toUInt64_toNat sizeValue, Numbers.toUInt64_toNat sectorValue']

/-- The product is the size in bytes when the two unit sizes agree modulo 2^64. -/
theorem product_eq_iff {blocks sector : Nat} (fits : blocks * 512 < 2 ^ 64) :
    blocks * sector % 2 ^ 64 = blocks * 512 ↔ (2 ^ 64 : ℤ) ∣ blocks * ((sector : ℤ) - 512) := by
  have congruent : blocks * sector % 2 ^ 64 = blocks * 512 ↔
      blocks * 512 ≡ blocks * sector [MOD 2 ^ 64] := by
    rw [Nat.ModEq, Nat.mod_eq_of_lt fits]
    exact eq_comm
  rw [congruent, Nat.modEq_iff_dvd]
  push_cast
  rw [mul_sub]

/-- Sectors below 512 bytes: fewer than 2^64 bytes are missing. -/
theorem small_sector_differs {blocks sector : Nat} (some : 0 < blocks) (fits : blocks * 512 < 2 ^ 64)
    (small : sector < 512) : ¬ (2 ^ 64 : ℤ) ∣ blocks * ((sector : ℤ) - 512) := by
  intro wraps
  have missing : (2 ^ 64 : ℤ) ∣ ((blocks * (512 - sector) : Nat) : ℤ) := by
    have negated := Int.dvd_neg.mpr wraps
    have same : -((blocks : ℤ) * ((sector : ℤ) - 512)) = ((blocks * (512 - sector) : Nat) : ℤ) := by
      rw [Nat.cast_mul, Nat.cast_sub small.le]
      push_cast
      ring
    rwa [same] at negated
  have divides : 2 ^ 64 ∣ blocks * (512 - sector) := by exact_mod_cast missing
  have bound : blocks * (512 - sector) ≤ blocks * 512 := Nat.mul_le_mul_left _ (Nat.sub_le _ _)
  have pos : 0 < blocks * (512 - sector) := Nat.mul_pos some (by omega)
  have le := Nat.le_of_dvd pos divides
  omega

/-- Sectors of 512 times an even number of bytes: one less than it is odd. -/
theorem even_sector_differs {blocks half : Nat} (some : 0 < blocks) (fits : blocks * 512 < 2 ^ 64)
    (positive : 0 < half) :
    ¬ (2 ^ 64 : ℤ) ∣ blocks * (((512 * (2 * half) : Nat) : ℤ) - 512) := by
  intro wraps
  have same : (blocks : ℤ) * (((512 * (2 * half) : Nat) : ℤ) - 512) =
      ((512 * (blocks * (2 * half - 1)) : Nat) : ℤ) := by
    have less : ((2 * half - 1 : Nat) : ℤ) = 2 * half - 1 := by omega
    push_cast [less]
    ring
  rw [same] at wraps
  have divides : 2 ^ 64 ∣ 512 * (blocks * (2 * half - 1)) := by exact_mod_cast wraps
  have reduced : 2 ^ 55 ∣ blocks * (2 * half - 1) := by
    apply Nat.dvd_of_mul_dvd_mul_left (by decide : 0 < 512)
    exact divides
  have odd : Nat.Coprime (2 ^ 55) (2 * half - 1) := by
    apply Nat.Coprime.pow_left
    rw [Nat.coprime_two_left]
    exact ⟨half - 1, by omega⟩
  have le := Nat.le_of_dvd some (odd.dvd_of_dvd_mul_right reduced)
  omega

/-- With sectors of a power of two no size comes out right by wrapping around. -/
theorem wraps_only_at_512 {blocks : Nat} (some : 0 < blocks) (fits : blocks * 512 < 2 ^ 64) (k : Nat) :
    (2 ^ 64 : ℤ) ∣ blocks * (((2 ^ k : Nat) : ℤ) - 512) ↔ 2 ^ k = 512 := by
  constructor
  · intro wraps
    by_contra other
    rcases Nat.lt_or_ge k 10 with small | large
    · have below : 2 ^ k < 512 := by
        have bound : 2 ^ k ≤ 2 ^ 9 := Nat.pow_le_pow_right (by decide) (by omega)
        omega
      exact small_sector_differs some fits below wraps
    · obtain ⟨j, rfl⟩ : ∃ j, k = 10 + j := ⟨k - 10, by omega⟩
      have power : 2 ^ (10 + j) = 512 * (2 * 2 ^ j) := by ring
      rw [power] at wraps
      exact even_sector_differs some fits (Nat.two_pow_pos j) wraps
  · intro same
    rw [same]
    simp

/-- The fallback stores the size in bytes exactly when 2^64 divides the number
of blocks times what the logical sector size differs from 512; for a power of
two, exactly when the logical sector size is 512. -/
theorem fallback_size_iff (devices : CppString → DiskAnswers) (deviceName : CppString)
    (opened : Descriptors) (bytes : UInt64) (sector : Nat) (positive : 0 < bytes.toNat)
    (whole : 512 ∣ bytes.toNat) (sectorPositive : 0 < sector)
    (falls : FallsBack (devices (cStr deviceName)) bytes sector) :
    ((getInfoFromDisk devices deviceName opened).1.size = bytes ↔
      (2 ^ 64 : ℤ) ∣ (bytes.toNat / 512 : Nat) * ((sector : ℤ) - 512)) ∧
    ((∃ k, sector = 2 ^ k) →
      ((getInfoFromDisk devices deviceName opened).1.size = bytes ↔ sector = 512)) := by
  obtain ⟨blocks, count⟩ := whole
  have some : 0 < blocks := by omega
  have quotient : bytes.toNat / 512 = blocks := by omega
  have below := bytes.toNat_lt
  have fits : blocks * 512 < 2 ^ 64 := by omega
  have stored : (getInfoFromDisk devices deviceName opened).1.size = bytes ↔
      (2 ^ 64 : ℤ) ∣ (blocks : ℤ) * ((sector : ℤ) - 512) := by
    rw [(getInfoFromDisk_measured falls.measured opened).2, ← UInt64.toNat_inj,
      falls.sizeOfDisk_toNat (by omega) sectorPositive, quotient, count, Nat.mul_comm 512 blocks,
      product_eq_iff fits]
  rw [quotient]
  refine ⟨stored, ?_⟩
  rintro ⟨k, rfl⟩
  rw [stored, wraps_only_at_512 some fits]

/-- A device of one MiB with logical sectors of the size, and no `BLKGETSIZE64`. -/
def oldSystemDisk (sectsize : Int32) : DiskAnswers :=
  { healthyDisk with
    blkgetsize64 := none
    blksszget := some sectsize
    blkgetsize := some 2048 }

theorem oldSystemDisk_fallsBack {sectsize : Int32} {sector : Nat}
    (value : sectsize.toInt = sector) : FallsBack (oldSystemDisk sectsize) 1048576 sector where
  measured := ⟨by simp [DiskAnswers.Unidentified, oldSystemDisk, healthyDisk], rfl⟩
  direct := rfl
  sectorSize := ⟨sectsize, rfl, value⟩
  blocks := ⟨2048, rfl, rfl⟩

theorem sectors_of_512_fall_back_exactly :
    (getInfoFromDisk (fun _ => oldSystemDisk 512) "/dev/sda".toList ∅).1.size = 1048576 :=
  ((fallback_size_iff (fun _ => oldSystemDisk 512) "/dev/sda".toList ∅ 1048576 512 (by decide)
    (by decide) (by decide) (oldSystemDisk_fallsBack rfl)).2 ⟨9, rfl⟩).mpr rfl

/-- Sectors of 4096 bytes: one MiB is stored as eight. -/
theorem sectors_of_4096_fall_back_wrongly :
    FallsBack (oldSystemDisk 4096) 1048576 4096 ∧
      (getInfoFromDisk (fun _ => oldSystemDisk 4096) "/dev/sda".toList ∅).1.size = 8388608 ∧
      (8388608 : UInt64) ≠ 1048576 := by
  have falls : FallsBack (oldSystemDisk 4096) 1048576 4096 := oldSystemDisk_fallsBack rfl
  refine ⟨falls, ?_, by decide⟩
  have read : (getInfoFromDisk (fun _ => oldSystemDisk 4096) "/dev/sda".toList ∅).1.size =
      sizeOfDisk (oldSystemDisk 4096) := (getInfoFromDisk_measured falls.measured ∅).2
  rw [read]
  decide

end StoringDevices
