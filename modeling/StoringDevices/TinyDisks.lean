import StoringDevices.ByteCount
import StoringDevices.Program

/-! # Disks of fewer than a thousand bytes

Below the unit the size of a disk is `bytes + " B"`, a pointer into a literal of
two characters.  Iterators apart, nothing else in the two reports is undefined:
both are written unless a measured disk has a size from 3 to 999 bytes. -/
set_option autoImplicit false

namespace StoringDevices

/-! ## One size -/

theorem sizeText_isSome_iff {libm : Libm} (exact : libm.Exact) (bytes : UInt64) :
    (humanReadableByteCount libm bytes true).isSome = true ↔
      bytes.toNat ≤ 2 ∨ 1000 ≤ bytes.toNat := by
  by_cases large : byteUnit true ≤ bytes.toNat
  · obtain ⟨letter, _, text⟩ := humanReadableByteCount_eq exact large
    rw [text]
    exact iff_of_true rfl (.inr large)
  · have below : bytes < 1000 := by
      rw [UInt64.lt_iff_toNat_lt]
      exact Nat.lt_of_not_le large
    unfold humanReadableByteCount
    simp only [if_true, if_pos below]
    by_cases inside : bytes.toNat ≤ 2
    · rw [if_pos inside]
      exact iff_of_true rfl (.inl inside)
    · rw [if_neg inside]
      exact iff_of_false Bool.false_ne_true (not_or.mpr ⟨inside, large⟩)

theorem diskSheet_isSome_iff {libm : Libm} (exact : libm.Exact) (path : CppString)
    (disk : HardDiskInfo) :
    (diskSheet libm path disk).isSome = true ↔ disk.size.toNat ≤ 2 ∨ 1000 ≤ disk.size.toNat := by
  unfold diskSheet
  rw [Option.isSome_map]
  by_cases noSize : disk.size = 0
  · rw [if_pos noSize, noSize]
    exact iff_of_true rfl (.inl (Nat.zero_le 2))
  · rw [if_neg noSize, Option.isSome_map]
    exact sizeText_isSome_iff exact disk.size

/-! ## The disks of a reading -/

theorem identifyDisk_size {answers : DiskAnswers} {start info : HardDiskInfo}
    (identified : identifyDisk answers start = some info) : info.size = start.size := by
  unfold identifyDisk at identified
  cases identity : answers.hdioGetIdentity with
  | some driveInfo =>
      rw [identity] at identified
      cases identified
      rfl
  | none =>
      rw [identity] at identified
      cases controller : answers.nvmeIdentify with
      | some buf =>
          rw [controller] at identified
          cases identified
          rfl
      | none =>
          rw [controller] at identified
          cases identified

/-- Only a measured disk has a size. -/
theorem getInfoFromDisk_size (devices : CppString → DiskAnswers) (name : CppString)
    (opened : Descriptors) :
    (getInfoFromDisk devices name opened).1.size =
      if (devices (cStr name)).Measured then sizeOfDisk (devices (cStr name)) else 0 := by
  by_cases measured : (devices (cStr name)).Measured
  · rw [if_pos measured]
    exact (getInfoFromDisk_measured measured opened).2
  · rw [if_neg measured]
    by_cases unidentified : (devices (cStr name)).Unidentified
    · rw [getInfoFromDisk_unidentified unidentified]
      rfl
    · obtain ⟨info, identified, _, result⟩ := getInfoFromDisk_identified unidentified
      rw [result, if_neg fun some => measured ⟨unidentified, some⟩]
      exact identifyDisk_size identified

/-- The size of each measured disk has a text. -/
def Answers.Sized (answers : Answers) : Prop :=
  ∀ name ∈ answers.disksSet, (answers.devices (cStr name)).Measured →
    (sizeOfDisk (answers.devices (cStr name))).toNat ≤ 2 ∨
      1000 ≤ (sizeOfDisk (answers.devices (cStr name))).toNat

theorem diskSheets_isSome_iff {libm : Libm} (exact : libm.Exact) (answers : Answers) :
    (diskSheets libm answers.disksMap).isSome = true ↔ answers.Sized := by
  have entry : ∀ (name : CppString) (info : HardDiskInfo),
      (name, info) ∈ answers.disksMap.toList ↔
        name ∈ answers.disksSet ∧ info = (getInfoFromDisk answers.devices name ∅).1 := by
    intro name info
    unfold Answers.disksMap Answers.disksSet
    rw [Std.ExtTreeMap.mem_toList_iff_getElem?_eq_some, getDisksInfo_eq, getInfoFromDisks_getElem?]
    split <;> simp [*, eq_comm]
  unfold diskSheets
  rw [Lists.mapM_isSome_iff]
  constructor
  · intro sheets name member measured
    have full : (getInfoFromDisk answers.devices name ∅).1.isEmpty = false := by
      rw [Bool.eq_false_iff]
      intro empty
      exact measured.1 ((getInfoFromDisk_isEmpty_iff _ _ _).mp empty)
    have sheet := sheets (name, (getInfoFromDisk answers.devices name ∅).1)
      (List.mem_filter.mpr ⟨(entry _ _).mpr ⟨member, rfl⟩, by simp [full]⟩)
    rw [diskSheet_isSome_iff exact, getInfoFromDisk_size, if_pos measured] at sheet
    exact sheet
  · rintro sized ⟨name, info⟩ inside
    obtain ⟨member, rfl⟩ := (entry name info).mp (List.mem_filter.mp inside).1
    rw [diskSheet_isSome_iff exact, getInfoFromDisk_size]
    split
    · next measured => exact sized name member measured
    · exact .inl (Nat.zero_le 2)

/-- With exact `log` and `pow`, a run of root writes both reports exactly when no disk
that is measured in either reading has a size from 3 to 999 bytes. -/
theorem main_defined_iff {system : System} (root : system.geteuid = 0)
    (exact : system.libm.Exact) {process : Process} (initial : process.shown = {}) :
    (main system process).isSome = true ↔ system.first.Sized ∧ system.second.Sized := by
  obtain ⟨opened, _, _, run⟩ := main_root root initial
  rw [run, ← diskSheets_isSome_iff exact, ← diskSheets_isSome_iff exact]
  cases diskSheets system.libm system.first.disksMap with
  | none => simp
  | some disks => simp

end StoringDevices
