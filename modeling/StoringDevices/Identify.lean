import StoringDevices.DiskProbe

/-! # The identification strings of a disk

A device stores a string padded with spaces, or NULs when there is none.  The
ATA decoder drops every space and keeps the NULs; the NVMe decoder keeps the
whole field. -/
set_option autoImplicit false

namespace StoringDevices

/-! ## Fields -/

inductive IdentifyField where
  | ataSerial | ataModel | ataFirmware
  | nvmeSerial | nvmeModel | nvmeFirmware
  deriving DecidableEq

namespace IdentifyField

def isAta : IdentifyField → Bool
  | ataSerial | ataModel | ataFirmware => true
  | nvmeSerial | nvmeModel | nvmeFirmware => false

def size : IdentifyField → Nat
  | ataSerial | nvmeSerial => 20
  | ataModel | nvmeModel => 40
  | ataFirmware | nvmeFirmware => 8

/-- Where the field starts in the identify data of an NVMe controller. -/
def start : IdentifyField → Nat
  | nvmeSerial => 4
  | nvmeModel => 24
  | nvmeFirmware => 64
  | _ => 0

/-- The bytes of an ATA field. -/
def ofDrive (driveInfo : HdDriveid) : IdentifyField → CppString
  | ataModel => driveInfo.model.1
  | ataFirmware => driveInfo.fwRev.1
  | _ => driveInfo.serialNo.1

/-- The field of the entry that is read from this one. -/
def shown (info : HardDiskInfo) : IdentifyField → CppString
  | ataSerial | nvmeSerial => info.serialNumber
  | ataModel | nvmeModel => info.product
  | ataFirmware => info.version
  | nvmeFirmware => info.firmware

theorem size_pos (field : IdentifyField) : 0 < field.size := by
  cases field <;> decide

end IdentifyField

/-- A string that a field of the size may store. -/
structure FieldText (size : Nat) (s : CppString) : Prop where
  fits : s.length ≤ size
  noNul : '\x00' ∉ s
  first : s.head? ≠ some ' '
  last : s.getLast? ≠ some ' '

/-- The string padded with spaces; zero bytes when there is none. -/
def storedText (size : Nat) (s : CppString) : CppString :=
  if s = [] then List.replicate size '\x00' else s ++ List.replicate (size - s.length) ' '

/-- The device identifies itself with the string in the field. -/
def IdentifyField.Stores (field : IdentifyField) (answers : DiskAnswers) (s : CppString) : Prop :=
  if field.isAta then
    ∃ driveInfo, answers.hdioGetIdentity = some driveInfo ∧
      field.ofDrive driveInfo = storedText field.size s
  else
    answers.hdioGetIdentity = none ∧ ∃ buf before after, answers.nvmeIdentify = some buf ∧
      buf.1 = before ++ (storedText field.size s ++ after) ∧ before.length = field.start

/-! ## The decoders -/

theorem unsignedCharToString_eq (bytes : CppString) (size : Nat) :
    unsignedCharToString bytes size = (bytes.take size).filter fun c => c ≠ ' ' := by
  have loop : ∀ (rest decoded : CppString),
      rest.foldl (fun finalString c => if c ≠ ' ' then finalString ++ [c] else finalString) decoded =
        decoded ++ rest.filter fun c => c ≠ ' ' := by
    intro rest
    induction rest with
    | nil => intro decoded; simp
    | cons c rest ih =>
        intro decoded
        rw [List.foldl_cons, ih]
        by_cases blank : c = ' ' <;> simp [blank]
  exact loop _ []

theorem storedText_length {size : Nat} {s : CppString} (fits : s.length ≤ size) :
    (storedText size s).length = size := by
  unfold storedText
  split
  · simp
  · simp only [List.length_append, List.length_replicate]
    omega

theorem shown_of_identified {devices : CppString → DiskAnswers} {deviceName : CppString}
    {info : HardDiskInfo} (opens : (devices (cStr deviceName)).opens = true)
    (identified : identifyDisk (devices (cStr deviceName)) initializeHardDiskInfoStructure = some info)
    (opened : Descriptors) (field : IdentifyField) :
    field.shown (getInfoFromDisk devices deviceName opened).1 = field.shown info := by
  unfold getInfoFromDisk
  simp only [opens, identified]
  cases (devices (cStr deviceName)).firstBlkgetsize with
  | none => rfl
  | some size => cases field <;> rfl

theorem ata_shown {devices : CppString → DiskAnswers} {deviceName : CppString}
    {driveInfo : HdDriveid} (opens : (devices (cStr deviceName)).opens = true)
    (identity : (devices (cStr deviceName)).hdioGetIdentity = some driveInfo)
    (opened : Descriptors) {field : IdentifyField} (ata : field.isAta = true) :
    field.shown (getInfoFromDisk devices deviceName opened).1 =
      unsignedCharToString (field.ofDrive driveInfo) field.size := by
  rw [shown_of_identified opens (by rw [identifyDisk, identity])]
  cases field with
  | ataSerial | ataModel | ataFirmware => rfl
  | nvmeSerial | nvmeModel | nvmeFirmware => cases ata

theorem nvme_shown {devices : CppString → DiskAnswers} {deviceName : CppString}
    {buf : Bytes 4096} (opens : (devices (cStr deviceName)).opens = true)
    (unidentified : (devices (cStr deviceName)).hdioGetIdentity = none)
    (controller : (devices (cStr deviceName)).nvmeIdentify = some buf)
    (opened : Descriptors) {field : IdentifyField} (nvme : field.isAta = false) :
    field.shown (getInfoFromDisk devices deviceName opened).1 =
      bufString buf.1 field.start field.size := by
  rw [shown_of_identified opens (by rw [identifyDisk, unidentified, controller])]
  cases field with
  | nvmeSerial | nvmeModel | nvmeFirmware => rfl
  | ataSerial | ataModel | ataFirmware => cases nvme

theorem bufString_of_split {buf before text after : CppString}
    (split : buf = before ++ (text ++ after)) : bufString buf before.length text.length = text := by
  unfold bufString
  rw [split, List.drop_left, List.take_left]

/-! ## What is shown of a stored string -/

/-- The strings that the decoder of the field gives back. -/
def IdentifyField.GivesBack (field : IdentifyField) (s : CppString) : Prop :=
  if field.isAta then s ≠ [] ∧ ' ' ∉ s else s.length = field.size

theorem ata_decodes_iff {size : Nat} (pos : 0 < size) {s : CppString} (fits : s.length ≤ size) :
    unsignedCharToString (storedText size s) size = s ↔ s ≠ [] ∧ ' ' ∉ s := by
  have whole : (storedText size s).take size = storedText size s :=
    List.take_of_length_le (storedText_length fits).le
  rw [unsignedCharToString_eq, whole]
  unfold storedText
  by_cases none : s = []
  · simp [none, Nat.ne_of_gt pos]
  · have padding : (List.replicate (size - s.length) ' ').filter (fun c => decide (c ≠ ' ')) = [] := by
      simp
    rw [if_neg none, List.filter_append, padding, List.append_nil, List.filter_eq_self]
    simp only [ne_eq, none, not_false_eq_true, true_and, decide_eq_true_eq]
    constructor
    · intro all inside
      exact all ' ' inside rfl
    · intro absent c member blank
      exact absent (blank ▸ member)

theorem nvme_decodes_iff {size : Nat} (pos : 0 < size) {s : CppString} (fits : s.length ≤ size) :
    storedText size s = s ↔ s.length = size := by
  constructor
  · intro same
    rw [← same]
    exact storedText_length fits
  · intro full
    have some : s ≠ [] := by
      intro none
      rw [none, List.length_nil] at full
      omega
    simp [storedText, some, full]

/-- A field is shown as the string stored in it exactly when the string is not
empty and has no space, for an ATA field, and when it fills an NVMe field. -/
theorem stored_text_shown_iff (devices : CppString → DiskAnswers) (deviceName : CppString)
    (opened : Descriptors) (field : IdentifyField) (s : CppString)
    (opens : (devices (cStr deviceName)).opens = true) (text : FieldText field.size s)
    (stores : field.Stores (devices (cStr deviceName)) s) :
    field.shown (getInfoFromDisk devices deviceName opened).1 = s ↔ field.GivesBack s := by
  unfold IdentifyField.Stores at stores
  unfold IdentifyField.GivesBack
  cases kind : field.isAta with
  | true =>
      rw [if_pos kind] at stores
      obtain ⟨driveInfo, identified, bytes⟩ := stores
      rw [ata_shown opens identified opened kind, bytes, ata_decodes_iff field.size_pos text.fits]
      rfl
  | false =>
      rw [if_neg (by simp [kind])] at stores
      obtain ⟨unidentified, buf, before, after, identified, split, place⟩ := stores
      have read := bufString_of_split split
      rw [place, storedText_length text.fits] at read
      rw [nvme_shown opens unidentified identified opened kind, read,
        nvme_decodes_iff field.size_pos text.fits]
      rfl

def noText : CppString := []

/-- An ATA disk with the model in its field. -/
def ataDisk (model : CppString) (fits : model.length ≤ 40) : DiskAnswers where
  opens := true
  hdioGetIdentity := some
    { serialNo := ⟨storedText 20 noText, storedText_length (Nat.zero_le 20)⟩
      fwRev := ⟨storedText 8 noText, storedText_length (Nat.zero_le 8)⟩
      model := ⟨storedText 40 model, storedText_length fits⟩ }
  nvmeIdentify := none
  firstBlkgetsize := some 2048
  blkgetsize64 := some 1048576
  blksszget := some 512
  blkgetsize := some 2048

theorem nvmeBytes_length {serial : CppString} (fits : serial.length ≤ 20) :
    (List.replicate 4 '\x00' ++ (storedText 20 serial ++ List.replicate 4072 '\x00')).length =
      4096 := by
  rw [List.length_append, List.length_append, List.length_replicate, List.length_replicate,
    storedText_length fits]

/-- An NVMe disk with the serial in its field. -/
def nvmeDisk (serial : CppString) (fits : serial.length ≤ 20) : DiskAnswers where
  opens := true
  hdioGetIdentity := none
  nvmeIdentify := some
    ⟨List.replicate 4 '\x00' ++ (storedText 20 serial ++ List.replicate 4072 '\x00'),
      nvmeBytes_length fits⟩
  firstBlkgetsize := some 2048
  blkgetsize64 := some 1048576
  blksszget := some 512
  blkgetsize := some 2048

theorem ataDisk_stores {model : CppString} (fits : model.length ≤ 40) :
    IdentifyField.ataModel.Stores (ataDisk model fits) model := ⟨_, rfl, rfl⟩

theorem nvmeDisk_stores {serial : CppString} (fits : serial.length ≤ 20) :
    IdentifyField.nvmeSerial.Stores (nvmeDisk serial fits) serial :=
  ⟨rfl, _, List.replicate 4 '\x00', List.replicate 4072 '\x00', rfl, rfl, rfl⟩

theorem plain_model_shown :
    IdentifyField.ataModel.shown
        (getInfoFromDisk (fun _ => ataDisk "ST31000".toList (by decide)) "/dev/sda".toList ∅).1 =
      "ST31000".toList :=
  (stored_text_shown_iff _ "/dev/sda".toList ∅ .ataModel "ST31000".toList rfl
    ⟨by decide, by decide, by decide, by decide⟩ (ataDisk_stores (by decide))).mpr
    ⟨by decide, by decide⟩

def spacedModel : CppString := "A B".toList

def shortSerial : CppString := "S1".toList

/-- An interior space of an ATA model is dropped, so that `A B` and `AB` are shown
alike, and the padding of an NVMe serial is kept. -/
theorem stored_texts_altered :
    (FieldText 40 spacedModel ∧
      IdentifyField.ataModel.Stores (ataDisk spacedModel (by decide)) spacedModel ∧
      IdentifyField.ataModel.shown
        (getInfoFromDisk (fun _ => ataDisk spacedModel (by decide)) "/dev/sda".toList ∅).1 =
          "AB".toList ∧ "AB".toList ≠ spacedModel) ∧
    FieldText 20 shortSerial ∧
      IdentifyField.nvmeSerial.Stores (nvmeDisk shortSerial (by decide)) shortSerial ∧
      IdentifyField.nvmeSerial.shown
        (getInfoFromDisk (fun _ => nvmeDisk shortSerial (by decide)) "/dev/nvme0n1".toList ∅).1 ≠
          shortSerial := by
  refine ⟨⟨⟨by decide, by decide, by decide, by decide⟩, ataDisk_stores _, ?_, by decide⟩,
    ⟨by decide, by decide, by decide, by decide⟩, nvmeDisk_stores _, ?_⟩
  · rw [ata_shown rfl rfl ∅ rfl]
    decide
  · have read : bufString (List.replicate 4 '\x00' ++
        (storedText 20 shortSerial ++ List.replicate 4072 '\x00')) 4 20 =
        storedText 20 shortSerial := bufString_of_split rfl
    rw [nvme_shown rfl rfl rfl ∅ rfl]
    change bufString (List.replicate 4 '\x00' ++
      (storedText 20 shortSerial ++ List.replicate 4072 '\x00')) 4 20 ≠ shortSerial
    rw [read]
    decide

end StoringDevices
