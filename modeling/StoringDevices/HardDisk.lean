import Mathlib.Data.Finset.Basic
import Mathlib.Data.Nat.Find
import Mathlib.Data.Set.Finite.Basic
import StoringDevices.Html

/-! # The disk prober of hard_disk.cpp

The names in `/dev/` that hold a disk name, and the answers of each device to the
system calls.  The open file descriptors of the process are part of the state. -/
set_option autoImplicit false

namespace StoringDevices

/-! ## What the system answers -/

/-- A byte array of fixed size. -/
abbrev Bytes (size : Nat) := { bytes : CppString // bytes.length = size }

/-- The identification strings of `hd_driveid`. -/
structure HdDriveid where
  serialNo : Bytes 20
  fwRev : Bytes 8
  model : Bytes 40

/-- How the system calls end on a device.  An `ioctl` that fails is `none`, and
one that succeeds gives what it writes. -/
structure DiskAnswers where
  opens : Bool
  hdioGetIdentity : Option HdDriveid
  /-- `NVME_IOCTL_ADMIN_CMD`, the identify data of the controller. -/
  nvmeIdentify : Option (Bytes 4096)
  /-- The `BLKGETSIZE` that writes over `drive_info`. -/
  firstBlkgetsize : Option Int64
  blkgetsize64 : Option UInt64
  blksszget : Option Int32
  /-- The `BLKGETSIZE` of the fallback. -/
  blkgetsize : Option Int64

/-- A name that `readdir` gives: a `char` array up to its NUL. -/
abbrev DirName := { name : CppString // '\x00' ∉ name }

abbrev CppSet := Std.ExtTreeSet CppString

/-! ## Descriptors -/

abbrev Descriptors := Finset Nat

theorem exists_free (opened : Descriptors) : ∃ fd, fd ∉ opened :=
  Infinite.exists_notMem_finset opened

/-- The descriptor that `open` returns: the lowest that is not in use. -/
def lowestFree (opened : Descriptors) : Nat := Nat.find (exists_free opened)

theorem lowestFree_not_mem (opened : Descriptors) : lowestFree opened ∉ opened :=
  Nat.find_spec (exists_free opened)

def openFile (opened : Descriptors) : Nat × Descriptors :=
  (lowestFree opened, insert (lowestFree opened) opened)

def closeFile (fd : Nat) (opened : Descriptors) : Descriptors := opened.erase fd

theorem closeFile_openFile (opened : Descriptors) :
    closeFile (openFile opened).1 (openFile opened).2 = opened :=
  Finset.erase_insert (lowestFree_not_mem opened)

/-! ## One disk -/

/-- The characters that are no space. -/
def unsignedCharToString (srcCharArray : CppString) (size : Nat) : CppString :=
  (srcCharArray.take size).foldl
    (fun finalString c => if c ≠ ' ' then finalString ++ [c] else finalString) []

/-- The fields that are not assigned are empty strings already. -/
def initializeHardDiskInfoStructure : HardDiskInfo where
  isEmpty := true
  diskType := []
  product := []
  serialNumber := []
  version := []
  firmware := []
  size := 0

/-- `std::string(&buf[from], &buf[from] + length)` -/
def bufString (buf : CppString) (start length : Nat) : CppString := (buf.drop start).take length

/-- The size of a disk that has answered the first `BLKGETSIZE`. -/
def sizeOfDisk (answers : DiskAnswers) : UInt64 :=
  match answers.blkgetsize64 with
  | some bytes => bytes
  | none =>
      let sectsize := answers.blksszget.getD 0
      let size := answers.blkgetsize.getD 0
      if 0 < size ∧ 0 < sectsize then size.toUInt64 * sectsize.toInt64.toUInt64 else 0

/-- The identify calls of `getInfoFromDisk`: `HDIO_GET_IDENTITY`, and when it fails
the one for an NVMe controller. -/
def identifyDisk (answers : DiskAnswers) (hardDiskInfo : HardDiskInfo) : Option HardDiskInfo :=
  match answers.hdioGetIdentity with
  | none =>
      match answers.nvmeIdentify with
      | none => none
      | some buf =>
          some { hardDiskInfo with
            isEmpty := false
            serialNumber := bufString buf.1 4 20
            product := bufString buf.1 24 40
            firmware := bufString buf.1 64 8
            diskType := "NVME".toList }
  | some driveInfo =>
      some { hardDiskInfo with
        isEmpty := false
        serialNumber := unsignedCharToString driveInfo.serialNo.1 20
        product := unsignedCharToString driveInfo.model.1 40
        version := unsignedCharToString driveInfo.fwRev.1 8
        diskType := "ATA".toList }

def getInfoFromDisk (devices : CppString → DiskAnswers) (deviceName : CppString)
    (opened : Descriptors) : HardDiskInfo × Descriptors :=
  let answers := devices (cStr deviceName)
  let hardDiskInfo := initializeHardDiskInfoStructure
  if !answers.opens then
    (hardDiskInfo, opened)
  else
    let (diskFile, opened) := openFile opened
    match identifyDisk answers hardDiskInfo with
    | none => (hardDiskInfo, closeFile diskFile opened)
    | some hardDiskInfo =>
        match answers.firstBlkgetsize with
        | none => (hardDiskInfo, closeFile diskFile opened)
        -- the descriptor is not closed here
        | some _ => ({ hardDiskInfo with size := sizeOfDisk answers }, opened)

/-! ## All disks -/

/-- `(sd[a-z])|(nvme[0-9][a-z][0-9])` -/
def sdRegex : Regex Char :=
  let letter : Regex Char := .one fun c => 'a' ≤ c && c ≤ 'z'
  .alt (.seq (Regex.literal "sd".toList) letter)
    (.seq (Regex.literal "nvme".toList) (.seq digit (.seq letter digit)))

/-- The body of the `readdir` loop. -/
def insertDisk (disks : CppSet) (ent : DirName) : CppSet :=
  match regexSearch ent.1 sdRegex with
  | some diskFound => disks.insert ("/dev/".toList ++ diskFound)
  | none => disks

/-- `none` when `/dev/` cannot be opened.  The stream is closed after the last
entry. -/
def getDisksSet (dev : Option (List DirName)) (opened : Descriptors) : CppSet × Descriptors :=
  match dev with
  | none => (∅, opened)
  | some entries =>
      let (dir, opened) := openFile opened
      (entries.foldl insertDisk ∅, closeFile dir opened)

/-- The loop of `getDisksInfo` over the set. -/
def getInfoFromDisks (devices : CppString → DiskAnswers) (disksSet : CppSet)
    (opened : Descriptors) : DisksMap × Descriptors :=
  disksSet.toList.foldl (fun (disksMap, opened) it =>
    let (hardDiskInfo, opened) := getInfoFromDisk devices it opened
    (disksMap.insertIfNew it hardDiskInfo, opened)) (∅, opened)

def getDisksInfo (devices : CppString → DiskAnswers) (dev : Option (List DirName))
    (opened : Descriptors) : DisksMap × Descriptors :=
  let (disksSet, opened) := getDisksSet dev opened
  getInfoFromDisks devices disksSet opened

end StoringDevices
