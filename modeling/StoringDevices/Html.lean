import Mathlib.Data.Nat.Log
import StoringDevices.Report
import StoringDevices.Strptime

/-! # The HTML report

`printHTML` with the static variables it passes every value through, and the
calls of `time` its conversions make.  A loop turn assigns the variables its entry
has a value for, writes, and puts all of them back; so the page is the page of the
entries, each shown on its own. -/
set_option autoImplicit false

namespace StoringDevices

open Std (ExtTreeMap)

/-! ## Sizes -/

/-- What the size of a disk takes from the C library. -/
structure Libm where
  /-- `(int) (log(bytes) / log(unit))` -/
  logQuotient : UInt64 → UInt64 → Int
  /-- `(unsigned long long) pow(unit, exp)` -/
  pow : UInt64 → Int → UInt64

/-- Neither function rounds. -/
def Libm.exact : Libm where
  logQuotient bytes unit := Nat.log unit.toNat bytes.toNat
  pow unit exp := unit ^ exp.toNat

/-- `none` where the source has no defined behaviour: below the unit the result
is a pointer `bytes` characters into `" B"`, a prefix is read at `exp - 1`, whose
last place is the NUL after the six letters, and the power may be 0. -/
def humanReadableByteCount (libm : Libm) (bytes : UInt64) (si : Bool) : Option CppString :=
  let unit : UInt64 := if si then 1000 else 1024
  if bytes < unit then
    if bytes.toNat ≤ 2 then some (" B".toList.drop bytes.toNat) else none
  else
    let exp := libm.logQuotient bytes unit
    let letters := (if si then "kMGTPE" else "KMGTPE").toList ++ ['\x00']
    if exp < 1 ∨ libm.pow unit exp = 0 then none
    else do
      let letter ← letters[(exp - 1).toNat]?
      let pre := letter :: (if si then "" else "i").toList
      some ((toString (bytes / libm.pow unit exp).toNat ++ " ").toList ++
        (cStr pre ++ "B".toList))

/-! ## The variables -/

structure UsbTimes where
  usbLocaltimeConnection : CppString := []
  usbLocaltimeDisconnection : CppString := []
  usbUtcConnection : CppString := []
  usbUtcDisconnection : CppString := []
  usbEstConnection : CppString := []
  usbEstDisconnection : CppString := []
  deriving DecidableEq

def initializeUSBTimes : UsbTimes where
  usbLocaltimeConnection := []
  usbLocaltimeDisconnection := []
  usbUtcConnection := []
  usbUtcDisconnection := []
  usbEstConnection := []
  usbEstDisconnection := []

structure DiskVariables where
  diskPath : CppString := "Unknown disk".toList
  diskInterface : CppString := "Interface not found".toList
  diskProduct : CppString := "Product not found".toList
  diskVersion : CppString := "Version not found".toList
  diskFirmwareVersion : CppString := "Firmware not found".toList
  diskSerialNumber : CppString := "Serial number not found".toList
  diskSize : CppString := "Size not found".toList
  deriving DecidableEq

def initializeDiskVariables : DiskVariables where
  diskPath := "Unknown disk".toList
  diskInterface := "Interface not found".toList
  diskProduct := "Product not found".toList
  diskVersion := "Version not found".toList
  diskFirmwareVersion := "Firmware not found".toList
  diskSerialNumber := "Serial number not found".toList
  diskSize := "Size not found".toList

/-- The static variables of output.cpp, with their initial values. -/
structure ReportVariables where
  usb : UsbVariables := {}
  times : UsbTimes := {}
  disk : DiskVariables := {}

structure HardDiskInfo where
  isEmpty : Bool
  diskType : CppString
  product : CppString
  serialNumber : CppString
  version : CppString
  firmware : CppString
  size : UInt64
  deriving DecidableEq

abbrev DisksMap := CppMap HardDiskInfo

/-! ## The texts -/

def startHTML : CppString :=
  "<!DOCTYPE html><html><style>table\x7bfont-family: arial, sans-serif;border-collapse: ".toList ++
    "collapse;width: 60%;table-layout: fixed;background-color:#e7e7e7;\x7dtd,th\x7bborder: 1px ".toList ++
    "solid #dddddd;text-align: center;padding: 8px;width: 50%;\x7d</style><body ".toList ++
    "style=\"background-color:#a2b9c2\"><h1 style=\"text-align:center\">Storing devices ".toList ++
    "report</h1><br><p style=\"text-align: center;\">Report auto-generated with information about ".toList ++
    "USBs connected to this computer since startup, including times when they were connected and ".toList ++
    "disconnected, if that is the case. The information from this devices is gathered from Linux ".toList ++
    "event logs.</p><p style=\"text-align: center;\">It also displays information about the hard ".toList ++
    "drives connected to the computer, getting the information of these with ioctl Linux tool.</p>".toList ++
    "<br><br><br><br><br><h2 style=\"text-align:center\">USBs</h2>".toList

def beforeHardDisks : CppString :=
  "<br><br><br><h2 style=\"text-align:center\">Hard drives</h2>".toList

def endHTML : CppString :=
  "<br><br><br><p style=\"text-align: right;\">Report generated by Storing Devices identifiers ".toList ++
    "gathering tool developed by Jose Miguel S\xc3\xa1nchez Almagro, as part of Storing devices ".toList ++
    "information gathering Master's thesis.</p></body></html>".toList

def usbInfoTable (usbIterator : Nat) (shown : UsbVariables) : CppString :=
  ("<table align=\"center\"><tr style=\"background-color:#dadada;\"><th style=\"font-size:20px;\">USB " ++
      toString usbIterator).toList ++
    ("</th><th style=\"color: ".toList ++ shown.usbConnected) ++
    ("</th></tr><tr><td style=\"background-color:#dadada\"><b>Serial Number</b></td><td>".toList ++
      shown.usbSerialNumber) ++
    ("</td></tr><tr><td style=\"background-color:#dadada\"><b>Product Name</b></td><td>".toList ++
      shown.usbProductName) ++
    ("</td></tr><tr><td style=\"background-color:#dadada\"><b>Manufacturer</b></td><td>".toList ++
      shown.usbManufacturer) ++
    ("</td></tr><tr><td style=\"background-color:#dadada\"><b>Vendor ID</b></td><td>".toList ++
      shown.usbVendorId) ++
    ("</td></tr><tr><td style=\"background-color:#dadada\"><b>Product ID</b></td><td>".toList ++
      shown.usbProductId) ++
    "</td></tr></table>".toList

def timeCell (text : CppString) : CppString :=
  "<td><time>".toList ++ text ++ "</time></td>".toList

def usbIndividualTimeTable (shown : UsbTimes) : CppString :=
  "<tr>".toList ++ timeCell shown.usbLocaltimeConnection ++
    timeCell shown.usbLocaltimeDisconnection ++ timeCell shown.usbUtcConnection ++
    timeCell shown.usbUtcDisconnection ++ timeCell shown.usbEstConnection ++
    timeCell shown.usbEstDisconnection ++ "</tr>".toList

/-- The two header rows of a times table, and what stands before it. -/
def usbTimesTableHead : CppString :=
  "<p style=\"text-align: center;\">Connection and disconnection times in different time ".toList ++
    "zones:</p><table align=\"center\"><tr><th colspan=\"2\" style=\"background-color:#dadada\">".toList ++
    "Local time</th><th colspan=\"2\" style=\"background-color:#dadada\">UTC</th><th ".toList ++
    "colspan=\"2\" style=\"background-color:#dadada\">EST</th></tr><tr><th ".toList ++
    "style=\"background-color:#dadada\"><b>Conections</b></th><th ".toList ++
    "style=\"background-color:#dadada\"><b>Disconnections</b></th><th ".toList ++
    "style=\"background-color:#dadada\"><b>Conections</b></th><th ".toList ++
    "style=\"background-color:#dadada\"><b>Disconnections</b></th><th ".toList ++
    "style=\"background-color:#dadada\"><b>Conections</b></th><th ".toList ++
    "style=\"background-color:#dadada\"><b>Disconnections</b></th></tr>".toList

def usbTimesTable (usbAllTimesOnly : CppString) : CppString :=
  usbTimesTableHead ++ usbAllTimesOnly ++ "</table><br><br><br><br>".toList

def diskInfoTable (shown : DiskVariables) : CppString :=
  ("<table align=\"center\"><tr style=\"background-color:#dadada\"><th style=\"font-size:20px;\">".toList ++
      shown.diskPath) ++
    ("</th><th></th></tr><tr><td style=\"background-color:#dadada\"><b>Disk interface</b></td><td>".toList ++
      shown.diskInterface) ++
    ("</td></tr><tr><td style=\"background-color:#dadada\"><b>Product</b></td><td>".toList ++
      shown.diskProduct) ++
    ("</td></tr><tr><td style=\"background-color:#dadada\"><b>Version</b></td><td>".toList ++
      shown.diskVersion) ++
    ("</td></tr><tr><td style=\"background-color:#dadada\"><b>Firmware version</b></td><td>".toList ++
      shown.diskFirmwareVersion) ++
    ("</td></tr><tr><td style=\"background-color:#dadada\"><b>Serial number</b></td><td>".toList ++
      shown.diskSerialNumber) ++
    ("</td></tr><tr><td style=\"background-color:#dadada\"><b>Size</b></td><td>".toList ++
      shown.diskSize) ++
    "</td></tr></table><br><br><br><br>".toList

def disksNotFound : CppString :=
  "<p style=\"text-align: center;\">Disks info not found.</p>".toList

/-! ## The loops -/

/-- Each conversion calls `time` anew; `call` calls were made before. -/
def assignConnection (clock : TickingClock) (connectionTime : CppString) (shown : UsbTimes)
    (call : Nat) : UsbTimes × Nat :=
  let date := convertSyslogTimestampToTm connectionTime
  ({ shown with
      usbLocaltimeConnection := getStringFromTM date
      usbUtcConnection := getStringFromTM (getUTCTimeFromLocalTime (clock.reading call) date)
      usbEstConnection :=
        getStringFromTM (getESTTimeFromUTCTime (clock.reading (call + 2))
          (getUTCTimeFromLocalTime (clock.reading (call + 1)) date)) },
    call + 3)

def assignDisconnection (clock : TickingClock) (disconnectionTime : CppString) (shown : UsbTimes)
    (call : Nat) : UsbTimes × Nat :=
  let date := convertSyslogTimestampToTm disconnectionTime
  ({ shown with
      usbLocaltimeDisconnection := getStringFromTM date
      usbUtcDisconnection := getStringFromTM (getUTCTimeFromLocalTime (clock.reading call) date)
      usbEstDisconnection :=
        getStringFromTM (getESTTimeFromUTCTime (clock.reading (call + 2))
          (getUTCTimeFromLocalTime (clock.reading (call + 1)) date)) },
    call + 3)

/-- The loop over the times of an entry, from where its two iterators point. -/
def printTimes (clock : TickingClock) :
    List CppString → List CppString → UsbTimes → CppString → Nat → (CppString × UsbTimes) × Nat
  | [], _, shown, usbAllTimesOnly, call => ((usbAllTimesOnly, shown), call)
  | connection :: connections, [], shown, usbAllTimesOnly, call =>
      let (shown, call) := assignConnection clock connection shown call
      printTimes clock connections [] initializeUSBTimes
        (usbAllTimesOnly ++ usbIndividualTimeTable shown) call
  | connection :: connections, disconnection :: disconnections, shown, usbAllTimesOnly, call =>
      let (shown, call) := assignConnection clock connection shown call
      let (shown, call) := assignDisconnection clock disconnection shown call
      printTimes clock connections disconnections initializeUSBTimes
        (usbAllTimesOnly ++ usbIndividualTimeTable shown) call

/-- What `printHTML` has written, and its variables. -/
structure Page where
  out : CppString
  shown : ReportVariables
  usbIterator : Nat := 1
  atLeastOneDiskFound : Bool := false

/-- A turn of the USB loop. -/
def printUSB (clock : TickingClock) (page : Page) (entry : UsbInfo) (call : Nat) : Page × Nat :=
  let usb := assignUSBVariables entry page.shown.usb
  let ((usbAllTimesOnly, times), call) :=
    printTimes clock entry.connectionTimes entry.disconnectionTimes page.shown.times [] call
  ({ page with
      out := page.out ++ usbInfoTable page.usbIterator usb ++ usbTimesTable usbAllTimesOnly
      shown := { page.shown with usb := initializeUSBVariables, times := times }
      usbIterator := page.usbIterator + 1 },
    call)

def assignDiskVariables (libm : Libm) (path : CppString) (disk : HardDiskInfo)
    (shown : DiskVariables) : Option DiskVariables := do
  let size ←
    if disk.size ≠ 0 then humanReadableByteCount libm disk.size true else some shown.diskSize
  some
    { diskPath := path
      diskInterface := disk.diskType
      diskProduct := if disk.product ≠ [] then disk.product else shown.diskProduct
      diskVersion := if disk.version ≠ [] then disk.version else shown.diskVersion
      diskFirmwareVersion := if disk.firmware ≠ [] then disk.firmware else shown.diskFirmwareVersion
      diskSerialNumber :=
        if disk.serialNumber ≠ [] then disk.serialNumber else shown.diskSerialNumber
      diskSize := size }

/-- A turn of the disk loop. -/
def printDisk (libm : Libm) (page : Page) (slot : CppString × HardDiskInfo) : Option Page :=
  if slot.2.isEmpty then
    some { page with shown := { page.shown with disk := initializeDiskVariables } }
  else do
    let disk ← assignDiskVariables libm slot.1 slot.2 page.shown.disk
    some
      { page with
        out := page.out ++ diskInfoTable disk
        shown := { page.shown with disk := initializeDiskVariables }
        atLeastOneDiskFound := true }

/-- The text of report.html, the variables that are left, and the number of calls
of `time`. -/
def printHTMLAt (libm : Libm) (clock : TickingClock) (usbsMap : UsbMap) (disksMap : DisksMap)
    (shown : ReportVariables) : Option ((CppString × ReportVariables) × Nat) := do
  let page : Page := { out := startHTML, shown := shown }
  let (page, calls) := usbsMap.toList.foldl
    (fun written slot => printUSB clock written.1 slot.2 written.2) (page, 0)
  let page := { page with out := page.out ++ beforeHardDisks }
  let page ← disksMap.toList.foldlM (printDisk libm) page
  let out := if page.atLeastOneDiskFound then page.out else page.out ++ disksNotFound
  some ((out ++ endHTML, page.shown), calls)

/-- The report of a single instant. -/
def printHTML (libm : Libm) (clock : Clock) (usbsMap : UsbMap) (disksMap : DisksMap)
    (shown : ReportVariables) : Option (CppString × ReportVariables) :=
  (printHTMLAt libm clock.steady usbsMap disksMap shown).map Prod.fst

/-! ## Rows -/

def localTimeText (time : CppString) : CppString :=
  getStringFromTM (convertSyslogTimestampToTm time)

def utcText (clock : Clock) (time : CppString) : CppString :=
  getStringFromTM (getUTCTimeFromLocalTime clock (convertSyslogTimestampToTm time))

def estText (clock : Clock) (time : CppString) : CppString :=
  getStringFromTM
    (getESTTimeFromUTCTime clock (getUTCTimeFromLocalTime clock (convertSyslogTimestampToTm time)))

/-- The cells of a connection time and of a disconnection time, which are empty
without one. -/
def rowOf (clock : Clock) (connection : CppString) (disconnection : Option CppString) : UsbTimes where
  usbLocaltimeConnection := localTimeText connection
  usbLocaltimeDisconnection := (disconnection.map localTimeText).getD []
  usbUtcConnection := utcText clock connection
  usbUtcDisconnection := (disconnection.map (utcText clock)).getD []
  usbEstConnection := estText clock connection
  usbEstDisconnection := (disconnection.map (estText clock)).getD []

/-- One row for each connection time, with the disconnection time at its place. -/
def timeRows (clock : Clock) (connections disconnections : List CppString) : List UsbTimes :=
  connections.mapIdx fun i connection => rowOf clock connection disconnections[i]?

theorem timeRows_getElem? (clock : Clock) (connections disconnections : List CppString) (i : Nat) :
    (timeRows clock connections disconnections)[i]? =
      connections[i]?.map fun connection => rowOf clock connection disconnections[i]? := by
  unfold timeRows
  rw [List.getElem?_mapIdx]

theorem timeRows_cons (clock : Clock) (connection : CppString)
    (connections disconnections : List CppString) :
    timeRows clock (connection :: connections) disconnections =
      rowOf clock connection disconnections.head? ::
        timeRows clock connections disconnections.tail := by
  unfold timeRows
  rw [List.mapIdx_cons]
  cases disconnections with
  | nil => simp
  | cons disconnection disconnections => rfl

/-! ## A turn shows its own entry -/

theorem assignConnection_steady (clock : Clock) (connection : CppString) (call : Nat) :
    assignConnection clock.steady connection initializeUSBTimes call =
      (rowOf clock connection none, call + 3) := by
  unfold assignConnection rowOf localTimeText utcText estText initializeUSBTimes
  simp only [Clock.reading_steady, Option.map_none, Option.getD_none]

theorem assignDisconnection_steady (clock : Clock) (connection disconnection : CppString)
    (call : Nat) :
    assignDisconnection clock.steady disconnection (rowOf clock connection none) call =
      (rowOf clock connection (some disconnection), call + 3) := by
  unfold assignDisconnection rowOf localTimeText utcText estText
  simp only [Clock.reading_steady, Option.map_some, Option.getD_some]

/-- Each turn starts from empty variables, so the rows are those of the pairs. -/
theorem printTimes_eq (clock : Clock) (connections : List CppString) :
    ∀ (disconnections : List CppString) (written : CppString) (call : Nat),
      (printTimes clock.steady connections disconnections initializeUSBTimes written call).1 =
        (written ++ (timeRows clock connections disconnections).flatMap usbIndividualTimeTable,
          initializeUSBTimes) := by
  induction connections with
  | nil =>
      intro disconnections written call
      simp [printTimes, timeRows]
  | cons connection connections ih =>
      intro disconnections written call
      rw [timeRows_cons, List.flatMap_cons, ← List.append_assoc]
      cases disconnections with
      | nil =>
          rw [printTimes, assignConnection_steady]
          exact ih [] _ _
      | cons disconnection disconnections =>
          rw [printTimes, assignConnection_steady]
          simp only
          rw [assignDisconnection_steady]
          exact ih disconnections _ _

/-- What is written for an entry: its information and its times. -/
def usbSection (clock : Clock) (usbIterator : Nat) (entry : UsbInfo) : CppString :=
  usbInfoTable usbIterator (assignUSBVariables entry initializeUSBVariables) ++
    usbTimesTable ((timeRows clock entry.connectionTimes entry.disconnectionTimes).flatMap
      usbIndividualTimeTable)

theorem printUSB_eq (clock : Clock) {page : Page} (entry : UsbInfo) (call : Nat)
    (usb : page.shown.usb = initializeUSBVariables) (times : page.shown.times = initializeUSBTimes) :
    (printUSB clock.steady page entry call).1 =
      { page with
        out := page.out ++ usbSection clock page.usbIterator entry
        usbIterator := page.usbIterator + 1 } := by
  unfold printUSB usbSection
  simp only [usb, times, printTimes_eq]
  cases page with
  | mk out shown usbIterator found =>
      cases shown
      simp only at usb times
      subst usb times
      simp

theorem foldl_printUSB (clock : Clock) (slots : List (CppString × UsbInfo)) :
    ∀ (page : Page) (call : Nat), page.shown.usb = initializeUSBVariables →
      page.shown.times = initializeUSBTimes →
      (slots.foldl (fun written slot => printUSB clock.steady written.1 slot.2 written.2)
          (page, call)).1 =
        { page with
          out := page.out ++ (slots.mapIdx fun i slot =>
            usbSection clock (page.usbIterator + i) slot.2).flatten
          usbIterator := page.usbIterator + slots.length } := by
  induction slots with
  | nil =>
      intro page call _ _
      simp
  | cons slot slots ih =>
      intro page call usb times
      have here := printUSB_eq clock slot.2 call usb times
      cases turn : printUSB clock.steady page slot.2 call with
      | mk page' call' =>
          rw [turn] at here
          simp only at here
          rw [List.foldl_cons, List.mapIdx_cons, turn, ih, here]
          · simp [Nat.add_assoc, Nat.add_comm 1]
          · rw [here]
            exact usb
          · rw [here]
            exact times

/-! ## Disks -/

/-- The tables of the non-empty disks, each from the initial variables. -/
def shownDisks (libm : Libm) (slots : List (CppString × HardDiskInfo)) :
    Option (List DiskVariables) :=
  (slots.filter fun slot => !slot.2.isEmpty).mapM fun slot =>
    assignDiskVariables libm slot.1 slot.2 initializeDiskVariables

/-- A turn leaves the disk variables initial, whether it prints or not. -/
theorem printDisk_eq (libm : Libm) {page : Page} (slot : CppString × HardDiskInfo)
    (initial : page.shown.disk = initializeDiskVariables) :
    printDisk libm page slot =
      (shownDisks libm [slot]).map fun disks =>
        { page with
          out := page.out ++ disks.flatMap diskInfoTable
          atLeastOneDiskFound := page.atLeastOneDiskFound || !disks.isEmpty } := by
  have kept : { page.shown with disk := initializeDiskVariables } = page.shown := by
    rw [← initial]
  unfold printDisk shownDisks
  rw [initial, kept]
  cases empty : slot.2.isEmpty with
  | true => simp [empty]
  | false =>
      cases shown : assignDiskVariables libm slot.1 slot.2 initializeDiskVariables with
      | none => simp [empty, shown]
      | some disk => simp [empty, shown]

theorem shownDisks_cons (libm : Libm) (slot : CppString × HardDiskInfo)
    (slots : List (CppString × HardDiskInfo)) :
    shownDisks libm (slot :: slots) =
      (shownDisks libm [slot]).bind fun first =>
        (shownDisks libm slots).map fun rest => first ++ rest := by
  unfold shownDisks
  cases empty : slot.2.isEmpty with
  | true => simp [empty]
  | false =>
      simp only [List.filter_cons, empty, Bool.not_false, if_true, List.filter_nil, List.mapM_cons,
        List.mapM_nil]
      cases assignDiskVariables libm slot.1 slot.2 initializeDiskVariables with
      | none => rfl
      | some disk =>
          cases (slots.filter fun slot => !slot.2.isEmpty).mapM fun slot =>
            assignDiskVariables libm slot.1 slot.2 initializeDiskVariables <;> rfl

theorem foldlM_printDisk (libm : Libm) (slots : List (CppString × HardDiskInfo)) :
    ∀ page : Page, page.shown.disk = initializeDiskVariables →
      slots.foldlM (printDisk libm) page =
        (shownDisks libm slots).map fun disks =>
          { page with
            out := page.out ++ disks.flatMap diskInfoTable
            atLeastOneDiskFound := page.atLeastOneDiskFound || !disks.isEmpty } := by
  induction slots with
  | nil =>
      intro page _
      simp [shownDisks]
  | cons slot slots ih =>
      intro page initial
      rw [List.foldlM_cons, printDisk_eq libm slot initial, shownDisks_cons libm slot slots]
      cases shownDisks libm [slot] with
      | none => rfl
      | some first =>
          simp only [Option.map_some, Option.bind_eq_bind, Option.bind_some]
          rw [ih]
          · cases shownDisks libm slots with
            | none => rfl
            | some rest => cases first <;> simp
          · exact initial

/-- The page of the entries and of the tables of the disks. -/
def pageText (clock : Clock) (usbsMap : UsbMap) (disks : List DiskVariables) : CppString :=
  startHTML ++ (usbsMap.toList.mapIdx fun i slot => usbSection clock (i + 1) slot.2).flatten ++
    beforeHardDisks ++ disks.flatMap diskInfoTable ++ (if disks = [] then disksNotFound else []) ++
    endHTML

/-- The report is the page of its entries, and leaves the variables as it found
them. -/
theorem printHTML_eq (libm : Libm) (clock : Clock) (usbsMap : UsbMap) (disksMap : DisksMap) :
    printHTML libm clock usbsMap disksMap {} =
      (shownDisks libm disksMap.toList).map fun disks => (pageText clock usbsMap disks, {}) := by
  unfold printHTML printHTMLAt
  simp only
  rw [foldl_printUSB clock _ _ _ rfl rfl, foldlM_printDisk libm _ _ rfl]
  cases shownDisks libm disksMap.toList with
  | none => rfl
  | some disks =>
      have numbers : (fun (i : Nat) (slot : CppString × UsbInfo) => usbSection clock (1 + i) slot.2) =
          fun i slot => usbSection clock (i + 1) slot.2 := by
        funext i slot
        rw [Nat.add_comm]
      simp only [Option.map_some, Option.bind_eq_bind, Option.bind_some, Bool.false_or, numbers]
      unfold pageText
      cases disks with
      | nil => simp
      | cons disk disks => simp

end StoringDevices
