import StoringDevices.Tables

/-! # The terminal report

The terminal printers decide each field at its entry; `printHTML` passes it
through a variable.  Both are renderings of the same sheets, one for each entry,
on which a field is either known or not: the terminal as labelled lines, the page
as labelled tables. -/
set_option autoImplicit false

namespace StoringDevices

open Markup (Block)

/-! ## The printers -/

def endl : CppString := ['\n']

def timeLine (time : CppString) : CppString := "   ".toList ++ time ++ endl

/-- A turn of the loop of `printUSBsMapInTerminal`. -/
def printUSBInTerminal (n : Nat) (entry : UsbInfo) : CppString :=
  ("||| USB " ++ toString n ++ " |||").toList ++ endl ++
    ("Connection times:".toList ++ endl) ++ entry.connectionTimes.flatMap timeLine ++
    ("Disconnection times:".toList ++ endl) ++ entry.disconnectionTimes.flatMap timeLine ++
    (if entry.idVendor = 0 then "Vendor ID not found".toList ++ endl
      else "Vendor ID: ".toList ++ (toString entry.idVendor).toList ++ endl) ++
    (if entry.idProduct = 0 then "Product ID not found".toList ++ endl
      else "Product ID: ".toList ++ (toString entry.idProduct).toList ++ endl) ++
    (if entry.productName = [] then "Product name not found".toList ++ endl
      else "Product name: ".toList ++ entry.productName ++ endl) ++
    (if entry.manufacturer = [] ∨ (entry.manufacturer.find? fun c => c ≠ ' ').isNone then
        "Manufacturer not found".toList ++ endl
      else "Manufacturer: ".toList ++ entry.manufacturer ++ endl) ++
    (if entry.serialNumber = [] then "Serial number not found".toList ++ endl
      else "Serial number: ".toList ++ entry.serialNumber ++ endl) ++
    endl

def printUSBsMapInTerminal (usbsMap : UsbMap) : CppString :=
  (usbsMap.toList.foldl
    (fun (written : CppString × Nat) slot =>
      (written.1 ++ printUSBInTerminal written.2 slot.2, written.2 + 1))
    ([], 1)).1

def diskLines (path : CppString) (disk : HardDiskInfo) (sizeLine : CppString) : CppString :=
  ("||| ".toList ++ path ++ " |||".toList ++ endl) ++
    ("Disk interface: ".toList ++ disk.diskType ++ endl) ++
    (if disk.product = [] then "Product not found".toList ++ endl
      else "Product: ".toList ++ disk.product ++ endl) ++
    (if disk.version = [] then "Version not found".toList ++ endl
      else "Version: ".toList ++ disk.version ++ endl) ++
    (if disk.firmware = [] then "Firmware version not found".toList ++ endl
      else "Firmware version: ".toList ++ disk.firmware ++ endl) ++
    (if disk.serialNumber = [] then "Serial number not found".toList ++ endl
      else "Serial number: ".toList ++ disk.serialNumber ++ endl) ++
    sizeLine ++ endl

/-- A turn of the loop of `printDisksMapInTerminal`. -/
def printDiskInTerminal (libm : Libm) (written : CppString) (slot : CppString × HardDiskInfo) :
    Option CppString :=
  if slot.2.isEmpty then some written
  else do
    let sizeLine ←
      if slot.2.size = 0 then some ("Size not found".toList ++ endl)
      else (humanReadableByteCount libm slot.2.size true).map fun size =>
        "Size: ".toList ++ size ++ endl
    some (written ++ diskLines slot.1 slot.2 sizeLine)

def printDisksMapInTerminal (libm : Libm) (disksMap : DisksMap) : Option CppString :=
  disksMap.toList.foldlM (printDiskInTerminal libm) []

/-! ## Sheets -/

/-- What is reported of a USB; a field that is `none` is reported missing. -/
structure UsbSheet where
  number : Nat
  serialNumber : Option CppString
  productName : Option CppString
  manufacturer : Option CppString
  vendorId : Option CppString
  productId : Option CppString
  connectionTimes : List CppString
  disconnectionTimes : List CppString

structure DiskSheet where
  path : CppString
  interface : CppString
  product : Option CppString
  version : Option CppString
  firmware : Option CppString
  serialNumber : Option CppString
  size : Option CppString

def knownText (text : CppString) : Option CppString := if text = [] then none else some text

def knownId (id : Int) : Option CppString := if id = 0 then none else some (toString id).toList

/-- A name of blanks is not known. -/
def knownName (name : CppString) : Option CppString :=
  if name.all fun c => c = ' ' then none else some name

def usbSheet (number : Nat) (entry : UsbInfo) : UsbSheet where
  number := number
  serialNumber := knownText entry.serialNumber
  productName := knownText entry.productName
  manufacturer := knownName entry.manufacturer
  vendorId := knownId entry.idVendor
  productId := knownId entry.idProduct
  connectionTimes := entry.connectionTimes
  disconnectionTimes := entry.disconnectionTimes

/-- One sheet for each entry, numbered in the order of the serials. -/
def usbSheets (usbsMap : UsbMap) : List UsbSheet :=
  usbsMap.toList.mapIdx fun i slot => usbSheet (i + 1) slot.2

/-- `none` when the size has no defined text. -/
def diskSheet (libm : Libm) (path : CppString) (disk : HardDiskInfo) : Option DiskSheet :=
  (if disk.size = 0 then some none else (humanReadableByteCount libm disk.size true).map some).map
    fun size =>
      { path := path
        interface := disk.diskType
        product := knownText disk.product
        version := knownText disk.version
        firmware := knownText disk.firmware
        serialNumber := knownText disk.serialNumber
        size := size }

/-- One sheet for each disk that is not empty. -/
def diskSheets (libm : Libm) (disksMap : DisksMap) : Option (List DiskSheet) :=
  (disksMap.toList.filter fun slot => !slot.2.isEmpty).mapM fun slot =>
    diskSheet libm slot.1 slot.2

/-! ## Renderings -/

def fieldLine (label missing : String) : Option CppString → CppString
  | none => missing.toList ++ endl
  | some value => (label ++ ": ").toList ++ value ++ endl

def fieldCell (missing : String) (field : Option CppString) : CppString := field.getD missing.toList

namespace UsbSheet
variable (sheet : UsbSheet)

def terminal : CppString :=
  ("||| USB " ++ toString sheet.number ++ " |||").toList ++ endl ++
    ("Connection times:".toList ++ endl) ++ sheet.connectionTimes.flatMap timeLine ++
    ("Disconnection times:".toList ++ endl) ++ sheet.disconnectionTimes.flatMap timeLine ++
    fieldLine "Vendor ID" "Vendor ID not found" sheet.vendorId ++
    fieldLine "Product ID" "Product ID not found" sheet.productId ++
    fieldLine "Product name" "Product name not found" sheet.productName ++
    fieldLine "Manufacturer" "Manufacturer not found" sheet.manufacturer ++
    fieldLine "Serial number" "Serial number not found" sheet.serialNumber ++ endl

/-- Still plugged in, as far as the times tell. -/
def connected : Bool := sheet.connectionTimes.length > sheet.disconnectionTimes.length

/-- The cells of the table of the sheet. -/
def cells : UsbVariables where
  usbConnected :=
    if sheet.connectionTimes.length > sheet.disconnectionTimes.length then
      "green;\">Connected".toList
    else "red;\">Not connected".toList
  usbSerialNumber := fieldCell "Serial number not found" sheet.serialNumber
  usbProductName := fieldCell "Product name not found" sheet.productName
  usbManufacturer := fieldCell "Manufacturer not found" sheet.manufacturer
  usbVendorId := fieldCell "Vendor ID not found" sheet.vendorId
  usbProductId := fieldCell "Product ID not found" sheet.productId

/-- The table of the sheet and the table of its times. -/
def blocks (clock : Clock) : List (Block htmlTags) :=
  [.table (usbTable sheet.number sheet.connected sheet.cells),
    plainBlock timesIntro timesIntro_plain.1 timesIntro_plain.2,
    .table (timesTable (timeRows clock sheet.connectionTimes sheet.disconnectionTimes)),
    plainBlock afterTable afterTable_plain.1 afterTable_plain.2]

def html (clock : Clock) : CppString := (sheet.blocks clock).flatMap Block.render

end UsbSheet

namespace DiskSheet
variable (sheet : DiskSheet)

def terminal : CppString :=
  ("||| ".toList ++ sheet.path ++ " |||".toList ++ endl) ++
    ("Disk interface: ".toList ++ sheet.interface ++ endl) ++
    fieldLine "Product" "Product not found" sheet.product ++
    fieldLine "Version" "Version not found" sheet.version ++
    fieldLine "Firmware version" "Firmware version not found" sheet.firmware ++
    fieldLine "Serial number" "Serial number not found" sheet.serialNumber ++
    fieldLine "Size" "Size not found" sheet.size ++ endl

/-- The cells of the table of the sheet. -/
def cells : DiskVariables where
  diskPath := sheet.path
  diskInterface := sheet.interface
  diskProduct := fieldCell "Product not found" sheet.product
  diskVersion := fieldCell "Version not found" sheet.version
  diskFirmwareVersion := fieldCell "Firmware not found" sheet.firmware
  diskSerialNumber := fieldCell "Serial number not found" sheet.serialNumber
  diskSize := fieldCell "Size not found" sheet.size

def blocks : List (Block htmlTags) :=
  [.table (diskTable sheet.cells), plainBlock afterTable afterTable_plain.1 afterTable_plain.2]

def html : CppString := sheet.blocks.flatMap Block.render

end DiskSheet

/-- The tables of the sheets, and what stands between them. -/
def pageBlocks (clock : Clock) (usbs : List UsbSheet) (disks : List DiskSheet) :
    List (Block htmlTags) :=
  [plainBlock startHTML startHTML_plain.1 startHTML_plain.2] ++
    usbs.flatMap (fun sheet => sheet.blocks clock) ++
    [plainBlock beforeHardDisks beforeHardDisks_plain.1 beforeHardDisks_plain.2] ++
    disks.flatMap DiskSheet.blocks ++
    (if disks = [] then [plainBlock disksNotFound disksNotFound_plain.1 disksNotFound_plain.2]
      else []) ++
    [plainBlock endHTML endHTML_plain.1 endHTML_plain.2]

/-- The page that shows the sheets. -/
def sheetsPage (clock : Clock) (usbs : List UsbSheet) (disks : List DiskSheet) : CppString :=
  (pageBlocks clock usbs disks).flatMap Block.render

/-! ## Both reports render the sheets -/

theorem knownName_eq (name : CppString) : knownName name =
    if name = [] ∨ (name.find? fun c => c ≠ ' ').isNone then none else some name := by
  unfold knownName
  by_cases blank : name.all fun c => c = ' '
  · have missing : (name.find? fun c => c ≠ ' ').isNone = true := by
      rw [Option.isNone_iff_eq_none, List.find?_eq_none]
      intro c member
      simpa using List.all_eq_true.mp blank c member
    rw [if_pos blank, if_pos (.inr missing)]
  · rw [if_neg blank, if_neg]
    intro missing
    apply blank
    rcases missing with rfl | missing
    · rfl
    · rw [Option.isNone_iff_eq_none, List.find?_eq_none] at missing
      apply List.all_eq_true.mpr
      intro c member
      simpa using missing c member

theorem fieldCell_knownText (missing : String) (text : CppString) :
    fieldCell missing (knownText text) = if text ≠ [] then text else missing.toList := by
  unfold fieldCell knownText
  by_cases empty : text = []
  · rw [if_pos empty, if_neg (not_not_intro empty), Option.getD_none]
  · rw [if_neg empty, if_pos empty, Option.getD_some]

theorem fieldCell_knownId (missing : String) (id : Int) :
    fieldCell missing (knownId id) = if id ≠ 0 then (toString id).toList else missing.toList := by
  unfold fieldCell knownId
  by_cases zero : id = 0
  · rw [if_pos zero, if_neg (not_not_intro zero), Option.getD_none]
  · rw [if_neg zero, if_pos zero, Option.getD_some]

theorem fieldCell_knownName (missing : String) (name : CppString) :
    fieldCell missing (knownName name) =
      if name ≠ [] ∧ (name.find? fun c => c ≠ ' ').isSome then name else missing.toList := by
  rw [knownName_eq]
  unfold fieldCell
  by_cases unknown : name = [] ∨ (name.find? fun c => c ≠ ' ').isNone = true
  · rw [if_pos unknown, if_neg, Option.getD_none]
    intro known
    rcases unknown with empty | blank
    · exact known.1 empty
    · rw [Option.isNone_iff_eq_none.mp blank] at known
      exact absurd known.2 (by simp)
  · rw [if_neg unknown, if_pos, Option.getD_some]
    rw [not_or] at unknown
    exact ⟨unknown.1, by simpa using unknown.2⟩

theorem fieldLine_ite {p : Prop} [Decidable p] (label missing : String) (value : CppString) :
    fieldLine label missing (if p then none else some value) =
      if p then missing.toList ++ endl else (label ++ ": ").toList ++ value ++ endl := by
  split <;> rfl

/-- The variables of an entry, from their initial values, are the cells of its
sheet. -/
theorem usbSheet_cells (number : Nat) (entry : UsbInfo) :
    (usbSheet number entry).cells = assignUSBVariables entry initializeUSBVariables := by
  unfold usbSheet UsbSheet.cells assignUSBVariables initializeUSBVariables
  rw [fieldCell_knownText, fieldCell_knownText, fieldCell_knownName, fieldCell_knownId,
    fieldCell_knownId]

theorem usbSheet_terminal (number : Nat) (entry : UsbInfo) :
    (usbSheet number entry).terminal = printUSBInTerminal number entry := by
  unfold usbSheet UsbSheet.terminal printUSBInTerminal
  simp only [knownText, knownId, knownName_eq, fieldLine_ite]
  rfl

/-- The counter of the loop is the number of the sheet. -/
theorem foldl_printUSBInTerminal (slots : List (CppString × UsbInfo)) :
    ∀ (written : CppString) (n : Nat),
      slots.foldl (fun (written : CppString × Nat) slot =>
        (written.1 ++ printUSBInTerminal written.2 slot.2, written.2 + 1)) (written, n) =
      (written ++ (slots.mapIdx fun i slot => printUSBInTerminal (n + i) slot.2).flatten,
        n + slots.length) := by
  induction slots with
  | nil => intro written n; simp
  | cons slot slots ih =>
      intro written n
      rw [List.foldl_cons, ih, List.mapIdx_cons]
      simp [Nat.add_assoc, Nat.add_comm 1]

theorem printUSBsMapInTerminal_eq (usbsMap : UsbMap) :
    printUSBsMapInTerminal usbsMap = (usbSheets usbsMap).flatMap UsbSheet.terminal := by
  unfold printUSBsMapInTerminal usbSheets
  rw [foldl_printUSBInTerminal, List.nil_append, List.flatMap_def, Lists.map_mapIdx]
  simp only [usbSheet_terminal, Nat.add_comm 1]

theorem UsbSheet.html_tables (clock : Clock) (sheet : UsbSheet) :
    sheet.html clock =
      (usbTable sheet.number sheet.connected sheet.cells).render ++ timesIntro ++
        (timesTable (timeRows clock sheet.connectionTimes sheet.disconnectionTimes)).render ++
          afterTable := by
  simp [UsbSheet.html, UsbSheet.blocks, Block.render, plainBlock]

theorem DiskSheet.html_table (sheet : DiskSheet) :
    sheet.html = (diskTable sheet.cells).render ++ afterTable := by
  simp [DiskSheet.html, DiskSheet.blocks, Block.render, plainBlock]

/-- The writers of `printHTML` write the tables of the sheet. -/
theorem UsbSheet.html_eq (clock : Clock) (sheet : UsbSheet) :
    sheet.html clock = usbInfoTable sheet.number sheet.cells ++
      usbTimesTable ((timeRows clock sheet.connectionTimes sheet.disconnectionTimes).flatMap
        usbIndividualTimeTable) := by
  have status : sheet.cells.usbConnected = statusText sheet.connected := by
    unfold UsbSheet.cells UsbSheet.connected statusText
    by_cases more : sheet.connectionTimes.length > sheet.disconnectionTimes.length
    · simp only [more, if_true, decide_true]
    · simp only [more, if_false, decide_false, Bool.false_eq_true]
  rw [UsbSheet.html_tables, render_usbTable _ _ status, ← render_timesTable]
  simp only [List.append_assoc]

theorem DiskSheet.html_eq (sheet : DiskSheet) : sheet.html = diskInfoTable sheet.cells := by
  rw [DiskSheet.html_table, render_diskTable]

theorem sheetsPage_eq (clock : Clock) (usbs : List UsbSheet) (disks : List DiskSheet) :
    sheetsPage clock usbs disks =
      startHTML ++ (usbs.flatMap fun sheet => sheet.html clock) ++ beforeHardDisks ++
        disks.flatMap DiskSheet.html ++ (if disks = [] then disksNotFound else []) ++ endHTML := by
  have plain : ∀ (text : CppString) (free : tagless text = true) (opens : text.head? = some '<'),
      (plainBlock text free opens).render = text := fun _ _ _ => rfl
  have disk : ∀ sheet : DiskSheet, sheet.blocks.flatMap Block.render = sheet.html := fun _ => rfl
  unfold sheetsPage pageBlocks
  simp only [List.flatMap_append, List.flatMap_assoc, List.flatMap_cons, List.flatMap_nil, plain,
    disk, List.append_nil]
  split <;> simp [plain, UsbSheet.html]

theorem usbSections_eq (clock : Clock) (usbsMap : UsbMap) :
    (usbsMap.toList.mapIdx fun i slot => usbSection clock (i + 1) slot.2).flatten =
      (usbSheets usbsMap).flatMap fun sheet => sheet.html clock := by
  unfold usbSheets
  rw [List.flatMap_def, Lists.map_mapIdx]
  simp only [UsbSheet.html_eq, usbSheet_cells, usbSection]
  rfl

theorem diskSheet_cells (libm : Libm) (path : CppString) (disk : HardDiskInfo) :
    (diskSheet libm path disk).map DiskSheet.cells =
      assignDiskVariables libm path disk initializeDiskVariables := by
  unfold diskSheet assignDiskVariables
  by_cases noSize : disk.size = 0
  · rw [if_pos noSize, if_neg (not_not_intro noSize)]
    simp only [Option.map_some, DiskSheet.cells, fieldCell_knownText]
    rfl
  · rw [if_neg noSize, if_pos noSize]
    cases humanReadableByteCount libm disk.size true with
    | none => rfl
    | some size =>
        simp only [Option.map_some, DiskSheet.cells, fieldCell_knownText]
        rfl

theorem printDiskInTerminal_eq (libm : Libm) (written : CppString)
    (slot : CppString × HardDiskInfo) (full : slot.2.isEmpty = false) :
    printDiskInTerminal libm written slot =
      (diskSheet libm slot.1 slot.2).map fun sheet => written ++ sheet.terminal := by
  have lines : ∀ size, diskLines slot.1 slot.2 (fieldLine "Size" "Size not found" size) =
      DiskSheet.terminal
        { path := slot.1
          interface := slot.2.diskType
          product := knownText slot.2.product
          version := knownText slot.2.version
          firmware := knownText slot.2.firmware
          serialNumber := knownText slot.2.serialNumber
          size := size } := by
    intro size
    unfold diskLines DiskSheet.terminal
    simp only [knownText, fieldLine_ite]
    rfl
  unfold printDiskInTerminal diskSheet
  rw [full]
  by_cases noSize : slot.2.size = 0
  · rw [if_pos noSize, if_pos noSize, Option.map_some, Option.map_some, ← lines]
    rfl
  · rw [if_neg noSize, if_neg noSize]
    cases humanReadableByteCount libm slot.2.size true with
    | none => rfl
    | some size =>
        rw [Option.map_some, Option.map_some, Option.map_some, Option.map_some, ← lines]
        rfl

theorem shownDisks_eq (libm : Libm) (disksMap : DisksMap) :
    shownDisks libm disksMap.toList = (diskSheets libm disksMap).map (List.map DiskSheet.cells) := by
  unfold shownDisks diskSheets
  simp only [← diskSheet_cells]
  exact Lists.mapM_map_some _ _ _

theorem foldlM_printDiskInTerminal (libm : Libm) (slots : List (CppString × HardDiskInfo)) :
    ∀ written : CppString,
      slots.foldlM (printDiskInTerminal libm) written =
        ((slots.filter fun slot => !slot.2.isEmpty).mapM fun slot =>
          diskSheet libm slot.1 slot.2).map fun sheets =>
            written ++ sheets.flatMap DiskSheet.terminal := by
  induction slots with
  | nil => intro written; simp
  | cons slot slots ih =>
      intro written
      rw [List.foldlM_cons]
      cases full : slot.2.isEmpty with
      | true =>
          have skipped : printDiskInTerminal libm written slot = some written := by
            rw [printDiskInTerminal, if_pos full]
          rw [skipped, Option.bind_eq_bind, Option.bind_some, ih, List.filter_cons_of_neg]
          simp [full]
      | false =>
          rw [printDiskInTerminal_eq libm written slot full, List.filter_cons_of_pos (by simp [full]),
            List.mapM_cons]
          cases diskSheet libm slot.1 slot.2 with
          | none => rfl
          | some sheet =>
              simp only [Option.map_some, Option.bind_eq_bind, Option.bind_some]
              rw [ih]
              cases (slots.filter fun slot => !slot.2.isEmpty).mapM fun slot =>
                diskSheet libm slot.1 slot.2 with
              | none => rfl
              | some sheets => simp

theorem printDisksMapInTerminal_eq (libm : Libm) (disksMap : DisksMap) :
    printDisksMapInTerminal libm disksMap =
      (diskSheets libm disksMap).map (List.flatMap DiskSheet.terminal) := by
  unfold printDisksMapInTerminal diskSheets
  rw [foldlM_printDiskInTerminal]
  rfl

theorem printHTML_sheets (libm : Libm) (clock : Clock) (usbsMap : UsbMap) (disksMap : DisksMap) :
    printHTML libm clock usbsMap disksMap {} =
      (diskSheets libm disksMap).map fun disks =>
        (sheetsPage clock (usbSheets usbsMap) disks, {}) := by
  rw [printHTML_eq, shownDisks_eq, Option.map_map]
  cases diskSheets libm disksMap with
  | none => rw [Option.map_none, Option.map_none]
  | some disks =>
      have tables : (disks.map DiskSheet.cells).flatMap diskInfoTable =
          disks.flatMap DiskSheet.html := by
        have each : ∀ sheet : DiskSheet, diskInfoTable sheet.cells = sheet.html := fun sheet =>
          (DiskSheet.html_eq sheet).symm
        rw [List.flatMap_map]
        simp only [each]
      have none : disks.map DiskSheet.cells = [] ↔ disks = [] := List.map_eq_nil_iff
      rw [Option.map_some, Option.map_some, Function.comp_apply]
      unfold pageText
      rw [usbSections_eq, tables, sheetsPage_eq]
      simp only [none]

/-- The HTML page and the lines of the terminal show the same sheets, in the
order of the maps; when the size of a disk has no text, neither is printed. -/
theorem reports_show_sheets (libm : Libm) (clock : Clock) (usbsMap : UsbMap)
    (disksMap : DisksMap) :
    printUSBsMapInTerminal usbsMap = (usbSheets usbsMap).flatMap UsbSheet.terminal ∧
      printDisksMapInTerminal libm disksMap =
        (diskSheets libm disksMap).map (List.flatMap DiskSheet.terminal) ∧
      printHTML libm clock usbsMap disksMap {} =
        (diskSheets libm disksMap).map fun disks =>
          (sheetsPage clock (usbSheets usbsMap) disks, {}) :=
  ⟨printUSBsMapInTerminal_eq usbsMap, printDisksMapInTerminal_eq libm disksMap,
    printHTML_sheets libm clock usbsMap disksMap⟩

end StoringDevices
