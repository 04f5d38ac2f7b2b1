import StoringDevices.Lib.Nesting
import StoringDevices.Origins
import StoringDevices.Rotation

/-! # The report is well-nested HTML

Every element that `printHTML` opens it closes, innermost first, when the strings
it shows are nested themselves; it escapes nothing, so this is all that it can
promise.  The strings of the log and of the disks are nested when no `<` is in
them. -/
set_option autoImplicit false

namespace StoringDevices

open Nesting (Moves Nested nested_of_not_mem nested_flatten nested_flatMap)

/-! ## Elements -/

/-- `br` and the document type have no end tag; a name ends at the first blank. -/
def html : Nesting.Grammar Char CppString where
  opener := '<'
  closer := '>'
  tag letters :=
    match letters with
    | '/' :: name => .closes name
    | '!' :: _ => .neither
    | _ =>
        let name := letters.takeWhile fun c => c ≠ ' '
        if name = "br".toList then .neither else .opens name

def cellOf (cell : String) : List CppString := [cell.toList, "tr".toList, "table".toList]

/-- The tags of a USB table, between its values. -/
theorem usbInfoTable_tags :
    Moves html "<table align=\"center\"><tr style=\"background-color:#dadada;\"><th style=\"font-size:20px;\">USB ".toList
      [] (cellOf "th") ∧
    Moves html ("</th><th style=\"color: ".toList ++ "green;\">Connected".toList) (cellOf "th") (cellOf "th") ∧
    Moves html ("</th><th style=\"color: ".toList ++ "red;\">Not connected".toList) (cellOf "th") (cellOf "th") ∧
    Moves html "</th></tr><tr><td style=\"background-color:#dadada\"><b>Serial Number</b></td><td>".toList
      (cellOf "th") (cellOf "td") ∧
    Moves html "</td></tr><tr><td style=\"background-color:#dadada\"><b>Product Name</b></td><td>".toList
      (cellOf "td") (cellOf "td") ∧
    Moves html "</td></tr><tr><td style=\"background-color:#dadada\"><b>Manufacturer</b></td><td>".toList
      (cellOf "td") (cellOf "td") ∧
    Moves html "</td></tr><tr><td style=\"background-color:#dadada\"><b>Vendor ID</b></td><td>".toList
      (cellOf "td") (cellOf "td") ∧
    Moves html "</td></tr><tr><td style=\"background-color:#dadada\"><b>Product ID</b></td><td>".toList
      (cellOf "td") (cellOf "td") ∧
    Moves html "</td></tr></table>".toList (cellOf "td") [] := by
  unfold cellOf
  repeat rw [String.toList_ofList]
  decide +kernel

theorem nested_ite {p : Prop} [Decidable p] {s t : CppString} (first : Nested html s)
    (second : Nested html t) : Nested html (if p then s else t) := by
  split
  · exact first
  · exact second

theorem nested_natText (n : Nat) : Nested html (toString n).toList :=
  nested_of_not_mem (not_mem_natText n)

theorem nested_intText (n : Int) : Nested html (toString n).toList :=
  nested_of_not_mem (not_mem_intText n)

theorem nested_missing : ∀ s ∈ ["Serial number not found", "Product name not found",
    "Manufacturer not found", "Vendor ID not found", "Product ID not found", "Product not found",
    "Version not found", "Firmware not found", "Size not found"], Nested html s.toList := by
  have plain : ∀ s ∈ ["Serial number not found", "Product name not found",
      "Manufacturer not found", "Vendor ID not found", "Product ID not found", "Product not found",
      "Version not found", "Firmware not found", "Size not found"], '<' ∉ s.toList := by
    decide
  intro s member
  exact nested_of_not_mem (plain s member)

theorem usbInfoTable_nested (number : Nat) {entry : UsbInfo}
    (strings : ∀ s ∈ entry.strings, Nested html s) :
    Nested html (usbInfoTable number (assignUSBVariables entry initializeUSBVariables)) := by
  obtain ⟨title, green, red, serial, product, manufacturer, vendor, productId, ending⟩ :=
    usbInfoTable_tags
  have status : Moves html ("</th><th style=\"color: ".toList ++
      (assignUSBVariables entry initializeUSBVariables).usbConnected) (cellOf "th") (cellOf "th") := by
    have shown : (assignUSBVariables entry initializeUSBVariables).usbConnected =
        if entry.connectionTimes.length > entry.disconnectionTimes.length then
          "green;\">Connected".toList else "red;\">Not connected".toList := rfl
    rw [shown]
    by_cases more : entry.connectionTimes.length > entry.disconnectionTimes.length
    · rw [if_pos more]
      exact green
    · rw [if_neg more]
      exact red
  have serialNumber : Nested html (assignUSBVariables entry initializeUSBVariables).usbSerialNumber :=
    nested_ite (strings _ (by simp [UsbInfo.strings])) (nested_missing _ (by simp))
  have productName : Nested html (assignUSBVariables entry initializeUSBVariables).usbProductName :=
    nested_ite (strings _ (by simp [UsbInfo.strings])) (nested_missing _ (by simp))
  have maker : Nested html (assignUSBVariables entry initializeUSBVariables).usbManufacturer :=
    nested_ite (strings _ (by simp [UsbInfo.strings])) (nested_missing _ (by simp))
  have vendorId : Nested html (assignUSBVariables entry initializeUSBVariables).usbVendorId :=
    nested_ite (nested_intText _) (nested_missing _ (by simp))
  have idProduct : Nested html (assignUSBVariables entry initializeUSBVariables).usbProductId :=
    nested_ite (nested_intText _) (nested_missing _ (by simp))
  unfold usbInfoTable
  rw [String.toList_append]
  exact Moves.append (Moves.append (Moves.append (Moves.append (Moves.append (Moves.append
    (Moves.append (title.append ((nested_natText number).moves _)) status)
    (serial.append (serialNumber.moves _))) (product.append (productName.moves _)))
    (manufacturer.append (maker.moves _))) (vendor.append (vendorId.moves _)))
    (productId.append (idProduct.moves _))) ending

/-! ## Times -/

theorem usbTimesTable_tags :
    Moves html usbTimesTableHead [] ["table".toList] ∧
    Moves html "</table><br><br><br><br>".toList ["table".toList] [] ∧
    Moves html "<tr>".toList [] ["tr".toList] ∧ Moves html "</tr>".toList ["tr".toList] [] ∧
    Moves html "<td><time>".toList [] ["time".toList, "td".toList] ∧
    Moves html "</time></td>".toList ["time".toList, "td".toList] [] := by
  unfold usbTimesTableHead
  repeat rw [String.toList_ofList]
  decide +kernel

theorem timeCell_nested {text : CppString} (nested : Nested html text) :
    Nested html (timeCell text) := by
  obtain ⟨_, _, _, _, opens, closes⟩ := usbTimesTable_tags
  exact nested.between opens closes

theorem usbIndividualTimeTable_nested {shown : UsbTimes}
    (plain : ∀ text ∈ timeTexts shown, '<' ∉ text) : Nested html (usbIndividualTimeTable shown) := by
  obtain ⟨_, _, opens, closes, _, _⟩ := usbTimesTable_tags
  have cells : ∀ text ∈ timeTexts shown, Nested html (timeCell text) := fun text member =>
    timeCell_nested (nested_of_not_mem (plain text member))
  have row : usbIndividualTimeTable shown =
      "<tr>".toList ++ (timeTexts shown).flatMap timeCell ++ "</tr>".toList := by
    unfold usbIndividualTimeTable timeTexts
    simp only [List.flatMap_cons, List.flatMap_nil, List.append_nil, List.append_assoc]
  rw [row]
  exact (nested_flatMap cells).between opens closes

theorem usbSection_nested (clock : Clock) (number : Nat) {entry : UsbInfo}
    (strings : ∀ s ∈ entry.strings, Nested html s) :
    Nested html (usbSection clock number entry) := by
  obtain ⟨opens, closes, _, _, _, _⟩ := usbTimesTable_tags
  have rows : ∀ row ∈ timeRows clock entry.connectionTimes entry.disconnectionTimes,
      Nested html (usbIndividualTimeTable row) := by
    intro row member
    obtain ⟨i, inside, rfl⟩ := List.mem_mapIdx.mp member
    exact usbIndividualTimeTable_nested (timeTexts_not_mem clock _ _)
  exact (usbInfoTable_nested number strings).append ((nested_flatMap rows).between opens closes)

/-! ## Disks -/

theorem diskInfoTable_tags :
    Moves html "<table align=\"center\"><tr style=\"background-color:#dadada\"><th style=\"font-size:20px;\">".toList
      [] (cellOf "th") ∧
    Moves html "</th><th></th></tr><tr><td style=\"background-color:#dadada\"><b>Disk interface</b></td><td>".toList
      (cellOf "th") (cellOf "td") ∧
    Moves html "</td></tr><tr><td style=\"background-color:#dadada\"><b>Product</b></td><td>".toList
      (cellOf "td") (cellOf "td") ∧
    Moves html "</td></tr><tr><td style=\"background-color:#dadada\"><b>Version</b></td><td>".toList
      (cellOf "td") (cellOf "td") ∧
    Moves html "</td></tr><tr><td style=\"background-color:#dadada\"><b>Firmware version</b></td><td>".toList
      (cellOf "td") (cellOf "td") ∧
    Moves html "</td></tr><tr><td style=\"background-color:#dadada\"><b>Serial number</b></td><td>".toList
      (cellOf "td") (cellOf "td") ∧
    Moves html "</td></tr><tr><td style=\"background-color:#dadada\"><b>Size</b></td><td>".toList
      (cellOf "td") (cellOf "td") ∧
    Moves html "</td></tr></table><br><br><br><br>".toList (cellOf "td") [] := by
  unfold cellOf
  repeat rw [String.toList_ofList]
  decide +kernel

/-- The cells of a disk of which only the size may be missing. -/
theorem assignDiskVariables_size {libm : Libm} {path : CppString} {disk : HardDiskInfo}
    {shown : DiskVariables}
    (assigned : assignDiskVariables libm path disk initializeDiskVariables = some shown) :
    Nested html shown.diskSize ∧
      shown =
        { diskPath := path
          diskInterface := disk.diskType
          diskProduct := if disk.product ≠ [] then disk.product
            else initializeDiskVariables.diskProduct
          diskVersion := if disk.version ≠ [] then disk.version
            else initializeDiskVariables.diskVersion
          diskFirmwareVersion := if disk.firmware ≠ [] then disk.firmware
            else initializeDiskVariables.diskFirmwareVersion
          diskSerialNumber := if disk.serialNumber ≠ [] then disk.serialNumber
            else initializeDiskVariables.diskSerialNumber
          diskSize := shown.diskSize } := by
  unfold assignDiskVariables at assigned
  by_cases noSize : disk.size = 0
  · rw [if_neg (not_not_intro noSize)] at assigned
    cases assigned
    exact ⟨nested_missing "Size not found" (by simp), rfl⟩
  · rw [if_pos noSize] at assigned
    cases sized : humanReadableByteCount libm disk.size true with
    | none =>
        rw [sized] at assigned
        cases assigned
    | some size =>
        rw [sized] at assigned
        cases assigned
        exact ⟨nested_of_not_mem (not_mem_humanReadableByteCount sized), rfl⟩

theorem diskInfoTable_nested {libm : Libm} {path : CppString} {disk : HardDiskInfo}
    {shown : DiskVariables}
    (assigned : assignDiskVariables libm path disk initializeDiskVariables = some shown)
    (strings : ∀ s ∈ disk.strings path, Nested html s) : Nested html (diskInfoTable shown) := by
  obtain ⟨title, interface, product, version, firmware, serial, sizeLead, ending⟩ :=
    diskInfoTable_tags
  obtain ⟨sizeText, cells⟩ := assignDiskVariables_size assigned
  have pathText : Nested html shown.diskPath := by
    rw [cells]
    exact strings _ (by simp [HardDiskInfo.strings])
  have typeText : Nested html shown.diskInterface := by
    rw [cells]
    exact strings _ (by simp [HardDiskInfo.strings])
  have productText : Nested html shown.diskProduct := by
    rw [cells]
    exact nested_ite (strings _ (by simp [HardDiskInfo.strings])) (nested_missing _ (by simp))
  have versionText : Nested html shown.diskVersion := by
    rw [cells]
    exact nested_ite (strings _ (by simp [HardDiskInfo.strings])) (nested_missing _ (by simp))
  have firmwareText : Nested html shown.diskFirmwareVersion := by
    rw [cells]
    exact nested_ite (strings _ (by simp [HardDiskInfo.strings])) (nested_missing _ (by simp))
  have serialText : Nested html shown.diskSerialNumber := by
    rw [cells]
    exact nested_ite (strings _ (by simp [HardDiskInfo.strings])) (nested_missing _ (by simp))
  unfold diskInfoTable
  exact Moves.append (Moves.append (Moves.append (Moves.append (Moves.append (Moves.append
    (Moves.append (title.append (pathText.moves _)) (interface.append (typeText.moves _)))
    (product.append (productText.moves _))) (version.append (versionText.moves _)))
    (firmware.append (firmwareText.moves _))) (serial.append (serialText.moves _)))
    (sizeLead.append (sizeText.moves _))) ending

/-! ## The page -/

theorem page_tags :
    Moves html startHTML [] ["body".toList, "html".toList] ∧ Nested html beforeHardDisks ∧
    Nested html disksNotFound ∧ Moves html endHTML ["body".toList, "html".toList] [] := by
  unfold startHTML beforeHardDisks disksNotFound endHTML
  repeat rw [String.toList_ofList]
  decide +kernel

/-- The strings of the entries, and of the disks that are shown, are nested. -/
def NestedStrings (usbsMap : UsbMap) (disksMap : DisksMap) : Prop :=
  (∀ (serial : CppString) (entry : UsbInfo), usbsMap[serial]? = some entry →
      ∀ s ∈ entry.strings, Nested html s) ∧
    ∀ (path : CppString) (disk : HardDiskInfo), disksMap[path]? = some disk →
      disk.isEmpty = false → ∀ s ∈ disk.strings path, Nested html s

theorem pageText_nested {libm : Libm} {usbsMap : UsbMap} {disksMap : DisksMap}
    (strings : NestedStrings usbsMap disksMap) (clock : Clock) {disks : List DiskVariables}
    (shown : shownDisks libm disksMap.toList = some disks) :
    Nested html (pageText clock usbsMap disks) := by
  obtain ⟨start, before, notFound, ending⟩ := page_tags
  have usbs : Nested html
      (usbsMap.toList.mapIdx fun i slot => usbSection clock (i + 1) slot.2).flatten := by
    apply nested_flatten
    intro section_ member
    obtain ⟨i, inside, rfl⟩ := List.mem_mapIdx.mp member
    apply usbSection_nested clock
    exact strings.1 _ _ (Std.ExtTreeMap.mem_toList_iff_getElem?_eq_some.mp (List.getElem_mem inside))
  have tables : Nested html (disks.flatMap diskInfoTable) := by
    apply nested_flatMap
    rw [Lists.forall_mem_mapM shown]
    intro slot member
    obtain ⟨cells, assigned⟩ := Lists.exists_of_mapM shown member
    obtain ⟨inMap, full⟩ := List.mem_filter.mp member
    refine ⟨cells, assigned, diskInfoTable_nested assigned ?_⟩
    exact strings.2 slot.1 slot.2 (Std.ExtTreeMap.mem_toList_iff_getElem?_eq_some.mp inMap)
      (by simpa using full)
  have last : Nested html (if disks = [] then disksNotFound else []) :=
    nested_ite notFound Nesting.nested_nil
  exact Moves.append (Moves.append (Moves.append (Moves.append (Moves.append start (usbs.moves _))
    (before.moves _)) (tables.moves _)) (last.moves _)) ending

/-- Whatever the maps, the page of nested strings is nested. -/
theorem printHTML_nested {libm : Libm} {clock : Clock} {usbsMap : UsbMap} {disksMap : DisksMap}
    {page : CppString} {left : ReportVariables}
    (printed : printHTML libm clock usbsMap disksMap {} = some (page, left))
    (strings : NestedStrings usbsMap disksMap) : Nested html page := by
  rw [printHTML_eq] at printed
  obtain ⟨disks, shown, same⟩ := Option.map_eq_some_iff.mp printed
  obtain ⟨rfl, _⟩ := Prod.mk.inj same
  exact pageText_nested strings clock shown

/-- A product name with an element of its own. -/
def markedStick : UsbInfo := { plainStick with productName := "Flash <b>Disk</b>".toList }

theorem markedStick_nested :
    Nested html (sheetsPage summer (usbSheets (oneEntry markedStick)) []) := by
  apply printHTML_nested (printHTML_oneEntry markedStick)
  refine ⟨?_, ?_⟩
  · intro serial entry present
    unfold oneEntry at present
    rw [Std.ExtTreeMap.getElem?_insert] at present
    split at present
    · cases present
      unfold markedStick plainStick UsbInfo.strings
      simp only [List.forall_mem_cons]
      repeat rw [String.toList_ofList]
      decide +kernel
    · cases present
  · intro path disk present
    cases present

/-! ## Logs without a `<` -/

theorem printHTML_noDisks (clock : Clock) (usbsMap : UsbMap) :
    printHTML Libm.exact clock usbsMap ∅ {} =
      some (sheetsPage clock (usbSheets usbsMap) [], {}) := by
  have noDisks : diskSheets Libm.exact ∅ = some [] := rfl
  rw [printHTML_sheets, noDisks, Option.map_some]

/-- A log without a `<` gives a nested page, if the disks do. -/
theorem plain_log_page_nested {log : List LogLine} (plain : ∀ line ∈ log, '<' ∉ cStr line.text)
    {libm : Libm} {clock : Clock} {disksMap : DisksMap} {final : UsbMap}
    (found : getUSBsInfo log = some final)
    (disks : ∀ (path : CppString) (disk : HardDiskInfo), disksMap[path]? = some disk →
      disk.isEmpty = false → ∀ s ∈ disk.strings path, '<' ∉ s)
    {page : CppString} {left : ReportVariables}
    (printed : printHTML libm clock final disksMap {} = some (page, left)) : Nested html page := by
  rw [printHTML_eq] at printed
  obtain ⟨shownOnes, shown, same⟩ := Option.map_eq_some_iff.mp printed
  obtain ⟨rfl, _⟩ := Prod.mk.inj same
  refine pageText_nested ⟨?_, ?_⟩ clock shown
  · intro serial entry present s member
    rw [getUSBsInfo_eq] at found
    cases found
    rcases (finalUsbMap_origins log serial entry present).strings_inLines s member with rfl | ⟨line, known, inside⟩
    · exact Nesting.nested_nil
    · exact nested_of_not_mem fun here => plain line known (inside.subset here)
  · intro path disk present full s member
    exact nested_of_not_mem (disks path disk present full s member)

theorem stickSession_page_nested :
    Nested html (sheetsPage summer (usbSheets (finalUsbMap stickSession)) []) := by
  apply plain_log_page_nested _ (getUSBsInfo_eq stickSession) _
    (printHTML_noDisks summer (finalUsbMap stickSession))
  · decide +kernel
  · intro path disk present
    cases present

end StoringDevices
