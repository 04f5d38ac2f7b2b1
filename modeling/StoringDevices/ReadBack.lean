import StoringDevices.Lib.Numbers
import StoringDevices.Terminal

/-! # Reading the HTML report back

The tables of report.html, as cutting the page at its table, row and cell tags
gives them.  Nothing is escaped: the values come out as they went in exactly when
none of them holds one of these tags. -/
set_option autoImplicit false

namespace StoringDevices

open Markup (TableText Block Table Clean)

/-! ## Numbers and times hold no tag -/

theorem not_mem_natText (n : Nat) : '<' ∉ (toString n).toList := Numbers.natText_without (by decide) n

theorem not_mem_intText (n : Int) : '<' ∉ (toString n).toList :=
  Numbers.intText_without (by decide) (by decide) n

theorem not_mem_month (m : Fin 12) : '<' ∉ (month.get m).toList := by
  revert m
  decide +kernel

theorem not_mem_getStringFromTM (date : Tm) : '<' ∉ getStringFromTM date := by
  have number : ∀ n : Int, '<' ∉ n.repr.toList := not_mem_intText
  unfold getStringFromTM
  simp only [String.toList_append, List.mem_append, not_or]
  simp [not_mem_month, number]

/-- The letters of a size, digits apart. -/
def sizeLetters : CppString := " BiKMGTPEk\x00".toList

theorem humanReadableByteCount_without {libm : Libm} {bytes : UInt64} {si : Bool}
    {text : CppString} (defined : humanReadableByteCount libm bytes si = some text) {c : Char}
    (noDigit : c.isDigit = false) (outside : c ∉ sizeLetters) : c ∉ text := by
  have bytesUnit : c ∉ " B".toList := fun member =>
    outside ((by decide : " B".toList ⊆ sizeLetters) member)
  unfold humanReadableByteCount at defined
  generalize (if si then 1000 else 1024 : UInt64) = unit at defined
  by_cases small : bytes < unit
  · rw [if_pos small] at defined
    by_cases inside : bytes.toNat ≤ 2
    · rw [if_pos inside, Option.some.injEq] at defined
      rw [← defined]
      intro member
      exact bytesUnit (List.mem_of_mem_drop member)
    · rw [if_neg inside] at defined
      cases defined
  · rw [if_neg small] at defined
    by_cases bad : libm.logQuotient bytes unit < 1 ∨ libm.pow unit (libm.logQuotient bytes unit) = 0
    · simp only [if_pos bad] at defined
      cases defined
    · simp only [if_neg bad] at defined
      obtain ⟨letter, read, written⟩ := Option.bind_eq_some_iff.mp defined
      have known : letter ∈ sizeLetters := by
        have member := List.mem_of_getElem? read
        cases si
        · exact (by decide : "KMGTPE".toList ++ ['\x00'] ⊆ sizeLetters) member
        · exact (by decide : "kMGTPE".toList ++ ['\x00'] ⊆ sizeLetters) member
      have pre : c ∉ cStr (letter :: (if si then "" else "i").toList) := by
        intro member
        rcases List.mem_cons.mp (List.takeWhile_subset _ member) with same | rest
        · exact outside (same ▸ known)
        · cases si
          · exact outside ((by decide : "i".toList ⊆ sizeLetters) rest)
          · cases rest
      rw [← Option.some.inj written, String.toList_append]
      simp only [List.mem_append, not_or]
      exact ⟨⟨Numbers.natText_without noDigit _, fun member =>
          bytesUnit ((by decide : " ".toList ⊆ " B".toList) member)⟩,
        pre, fun member => bytesUnit ((by decide : "B".toList ⊆ " B".toList) member)⟩

theorem not_mem_humanReadableByteCount {libm : Libm} {bytes : UInt64} {si : Bool}
    {text : CppString} (defined : humanReadableByteCount libm bytes si = some text) : '<' ∉ text :=
  humanReadableByteCount_without defined (by decide) (by decide)

/-! ## What the page should read as -/

def UsbSheet.infoRows (sheet : UsbSheet) : Table Char :=
  [[("USB " ++ toString sheet.number).toList,
      (if sheet.connected then "Connected" else "Not connected").toList],
    [fieldLabel "Serial Number", fieldCell "Serial number not found" sheet.serialNumber],
    [fieldLabel "Product Name", fieldCell "Product name not found" sheet.productName],
    [fieldLabel "Manufacturer", fieldCell "Manufacturer not found" sheet.manufacturer],
    [fieldLabel "Vendor ID", fieldCell "Vendor ID not found" sheet.vendorId],
    [fieldLabel "Product ID", fieldCell "Product ID not found" sheet.productId]]

def timeMarked (text : CppString) : CppString := "<time>".toList ++ text ++ "</time>".toList

def timeTexts (shown : UsbTimes) : List CppString :=
  [shown.usbLocaltimeConnection, shown.usbLocaltimeDisconnection, shown.usbUtcConnection,
    shown.usbUtcDisconnection, shown.usbEstConnection, shown.usbEstDisconnection]

def timeCells (shown : UsbTimes) : List CppString := (timeTexts shown).map timeMarked

def UsbSheet.timesRows (clock : Clock) (sheet : UsbSheet) : Table Char :=
  ["Local time".toList, "UTC".toList, "EST".toList] ::
    ["Conections", "Disconnections", "Conections", "Disconnections", "Conections",
      "Disconnections"].map fieldLabel ::
    (timeRows clock sheet.connectionTimes sheet.disconnectionTimes).map timeCells

def DiskSheet.rows (sheet : DiskSheet) : Table Char :=
  [[sheet.path, []],
    [fieldLabel "Disk interface", sheet.interface],
    [fieldLabel "Product", fieldCell "Product not found" sheet.product],
    [fieldLabel "Version", fieldCell "Version not found" sheet.version],
    [fieldLabel "Firmware version", fieldCell "Firmware not found" sheet.firmware],
    [fieldLabel "Serial number", fieldCell "Serial number not found" sheet.serialNumber],
    [fieldLabel "Size", fieldCell "Size not found" sheet.size]]

/-- An information table and a times table for each USB, and a table for each
disk. -/
def pageTables (clock : Clock) (usbs : List UsbSheet) (disks : List DiskSheet) :
    List (Table Char) :=
  (usbs.flatMap fun sheet => [sheet.infoRows, sheet.timesRows clock]) ++ disks.map DiskSheet.rows

theorem contents_usbTable (sheet : UsbSheet) :
    (usbTable sheet.number sheet.connected sheet.cells).contents = sheet.infoRows := by
  unfold UsbSheet.infoRows
  cases sheet.connected <;> rfl

theorem contents_timesTable (clock : Clock) (sheet : UsbSheet) :
    (timesTable (timeRows clock sheet.connectionTimes sheet.disconnectionTimes)).contents =
      sheet.timesRows clock := by
  unfold UsbSheet.timesRows timesTable tableText TableText.contents
  rw [List.map_cons, List.map_cons, List.map_map]
  rfl

theorem contents_diskTable (sheet : DiskSheet) : (diskTable sheet.cells).contents = sheet.rows :=
  rfl

/-! ## The page as blocks -/

theorem contents_pageBlocks (clock : Clock) (usbs : List UsbSheet) (disks : List DiskSheet) :
    (pageBlocks clock usbs disks).flatMap Block.contents = pageTables clock usbs disks := by
  have usb : ∀ sheet : UsbSheet, (sheet.blocks clock).flatMap Block.contents =
      [sheet.infoRows, sheet.timesRows clock] := by
    intro sheet
    rw [← contents_usbTable, ← contents_timesTable]
    rfl
  have disk : ∀ sheet : DiskSheet, sheet.blocks.flatMap Block.contents = [sheet.rows] := by
    intro sheet
    rw [← contents_diskTable]
    rfl
  have plain : ∀ (text : CppString) (free : tagless text = true) (opens : text.head? = some '<'),
      (plainBlock text free opens).contents = [] := fun _ _ _ => rfl
  unfold pageBlocks pageTables
  simp only [List.flatMap_append, List.flatMap_assoc, usb, disk, List.flatMap_cons, List.flatMap_nil,
    plain, List.nil_append, List.append_nil, ← List.map_eq_flatMap]
  split <;> simp [plain]

/-! ## Which cells hold tags -/

theorem clean_of_not_mem {s : CppString} (absent : '<' ∉ s) : Clean htmlTags s :=
  Markup.clean_of_not_mem absent

theorem clean_fieldLabel {label : String} (absent : '<' ∉ label.toList) :
    Clean htmlTags (fieldLabel label) := by
  have front : Clean htmlTags ("<b>".toList ++ label.toList) := by
    apply clean_of_tagless
    simp [tagless, startsTag, tagless_of_not_mem absent]
  have back : tagless "</b>".toList = true ∧ "</b>".toList.head? = some '<' := by decide
  unfold fieldLabel
  rw [String.toList_append, String.toList_append]
  exact front.append (clean_of_tagless back.1) (by
    intro a first
    rw [back.2] at first
    exact (Option.some.inj first).symm)

theorem clean_timeMarked {text : CppString} (absent : '<' ∉ text) :
    Clean htmlTags (timeMarked text) := by
  have front : Clean htmlTags ("<time>".toList ++ text) := by
    apply clean_of_tagless
    simp [tagless, startsTag, tagless_of_not_mem absent]
  have back : tagless "</time>".toList = true ∧ "</time>".toList.head? = some '<' := by decide
  unfold timeMarked
  exact front.append (clean_of_tagless back.1) (by
    intro a first
    rw [back.2] at first
    exact (Option.some.inj first).symm)

theorem clean_fieldCell_knownText {missing : String} (absent : '<' ∉ missing.toList)
    (text : CppString) : Clean htmlTags (fieldCell missing (knownText text)) ↔
      Clean htmlTags text := by
  rw [fieldCell_knownText]
  by_cases empty : text = []
  · rw [if_neg (not_not_intro empty), empty]
    exact iff_of_true (clean_of_not_mem absent) (clean_of_not_mem (by simp))
  · rw [if_pos empty]

theorem clean_fieldCell_knownName {missing : String} (absent : '<' ∉ missing.toList)
    (name : CppString) : Clean htmlTags (fieldCell missing (knownName name)) ↔
      Clean htmlTags name := by
  unfold knownName fieldCell
  by_cases blank : name.all fun c => c = ' '
  · rw [if_pos blank, Option.getD_none]
    refine iff_of_true (clean_of_not_mem absent) (clean_of_not_mem ?_)
    intro member
    exact absurd (List.all_eq_true.mp blank _ member) (by decide)
  · rw [if_neg blank, Option.getD_some]

theorem clean_fieldCell_knownId {missing : String} (absent : '<' ∉ missing.toList) (id : Int) :
    Clean htmlTags (fieldCell missing (knownId id)) := by
  rw [fieldCell_knownId]
  split
  · exact clean_of_not_mem (not_mem_intText id)
  · exact clean_of_not_mem absent

/-- The strings of an entry that its table shows. -/
def UsbInfo.strings (entry : UsbInfo) : List CppString :=
  [entry.serialNumber, entry.productName, entry.manufacturer]

def HardDiskInfo.strings (path : CppString) (disk : HardDiskInfo) : List CppString :=
  [path, disk.diskType, disk.product, disk.version, disk.firmware, disk.serialNumber]

theorem infoRows_clean_iff (number : Nat) (entry : UsbInfo) :
    (∀ cells ∈ (usbSheet number entry).infoRows, ∀ content ∈ cells, Clean htmlTags content) ↔
      ∀ s ∈ entry.strings, Clean htmlTags s := by
  have title : Clean htmlTags ("USB " ++ toString (usbSheet number entry).number).toList := by
    apply clean_of_not_mem
    rw [String.toList_append, List.mem_append, not_or]
    exact ⟨by decide, not_mem_natText number⟩
  have status : Clean htmlTags
      (if (usbSheet number entry).connected then "Connected" else "Not connected").toList := by
    apply clean_of_not_mem
    split <;> decide
  have serial : Clean htmlTags (fieldLabel "Serial Number") := clean_fieldLabel (by decide)
  have product : Clean htmlTags (fieldLabel "Product Name") := clean_fieldLabel (by decide)
  have manufacturer : Clean htmlTags (fieldLabel "Manufacturer") := clean_fieldLabel (by decide)
  have vendor : Clean htmlTags (fieldLabel "Vendor ID") := clean_fieldLabel (by decide)
  have productId : Clean htmlTags (fieldLabel "Product ID") := clean_fieldLabel (by decide)
  unfold UsbSheet.infoRows UsbInfo.strings
  simp only [List.forall_mem_cons, List.not_mem_nil, false_implies, implies_true, and_true, title,
    status, serial, product, manufacturer, vendor, productId, true_and]
  unfold usbSheet
  rw [clean_fieldCell_knownText (by decide), clean_fieldCell_knownText (by decide),
    clean_fieldCell_knownName (by decide)]
  simp only [clean_fieldCell_knownId (by decide : '<' ∉ "Vendor ID not found".toList),
    clean_fieldCell_knownId (by decide : '<' ∉ "Product ID not found".toList), and_true]

theorem timeTexts_not_mem (clock : Clock) (connection : CppString)
    (disconnection : Option CppString) :
    ∀ text ∈ timeTexts (rowOf clock connection disconnection), '<' ∉ text := by
  have written : ∀ date, '<' ∉ getStringFromTM date := not_mem_getStringFromTM
  have empty : '<' ∉ ([] : CppString) := List.not_mem_nil
  unfold timeTexts rowOf localTimeText utcText estText
  cases disconnection with
  | none =>
      simp only [List.forall_mem_cons, Option.map_none, Option.getD_none, written, empty,
        not_false_eq_true, true_and]
      exact fun _ member => absurd member List.not_mem_nil
  | some time =>
      simp only [List.forall_mem_cons, Option.map_some, Option.getD_some, written,
        not_false_eq_true, true_and]
      exact fun _ member => absurd member List.not_mem_nil

theorem timesRows_clean (clock : Clock) (sheet : UsbSheet) :
    ∀ cells ∈ sheet.timesRows clock, ∀ content ∈ cells, Clean htmlTags content := by
  have zones : ∀ content ∈ ["Local time".toList, "UTC".toList, "EST".toList], '<' ∉ content := by
    decide
  have columns : ∀ label ∈ ["Conections", "Disconnections", "Conections", "Disconnections",
      "Conections", "Disconnections"], '<' ∉ label.toList := by
    decide
  intro cells member content inRow
  unfold UsbSheet.timesRows at member
  rcases List.mem_cons.mp member with rfl | member
  · exact clean_of_not_mem (zones content inRow)
  rcases List.mem_cons.mp member with rfl | member
  · obtain ⟨label, column, rfl⟩ := List.mem_map.mp inRow
    exact clean_fieldLabel (columns label column)
  · obtain ⟨row, ofRow, rfl⟩ := List.mem_map.mp member
    obtain ⟨text, shown, rfl⟩ := List.mem_map.mp inRow
    obtain ⟨i, inside, rfl⟩ := List.mem_mapIdx.mp ofRow
    exact clean_timeMarked (timeTexts_not_mem clock _ _ text shown)

theorem rows_clean_iff {libm : Libm} {path : CppString} {disk : HardDiskInfo} {sheet : DiskSheet}
    (shown : diskSheet libm path disk = some sheet) :
    (∀ cells ∈ sheet.rows, ∀ content ∈ cells, Clean htmlTags content) ↔
      ∀ s ∈ disk.strings path, Clean htmlTags s := by
  have interface : Clean htmlTags (fieldLabel "Disk interface") := clean_fieldLabel (by decide)
  have product : Clean htmlTags (fieldLabel "Product") := clean_fieldLabel (by decide)
  have version : Clean htmlTags (fieldLabel "Version") := clean_fieldLabel (by decide)
  have firmware : Clean htmlTags (fieldLabel "Firmware version") := clean_fieldLabel (by decide)
  have serial : Clean htmlTags (fieldLabel "Serial number") := clean_fieldLabel (by decide)
  have sizeLabel : Clean htmlTags (fieldLabel "Size") := clean_fieldLabel (by decide)
  have blank : Clean htmlTags [] := clean_of_not_mem List.not_mem_nil
  obtain ⟨size, sized, rfl⟩ := Option.map_eq_some_iff.mp shown
  have sizeText : Clean htmlTags (fieldCell "Size not found" size) := by
    apply clean_of_not_mem
    cases size with
    | none => exact (by decide : '<' ∉ "Size not found".toList)
    | some text =>
        split at sized
        · cases sized
        · obtain ⟨_, defined, same⟩ := Option.map_eq_some_iff.mp sized
          cases same
          exact not_mem_humanReadableByteCount defined
  unfold DiskSheet.rows HardDiskInfo.strings
  simp only [List.forall_mem_cons, List.not_mem_nil, false_implies, implies_true, and_true, interface,
    product, version, firmware, serial, sizeLabel, blank, sizeText, true_and]
  rw [clean_fieldCell_knownText (by decide), clean_fieldCell_knownText (by decide),
    clean_fieldCell_knownText (by decide), clean_fieldCell_knownText (by decide)]

/-! ## Reading the report back -/

/-- No string of an entry or of a disk that is shown holds a tag of the page. -/
def TagFree (usbsMap : UsbMap) (disksMap : DisksMap) : Prop :=
  (∀ (serial : CppString) (entry : UsbInfo), usbsMap[serial]? = some entry →
      ∀ s ∈ entry.strings, Clean htmlTags s) ∧
    ∀ (path : CppString) (disk : HardDiskInfo), disksMap[path]? = some disk →
      disk.isEmpty = false → ∀ s ∈ disk.strings path, Clean htmlTags s

theorem read_sheetsPage_iff (clock : Clock) (usbs : List UsbSheet) (disks : List DiskSheet) :
    Markup.read htmlTags (sheetsPage clock usbs disks) = some (pageTables clock usbs disks) ↔
      (∀ sheet ∈ usbs, ∀ cells ∈ sheet.infoRows, ∀ content ∈ cells, Clean htmlTags content) ∧
        ∀ sheet ∈ disks, ∀ cells ∈ sheet.rows, ∀ content ∈ cells, Clean htmlTags content := by
  rw [sheetsPage, ← contents_pageBlocks, Markup.read_render_iff, contents_pageBlocks,
    Markup.forall_cellsOf]
  unfold pageTables
  simp only [List.mem_append, or_imp, forall_and, List.mem_map, forall_exists_index, and_imp,
    forall_apply_eq_imp_iff₂]
  refine and_congr_left' ?_
  constructor
  · intro clean sheet member
    exact clean sheet.infoRows (List.mem_flatMap.mpr ⟨sheet, member, List.mem_cons_self⟩)
  · intro clean rows member
    obtain ⟨sheet, shown, table⟩ := List.mem_flatMap.mp member
    rcases List.mem_cons.mp table with rfl | times
    · exact clean sheet shown
    · rw [List.mem_singleton.mp times]
      exact timesRows_clean clock sheet

theorem usbSheets_clean_iff (usbsMap : UsbMap) :
    (∀ sheet ∈ usbSheets usbsMap, ∀ cells ∈ sheet.infoRows, ∀ content ∈ cells,
      Clean htmlTags content) ↔
      ∀ (serial : CppString) (entry : UsbInfo), usbsMap[serial]? = some entry →
        ∀ s ∈ entry.strings, Clean htmlTags s := by
  unfold usbSheets
  constructor
  · intro clean serial entry here
    obtain ⟨i, inside, position⟩ := List.mem_iff_getElem.mp
      (Std.ExtTreeMap.mem_toList_iff_getElem?_eq_some.mpr here)
    refine (infoRows_clean_iff (i + 1) entry).mp (clean _ (List.mem_mapIdx.mpr ⟨i, inside, ?_⟩))
    rw [position]
  · intro clean sheet member
    obtain ⟨i, inside, rfl⟩ := List.mem_mapIdx.mp member
    apply (infoRows_clean_iff (i + 1) _).mpr
    exact clean _ _ (Std.ExtTreeMap.mem_toList_iff_getElem?_eq_some.mp (List.getElem_mem inside))

theorem diskSheets_clean_iff {libm : Libm} {disksMap : DisksMap} {disks : List DiskSheet}
    (shown : diskSheets libm disksMap = some disks) :
    (∀ sheet ∈ disks, ∀ cells ∈ sheet.rows, ∀ content ∈ cells, Clean htmlTags content) ↔
      ∀ (path : CppString) (disk : HardDiskInfo), disksMap[path]? = some disk →
        disk.isEmpty = false → ∀ s ∈ disk.strings path, Clean htmlTags s := by
  rw [Lists.forall_mem_mapM shown]
  constructor
  · intro clean path disk here full
    have member : (path, disk) ∈ disksMap.toList.filter fun slot => !slot.2.isEmpty := by
      rw [List.mem_filter]
      exact ⟨Std.ExtTreeMap.mem_toList_iff_getElem?_eq_some.mpr here, by simp [full]⟩
    obtain ⟨sheet, own, cells⟩ := clean (path, disk) member
    exact (rows_clean_iff own).mp cells
  · intro clean slot member
    obtain ⟨sheet, own⟩ := Lists.exists_of_mapM shown member
    obtain ⟨inMap, full⟩ := List.mem_filter.mp member
    refine ⟨sheet, own, (rows_clean_iff own).mpr ?_⟩
    exact clean slot.1 slot.2 (Std.ExtTreeMap.mem_toList_iff_getElem?_eq_some.mp inMap)
      (by simpa using full)

/-- The report is read back as the tables of its entries and disks exactly when
their strings hold none of its tags. -/
theorem report_reads_back_iff {libm : Libm} {clock : Clock} {usbsMap : UsbMap}
    {disksMap : DisksMap} {html : CppString} {left : ReportVariables}
    (printed : printHTML libm clock usbsMap disksMap {} = some (html, left)) :
    ∃ disks, diskSheets libm disksMap = some disks ∧
      (Markup.read htmlTags html = some (pageTables clock (usbSheets usbsMap) disks) ↔
        TagFree usbsMap disksMap) := by
  rw [printHTML_sheets] at printed
  obtain ⟨disks, shown, same⟩ := Option.map_eq_some_iff.mp printed
  obtain ⟨rfl, _⟩ := Prod.mk.inj same
  refine ⟨disks, shown, ?_⟩
  rw [read_sheetsPage_iff, usbSheets_clean_iff, diskSheets_clean_iff shown]
  rfl

def oneEntry (entry : UsbInfo) : UsbMap := (∅ : UsbMap).insert entry.serialNumber entry

def plainStick : UsbInfo :=
  { connectionTimes := ["Jan 12 09:00:01".toList]
    productName := "Flash <Disk>".toList
    serialNumber := "A1".toList }

def taggedStick : UsbInfo := { plainStick with productName := "Flash</td>".toList }

theorem printHTML_oneEntry (entry : UsbInfo) :
    printHTML Libm.exact summer (oneEntry entry) ∅ {} =
      some (sheetsPage summer (usbSheets (oneEntry entry)) [], {}) := by
  have noDisks : diskSheets Libm.exact ∅ = some [] := rfl
  rw [printHTML_sheets, noDisks, Option.map_some]

theorem plainStick_reads_back :
    ∃ disks, diskSheets Libm.exact ∅ = some disks ∧
      (Markup.read htmlTags (sheetsPage summer (usbSheets (oneEntry plainStick)) []) =
          some (pageTables summer (usbSheets (oneEntry plainStick)) disks) ↔
        TagFree (oneEntry plainStick) ∅) :=
  report_reads_back_iff (printHTML_oneEntry plainStick)

/-- A product name with the end of a cell in it changes the table. -/
theorem taggedStick_misread :
    diskSheets Libm.exact ∅ = some [] ∧
      printHTML Libm.exact summer (oneEntry taggedStick) ∅ {} =
        some (sheetsPage summer (usbSheets (oneEntry taggedStick)) [], {}) ∧
      Markup.read htmlTags (sheetsPage summer (usbSheets (oneEntry taggedStick)) []) ≠
        some (pageTables summer (usbSheets (oneEntry taggedStick)) []) := by
  refine ⟨rfl, printHTML_oneEntry taggedStick, ?_⟩
  intro done
  have clean := (usbSheets_clean_iff _).mp ((read_sheetsPage_iff _ _ _).mp done).1
    taggedStick.serialNumber taggedStick
    (by unfold oneEntry; exact Std.ExtTreeMap.getElem?_insert_self) taggedStick.productName
    (by simp [UsbInfo.strings])
  have ending : "Flash</td>".toList = "Flash".toList ++ (cellEnd ++ []) := by
    unfold cellEnd
    repeat rw [String.toList_ofList]
    rfl
  apply clean (.closeCell, cellEnd) (mem_htmlTags (by simp [htmlTagTexts]))
  exact ⟨"Flash".toList, [], by rw [List.append_assoc]; exact ending.symm⟩

end StoringDevices
