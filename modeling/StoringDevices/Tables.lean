import StoringDevices.Html
import StoringDevices.Lib.Markup

/-! # The tables of the page

The tables of report.html with their labels, row by row: of a USB, of its times
and of a disk.  The texts that `printHTML` writes are these tables between texts
without table tags. -/
set_option autoImplicit false

namespace StoringDevices

open Markup (Mark Tags CellText RowText TableText Block Clean)

/-! ## Tags -/

def tableOpen : CppString := "<table align=\"center\">".toList
def tableEnd : CppString := "</table>".toList
def titleRow : CppString := "<tr style=\"background-color:#dadada;\">".toList
def diskRow : CppString := "<tr style=\"background-color:#dadada\">".toList
def rowOpen : CppString := "<tr>".toList
def rowEnd : CppString := "</tr>".toList
def titleCell : CppString := "<th style=\"font-size:20px;\">".toList
def redCell : CppString := "<th style=\"color: red;\">".toList
def greenCell : CppString := "<th style=\"color: green;\">".toList
def zoneCell : CppString := "<th colspan=\"2\" style=\"background-color:#dadada\">".toList
def columnCell : CppString := "<th style=\"background-color:#dadada\">".toList
def headCell : CppString := "<th>".toList
def labelCell : CppString := "<td style=\"background-color:#dadada\">".toList
def valueCell : CppString := "<td>".toList
def headEnd : CppString := "</th>".toList
def cellEnd : CppString := "</td>".toList

def htmlTagTexts : List (Mark × CppString) :=
  [(.openTable, tableOpen), (.closeTable, tableEnd), (.openRow, titleRow), (.openRow, diskRow),
    (.openRow, rowOpen), (.closeRow, rowEnd), (.openCell, titleCell), (.openCell, redCell),
    (.openCell, greenCell), (.openCell, zoneCell), (.openCell, columnCell), (.openCell, headCell),
    (.openCell, labelCell), (.openCell, valueCell), (.closeCell, headEnd), (.closeCell, cellEnd)]

theorem htmlTagTexts_begin : ∀ tag ∈ htmlTagTexts,
    tag.2.head? = some '<' ∧ '<' ∉ tag.2.tail := by
  unfold htmlTagTexts tableOpen tableEnd titleRow diskRow rowOpen rowEnd titleCell redCell greenCell
    zoneCell columnCell headCell labelCell valueCell headEnd cellEnd
  repeat rw [String.toList_ofList]
  decide +kernel

theorem htmlTagTexts_apart : ∀ tag ∈ htmlTagTexts, ∀ tag' ∈ htmlTagTexts,
    tag.2 <+: tag'.2 → tag = tag' := by
  unfold htmlTagTexts tableOpen tableEnd titleRow diskRow rowOpen rowEnd titleCell redCell greenCell
    zoneCell columnCell headCell labelCell valueCell headEnd cellEnd
  repeat rw [String.toList_ofList]
  decide +kernel

/-- The tags `printHTML` writes. -/
def htmlTags : Tags Char where
  opener := '<'
  all := htmlTagTexts
  begins tag known := by
    obtain ⟨first, once⟩ := htmlTagTexts_begin tag known
    exact ⟨tag.2.tail, (List.cons_head?_tail first).symm, once⟩
  apart := htmlTagTexts_apart

theorem mem_htmlTags {tag : Mark × CppString} (known : tag ∈ htmlTagTexts) : tag ∈ htmlTags.all :=
  known

/-! ## The tables of the page -/

def thText (opening : CppString) (known : (Mark.openCell, opening) ∈ htmlTagTexts)
    (content : CppString) : CellText htmlTags :=
  ⟨⟨opening, known⟩, content, ⟨headEnd, mem_htmlTags (by simp [htmlTagTexts])⟩⟩

def tdText (opening : CppString) (known : (Mark.openCell, opening) ∈ htmlTagTexts)
    (content : CppString) : CellText htmlTags :=
  ⟨⟨opening, known⟩, content, ⟨cellEnd, mem_htmlTags (by simp [htmlTagTexts])⟩⟩

def trText (opening : CppString) (known : (Mark.openRow, opening) ∈ htmlTagTexts)
    (cells : List (CellText htmlTags)) : RowText htmlTags :=
  ⟨⟨opening, known⟩, cells, ⟨rowEnd, mem_htmlTags (by simp [htmlTagTexts])⟩⟩

def tableText (rows : List (RowText htmlTags)) : TableText htmlTags :=
  ⟨⟨tableOpen, mem_htmlTags (by simp [htmlTagTexts])⟩, rows,
    ⟨tableEnd, mem_htmlTags (by simp [htmlTagTexts])⟩⟩

def fieldLabel (label : String) : CppString := ("<b>" ++ label ++ "</b>").toList

/-- A label and its value. -/
def fieldRow (label : String) (value : CppString) : RowText htmlTags :=
  trText rowOpen (by simp [htmlTagTexts])
    [tdText labelCell (by simp [htmlTagTexts]) (fieldLabel label),
      tdText valueCell (by simp [htmlTagTexts]) value]

def statusCell (connected : Bool) : CellText htmlTags :=
  if connected then thText greenCell (by simp [htmlTagTexts]) "Connected".toList
  else thText redCell (by simp [htmlTagTexts]) "Not connected".toList

def usbTable (number : Nat) (connected : Bool) (shown : UsbVariables) : TableText htmlTags :=
  tableText
    [trText titleRow (by simp [htmlTagTexts])
        [thText titleCell (by simp [htmlTagTexts]) ("USB " ++ toString number).toList,
          statusCell connected],
      fieldRow "Serial Number" shown.usbSerialNumber,
      fieldRow "Product Name" shown.usbProductName,
      fieldRow "Manufacturer" shown.usbManufacturer,
      fieldRow "Vendor ID" shown.usbVendorId,
      fieldRow "Product ID" shown.usbProductId]

def timeCellText (text : CppString) : CellText htmlTags :=
  tdText valueCell (by simp [htmlTagTexts]) ("<time>".toList ++ text ++ "</time>".toList)

def timesRow (shown : UsbTimes) : RowText htmlTags :=
  trText rowOpen (by simp [htmlTagTexts])
    [timeCellText shown.usbLocaltimeConnection, timeCellText shown.usbLocaltimeDisconnection,
      timeCellText shown.usbUtcConnection, timeCellText shown.usbUtcDisconnection,
      timeCellText shown.usbEstConnection, timeCellText shown.usbEstDisconnection]

def zonesRow : RowText htmlTags :=
  trText rowOpen (by simp [htmlTagTexts])
    (["Local time", "UTC", "EST"].map fun zone =>
      thText zoneCell (by simp [htmlTagTexts]) zone.toList)

def columnsRow : RowText htmlTags :=
  trText rowOpen (by simp [htmlTagTexts])
    (["Conections", "Disconnections", "Conections", "Disconnections", "Conections",
        "Disconnections"].map fun column =>
      thText columnCell (by simp [htmlTagTexts]) (fieldLabel column))

def timesTable (rows : List UsbTimes) : TableText htmlTags :=
  tableText (zonesRow :: columnsRow :: rows.map timesRow)

def diskTable (shown : DiskVariables) : TableText htmlTags :=
  tableText
    [trText diskRow (by simp [htmlTagTexts])
        [thText titleCell (by simp [htmlTagTexts]) shown.diskPath,
          thText headCell (by simp [htmlTagTexts]) []],
      fieldRow "Disk interface" shown.diskInterface,
      fieldRow "Product" shown.diskProduct,
      fieldRow "Version" shown.diskVersion,
      fieldRow "Firmware version" shown.diskFirmwareVersion,
      fieldRow "Serial number" shown.diskSerialNumber,
      fieldRow "Size" shown.diskSize]

/-! ## The tables as they are written -/

def statusText (connected : Bool) : CppString :=
  if connected then "green;\">Connected".toList else "red;\">Not connected".toList

theorem greenCell_status : greenCell ++ "Connected".toList =
    "<th style=\"color: ".toList ++ "green;\">Connected".toList := by
  unfold greenCell
  repeat rw [String.toList_ofList]
  rfl

theorem redCell_status : redCell ++ "Not connected".toList =
    "<th style=\"color: ".toList ++ "red;\">Not connected".toList := by
  unfold redCell
  repeat rw [String.toList_ofList]
  rfl

theorem render_statusCell (connected : Bool) :
    (statusCell connected).render =
      "<th style=\"color: ".toList ++ (statusText connected ++ headEnd) := by
  cases connected with
  | true =>
      have written : (statusCell true).render = greenCell ++ ("Connected".toList ++ headEnd) := rfl
      rw [written, ← List.append_assoc, greenCell_status, List.append_assoc]
      rfl
  | false =>
      have written : (statusCell false).render = redCell ++ ("Not connected".toList ++ headEnd) := rfl
      rw [written, ← List.append_assoc, redCell_status, List.append_assoc]
      rfl

/-- What stands before the value of a field. -/
def fieldLead (label : String) : CppString :=
  rowOpen ++ (labelCell ++ (fieldLabel label ++ (cellEnd ++ valueCell)))

theorem render_fieldRow (label : String) (value : CppString) :
    (fieldRow label value).render = fieldLead label ++ (value ++ (cellEnd ++ rowEnd)) := by
  simp [fieldRow, fieldLead, RowText.render, CellText.render, trText, tdText]

/-- From the end of a value to the next one. -/
def nextField (label : String) : CppString := cellEnd ++ (rowEnd ++ fieldLead label)

theorem nextField_usb :
    ["Product Name", "Manufacturer", "Vendor ID", "Product ID"].map nextField =
      ["</td></tr><tr><td style=\"background-color:#dadada\"><b>Product Name</b></td><td>".toList,
        "</td></tr><tr><td style=\"background-color:#dadada\"><b>Manufacturer</b></td><td>".toList,
        "</td></tr><tr><td style=\"background-color:#dadada\"><b>Vendor ID</b></td><td>".toList,
        "</td></tr><tr><td style=\"background-color:#dadada\"><b>Product ID</b></td><td>".toList] := by
  simp only [List.map_cons, List.map_nil, nextField, fieldLead, fieldLabel, String.toList_append]
  unfold rowOpen rowEnd labelCell valueCell cellEnd
  repeat rw [String.toList_ofList]
  rfl

theorem nextField_disk :
    ["Product", "Version", "Firmware version", "Serial number", "Size"].map nextField =
      ["</td></tr><tr><td style=\"background-color:#dadada\"><b>Product</b></td><td>".toList,
        "</td></tr><tr><td style=\"background-color:#dadada\"><b>Version</b></td><td>".toList,
        "</td></tr><tr><td style=\"background-color:#dadada\"><b>Firmware version</b></td><td>".toList,
        "</td></tr><tr><td style=\"background-color:#dadada\"><b>Serial number</b></td><td>".toList,
        "</td></tr><tr><td style=\"background-color:#dadada\"><b>Size</b></td><td>".toList] := by
  simp only [List.map_cons, List.map_nil, nextField, fieldLead, fieldLabel, String.toList_append]
  unfold rowOpen rowEnd labelCell valueCell cellEnd
  repeat rw [String.toList_ofList]
  rfl

theorem usbTitle_eq (number : Nat) :
    ("<table align=\"center\"><tr style=\"background-color:#dadada;\"><th style=\"font-size:20px;\">USB " ++
      toString number).toList =
      tableOpen ++ (titleRow ++ (titleCell ++ ("USB " ++ toString number).toList)) := by
  have front : "<table align=\"center\"><tr style=\"background-color:#dadada;\"><th style=\"font-size:20px;\">USB ".toList =
      tableOpen ++ (titleRow ++ (titleCell ++ "USB ".toList)) := by
    unfold tableOpen titleRow titleCell
    repeat rw [String.toList_ofList]
    rfl
  rw [String.toList_append, String.toList_append, front]
  simp only [List.append_assoc]

theorem usbFirstField_eq :
    "</th></tr><tr><td style=\"background-color:#dadada\"><b>Serial Number</b></td><td>".toList =
      headEnd ++ (rowEnd ++ fieldLead "Serial Number") := by
  unfold fieldLead fieldLabel rowOpen rowEnd labelCell valueCell cellEnd headEnd
  repeat rw [String.toList_append]
  repeat rw [String.toList_ofList]
  rfl

theorem tableEnd_eq : "</td></tr></table>".toList = cellEnd ++ (rowEnd ++ tableEnd) := by
  unfold cellEnd rowEnd tableEnd
  repeat rw [String.toList_ofList]
  rfl

/-- The text `printHTML` writes for a USB is the table of its values. -/
theorem render_usbTable (number : Nat) (connected : Bool) {shown : UsbVariables}
    (status : shown.usbConnected = statusText connected) :
    (usbTable number connected shown).render = usbInfoTable number shown := by
  have fields := nextField_usb
  simp only [List.map_cons, List.map_nil, List.cons.injEq, nextField, and_true] at fields
  obtain ⟨product, manufacturer, vendor, productId⟩ := fields
  have statusEnd : "</th><th style=\"color: ".toList = headEnd ++ "<th style=\"color: ".toList := by
    unfold headEnd
    repeat rw [String.toList_ofList]
    rfl
  have title : (trText titleRow (by simp [htmlTagTexts])
      [thText titleCell (by simp [htmlTagTexts]) ("USB " ++ toString number).toList,
        statusCell connected]).render =
      titleRow ++ (titleCell ++ (("USB " ++ toString number).toList ++
        (headEnd ++ ("<th style=\"color: ".toList ++ (statusText connected ++ (headEnd ++ rowEnd)))))) := by
    simp only [trText, RowText.render, List.flatMap_cons, List.flatMap_nil, render_statusCell]
    simp [CellText.render, thText]
  unfold usbInfoTable usbTable tableText TableText.render
  rw [usbTitle_eq, usbFirstField_eq, ← product, ← manufacturer, ← vendor, ← productId, tableEnd_eq,
    status, statusEnd]
  simp only [List.flatMap_cons, List.flatMap_nil, title, render_fieldRow, List.append_assoc,
    List.nil_append]

theorem diskTitle_eq :
    "<table align=\"center\"><tr style=\"background-color:#dadada\"><th style=\"font-size:20px;\">".toList =
      tableOpen ++ (diskRow ++ titleCell) := by
  unfold tableOpen diskRow titleCell
  repeat rw [String.toList_ofList]
  rfl

theorem diskFirstField_eq :
    "</th><th></th></tr><tr><td style=\"background-color:#dadada\"><b>Disk interface</b></td><td>".toList =
      headEnd ++ (headCell ++ (headEnd ++ (rowEnd ++ fieldLead "Disk interface"))) := by
  unfold fieldLead fieldLabel rowOpen rowEnd labelCell valueCell cellEnd headEnd headCell
  repeat rw [String.toList_append]
  repeat rw [String.toList_ofList]
  rfl

def afterTable : CppString := "<br><br><br><br>".toList

theorem render_diskTable (shown : DiskVariables) :
    (diskTable shown).render ++ afterTable = diskInfoTable shown := by
  have fields := nextField_disk
  simp only [List.map_cons, List.map_nil, List.cons.injEq, nextField, and_true] at fields
  obtain ⟨product, version, firmware, serial, size⟩ := fields
  have ending : "</td></tr></table><br><br><br><br>".toList =
      cellEnd ++ (rowEnd ++ (tableEnd ++ afterTable)) := by
    unfold cellEnd rowEnd tableEnd afterTable
    repeat rw [String.toList_ofList]
    rfl
  have title : (trText diskRow (by simp [htmlTagTexts])
      [thText titleCell (by simp [htmlTagTexts]) shown.diskPath,
        thText headCell (by simp [htmlTagTexts]) []]).render =
      diskRow ++ (titleCell ++ (shown.diskPath ++ (headEnd ++ (headCell ++ (headEnd ++ rowEnd))))) := by
    simp [trText, RowText.render, CellText.render, thText]
  unfold diskInfoTable diskTable tableText TableText.render
  rw [diskTitle_eq, diskFirstField_eq, ← product, ← version, ← firmware, ← serial, ← size, ending]
  simp only [List.flatMap_cons, List.flatMap_nil, title, render_fieldRow, List.append_assoc,
    List.nil_append]

def timesIntro : CppString :=
  "<p style=\"text-align: center;\">Connection and disconnection times in different time zones:</p>".toList

theorem render_timesRow (shown : UsbTimes) :
    (timesRow shown).render = usbIndividualTimeTable shown := by
  have opening : "<td><time>".toList = valueCell ++ "<time>".toList := by
    unfold valueCell
    repeat rw [String.toList_ofList]
    rfl
  have closing : "</time></td>".toList = "</time>".toList ++ cellEnd := by
    unfold cellEnd
    repeat rw [String.toList_ofList]
    rfl
  have cell : ∀ text, (timeCellText text).render = timeCell text := by
    intro text
    unfold timeCell
    rw [opening, closing]
    simp only [timeCellText, tdText, CellText.render, List.append_assoc]
  unfold usbIndividualTimeTable timesRow trText RowText.render
  simp only [List.flatMap_cons, List.flatMap_nil, cell, List.append_assoc, List.nil_append]
  rfl

theorem usbTimesTableHead_eq :
    usbTimesTableHead = timesIntro ++ (tableOpen ++ (zonesRow.render ++ columnsRow.render)) := by
  unfold usbTimesTableHead timesIntro zonesRow columnsRow trText RowText.render
  simp only [List.map_cons, List.map_nil, List.flatMap_cons, List.flatMap_nil, thText,
    CellText.render, fieldLabel, String.toList_append]
  unfold tableOpen rowOpen zoneCell columnCell headEnd rowEnd
  repeat rw [String.toList_ofList]
  decide +kernel

theorem render_timesTable (rows : List UsbTimes) :
    timesIntro ++ ((timesTable rows).render ++ afterTable) =
      usbTimesTable (rows.flatMap usbIndividualTimeTable) := by
  have ending : "</table><br><br><br><br>".toList = tableEnd ++ afterTable := by
    unfold tableEnd afterTable
    repeat rw [String.toList_ofList]
    rfl
  have written : (rows.map timesRow).flatMap RowText.render =
      rows.flatMap usbIndividualTimeTable := by
    rw [List.flatMap_map]
    simp only [render_timesRow]
  unfold usbTimesTable timesTable tableText TableText.render
  rw [usbTimesTableHead_eq, ending]
  simp only [List.flatMap_cons, written, List.append_assoc]

/-! ## Texts without tags -/

/-- All tags begin like these. -/
def startsTag : CppString → Bool
  | '<' :: '/' :: 't' :: c :: _ => c = 'a' || c = 'r' || c = 'h' || c = 'd'
  | '<' :: 't' :: c :: _ => c = 'a' || c = 'r' || c = 'h' || c = 'd'
  | _ => false

def tagless : CppString → Bool
  | [] => true
  | c :: s => !startsTag (c :: s) && tagless s

theorem htmlTagTexts_start : ∀ tag ∈ htmlTagTexts, startsTag tag.2 = true := by
  unfold htmlTagTexts tableOpen tableEnd titleRow diskRow rowOpen rowEnd titleCell redCell greenCell
    zoneCell columnCell headCell labelCell valueCell headEnd cellEnd
  repeat rw [String.toList_ofList]
  decide +kernel

theorem startsTag_append {s : CppString} (starts : startsTag s = true) (rest : CppString) :
    startsTag (s ++ rest) = true := by
  unfold startsTag at starts
  split at starts
  · exact starts
  · exact starts
  · cases starts

theorem clean_of_tagless {s : CppString} (free : tagless s = true) : Clean htmlTags s := by
  induction s with
  | nil =>
      intro tag known inside
      obtain ⟨rest, shape, _⟩ := htmlTags.begins tag known
      rw [List.infix_nil.mp inside] at shape
      cases shape
  | cons c s ih =>
      intro tag known inside
      simp only [tagless, Bool.and_eq_true, Bool.not_eq_true'] at free
      rcases List.infix_cons_iff.mp inside with first | later
      · obtain ⟨rest, split⟩ := first
        have starts := startsTag_append (htmlTagTexts_start tag known) rest
        rw [split, free.1] at starts
        cases starts
      · exact ih free.2 tag known later

theorem tagless_of_not_mem {s : CppString} (absent : '<' ∉ s) : tagless s = true := by
  induction s with
  | nil => rfl
  | cons c s ih =>
      rw [List.mem_cons, not_or] at absent
      have other : startsTag (c :: s) = false := by
        unfold startsTag
        split
        · next shape => exact absurd (List.cons.inj shape).1.symm absent.1
        · next shape => exact absurd (List.cons.inj shape).1.symm absent.1
        · rfl
      rw [tagless, other, ih absent.2]
      rfl

def plainBlock (text : CppString) (free : tagless text = true) (opens : text.head? = some '<') :
    Block htmlTags :=
  .plain text (clean_of_tagless free) (by
    intro a first
    rw [opens] at first
    exact (Option.some.inj first).symm)

/-- The texts between the tables. -/
def plainTexts : List CppString :=
  [startHTML, beforeHardDisks, endHTML, disksNotFound, afterTable, timesIntro]

theorem plainTexts_plain :
    ∀ text ∈ plainTexts, tagless text = true ∧ text.head? = some '<' := by
  unfold plainTexts startHTML beforeHardDisks endHTML disksNotFound afterTable timesIntro
  repeat rw [String.toList_ofList]
  decide +kernel

theorem startHTML_plain : tagless startHTML = true ∧ startHTML.head? = some '<' :=
  plainTexts_plain startHTML (by simp [plainTexts])

theorem beforeHardDisks_plain :
    tagless beforeHardDisks = true ∧ beforeHardDisks.head? = some '<' :=
  plainTexts_plain beforeHardDisks (by simp [plainTexts])

theorem endHTML_plain : tagless endHTML = true ∧ endHTML.head? = some '<' :=
  plainTexts_plain endHTML (by simp [plainTexts])

theorem disksNotFound_plain : tagless disksNotFound = true ∧ disksNotFound.head? = some '<' :=
  plainTexts_plain disksNotFound (by simp [plainTexts])

theorem afterTable_plain : tagless afterTable = true ∧ afterTable.head? = some '<' :=
  plainTexts_plain afterTable (by simp [plainTexts])

theorem timesIntro_plain : tagless timesIntro = true ∧ timesIntro.head? = some '<' :=
  plainTexts_plain timesIntro (by simp [plainTexts])

end StoringDevices
