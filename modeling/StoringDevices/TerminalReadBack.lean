import StoringDevices.Origins
import StoringDevices.Program

/-! # Reading the terminal back

The terminal report is made of lines, and no text that it shows has a newline
unless a disk answers with one.  A reader that knows the titles and the labels
then finds the sheets again: nothing that the log says can pass for another
field, another row or another device. -/
set_option autoImplicit false

namespace StoringDevices

open Lines (lines unlines)

/-! ## The lines of a sheet -/

def usbTitle (number : Nat) : CppString := ("||| USB " ++ toString number ++ " |||").toList

def indented (time : CppString) : CppString := "   ".toList ++ time

def fieldText (label missing : String) : Option CppString → CppString
  | none => missing.toList
  | some value => (label ++ ": ").toList ++ value

def UsbSheet.lines (sheet : UsbSheet) : List CppString :=
  usbTitle sheet.number :: "Connection times:".toList ::
    (sheet.connectionTimes.map indented ++ "Disconnection times:".toList ::
      (sheet.disconnectionTimes.map indented ++
        [fieldText "Vendor ID" "Vendor ID not found" sheet.vendorId,
          fieldText "Product ID" "Product ID not found" sheet.productId,
          fieldText "Product name" "Product name not found" sheet.productName,
          fieldText "Manufacturer" "Manufacturer not found" sheet.manufacturer,
          fieldText "Serial number" "Serial number not found" sheet.serialNumber,
          []]))

def diskTitle (path : CppString) : CppString := "||| ".toList ++ path ++ " |||".toList

def DiskSheet.lines (sheet : DiskSheet) : List CppString :=
  [diskTitle sheet.path,
    "Disk interface: ".toList ++ sheet.interface,
    fieldText "Product" "Product not found" sheet.product,
    fieldText "Version" "Version not found" sheet.version,
    fieldText "Firmware version" "Firmware version not found" sheet.firmware,
    fieldText "Serial number" "Serial number not found" sheet.serialNumber,
    fieldText "Size" "Size not found" sheet.size,
    []]

theorem fieldLine_eq (label missing : String) (field : Option CppString) :
    fieldLine label missing field = fieldText label missing field ++ ['\n'] := by
  cases field <;> rfl

theorem timeLines_eq (times : List CppString) :
    times.flatMap timeLine = unlines '\n' (times.map indented) := by
  unfold unlines
  rw [List.flatMap_map]
  rfl

theorem UsbSheet.terminal_eq (sheet : UsbSheet) : sheet.terminal = unlines '\n' sheet.lines := by
  unfold UsbSheet.terminal UsbSheet.lines
  simp only [fieldLine_eq, timeLines_eq, unlines, List.flatMap_cons, List.flatMap_append,
    List.flatMap_nil, List.append_assoc, List.append_nil, List.nil_append, endl, usbTitle]

theorem DiskSheet.terminal_eq (sheet : DiskSheet) : sheet.terminal = unlines '\n' sheet.lines := by
  unfold DiskSheet.terminal DiskSheet.lines
  simp only [fieldLine_eq, unlines, List.flatMap_cons, List.flatMap_nil, List.append_assoc,
    List.append_nil, List.nil_append, endl, diskTitle]

/-! ## A reader -/

def skipLine (expected : CppString) : List CppString → Option (List CppString)
  | [] => none
  | line :: rest => if line = expected then some rest else none

def afterLabel (label line : CppString) : Option CppString :=
  if label <+: line then some (line.drop label.length) else none

def readField (label missing : String) :
    List CppString → Option (Option CppString × List CppString)
  | [] => none
  | line :: rest =>
      if line = missing.toList then some (none, rest)
      else (afterLabel (label ++ ": ").toList line).map fun value => (some value, rest)

def readTimes (ls : List CppString) : List CppString × List CppString :=
  ((ls.takeWhile fun line => "   ".toList <+: line).map fun line => line.drop 3,
    ls.dropWhile fun line => "   ".toList <+: line)

def readUsbSheet (number : Nat) (ls : List CppString) : Option (UsbSheet × List CppString) := do
  let ls ← skipLine (usbTitle number) ls
  let ls ← skipLine "Connection times:".toList ls
  let (connectionTimes, ls) := readTimes ls
  let ls ← skipLine "Disconnection times:".toList ls
  let (disconnectionTimes, ls) := readTimes ls
  let (vendorId, ls) ← readField "Vendor ID" "Vendor ID not found" ls
  let (productId, ls) ← readField "Product ID" "Product ID not found" ls
  let (productName, ls) ← readField "Product name" "Product name not found" ls
  let (manufacturer, ls) ← readField "Manufacturer" "Manufacturer not found" ls
  let (serialNumber, ls) ← readField "Serial number" "Serial number not found" ls
  let ls ← skipLine [] ls
  some
    ({ number := number
       serialNumber := serialNumber
       productName := productName
       manufacturer := manufacturer
       vendorId := vendorId
       productId := productId
       connectionTimes := connectionTimes
       disconnectionTimes := disconnectionTimes }, ls)

def readTitle : List CppString → Option (CppString × List CppString)
  | [] => none
  | line :: rest =>
      (afterLabel "||| ".toList line).map fun path => (path.take (path.length - 4), rest)

def readLabelled (label : CppString) : List CppString → Option (CppString × List CppString)
  | [] => none
  | line :: rest => (afterLabel label line).map fun value => (value, rest)

def readDiskSheet (ls : List CppString) : Option (DiskSheet × List CppString) := do
  let (path, ls) ← readTitle ls
  let (interface, ls) ← readLabelled "Disk interface: ".toList ls
  let (product, ls) ← readField "Product" "Product not found" ls
  let (version, ls) ← readField "Version" "Version not found" ls
  let (firmware, ls) ← readField "Firmware version" "Firmware version not found" ls
  let (serialNumber, ls) ← readField "Serial number" "Serial number not found" ls
  let (size, ls) ← readField "Size" "Size not found" ls
  let ls ← skipLine [] ls
  some (⟨path, interface, product, version, firmware, serialNumber, size⟩, ls)

/-- The USBs with this number and the next ones; at most as many as the first
argument says. -/
def readUsbSheets : Nat → Nat → List CppString → List UsbSheet × List CppString
  | 0, _, ls => ([], ls)
  | fuel + 1, number, ls =>
      match readUsbSheet number ls with
      | none => ([], ls)
      | some (sheet, rest) =>
          let (sheets, rest) := readUsbSheets fuel (number + 1) rest
          (sheet :: sheets, rest)

def readDiskSheets : Nat → List CppString → Option (List DiskSheet)
  | _, [] => some []
  | 0, _ :: _ => none
  | fuel + 1, line :: ls => do
      let (sheet, rest) ← readDiskSheet (line :: ls)
      let sheets ← readDiskSheets fuel rest
      some (sheet :: sheets)

def readTerminal (text : CppString) : Option (List UsbSheet × List DiskSheet) :=
  let ls := lines '\n' text
  let (usbs, rest) := readUsbSheets ls.length 1 ls
  (readDiskSheets rest.length rest).map fun disks => (usbs, disks)

/-! ## One sheet -/

theorem skipLine_cons (line : CppString) (rest : List CppString) :
    skipLine line (line :: rest) = some rest := if_pos rfl

theorem afterLabel_append (label value : CppString) :
    afterLabel label (label ++ value) = some value := by
  unfold afterLabel
  rw [if_pos (List.prefix_append label value), List.drop_left]

/-- A missing field does not look like one that is there. -/
def LabelApart (label missing : String) : Prop := ¬ (label ++ ": ").toList <+: missing.toList

instance (label missing : String) : Decidable (LabelApart label missing) :=
  inferInstanceAs (Decidable (¬ _))

theorem readField_cons {label missing : String} (apart : LabelApart label missing)
    (field : Option CppString)
    (rest : List CppString) :
    readField label missing (fieldText label missing field :: rest) = some (field, rest) := by
  cases field with
  | none => exact if_pos rfl
  | some value =>
      have differ : fieldText label missing (some value) ≠ missing.toList := by
        intro same
        apply apart
        rw [← same]
        exact List.prefix_append _ _
      rw [readField, if_neg differ]
      unfold fieldText
      rw [afterLabel_append]
      rfl

theorem readTimes_append (times : List CppString) {line : CppString}
    (flush : ¬ "   ".toList <+: line) (rest : List CppString) :
    readTimes (times.map indented ++ line :: rest) = (times, line :: rest) := by
  have all : ∀ time ∈ times.map indented, decide ("   ".toList <+: time) = true := by
    intro time member
    obtain ⟨text, _, rfl⟩ := List.mem_map.mp member
    exact decide_eq_true (List.prefix_append _ _)
  have same : (times.map indented).map (fun time => time.drop 3) = times := by
    rw [List.map_map]
    exact List.map_id _
  unfold readTimes
  rw [List.takeWhile_append_of_pos all, List.dropWhile_append_of_pos all,
    List.takeWhile_cons_of_neg (by simpa using flush),
    List.dropWhile_cons_of_neg (by simpa using flush), List.append_nil, same]

theorem fieldText_not_indented (label missing : String) (field : Option CppString)
    (first : ¬ "   ".toList <+: missing.toList)
    (letter : ∃ c rest, label.toList = c :: rest ∧ c ≠ ' ') :
    ¬ "   ".toList <+: fieldText label missing field := by
  cases field with
  | none => exact first
  | some value =>
      obtain ⟨c, rest, shape, noBlank⟩ := letter
      have text : fieldText label missing (some value) = c :: (rest ++ ": ".toList ++ value) := by
        unfold fieldText
        rw [String.toList_append, shape]
        rfl
      rw [text]
      intro blank
      obtain ⟨tail, same⟩ := blank
      exact noBlank (List.cons.inj same).1.symm

theorem usbLabels_apart :
    LabelApart "Vendor ID" "Vendor ID not found" ∧ LabelApart "Product ID" "Product ID not found" ∧
      LabelApart "Product name" "Product name not found" ∧
      LabelApart "Manufacturer" "Manufacturer not found" ∧
      LabelApart "Serial number" "Serial number not found" ∧
      ¬ "   ".toList <+: "Disconnection times:".toList ∧
      ¬ "   ".toList <+: "Vendor ID not found".toList := by
  decide +kernel

theorem diskLabels_apart :
    LabelApart "Product" "Product not found" ∧ LabelApart "Version" "Version not found" ∧
      LabelApart "Firmware version" "Firmware version not found" ∧
      LabelApart "Serial number" "Serial number not found" ∧ LabelApart "Size" "Size not found" := by
  decide +kernel

theorem readUsbSheet_append (sheet : UsbSheet) (rest : List CppString) :
    readUsbSheet sheet.number (sheet.lines ++ rest) = some (sheet, rest) := by
  obtain ⟨vendorId, productId, productName, manufacturer, serialNumber, disconnections, vendor⟩ :=
    usbLabels_apart
  have flush : ¬ "   ".toList <+: fieldText "Vendor ID" "Vendor ID not found" sheet.vendorId :=
    fieldText_not_indented _ _ _ vendor ⟨'V', "endor ID".toList, rfl, by decide⟩
  unfold readUsbSheet UsbSheet.lines
  simp only [List.cons_append, List.append_assoc, List.nil_append, skipLine_cons,
    Option.bind_eq_bind, Option.bind_some]
  rw [readTimes_append _ disconnections]
  simp only [skipLine_cons, Option.bind_some]
  rw [readTimes_append _ flush]
  simp only [readField_cons vendorId, readField_cons productId, readField_cons productName,
    readField_cons manufacturer, readField_cons serialNumber, skipLine_cons, Option.bind_some]

theorem readTitle_cons (path : CppString) (rest : List CppString) :
    readTitle (diskTitle path :: rest) = some (path, rest) := by
  have shape : diskTitle path = "||| ".toList ++ (path ++ " |||".toList) := List.append_assoc _ _ _
  have kept : (path ++ " |||".toList).take ((path ++ " |||".toList).length - 4) = path := by
    rw [List.length_append]
    exact List.take_left
  rw [readTitle, shape, afterLabel_append, Option.map_some, kept]

theorem readDiskSheet_append (sheet : DiskSheet) (rest : List CppString) :
    readDiskSheet (sheet.lines ++ rest) = some (sheet, rest) := by
  obtain ⟨product, version, firmware, serialNumber, size⟩ := diskLabels_apart
  unfold readDiskSheet DiskSheet.lines
  simp only [List.cons_append, List.nil_append, readTitle_cons, readLabelled, afterLabel_append,
    Option.map_some, readField_cons product, readField_cons version, readField_cons firmware,
    readField_cons serialNumber, readField_cons size, skipLine_cons, Option.bind_eq_bind,
    Option.bind_some]

/-! ## All sheets -/

/-- The sheets are numbered from the number on. -/
def Numbered : Nat → List UsbSheet → Prop
  | _, [] => True
  | number, sheet :: sheets => sheet.number = number ∧ Numbered (number + 1) sheets

theorem numbered_mapIdx (slots : List (CppString × UsbInfo)) :
    ∀ start : Nat, Numbered (start + 1) (slots.mapIdx fun i slot => usbSheet (i + start + 1) slot.2) := by
  induction slots with
  | nil =>
      intro start
      trivial
  | cons slot slots ih =>
      intro start
      rw [List.mapIdx_cons]
      refine ⟨by simp [usbSheet], ?_⟩
      have rest := ih (start + 1)
      have shift : (fun (i : Nat) (slot : CppString × UsbInfo) => usbSheet (i + 1 + start + 1) slot.2) =
          fun i slot => usbSheet (i + (start + 1) + 1) slot.2 := by
        funext i slot
        rw [Nat.add_right_comm i 1 start, Nat.add_assoc i start 1]
      rw [shift]
      exact rest

theorem usbSheets_numbered (usbsMap : UsbMap) : Numbered 1 (usbSheets usbsMap) :=
  numbered_mapIdx usbsMap.toList 0

theorem length_le_flatMap_lines {A : Type} {f : A → List CppString} (some : ∀ a, f a ≠ [])
    (sheets : List A) : sheets.length ≤ (sheets.flatMap f).length := by
  induction sheets with
  | nil => exact Nat.le_refl 0
  | cons sheet sheets ih =>
      have here : 0 < (f sheet).length := List.length_pos_of_ne_nil (some sheet)
      rw [List.flatMap_cons, List.length_append, List.length_cons]
      omega

/-- The USBs end where no USB is read. -/
theorem readUsbSheets_append {rest : List CppString} (ends : ∀ number, readUsbSheet number rest = none)
    (sheets : List UsbSheet) :
    ∀ (fuel number : Nat), Numbered number sheets → sheets.length ≤ fuel →
      readUsbSheets fuel number (sheets.flatMap UsbSheet.lines ++ rest) = (sheets, rest) := by
  induction sheets with
  | nil =>
      intro fuel number _ _
      cases fuel with
      | zero => rfl
      | succ fuel =>
          rw [readUsbSheets, List.flatMap_nil, List.nil_append, ends number]
  | cons sheet sheets ih =>
      intro fuel number numbered enough
      cases fuel with
      | zero => cases enough
      | succ fuel =>
          obtain ⟨rfl, later⟩ := numbered
          have read := readUsbSheet_append sheet (sheets.flatMap UsbSheet.lines ++ rest)
          rw [readUsbSheets, List.flatMap_cons, List.append_assoc, read]
          simp only
          rw [ih fuel _ later (Nat.le_of_succ_le_succ enough)]

theorem readDiskSheets_lines (sheets : List DiskSheet) :
    ∀ fuel : Nat, sheets.length ≤ fuel →
      readDiskSheets fuel (sheets.flatMap DiskSheet.lines) = some sheets := by
  induction sheets with
  | nil =>
      intro fuel _
      cases fuel <;> rfl
  | cons sheet sheets ih =>
      intro fuel enough
      cases fuel with
      | zero => cases enough
      | succ fuel =>
          have read := readDiskSheet_append sheet (sheets.flatMap DiskSheet.lines)
          have first : (sheet :: sheets).flatMap DiskSheet.lines =
              diskTitle sheet.path :: (sheet.lines.tail ++ sheets.flatMap DiskSheet.lines) := rfl
          have same : sheet.lines ++ sheets.flatMap DiskSheet.lines =
              diskTitle sheet.path :: (sheet.lines.tail ++ sheets.flatMap DiskSheet.lines) := rfl
          rw [same] at read
          rw [first, readDiskSheets, read, Option.bind_eq_bind, Option.bind_some]
          simp only
          rw [ih fuel (Nat.le_of_succ_le_succ enough)]
          rfl

/-- The second line of a disk is none of a USB. -/
theorem readUsbSheet_disks (number : Nat) (disks : List DiskSheet) :
    readUsbSheet number (disks.flatMap DiskSheet.lines) = none := by
  cases disks with
  | nil => rfl
  | cons sheet disks =>
      have shape : (sheet :: disks).flatMap DiskSheet.lines =
          diskTitle sheet.path :: ("Disk interface: ".toList ++ sheet.interface) ::
            (sheet.lines.tail.tail ++ disks.flatMap DiskSheet.lines) := rfl
      have other : "Disk interface: ".toList ++ sheet.interface ≠ "Connection times:".toList := by
        intro same
        exact absurd (List.cons.inj same).1 (by decide)
      rw [shape]
      unfold readUsbSheet
      rw [skipLine]
      by_cases title : diskTitle sheet.path = usbTitle number
      · rw [if_pos title, Option.bind_eq_bind, Option.bind_some, skipLine, if_neg other]
        rfl
      · rw [if_neg title]
        rfl

/-- A report without a newline inside its lines is read back. -/
theorem readTerminal_sheets {usbs : List UsbSheet} {disks : List DiskSheet}
    (numbered : Numbered 1 usbs)
    (usbLines : ∀ sheet ∈ usbs, ∀ line ∈ sheet.lines, '\n' ∉ line)
    (diskLines : ∀ sheet ∈ disks, ∀ line ∈ sheet.lines, '\n' ∉ line) :
    readTerminal (usbs.flatMap UsbSheet.terminal ++ disks.flatMap DiskSheet.terminal) =
      some (usbs, disks) := by
  have text : usbs.flatMap UsbSheet.terminal ++ disks.flatMap DiskSheet.terminal =
      unlines '\n' (usbs.flatMap UsbSheet.lines ++ disks.flatMap DiskSheet.lines) := by
    rw [funext UsbSheet.terminal_eq, funext DiskSheet.terminal_eq]
    unfold unlines
    rw [List.flatMap_append, List.flatMap_assoc, List.flatMap_assoc]
  have clean : ∀ line ∈ usbs.flatMap UsbSheet.lines ++ disks.flatMap DiskSheet.lines,
      '\n' ∉ line := by
    intro line member
    rcases List.mem_append.mp member with ofUsb | ofDisk
    · obtain ⟨sheet, known, inside⟩ := List.mem_flatMap.mp ofUsb
      exact usbLines sheet known line inside
    · obtain ⟨sheet, known, inside⟩ := List.mem_flatMap.mp ofDisk
      exact diskLines sheet known line inside
  have fuel : usbs.length ≤
      (usbs.flatMap UsbSheet.lines ++ disks.flatMap DiskSheet.lines).length := by
    rw [List.length_append]
    exact Nat.le_add_right_of_le
      (length_le_flatMap_lines (fun sheet => List.cons_ne_nil _ _) usbs)
  unfold readTerminal
  rw [text, Lines.lines_unlines clean]
  simp only
  rw [readUsbSheets_append (fun number => readUsbSheet_disks number disks) usbs _ 1 numbered fuel]
  simp only
  have diskFuel : disks.length ≤ (disks.flatMap DiskSheet.lines).length :=
    length_le_flatMap_lines (fun sheet => List.cons_ne_nil _ _) disks
  rw [readDiskSheets_lines disks _ diskFuel]
  rfl

/-! ## The report of a log -/

section NoNewline
variable {c : Char}

theorem not_mem_fieldText {label missing : String} {field : Option CppString}
    (noLabel : c ∉ (label ++ ": ").toList) (noMissing : c ∉ missing.toList)
    (noValue : ∀ value, field = some value → c ∉ value) : c ∉ fieldText label missing field := by
  cases field with
  | none => exact noMissing
  | some value =>
      unfold fieldText
      rw [List.mem_append, not_or]
      exact ⟨noLabel, noValue value rfl⟩

theorem not_mem_knownText {text : CppString} (absent : c ∉ text) :
    ∀ value, knownText text = some value → c ∉ value := by
  intro value known
  unfold knownText at known
  split at known
  · cases known
  · cases known
    exact absent

theorem not_mem_knownName {name : CppString} (absent : c ∉ name) :
    ∀ value, knownName name = some value → c ∉ value := by
  intro value known
  unfold knownName at known
  split at known
  · cases known
  · cases known
    exact absent

theorem not_mem_knownId (noDigit : c.isDigit = false) (noDash : c ≠ '-') {id : Int} :
    ∀ value, knownId id = some value → c ∉ value := by
  intro value known
  unfold knownId at known
  split at known
  · cases known
  · cases known
    exact Numbers.intText_without noDigit noDash id

end NoNewline

/-- Neither titles nor labels have a newline. -/
theorem titles_one_line :
    (∀ text ∈ ["||| USB ", " |||", "Connection times:", "Disconnection times:", "   ", "||| ",
        "Disk interface: ", "Vendor ID: ", "Vendor ID not found", "Product ID: ",
        "Product ID not found", "Product name: ", "Product name not found", "Manufacturer: ",
        "Manufacturer not found", "Serial number: ", "Serial number not found", "Product: ",
        "Product not found", "Version: ", "Version not found", "Firmware version: ",
        "Firmware version not found", "Size: ", "Size not found"], '\n' ∉ (text : String).toList) := by
  decide +kernel

theorem usbSheet_one_line (number : Nat) {entry : UsbInfo}
    (times : ∀ time ∈ entry.connectionTimes ++ entry.disconnectionTimes, '\n' ∉ time)
    (strings : ∀ s ∈ entry.strings, '\n' ∉ s) :
    ∀ line ∈ (usbSheet number entry).lines, '\n' ∉ line := by
  have title : '\n' ∉ usbTitle (usbSheet number entry).number := by
    unfold usbTitle
    rw [String.toList_append, String.toList_append, List.mem_append, List.mem_append, not_or, not_or]
    exact ⟨⟨titles_one_line _ (by simp), Numbers.natText_without (by decide) _⟩,
      titles_one_line _ (by simp)⟩
  have rows : ∀ time ∈ entry.connectionTimes ++ entry.disconnectionTimes,
      '\n' ∉ indented time := by
    intro time member
    unfold indented
    rw [List.mem_append, not_or]
    exact ⟨titles_one_line _ (by simp), times time member⟩
  intro line member
  unfold UsbSheet.lines at member
  simp only [List.mem_cons, List.mem_append, List.mem_map, List.not_mem_nil, or_false] at member
  rcases member with rfl | rfl | ⟨time, known, rfl⟩ | rfl | ⟨time, known, rfl⟩ | rfl | rfl | rfl |
    rfl | rfl | rfl
  · exact title
  · exact titles_one_line _ (by simp)
  · exact rows time (List.mem_append_left _ known)
  · exact titles_one_line _ (by simp)
  · exact rows time (List.mem_append_right _ known)
  · exact not_mem_fieldText (titles_one_line _ (by simp)) (titles_one_line _ (by simp))
      (not_mem_knownId (by decide) (by decide))
  · exact not_mem_fieldText (titles_one_line _ (by simp)) (titles_one_line _ (by simp))
      (not_mem_knownId (by decide) (by decide))
  · exact not_mem_fieldText (titles_one_line _ (by simp)) (titles_one_line _ (by simp))
      (not_mem_knownText (strings _ (by simp [UsbInfo.strings])))
  · exact not_mem_fieldText (titles_one_line _ (by simp)) (titles_one_line _ (by simp))
      (not_mem_knownName (strings _ (by simp [UsbInfo.strings])))
  · exact not_mem_fieldText (titles_one_line _ (by simp)) (titles_one_line _ (by simp))
      (not_mem_knownText (strings _ (by simp [UsbInfo.strings])))
  · exact List.not_mem_nil

theorem diskSheet_one_line {libm : Libm} {path : CppString} {disk : HardDiskInfo}
    {sheet : DiskSheet} (shown : diskSheet libm path disk = some sheet)
    (strings : ∀ s ∈ disk.strings path, '\n' ∉ s) : ∀ line ∈ sheet.lines, '\n' ∉ line := by
  obtain ⟨size, sized, rfl⟩ := Option.map_eq_some_iff.mp shown
  have sizeText : ∀ value, size = some value → '\n' ∉ value := by
    intro value same
    subst same
    split at sized
    · cases sized
    · obtain ⟨text, defined, same⟩ := Option.map_eq_some_iff.mp sized
      cases same
      exact humanReadableByteCount_without defined (by decide) (by decide)
  intro line member
  unfold DiskSheet.lines at member
  simp only [List.mem_cons, List.not_mem_nil, or_false] at member
  rcases member with rfl | rfl | rfl | rfl | rfl | rfl | rfl | rfl
  · unfold diskTitle
    rw [List.mem_append, List.mem_append, not_or, not_or]
    exact ⟨⟨titles_one_line _ (by simp), strings _ (by simp [HardDiskInfo.strings])⟩,
      titles_one_line _ (by simp)⟩
  · rw [List.mem_append, not_or]
    exact ⟨titles_one_line _ (by simp), strings _ (by simp [HardDiskInfo.strings])⟩
  · exact not_mem_fieldText (titles_one_line _ (by simp)) (titles_one_line _ (by simp))
      (not_mem_knownText (strings _ (by simp [HardDiskInfo.strings])))
  · exact not_mem_fieldText (titles_one_line _ (by simp)) (titles_one_line _ (by simp))
      (not_mem_knownText (strings _ (by simp [HardDiskInfo.strings])))
  · exact not_mem_fieldText (titles_one_line _ (by simp)) (titles_one_line _ (by simp))
      (not_mem_knownText (strings _ (by simp [HardDiskInfo.strings])))
  · exact not_mem_fieldText (titles_one_line _ (by simp)) (titles_one_line _ (by simp))
      (not_mem_knownText (strings _ (by simp [HardDiskInfo.strings])))
  · exact not_mem_fieldText (titles_one_line _ (by simp)) (titles_one_line _ (by simp)) sizeText
  · exact List.not_mem_nil

/-- The lines of a file have no newline. -/
theorem log_one_line (answers : Answers) : ∀ line ∈ answers.log, '\n' ∉ line.text := by
  intro line member
  have inside : bare line ∈ answers.log.map bare := List.mem_map_of_mem member
  rw [log_bare] at inside
  obtain ⟨text, known, same⟩ := List.mem_map.mp inside
  have own : line.text = text := (congrArg LogLine.text same).symm
  rw [own]
  exact Lines.not_mem_lines _ text known

theorem usbSheets_one_line (answers : Answers) :
    ∀ sheet ∈ usbSheets answers.usbsMap, ∀ line ∈ sheet.lines, '\n' ∉ line := by
  have inLog : ∀ text : CppString, (∃ line ∈ answers.log, text <:+: cStr line.text) →
      '\n' ∉ text := by
    intro text found member
    obtain ⟨line, known, inside⟩ := found
    exact log_one_line answers line known (List.takeWhile_subset _ (inside.subset member))
  intro sheet member
  obtain ⟨i, inside, rfl⟩ := List.mem_mapIdx.mp member
  have present : answers.usbsMap[(answers.usbsMap.toList[i]).1]? =
      some (answers.usbsMap.toList[i]).2 :=
    Std.ExtTreeMap.mem_toList_iff_getElem?_eq_some.mp (List.getElem_mem inside)
  have origins := finalUsbMap_origins answers.log _ _ present
  apply usbSheet_one_line
  · intro time known
    exact inLog time (origins.times_inLines time known)
  · intro s known
    rcases origins.strings_inLines s known with rfl | found
    · exact List.not_mem_nil
    · exact inLog s found

/-- No disk that is shown answers with a newline. -/
def Answers.OneLineDisks (answers : Answers) : Prop :=
  ∀ (path : CppString) (disk : HardDiskInfo), answers.disksMap[path]? = some disk →
    disk.isEmpty = false → ∀ s ∈ disk.strings path, '\n' ∉ s

theorem readTerminal_answers {answers : Answers} (plain : answers.OneLineDisks) {libm : Libm}
    {disks : List DiskSheet} (shown : diskSheets libm answers.disksMap = some disks) :
    readTerminal ((usbSheets answers.usbsMap).flatMap UsbSheet.terminal ++
      disks.flatMap DiskSheet.terminal) = some (usbSheets answers.usbsMap, disks) := by
  apply readTerminal_sheets (usbSheets_numbered _) (usbSheets_one_line answers)
  unfold diskSheets at shown
  rw [Lists.forall_mem_mapM shown]
  intro slot member
  obtain ⟨sheet, found⟩ := Lists.exists_of_mapM shown member
  obtain ⟨inMap, full⟩ := List.mem_filter.mp member
  refine ⟨sheet, found, diskSheet_one_line found ?_⟩
  exact plain slot.1 slot.2 (Std.ExtTreeMap.mem_toList_iff_getElem?_eq_some.mp inMap)
    (by simpa using full)

/-- Whatever the log holds, what root reads on the terminal are the sheets of the
USBs and of the disks, if no disk answers with a newline. -/
theorem terminal_reads_back {system : System} (root : system.geteuid = 0)
    {process after : Process} (initial : process.shown = {}) (fresh : process.stdout = [])
    (plain : system.first.OneLineDisks) {code : Int}
    (run : main system process = some (after, code)) :
    ∃ disks, diskSheets system.libm system.first.disksMap = some disks ∧
      readTerminal after.stdout = some (usbSheets system.first.usbsMap, disks) := by
  obtain ⟨disks, _, shown, _, terminal, _, _, _⟩ := run_outcome root initial run
  refine ⟨disks, shown, ?_⟩
  rw [terminal, fresh, List.nil_append]
  exact readTerminal_answers plain shown

theorem busySystem_oneLineDisks : busySystem.first.OneLineDisks := by
  intro path disk present
  cases present

theorem busySystem_terminal_reads_back :
    ∃ after code, main busySystem {} = some (after, code) ∧
      ∃ disks, diskSheets busySystem.libm busySystem.first.disksMap = some disks ∧
        readTerminal after.stdout = some (usbSheets busySystem.first.usbsMap, disks) := by
  obtain ⟨after, run⟩ := busySystem_runs
  refine ⟨after, 0, run, ?_⟩
  exact @terminal_reads_back busySystem rfl {} _ rfl rfl busySystem_oneLineDisks 0 run

end StoringDevices
