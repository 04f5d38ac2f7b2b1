import StoringDevices.Kinds
import StoringDevices.Lib.Lists
import StoringDevices.Messages

/-! # Descriptor strings

The kernel prints the product name, the manufacturer and the serial number that
a device supplies, each after a label.  A string that holds none of the texts the
handlers look for is stored in its field.  The handlers search the whole line,
though, and the information handler lets the line through to the next ones. -/
set_option autoImplicit false

namespace StoringDevices

open Std (ExtTreeMap)
open Regex (Dead labelled)

/-! ## The three fields -/

inductive TextField where
  | product
  | manufacturer
  | serialNumber
  deriving DecidableEq

namespace TextField

def label : TextField → CppString
  | .product => "Product: ".toList
  | .manufacturer => "Manufacturer: ".toList
  | .serialNumber => "SerialNumber: ".toList

def regex : TextField → Regex Char
  | .product => productNameRegex
  | .manufacturer => manufacturerRegex
  | .serialNumber => serialNumberRegex

/-- The patterns that the information handler tries before that of the field. -/
def earlier : TextField → List (Regex Char)
  | .serialNumber => [idVendorAndIdProductRegex]
  | .product => [idVendorAndIdProductRegex, serialNumberRegex]
  | .manufacturer => [idVendorAndIdProductRegex, serialNumberRegex, productNameRegex]

def get : TextField → UsbInterface → CppString
  | .product => UsbInterface.productName
  | .manufacturer => UsbInterface.manufacturer
  | .serialNumber => UsbInterface.serialNumber

def set (s : CppString) (element : UsbInterface) : TextField → UsbInterface
  | .product => { element with productName := s }
  | .manufacturer => { element with manufacturer := s }
  | .serialNumber => { element with serialNumber := s }

/-- What the information handler reads of a line for the field. -/
def read : TextField → LogLine → Option CppString
  | .product => readProductName
  | .manufacturer => readManufacturer
  | .serialNumber => readSerialNumber

theorem get_set (field : TextField) (s : CppString) (element : UsbInterface) :
    field.get (field.set s element) = s := by
  cases field <;> rfl

theorem set_get (field : TextField) (element : UsbInterface) :
    field.set (field.get element) element = element := by
  cases field <;> rfl

@[simp] theorem set_isEmpty (field : TextField) (s : CppString) (element : UsbInterface) :
    (field.set s element).isEmpty = element.isEmpty := by
  cases field <;> rfl

theorem get_flagged (field : TextField) (element : UsbInterface) :
    field.get (flagged element) = field.get element := by
  cases field <;> rfl

theorem read_eq (field : TextField) (line : LogLine) : field.read line =
    if ∀ regex ∈ field.earlier, regexSearch line.text regex = none then
      (regexSearch line.text field.regex).map fun found => found.drop field.label.length
    else none := by
  have width : field.label.length = match field with
      | .product => "Product: ".length
      | .manufacturer => "Manufacturer: ".length
      | .serialNumber => "SerialNumber: ".length := by
    cases field <;> rfl
  rw [width]
  cases field with
  | product =>
      by_cases ids : regexSearch line.text idVendorAndIdProductRegex = none <;>
        by_cases serial : regexSearch line.text serialNumberRegex = none <;>
          simp [read, earlier, regex, readProductName, describesIds, announcedSerialNumber,
            announcedProductName, announcedText, Option.isSome_iff_ne_none, ids, serial]
  | manufacturer =>
      by_cases ids : regexSearch line.text idVendorAndIdProductRegex = none <;>
        by_cases serial : regexSearch line.text serialNumberRegex = none <;>
          by_cases product : regexSearch line.text productNameRegex = none <;>
            simp [read, earlier, regex, readManufacturer, describesIds, announcedSerialNumber,
              announcedProductName, announcedManufacturer, announcedText,
              Option.isSome_iff_ne_none, ids, serial, product]
  | serialNumber =>
      by_cases ids : regexSearch line.text idVendorAndIdProductRegex = none <;>
        simp [read, earlier, regex, readSerialNumber, describesIds, announcedSerialNumber,
          announcedText, Option.isSome_iff_ne_none, ids]

theorem get_announce (field : TextField) (line : LogLine) (element : UsbInterface) :
    field.get (announce line element) = (field.read line).getD (field.get element) := by
  rw [announce_eq]
  cases field <;> rfl

theorem regex_labelled (field : TextField) :
    field.regex = labelled field.label fun c => c ≠ '\n' ∧ c ≠ '\r' := by
  cases field <;> rfl

theorem regex_known (field : TextField) : field.regex ∈ handlerRegexes := by
  cases field <;> simp [handlerRegexes, regex]

theorem label_noNul (field : TextField) : '\x00' ∉ field.label := by
  cases field <;> decide +kernel

theorem label_uncrossed (field : TextField) : Uncrossed field.label := by
  cases field <;> decide +kernel

theorem label_dead (field : TextField) {path : CppString} (ofPath : OfPath path)
    (more : CppString) : Dead field.label ("usb ".toList ++ (path ++ ": ".toList)) more := by
  have absent : ∀ c : Char, isDigit c = false → c ∉ "usb -.: ".toList →
      c ∉ "usb ".toList ++ (path ++ ": ".toList) := by
    intro c digit other member
    simp only [String.reduceToList, List.mem_cons, List.not_mem_nil, or_false, not_or] at other
    have inPath := ofPath.not_mem digit other.2.2.2.2.1 other.2.2.2.2.2.1
    simp only [String.reduceToList, List.mem_append, List.mem_cons, List.not_mem_nil, or_false,
      inPath, false_or] at member
    grind
  cases field
  · exact Regex.dead_of_not_mem (absent 'P' (by decide) (by simp)) more
  · exact Regex.dead_of_not_mem (absent 'M' (by decide) (by simp)) more
  · exact Regex.dead_of_not_mem (absent 'S' (by decide) (by simp)) more

end TextField

/-! ## The line of a descriptor string -/

/-- The pattern of the field is the first one that the line matches, and the
string is not cut at a NUL. -/
structure Foremost (field : TextField) (s : CppString) (line : LogLine) : Prop where
  noNul : '\x00' ∉ s
  first : ∀ regex ∈ field.earlier, regexSearch line.text regex = none

section DescriptorLine
variable {header path s : CppString} {line : LogLine} {field : TextField}
  (plain : PlainHeader header) (ofPath : OfPath path)
  (terminators : ∀ c ∈ s, c ≠ '\n' ∧ c ≠ '\r')
  (text : line.text = usbMessage header path (field.label ++ s))
include plain ofPath terminators text

theorem search_descriptor : regexSearch line.text field.regex = some (field.label ++ cStr s) := by
  have split : cStr line.text = (header ++ ("usb ".toList ++ (path ++ ": ".toList))) ++
      (field.label ++ cStr s) := by
    rw [text, cStr_usbMessage plain ofPath.noNul,
      cStr_front field.label_noNul]
    simp only [usbMessage, List.append_assoc]
  have dead : Dead field.label (header ++ ("usb ".toList ++ (path ++ ": ".toList)))
      (field.label ++ cStr s) := by
    have run : Regex.Matches field.regex field.label := by
      rw [field.regex_labelled]
      exact matches_label
    have inHeader := plain.dead field.regex_known run field.label_uncrossed
      (path ++ (": ".toList ++ (field.label ++ cStr s)))
    apply Regex.Dead.append
    · simpa only [List.append_assoc] using inHeader
    · exact field.label_dead ofPath _
  have whole : (cStr s).takeWhile (fun c => c ≠ '\n' ∧ c ≠ '\r') = cStr s := by
    apply List.takeWhile_eq_self_iff.mpr
    intro c member
    exact decide_eq_true (terminators c ((List.takeWhile_prefix _).subset member))
  unfold regexSearch
  rw [split, field.regex_labelled, Regex.search_labelled _ dead, Option.map_some, whole]

theorem read_descriptor : field.read line = some s ↔ Foremost field s line := by
  have found := search_descriptor plain ofPath terminators text
  rw [field.read_eq]
  by_cases first : ∀ regex ∈ field.earlier, regexSearch line.text regex = none
  · rw [if_pos first, found, Option.map_some, List.drop_left, Option.some.injEq, cStr_eq_self_iff]
    exact ⟨fun noNul => ⟨noNul, first⟩, Foremost.noNul⟩
  · rw [if_neg first]
    constructor
    · intro h
      cases h
    · intro h
      exact absurd h.first first

end DescriptorLine

/-! ## What the line does to the state -/

/-- The record already holds everything the line announces. -/
structure AlreadySaid (line : LogLine) (element : UsbInterface) : Prop where
  idVendor : ∀ v ∈ readIdVendor line, element.idVendor = v
  idProduct : ∀ v ∈ readIdProduct line, element.idProduct = v
  texts : ∀ field : TextField, ∀ v ∈ field.read line, field.get element = v

theorem announce_eq_self_iff {line : LogLine} {element : UsbInterface} :
    announce line element = element ↔ AlreadySaid line element := by
  rw [announce_eq, UsbInterface.mk.injEq]
  constructor
  · intro same
    obtain ⟨_, _, _, _, vendor, product, name, maker, serial⟩ := same
    refine ⟨Lists.getD_eq_self_iff.mp vendor, Lists.getD_eq_self_iff.mp product, ?_⟩
    intro field
    cases field with
    | product => exact Lists.getD_eq_self_iff.mp name
    | manufacturer => exact Lists.getD_eq_self_iff.mp maker
    | serialNumber => exact Lists.getD_eq_self_iff.mp serial
  · intro said
    exact ⟨rfl, rfl, rfl, rfl, Lists.getD_eq_self_iff.mpr said.idVendor,
      Lists.getD_eq_self_iff.mpr said.idProduct, Lists.getD_eq_self_iff.mpr (said.texts .product),
      Lists.getD_eq_self_iff.mpr (said.texts .manufacturer),
      Lists.getD_eq_self_iff.mpr (said.texts .serialNumber)⟩

theorem announce_of_read {field : TextField} {s : CppString} {line : LogLine}
    (found : field.read line = some s) (element : UsbInterface) :
    announce line element = field.set s element := by
  cases field with
  | serialNumber =>
      simp only [TextField.read, readSerialNumber] at found
      split at found
      · cases found
      · next ids => simp [announce, ids, found, TextField.set]
  | product =>
      simp only [TextField.read, readProductName] at found
      split at found
      · cases found
      · next other =>
          rw [not_or, Option.not_isSome_iff_eq_none] at other
          simp [announce, other.1, other.2, found, TextField.set]
  | manufacturer =>
      simp only [TextField.read, readManufacturer] at found
      split at found
      · cases found
      · next other =>
          rw [not_or, not_or, Option.not_isSome_iff_eq_none, Option.not_isSome_iff_eq_none] at other
          simp [announce, other.1, other.2.1, other.2.2, found, TextField.set]

/-- The information handler stores the string and nothing else. -/
theorem announce_eq_set_iff {field : TextField} {s : CppString} {line : LogLine}
    {element : UsbInterface} : announce line element = field.set s element ↔
      field.read line = some s ∨ field.get element = s ∧ AlreadySaid line element := by
  constructor
  · intro same
    have got := congrArg field.get same
    rw [field.get_announce, field.get_set] at got
    cases found : field.read line with
    | some v =>
        rw [found, Option.getD_some] at got
        exact .inl (by rw [got])
    | none =>
        rw [found, Option.getD_none] at got
        rw [← got, field.set_get] at same
        exact .inr ⟨got, announce_eq_self_iff.mp same⟩
  · intro h
    rcases h with found | ⟨got, said⟩
    · exact announce_of_read found element
    · rw [← got, field.set_get]
      exact announce_eq_self_iff.mpr said

theorem flagged_eq_self_iff {element : UsbInterface} :
    flagged element = element ↔ element.isStorageDevice = true := by
  constructor
  · intro same
    rw [← same]
    rfl
  · intro flag
    unfold flagged
    rw [← flag]

section OneStep
variable {field : TextField} {s port : CppString} {line : LogLine} {interfaces : InterfacesMap}
  {element : UsbInterface} (present : interfaces[port]? = some element)
include present

/-- The line is read as a `usb-storage` line. -/
theorem flag_eq_set_iff (q : CppString) :
    interfaces.modify q flagged = interfaces.insert port (field.set s element) ↔
      field.get element = s ∧
        ∀ record, interfaces[q]? = some record → record.isStorageDevice = true := by
  constructor
  · intro same
    have atPort := congrArg (fun m : InterfacesMap => m[port]?) same
    simp only [getElem?_modify_eq, getElem?_insert_eq, present, if_true] at atPort
    have got : field.get element = s := by
      by_cases own : q = port
      · rw [if_pos own, Option.map_some, Option.some.injEq] at atPort
        rw [← field.get_flagged, atPort, field.get_set]
      · rw [if_neg own, Option.some.injEq] at atPort
        rw [atPort, field.get_set]
    refine ⟨got, ?_⟩
    intro record here
    have unchanged : interfaces.insert port (field.set s element) = interfaces := by
      rw [← got, field.set_get]
      apply ExtTreeMap.ext_getElem?
      intro k
      rw [getElem?_insert_eq]
      by_cases own : port = k
      · rw [if_pos own, ← own, present]
      · rw [if_neg own]
    have atQ := congrArg (fun m : InterfacesMap => m[q]?) (same.trans unchanged)
    simp only [getElem?_modify_eq, if_true, here, Option.map_some, Option.some.injEq] at atQ
    exact flagged_eq_self_iff.mp atQ
  · intro h
    obtain ⟨got, already⟩ := h
    apply ExtTreeMap.ext_getElem?
    intro k
    rw [getElem?_modify_eq, getElem?_insert_eq, ← got, field.set_get]
    have kept : (if q = k then interfaces[k]?.map flagged else interfaces[k]?) = interfaces[k]? := by
      by_cases here : q = k
      · subst here
        rw [if_pos rfl]
        cases record : interfaces[q]? with
        | none => rfl
        | some r => rw [Option.map_some, flagged_eq_self_iff.mpr (already r record)]
      · rw [if_neg here]
    rw [kept]
    by_cases own : port = k
    · rw [if_pos own, ← own, present]
    · rw [if_neg own]

theorem inform_eq_set_iff :
    informed line port interfaces = interfaces.insert port (field.set s element) ↔
      announce line element = field.set s element := by
  unfold informed
  rw [modify_eq_insert present]
  constructor
  · intro same
    have atPort := congrArg (fun m : InterfacesMap => m[port]?) same
    simp only [getElem?_insert_eq, if_true, Option.some.injEq] at atPort
    exact atPort
  · intro same
    rw [same]

/-- A line that opens a record changes `isEmpty`. -/
theorem connect_ne_set {told opened : CppString}
    (free : (informed line told interfaces)[opened]?.all UsbInterface.isEmpty = true) :
    Effect.apply line interfaces (.connect told opened) ≠
      interfaces.insert port (field.set s element) := by
  intro same
  have atOpened := congrArg (fun m : InterfacesMap => (m[opened]?).map UsbInterface.isEmpty) same
  simp only [apply_connect_getElem?, if_true, Option.map_some, getElem?_insert_eq] at atOpened
  have stillFree : interfaces[opened]?.all UsbInterface.isEmpty = true := by
    rw [informed_getElem?] at free
    by_cases own : told = opened
    · rw [if_pos own, Option.all_map] at free
      simpa [Function.comp_def] using free
    · rw [if_neg own] at free
      exact free
  by_cases own : port = opened
  · rw [← own, present, Option.all_some] at stillFree
    rw [if_pos own, Option.map_some, Option.some.injEq, field.set_isEmpty, stillFree] at atOpened
    cases atOpened
  · rw [if_neg own] at atOpened
    cases record : interfaces[opened]? with
    | none =>
        rw [record] at atOpened
        cases atOpened
    | some r =>
        rw [record, Option.all_some] at stillFree
        rw [record, Option.map_some, Option.some.injEq, stillFree] at atOpened
        cases atOpened

end OneStep

/-- A line that closes a record empties it. -/
theorem disconnect_ne_set {field : TextField} {s port : CppString} {line : LogLine}
    {interfaces : InterfacesMap} {element record : UsbInterface} (live : element.isEmpty = false) :
    Effect.apply line interfaces (.disconnect port record) ≠
      interfaces.insert port (field.set s element) := by
  intro same
  have atPort := congrArg (fun m : InterfacesMap => (m[port]?).map UsbInterface.isEmpty) same
  simp only [apply_disconnect_getElem?, getElem?_insert_eq, if_true, Option.map_some,
    Option.some.injEq, field.set_isEmpty, live] at atPort
  cases atPort

/-- The line is not read as a `usb-storage` line, as a connection line of a free
port or as a disconnect line of an open storage record, and its first pattern is
that of the field.  Otherwise the record held the string before, and whatever
else the line says of it. -/
def StoredAlone (field : TextField) (s : CppString) (line : LogLine) (interfaces : InterfacesMap)
    (element : UsbInterface) : Prop :=
  match storagePort line with
  | some flaggedPort =>
      field.get element = s ∧
        ∀ record, interfaces[flaggedPort]? = some record → record.isStorageDevice = true
  | none =>
      (∀ opened, newPort line = some opened →
        ∃ record, interfaces[opened]? = some record ∧ record.isEmpty = false) ∧
      (disconnects line = true → element.isOpenStorage = false) ∧
      (Foremost field s line ∨ field.get element = s ∧ AlreadySaid line element)

theorem acceptedPort_eq_none_iff {line : LogLine} {interfaces : InterfacesMap} {told : CppString} :
    acceptedPort line (informed line told interfaces) = none ↔
      ∀ opened, newPort line = some opened →
        ∃ record, interfaces[opened]? = some record ∧ record.isEmpty = false := by
  unfold acceptedPort
  cases new : newPort line with
  | none => simp
  | some opened =>
      rw [Option.filter_some, informed_all_isEmpty]
      cases record : interfaces[opened]? with
      | none => simp [record]
      | some r => simp [record]

/-- The line of a descriptor string, in every state that has a record of the
port. -/
theorem descriptor_stored_iff {header port s : CppString} {line : LogLine} {field : TextField}
    (plain : PlainHeader header) (isPort : IsPort port)
    (terminators : ∀ c ∈ s, c ≠ '\n' ∧ c ≠ '\r')
    (text : line.text = usbMessage header port (field.label ++ s)) {state : State}
    {element : UsbInterface} (present : state.usbInterfacesMap[port]? = some element) :
    processLine line state =
        some ⟨state.usbInterfacesMap.insert port (field.set s element), state.usbMap⟩ ↔
      StoredAlone field s line state.usbInterfacesMap element := by
  have usb := usbPort_message plain isPort text
  have read := read_descriptor plain isPort.ofPath terminators text
  rw [processLine_eq, Option.some.injEq, State.mk.injEq]
  unfold StoredAlone stepInterfaces closingOf effect
  cases storagePort line with
  | some flaggedPort => exact and_iff_left rfl |>.trans (flag_eq_set_iff present flaggedPort)
  | none =>
      rw [usb]
      simp only
      cases accepted : acceptedPort line (informed line port state.usbInterfacesMap) with
      | some opened =>
          have free := (Option.filter_eq_some_iff.mp accepted).2
          constructor
          · intro same
            exact absurd same.1 (connect_ne_set present free)
          · intro stored
            rw [acceptedPort_eq_none_iff.mpr stored.1] at accepted
            cases accepted
      | none =>
          cases closed : closedRecord line (informed line port state.usbInterfacesMap) port with
          | some record =>
              simp only
              have shut : disconnects line = true ∧ element.isOpenStorage = true := by
                unfold closedRecord at closed
                split at closed
                · next announced =>
                    rw [informed_getElem?, if_pos rfl, present, Option.map_some,
                      Option.filter_some] at closed
                    split at closed
                    · next live => exact ⟨announced, by simpa using live⟩
                    · cases closed
                · cases closed
              constructor
              · intro same
                exact absurd same.1 (disconnect_ne_set (isOpenStorage_iff.mp shut.2).1)
              · intro stored
                have still := stored.2.1 shut.1
                rw [shut.2] at still
                cases still
          | none =>
              simp only
              have kept : disconnects line = true → element.isOpenStorage = false := by
                intro announced
                unfold closedRecord at closed
                rw [if_pos announced, informed_getElem?, if_pos rfl, present, Option.map_some,
                  Option.filter_some] at closed
                split at closed
                · cases closed
                · next shut => simpa using shut
              have refused := acceptedPort_eq_none_iff.mp accepted
              have informs : informed line port state.usbInterfacesMap =
                    state.usbInterfacesMap.insert port (field.set s element) ↔
                  Foremost field s line ∨ field.get element = s ∧ AlreadySaid line element := by
                rw [← read]
                exact (inform_eq_set_iff present).trans announce_eq_set_iff
              constructor
              · intro same
                exact ⟨refused, kept, informs.mp same.1⟩
              · intro stored
                exact ⟨informs.mpr stored.2.2, rfl⟩

/-! ## A product name that reads as a serial number -/

def namedPlugged : LogLine := { text := "Jan 1 09:00:01 usb 1-4: new".toList }

def misleadingName : LogLine := { text := "usb 1-4: Product: SerialNumber: 7".toList }

def pluggedRecord : UsbInterface := connected namedPlugged none

theorem plugged_state :
    readLines [namedPlugged] {} =
      some ⟨(∅ : InterfacesMap).insert "1-4".toList pluggedRecord, ∅⟩ :=
  readLines_plugged (by decide +kernel)

theorem misleadingName_compared :
    processLine misleadingName ⟨(∅ : InterfacesMap).insert "1-4".toList pluggedRecord, ∅⟩ =
        some ⟨((∅ : InterfacesMap).insert "1-4".toList pluggedRecord).insert "1-4".toList
          (TextField.product.set "SerialNumber: 7".toList pluggedRecord), ∅⟩ ↔
      StoredAlone .product "SerialNumber: 7".toList misleadingName
        ((∅ : InterfacesMap).insert "1-4".toList pluggedRecord) pluggedRecord :=
  descriptor_stored_iff noHeader_plain (by decide) (by simp) (by decide +kernel)
    (by rw [getElem?_insert_eq, if_pos rfl])

/-- In the state after a connection line, a product name is stored as the serial
number and the product name stays empty. -/
theorem product_name_fills_serial :
    ∃ state, readLines [namedPlugged] {} = some state ∧
      state.usbInterfacesMap["1-4".toList]? = some pluggedRecord ∧
      misleadingName.text =
        usbMessage [] "1-4".toList (TextField.product.label ++ "SerialNumber: 7".toList) ∧
      processLine misleadingName state ≠
        some ⟨state.usbInterfacesMap.insert "1-4".toList
          (TextField.product.set "SerialNumber: 7".toList pluggedRecord), state.usbMap⟩ ∧
      ∃ after element, processLine misleadingName state = some after ∧
        after.usbInterfacesMap["1-4".toList]? = some element ∧
        element.serialNumber = "7".toList ∧ element.productName = [] := by
  have present : ((∅ : InterfacesMap).insert "1-4".toList pluggedRecord)["1-4".toList]? =
      some pluggedRecord := by rw [getElem?_insert_eq, if_pos rfl]
  have here : effect misleadingName ((∅ : InterfacesMap).insert "1-4".toList pluggedRecord) =
      .inform "1-4".toList := by decide +kernel
  have result : (stepInterfaces misleadingName
      ((∅ : InterfacesMap).insert "1-4".toList pluggedRecord))["1-4".toList]? =
        some (announce misleadingName pluggedRecord) := by
    unfold stepInterfaces
    rw [here, apply_inform_getElem?, if_pos rfl, present, Option.map_some]
  have serial : (announce misleadingName pluggedRecord).serialNumber = "7".toList := by
    decide +kernel
  have name : (announce misleadingName pluggedRecord).productName = [] := by decide +kernel
  refine ⟨_, plugged_state, present, by decide +kernel, ?_, _, _, processLine_eq _ _, result,
    serial, name⟩
  rw [processLine_eq, Ne, Option.some.injEq, State.mk.injEq]
  intro same
  rw [same.1, getElem?_insert_eq, if_pos rfl, Option.some.injEq] at result
  rw [← result] at name
  cases name

end StoringDevices
