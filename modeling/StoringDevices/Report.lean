import StoringDevices.Usb

/-! # The USB tables of the report

The texts a USB table shows are static variables of output.cpp.  The loop of
`printHTML` over `usbs_map` assigns those its entry has a value for, writes the
table, and puts them back.  Every table therefore shows its own entry. -/
set_option autoImplicit false

namespace StoringDevices

open Std (ExtTreeMap)

/-- The static variables of a USB table, with their initial values. -/
structure UsbVariables where
  usbConnected : CppString := "red;\">Not connected".toList
  usbSerialNumber : CppString := "Serial number not found".toList
  usbProductName : CppString := "Product name not found".toList
  usbManufacturer : CppString := "Manufacturer not found".toList
  usbVendorId : CppString := "Vendor ID not found".toList
  usbProductId : CppString := "Product ID not found".toList
  deriving DecidableEq

/-- Every variable is assigned the value of its declaration. -/
def initializeUSBVariables : UsbVariables where
  usbConnected := "red;\">Not connected".toList
  usbSerialNumber := "Serial number not found".toList
  usbProductName := "Product name not found".toList
  usbManufacturer := "Manufacturer not found".toList
  usbVendorId := "Vendor ID not found".toList
  usbProductId := "Product ID not found".toList

/-- The assignments made for an entry before its table is written. -/
def assignUSBVariables (entry : UsbInfo) (shown : UsbVariables) : UsbVariables where
  usbVendorId :=
    if entry.idVendor ≠ 0 then (toString entry.idVendor).toList else shown.usbVendorId
  usbProductId :=
    if entry.idProduct ≠ 0 then (toString entry.idProduct).toList else shown.usbProductId
  usbProductName := if entry.productName ≠ [] then entry.productName else shown.usbProductName
  usbManufacturer :=
    if entry.manufacturer ≠ [] ∧ (entry.manufacturer.find? fun c => c ≠ ' ').isSome then
      entry.manufacturer
    else shown.usbManufacturer
  usbSerialNumber := if entry.serialNumber ≠ [] then entry.serialNumber else shown.usbSerialNumber
  usbConnected :=
    if entry.connectionTimes.length > entry.disconnectionTimes.length then
      "green;\">Connected".toList
    else shown.usbConnected

/-- The variables as each table of the loop shows them, under the entry's key. -/
def printUSBTables : List (CppString × UsbInfo) → UsbVariables → List (CppString × UsbVariables)
  | [], _ => []
  | slot :: slots, shown =>
      (slot.1, assignUSBVariables slot.2 shown) :: printUSBTables slots initializeUSBVariables

/-- The USB part of `printHTML`, with the variables at their initial values. -/
def printHTMLUsbs (usbsMap : UsbMap) : List (CppString × UsbVariables) :=
  printUSBTables usbsMap.toList {}

theorem printUSBTables_eq (slots : List (CppString × UsbInfo)) :
    printUSBTables slots initializeUSBVariables =
      slots.map fun slot => (slot.1, assignUSBVariables slot.2 initializeUSBVariables) := by
  induction slots with
  | nil => rfl
  | cons slot slots ih => rw [printUSBTables, ih, List.map_cons]

/-- No table shows what another entry left in the variables. -/
theorem mem_printHTMLUsbs {usbsMap : UsbMap} {serial : CppString} {table : UsbVariables} :
    (serial, table) ∈ printHTMLUsbs usbsMap ↔
      ∃ entry, usbsMap[serial]? = some entry ∧
        table = assignUSBVariables entry initializeUSBVariables := by
  have initial : ({} : UsbVariables) = initializeUSBVariables := rfl
  unfold printHTMLUsbs
  rw [initial, printUSBTables_eq, List.mem_map]
  constructor
  · intro found
    obtain ⟨slot, member, same⟩ := found
    rw [Prod.mk.injEq] at same
    refine ⟨slot.2, ?_, same.2.symm⟩
    rw [← same.1]
    exact ExtTreeMap.mem_toList_iff_getElem?_eq_some.mp member
  · intro found
    obtain ⟨entry, here, rfl⟩ := found
    exact ⟨(serial, entry), ExtTreeMap.mem_toList_iff_getElem?_eq_some.mpr here, rfl⟩

/-- The table of the serial says that the device is connected. -/
def ShowsConnected (usbsMap : UsbMap) (serial : CppString) : Prop :=
  ∃ table, (serial, table) ∈ printHTMLUsbs usbsMap ∧
    table.usbConnected = "green;\">Connected".toList

theorem showsConnected_iff {usbsMap : UsbMap} {serial : CppString} {entry : UsbInfo}
    (here : usbsMap[serial]? = some entry) :
    ShowsConnected usbsMap serial ↔
      entry.disconnectionTimes.length < entry.connectionTimes.length := by
  have colours : initializeUSBVariables.usbConnected ≠ "green;\">Connected".toList := by decide
  unfold ShowsConnected
  constructor
  · intro shows
    obtain ⟨table, member, connected⟩ := shows
    obtain ⟨entry', present, rfl⟩ := mem_printHTMLUsbs.mp member
    rw [here, Option.some.injEq] at present
    subst present
    by_contra balanced
    unfold assignUSBVariables at connected
    simp only at connected
    rw [if_neg balanced] at connected
    exact colours connected
  · intro more
    refine ⟨_, mem_printHTMLUsbs.mpr ⟨entry, here, rfl⟩, ?_⟩
    unfold assignUSBVariables
    simp only
    rw [if_pos more]

end StoringDevices
