import StoringDevices.Lib.Lists
import StoringDevices.Provenance

/-! # Two ways into usb_map

A session enters `usb_map` by its disconnect line or by the flush.  Both make
the same entry for a new serial and append the same connection time to a known
one, but only the flush fills in the ids and names the entry was missing. -/
set_option autoImplicit false

namespace StoringDevices

open Std (ExtTreeMap)
open Keyed (Machine)

/-- The record gives nothing that the entry is missing. -/
structure NothingToFill (entry : UsbInfo) (element : UsbInterface) : Prop where
  idVendor : entry.idVendor = 0 → element.idVendor = 0
  idProduct : entry.idProduct = 0 → element.idProduct = 0
  productName : entry.productName = [] → element.productName = []
  manufacturer : entry.manufacturer = [] → element.manufacturer = []

def UsbInfo.withoutLastDisconnection (entry : UsbInfo) : UsbInfo :=
  { entry with disconnectionTimes := entry.disconnectionTimes.dropLast }

/-- The map without the last disconnection time of a serial. -/
def dropLastDisconnection (usbMap : UsbMap) (serial : CppString) : UsbMap :=
  usbMap.modify serial UsbInfo.withoutLastDisconnection

theorem mergeInterface_eq_iff {entry : UsbInfo} {element : UsbInterface}
    (own : entry.serialNumber = element.serialNumber) :
    { entry with connectionTimes := entry.connectionTimes ++ [element.connectionTime] } =
        mergeInterface entry element ↔ NothingToFill entry element := by
  have serial : entry.serialNumber =
      if entry.serialNumber = [] then element.serialNumber else entry.serialNumber := by
    rw [← own, ite_self]
  unfold mergeInterface
  rw [UsbInfo.mk.injEq]
  constructor
  · intro same
    obtain ⟨_, _, vendor, product, name, maker, _⟩ := same
    exact ⟨Lists.ite_known.mp vendor, Lists.ite_known.mp product, Lists.ite_known.mp name, Lists.ite_known.mp maker⟩
  · intro nothing
    exact ⟨rfl, rfl, Lists.ite_known.mpr nothing.idVendor, Lists.ite_known.mpr nothing.idProduct,
      Lists.ite_known.mpr nothing.productName, Lists.ite_known.mpr nothing.manufacturer, serial⟩

theorem closeInto_withoutLast (closing : Closing) (entry : UsbInfo) :
    (closeInto closing (some entry)).withoutLastDisconnection =
      { entry with
        connectionTimes := entry.connectionTimes ++ [closing.record.connectionTime] } := by
  simp [closeInto, UsbInfo.withoutLastDisconnection]

theorem closeInto_fresh (closing : Closing) :
    (closeInto closing none).withoutLastDisconnection = freshEntry closing.record := rfl

/-- The port map that holds one record. -/
def onlyRecord (port : CppString) (element : UsbInterface) : InterfacesMap :=
  (∅ : InterfacesMap).insert port element

theorem openRecords_onlyRecord {port : CppString} {element : UsbInterface}
    (live : element.isEmpty = false) :
    openRecords (onlyRecord port element) = [(port, element)] := by
  apply Keyed.sorted_ext (openRecords_sorted _) (List.pairwise_singleton _ _)
  intro slot
  obtain ⟨key, other⟩ := slot
  unfold onlyRecord
  rw [mem_openRecords, List.mem_singleton, getElem?_insert_eq, Prod.mk.injEq]
  constructor
  · intro h
    obtain ⟨here, _⟩ := h
    by_cases own : port = key
    · rw [if_pos own, Option.some.injEq] at here
      exact ⟨own.symm, here.symm⟩
    · rw [if_neg own, ExtTreeMap.getElem?_empty] at here
      cases here
  · intro h
    obtain ⟨rfl, rfl⟩ := h
    exact ⟨if_pos rfl, live⟩

/-- The two maps, compared under one serial. -/
theorem handovers_agree_iff {usbMap : UsbMap} (closing : Closing)
    (keyed : ∀ entry, usbMap[closing.record.serialNumber]? = some entry →
      entry.serialNumber = closing.record.serialNumber)
    (storage : closing.record.isStorageDevice = true) :
    dropLastDisconnection (recordClosing usbMap closing) closing.record.serialNumber =
        flusher.step usbMap (closing.port, closing.record) ↔
      ∀ entry, usbMap[closing.record.serialNumber]? = some entry →
        NothingToFill entry closing.record := by
  have stepped : flusher.step usbMap (closing.port, closing.record) =
      usbMap.alter closing.record.serialNumber (flusher.next (closing.port, closing.record)) := rfl
  have atSerial : (dropLastDisconnection (recordClosing usbMap closing)
        closing.record.serialNumber)[closing.record.serialNumber]? =
      some (closeInto closing usbMap[closing.record.serialNumber]?).withoutLastDisconnection := by
    unfold dropLastDisconnection recordClosing
    rw [getElem?_modify_eq, if_pos rfl, getElem?_alter_eq, if_pos rfl, Option.map_some]
  have elsewhere : ∀ serial, closing.record.serialNumber ≠ serial →
      (dropLastDisconnection (recordClosing usbMap closing) closing.record.serialNumber)[serial]? =
        (flusher.step usbMap (closing.port, closing.record))[serial]? := by
    intro serial other
    unfold dropLastDisconnection recordClosing
    rw [stepped, getElem?_modify_eq, if_neg other, getElem?_alter_eq, if_neg other,
      getElem?_alter_eq, if_neg other]
  have sameEntry : dropLastDisconnection (recordClosing usbMap closing) closing.record.serialNumber =
        flusher.step usbMap (closing.port, closing.record) ↔
      some (closeInto closing usbMap[closing.record.serialNumber]?).withoutLastDisconnection =
        flusher.next (closing.port, closing.record) usbMap[closing.record.serialNumber]? := by
    rw [← atSerial]
    constructor
    · intro same
      rw [same, stepped, getElem?_alter_eq, if_pos rfl]
    · intro same
      apply ExtTreeMap.ext_getElem?
      intro serial
      by_cases own : closing.record.serialNumber = serial
      · rw [← own, same, stepped, getElem?_alter_eq, if_pos rfl]
      · exact elsewhere serial own
  rw [sameEntry]
  cases known : usbMap[closing.record.serialNumber]? with
  | none =>
      rw [flusher_next_storage _ storage, closeInto_fresh]
      constructor
      · intro _ entry here
        cases here
      · intro _
        rfl
  | some old =>
      rw [flusher_next_some, closeInto_withoutLast, Option.some.injEq,
        mergeInterface_eq_iff (keyed old known)]
      constructor
      · intro nothing entry here
        cases here
        exact nothing
      · intro nothing
        exact nothing old rfl

/-- The key of an entry is its serial. -/
def KeyedBySerial (usbMap : UsbMap) : Prop :=
  ∀ (serial : CppString) (entry : UsbInfo), usbMap[serial]? = some entry →
    entry.serialNumber = serial

/-- A disconnect line of a port whose record is open storage, and the flush of
that record alone, into any map whose keys are the serials of its entries. -/
theorem disconnect_agrees_with_flush_iff {usbMap : UsbMap} (keyed : KeyedBySerial usbMap)
    {element : UsbInterface} (live : element.isEmpty = false)
    (storage : element.isStorageDevice = true) {line : LogLine} {port : CppString}
    (named : usbPort line = some port) (announced : disconnects line = true)
    {interfaces : InterfacesMap} (present : interfaces[port]? = some element) :
    ∃ after closed entry flushed,
      checkIfDeviceDisconnected line.text interfaces usbMap = some (true, after, closed) ∧
      closed[element.serialNumber]? = some entry ∧
      entry.disconnectionTimes.getLast? = some (logTime line) ∧
      saveInterfacesInfoInUSBsMap ⟨onlyRecord port element, usbMap⟩ = some flushed ∧
      (dropLastDisconnection closed element.serialNumber = flushed.usbMap ↔
        ∀ entry, usbMap[element.serialNumber]? = some entry → NothingToFill entry element) := by
  have record : closedRecord line interfaces port = some element := by
    unfold closedRecord
    rw [if_pos announced, present, Option.filter_some,
      if_pos (isOpenStorage_iff.mpr ⟨live, storage⟩)]
  obtain ⟨emptied, flush⟩ := saveInterfacesInfoInUSBsMap_usbMap ⟨onlyRecord port element, usbMap⟩
  rw [openRecords_onlyRecord live] at flush
  refine ⟨interfaces.insert port initializeUsbInterface,
    recordClosing usbMap ⟨port, element, logTime line⟩,
    closeInto ⟨port, element, logTime line⟩ usbMap[element.serialNumber]?, _, ?_, ?_, ?_, flush, ?_⟩
  · rw [checkIfDeviceDisconnected_eq line interfaces usbMap named, record, announced]
  · unfold recordClosing
    rw [getElem?_alter_eq, if_pos rfl]
  · cases usbMap[element.serialNumber]? <;> simp [closeInto]
  · exact handovers_agree_iff ⟨port, element, logTime line⟩
      (fun entry here => keyed _ entry here) storage

/-! A stick whose ids were not logged the first time it was plugged in. -/

def nameless : UsbMap :=
  (∅ : UsbMap).insert "A".toList
    { connectionTimes := ["Jan 1 09:00:01".toList]
      disconnectionTimes := ["Jan 1 09:00:02".toList]
      serialNumber := "A".toList }

def described : UsbInterface :=
  { initializeUsbInterface with
    isEmpty := false
    isStorageDevice := true
    idVendor := 1921
    serialNumber := "A".toList }

def unplugged : LogLine := { text := "Jan 1 09:00:09 usb 1-3: USB disconnect".toList }

theorem nameless_getElem? (serial : CppString) : nameless[serial]? =
    if "A".toList = serial then
      some
        { connectionTimes := ["Jan 1 09:00:01".toList]
          disconnectionTimes := ["Jan 1 09:00:02".toList]
          serialNumber := "A".toList }
    else none := by
  unfold nameless
  rw [getElem?_insert_eq, ExtTreeMap.getElem?_empty]

theorem nameless_keyed : KeyedBySerial nameless := by
  intro serial entry here
  rw [nameless_getElem?] at here
  by_cases own : "A".toList = serial
  · rw [if_pos own, Option.some.injEq] at here
    rw [← here]
    exact own
  · rw [if_neg own] at here
    cases here

theorem nameless_compared :
    ∃ after closed entry flushed,
      checkIfDeviceDisconnected unplugged.text (onlyRecord "1-3".toList described) nameless =
        some (true, after, closed) ∧
      closed[described.serialNumber]? = some entry ∧
      entry.disconnectionTimes.getLast? = some (logTime unplugged) ∧
      saveInterfacesInfoInUSBsMap ⟨onlyRecord "1-3".toList described, nameless⟩ = some flushed ∧
      (dropLastDisconnection closed described.serialNumber = flushed.usbMap ↔
        ∀ entry, nameless[described.serialNumber]? = some entry → NothingToFill entry described) :=
  disconnect_agrees_with_flush_iff nameless_keyed rfl rfl (by decide +kernel) (by decide +kernel)
    (by decide +kernel)

/-- The flush gives the entry the vendor id, the disconnect line does not. -/
theorem disconnect_leaves_id_missing :
    KeyedBySerial nameless ∧ described.isEmpty = false ∧ described.isStorageDevice = true ∧
      ∃ after closed flushed,
        checkIfDeviceDisconnected unplugged.text (onlyRecord "1-3".toList described) nameless =
          some (true, after, closed) ∧
        saveInterfacesInfoInUSBsMap ⟨onlyRecord "1-3".toList described, nameless⟩ = some flushed ∧
        dropLastDisconnection closed described.serialNumber ≠ flushed.usbMap := by
  have named : usbPort unplugged = some "1-3".toList := by decide +kernel
  have record : closedRecord unplugged (onlyRecord "1-3".toList described) "1-3".toList =
      some described := by decide +kernel
  obtain ⟨emptied, flush⟩ :=
    saveInterfacesInfoInUSBsMap_usbMap ⟨onlyRecord "1-3".toList described, nameless⟩
  rw [openRecords_onlyRecord rfl] at flush
  refine ⟨nameless_keyed, rfl, rfl, _, _, _,
    checkIfDeviceDisconnected_eq unplugged _ nameless named, flush, ?_⟩
  rw [record]
  intro same
  have known := nameless_getElem? "A".toList
  rw [if_pos rfl] at known
  have filled := (handovers_agree_iff ⟨"1-3".toList, described, logTime unplugged⟩
    (fun entry here => nameless_keyed _ entry here) rfl).mp same _ known
  exact absurd (filled.idVendor rfl) (by decide)

end StoringDevices
