import StoringDevices.Lib.Keyed
import StoringDevices.Step

/-! # A run as a list of closings

The line loop never fails; it is a run of `stepInterfaces` on the port records
that emits closings, and `usb_map` is these closings recorded in order.  The
flush then takes the non-empty records in port order.  Both work on `usb_map`
one serial at a time, so the entry under a serial is a function of the closings
and of the open records with that serial. -/
set_option autoImplicit false

namespace StoringDevices

open Std (ExtTreeMap)
open Keyed (Machine)

/-! ## The line loop -/

def runInterfaces (log : List LogLine) (interfaces : InterfacesMap) : InterfacesMap :=
  log.foldl (fun interfaces line => stepInterfaces line interfaces) interfaces

def runClosings : List LogLine → InterfacesMap → List Closing
  | [], _ => []
  | line :: log, interfaces =>
      (closingOf line interfaces).toList ++ runClosings log (stepInterfaces line interfaces)

theorem runInterfaces_append (log rest : List LogLine) (interfaces : InterfacesMap) :
    runInterfaces (log ++ rest) interfaces = runInterfaces rest (runInterfaces log interfaces) :=
  List.foldl_append

theorem runClosings_append (rest : List LogLine) :
    ∀ (log : List LogLine) (interfaces : InterfacesMap),
      runClosings (log ++ rest) interfaces =
        runClosings log interfaces ++ runClosings rest (runInterfaces log interfaces) := by
  intro log
  induction log with
  | nil => intro interfaces; rfl
  | cons line log ih =>
      intro interfaces
      simp only [List.cons_append, runClosings, ih, List.append_assoc]
      rfl

theorem readLines_eq :
    ∀ (log : List LogLine) (state : State),
      readLines log state =
        some ⟨runInterfaces log state.usbInterfacesMap,
          (runClosings log state.usbInterfacesMap).foldl recordClosing state.usbMap⟩ := by
  intro log
  induction log with
  | nil => intro state; rfl
  | cons line log ih =>
      intro state
      have unfolded : readLines (line :: log) state =
          (processLine line state).bind fun next => readLines log next := rfl
      rw [unfolded, processLine_eq, Option.bind_some, ih]
      simp only [runClosings, List.foldl_append]
      cases closingOf line state.usbInterfacesMap <;> rfl

/-! ## Recording closings -/

/-- `usb_map` under closings: each addresses the entry of its serial. -/
def ledger : Machine CppString UsbInfo Closing Unit where
  key closing := some closing.record.serialNumber
  next closing old := some (closeInto closing old)
  emit _ _ := none

theorem foldl_recordClosing (closings : List Closing) (usbMap : UsbMap) :
    closings.foldl recordClosing usbMap = ledger.run usbMap closings := rfl

def closingsOf (serial : CppString) (closings : List Closing) : List Closing :=
  closings.filter fun closing => closing.record.serialNumber = serial

/-- The entry that closings under one serial leave: the data of the first and
the times of all. -/
def closedEntry : List Closing → Option UsbInfo
  | [] => none
  | first :: rest =>
      some
        { connectionTimes := (first :: rest).map fun closing => closing.record.connectionTime
          disconnectionTimes := (first :: rest).map Closing.time
          idVendor := first.record.idVendor
          idProduct := first.record.idProduct
          productName := first.record.productName
          manufacturer := first.record.manufacturer
          serialNumber := first.record.serialNumber }

theorem ledger_localRun_some :
    ∀ (closings : List Closing) (entry : UsbInfo),
      ledger.localRun (some entry) closings =
        some
          { entry with
            connectionTimes := entry.connectionTimes ++
              closings.map fun closing => closing.record.connectionTime
            disconnectionTimes := entry.disconnectionTimes ++ closings.map Closing.time } := by
  intro closings
  induction closings with
  | nil => intro entry; simp [Machine.localRun]
  | cons closing closings ih =>
      intro entry
      have unfolded : ledger.localRun (some entry) (closing :: closings) =
          ledger.localRun (some (closeInto closing (some entry))) closings := rfl
      rw [unfolded, ih]
      simp [closeInto]

theorem ledger_localRun_none (closings : List Closing) :
    ledger.localRun none closings = closedEntry closings := by
  cases closings with
  | nil => rfl
  | cons closing closings =>
      have unfolded : ledger.localRun none (closing :: closings) =
          ledger.localRun (some (closeInto closing none)) closings := rfl
      rw [unfolded, ledger_localRun_some]
      rfl

theorem usbMap_getElem? (closings : List Closing) (serial : CppString) :
    (closings.foldl recordClosing (∅ : UsbMap))[serial]? =
      closedEntry (closingsOf serial closings) := by
  have projected : ledger.project serial closings = closingsOf serial closings := by
    simp [Machine.project, closingsOf, ledger]
  rw [foldl_recordClosing, Keyed.run_getElem?, projected, ExtTreeMap.getElem?_empty,
    ledger_localRun_none]

/-! ## The flush -/

/-- The non-empty records with their ports, in the order of the ports. -/
def openRecords (interfaces : InterfacesMap) : List (CppString × UsbInterface) :=
  interfaces.toList.filter fun slot => !slot.2.isEmpty

/-- The entry the flush inserts for a storage record of an unknown serial. -/
def freshEntry (element : UsbInterface) : UsbInfo where
  connectionTimes := [element.connectionTime]
  idVendor := element.idVendor
  idProduct := element.idProduct
  productName := element.productName
  manufacturer := element.manufacturer
  serialNumber := element.serialNumber

/-- `usb_map` under the flush: each open record addresses the entry of its
serial.  The output says whether the record was kept; otherwise it is dropped. -/
def flusher : Machine CppString UsbInfo (CppString × UsbInterface) (Bool × CppString × UsbInterface) where
  key slot := some slot.2.serialNumber
  next slot old :=
    match old with
    | some entry => some (mergeInterface entry slot.2)
    | none => if slot.2.isStorageDevice then some (freshEntry slot.2) else none
  emit slot old := some (old.isSome || slot.2.isStorageDevice, slot)

@[simp] theorem flusher_next_some (slot : CppString × UsbInterface) (entry : UsbInfo) :
    flusher.next slot (some entry) = some (mergeInterface entry slot.2) := rfl

theorem flusher_next_storage (slot : CppString × UsbInterface)
    (storage : slot.2.isStorageDevice = true) :
    flusher.next slot none = some (freshEntry slot.2) := by
  simp [flusher, storage]

theorem flusher_next_other (slot : CppString × UsbInterface)
    (storage : slot.2.isStorageDevice = false) : flusher.next slot none = none := by
  simp [flusher, storage]

def flushed (element : UsbInterface) : UsbInterface :=
  if element.isEmpty then element else initializeUsbInterface

/-- One record at the flush: its entry is merged, inserted or left out. -/
theorem flusher_step_known {usbMap : UsbMap} (slot : CppString × UsbInterface) {entry : UsbInfo}
    (known : usbMap[slot.2.serialNumber]? = some entry) :
    flusher.step usbMap slot = usbMap.insert slot.2.serialNumber (mergeInterface entry slot.2) := by
  change usbMap.alter slot.2.serialNumber (flusher.next slot) = _
  apply ExtTreeMap.ext_getElem?
  intro k
  rw [getElem?_alter_eq, getElem?_insert_eq]
  by_cases h : slot.2.serialNumber = k
  · subst h; simp [known]
  · simp [h]

theorem flusher_step_storage {usbMap : UsbMap} (slot : CppString × UsbInterface)
    (unknown : usbMap[slot.2.serialNumber]? = none) (storage : slot.2.isStorageDevice = true) :
    flusher.step usbMap slot = usbMap.insert slot.2.serialNumber (freshEntry slot.2) := by
  change usbMap.alter slot.2.serialNumber (flusher.next slot) = _
  apply ExtTreeMap.ext_getElem?
  intro k
  rw [getElem?_alter_eq, getElem?_insert_eq]
  by_cases h : slot.2.serialNumber = k
  · subst h; simp [unknown, flusher_next_storage slot storage]
  · simp [h]

theorem flusher_step_other {usbMap : UsbMap} (slot : CppString × UsbInterface)
    (unknown : usbMap[slot.2.serialNumber]? = none) (storage : slot.2.isStorageDevice = false) :
    flusher.step usbMap slot = usbMap := by
  change usbMap.alter slot.2.serialNumber (flusher.next slot) = _
  apply ExtTreeMap.ext_getElem?
  intro k
  rw [getElem?_alter_eq]
  by_cases h : slot.2.serialNumber = k
  · subst h; simp [unknown, flusher_next_other slot storage]
  · simp [h]

theorem insert_present {V : Type} {map : CppMap V} {key : CppString} {value : V}
    (present : map[key]? = some value) : map.insert key value = map := by
  apply ExtTreeMap.ext_getElem?
  intro k
  rw [getElem?_insert_eq]
  by_cases h : key = k
  · subst h; simp [present]
  · simp [h]

theorem saveInterface_eq {state : State} {key : CppString} {element : UsbInterface}
    (present : state.usbInterfacesMap[key]? = some element) :
    saveInterface state key =
      some ⟨state.usbInterfacesMap.insert key (flushed element),
        if element.isEmpty then state.usbMap else flusher.step state.usbMap (key, element)⟩ := by
  unfold saveInterface flushed
  simp only [present, Option.bind_eq_bind, Option.bind_some]
  cases empty : element.isEmpty with
  | true => simp [insert_present present]
  | false =>
      simp only [Bool.false_eq_true, if_false, replaceInInterfacesMap, replaceInMap_eq present]
      cases known : state.usbMap[element.serialNumber]? with
      | some entry =>
          simp only [replaceInUSBsMap, replaceInMap_eq known,
            flusher_step_known (key, element) known]
          rfl
      | none =>
          cases storage : element.isStorageDevice with
          | true =>
              simp only [if_true, insertIfNew_absent known,
                flusher_step_storage (key, element) known storage]
              rfl
          | false =>
              simp only [Bool.false_eq_true, if_false,
                flusher_step_other (key, element) known storage]
              rfl

/-- Visiting a list of distinct keys: each record is read as it was at the start,
and is the only one that the visit writes. -/
theorem saveInterfaces_eq :
    ∀ (slots : List (CppString × UsbInterface)) (state : State),
      (slots.map Prod.fst).Nodup →
      (∀ slot ∈ slots, state.usbInterfacesMap[slot.1]? = some slot.2) →
      ∃ interfaces : InterfacesMap, (slots.map Prod.fst).foldlM saveInterface state =
          some ⟨interfaces, flusher.run state.usbMap (slots.filter fun slot => !slot.2.isEmpty)⟩ ∧
        ∀ port, interfaces[port]? = if port ∈ slots.map Prod.fst then
          state.usbInterfacesMap[port]?.map flushed else state.usbInterfacesMap[port]? := by
  intro slots
  induction slots with
  | nil => intro state _ _; exact ⟨state.usbInterfacesMap, rfl, fun port => by simp⟩
  | cons slot slots ih =>
      intro state distinct present
      obtain ⟨key, element⟩ := slot
      rw [List.map_cons, List.nodup_cons] at distinct
      have here : state.usbInterfacesMap[key]? = some element := present (key, element) (by simp)
      have later : ∀ other ∈ slots,
          (state.usbInterfacesMap.insert key (flushed element))[other.1]? = some other.2 := by
        intro other member
        have ne : key ≠ other.1 := fun same =>
          distinct.1 (List.mem_map.mpr ⟨other, member, same.symm⟩)
        rw [getElem?_insert_eq, if_neg ne]
        exact present other (List.mem_cons_of_mem _ member)
      obtain ⟨interfaces, rest, records⟩ := ih
        ⟨state.usbInterfacesMap.insert key (flushed element),
          if element.isEmpty then state.usbMap else flusher.step state.usbMap (key, element)⟩
        distinct.2 later
      refine ⟨interfaces, ?_, ?_⟩
      · simp only [List.map_cons, List.foldlM_cons, saveInterface_eq here, Option.bind_eq_bind,
          Option.bind_some, rest, List.filter_cons]
        cases element.isEmpty <;> rfl
      · intro port
        rw [records port, List.map_cons]
        by_cases own : port = key
        · subst own
          rw [if_neg distinct.1, if_pos List.mem_cons_self, getElem?_insert_eq, if_pos rfl, here]
          rfl
        · have kept : (state.usbInterfacesMap.insert key (flushed element))[port]? =
              state.usbInterfacesMap[port]? := by
            rw [getElem?_insert_eq, if_neg (Ne.symm own)]
          have visited : port ∈ key :: slots.map Prod.fst ↔ port ∈ slots.map Prod.fst := by
            simp [own]
          simp only [kept, visited]

/-- The flush: each record is emptied where it stands, and `usb_map` takes the
non-empty ones in port order. -/
theorem saveInterfacesInfoInUSBsMap_eq (state : State) :
    ∃ interfaces : InterfacesMap, saveInterfacesInfoInUSBsMap state =
        some ⟨interfaces, flusher.run state.usbMap (openRecords state.usbInterfacesMap)⟩ ∧
      ∀ port : CppString, interfaces[port]? = state.usbInterfacesMap[port]?.map flushed := by
  have keys : state.usbInterfacesMap.keys = state.usbInterfacesMap.toList.map Prod.fst :=
    ExtTreeMap.map_fst_toList_eq_keys.symm
  have distinct : (state.usbInterfacesMap.toList.map Prod.fst).Nodup := by
    rw [← keys]
    exact ExtTreeMap.nodup_keys
  obtain ⟨interfaces, run, records⟩ := saveInterfaces_eq state.usbInterfacesMap.toList state distinct
    fun slot member => ExtTreeMap.mem_toList_iff_getElem?_eq_some.mp member
  refine ⟨interfaces, ?_, ?_⟩
  · unfold saveInterfacesInfoInUSBsMap
    rw [keys]
    exact run
  · intro port
    rw [records port, ← keys]
    split
    · rfl
    · next absent =>
        rw [ExtTreeMap.getElem?_eq_none fun inside => absent (ExtTreeMap.mem_keys.mpr inside)]
        rfl

theorem saveInterfacesInfoInUSBsMap_usbMap (state : State) :
    ∃ interfaces, saveInterfacesInfoInUSBsMap state =
      some ⟨interfaces, flusher.run state.usbMap (openRecords state.usbInterfacesMap)⟩ := by
  obtain ⟨interfaces, run, _⟩ := saveInterfacesInfoInUSBsMap_eq state
  exact ⟨interfaces, run⟩

/-! ## The result of a run -/

def loopInterfaces (log : List LogLine) : InterfacesMap := runInterfaces log ∅

def loopClosings (log : List LogLine) : List Closing := runClosings log ∅

def loopUsbMap (log : List LogLine) : UsbMap := (loopClosings log).foldl recordClosing ∅

def finalUsbMap (log : List LogLine) : UsbMap :=
  flusher.run (loopUsbMap log) (openRecords (loopInterfaces log))

theorem readLines_log (log : List LogLine) :
    readLines log {} = some ⟨loopInterfaces log, loopUsbMap log⟩ := readLines_eq log {}

/-- The reader is total. -/
theorem getUSBsInfo_eq (log : List LogLine) : getUSBsInfo log = some (finalUsbMap log) := by
  unfold getUSBsInfo
  obtain ⟨interfaces, flush⟩ :=
    saveInterfacesInfoInUSBsMap_usbMap ⟨loopInterfaces log, loopUsbMap log⟩
  simp only [readLines_log, Option.bind_eq_bind, Option.bind_some, flush]
  rfl

/-! ## The entry under one serial -/

/-- The first value that is known. -/
def firstKnown {α : Type} [DecidableEq α] (unknown : α) (values : List α) : α :=
  (values.find? fun value => value ≠ unknown).getD unknown

theorem firstKnown_cons {α : Type} [DecidableEq α] (unknown value : α) (values : List α) :
    firstKnown unknown (value :: values) =
      if value = unknown then firstKnown unknown values else value := by
  unfold firstKnown
  by_cases h : value = unknown <;> simp [h]

/-- An entry after the flush of records of its serial. -/
def fillEntry (entry : UsbInfo) (records : List UsbInterface) : UsbInfo where
  connectionTimes := entry.connectionTimes ++ records.map UsbInterface.connectionTime
  disconnectionTimes := entry.disconnectionTimes
  idVendor := firstKnown 0 (entry.idVendor :: records.map UsbInterface.idVendor)
  idProduct := firstKnown 0 (entry.idProduct :: records.map UsbInterface.idProduct)
  productName := firstKnown [] (entry.productName :: records.map UsbInterface.productName)
  manufacturer := firstKnown [] (entry.manufacturer :: records.map UsbInterface.manufacturer)
  serialNumber := firstKnown [] (entry.serialNumber :: records.map UsbInterface.serialNumber)

/-- The records of one serial that the flush keeps: all of them when the serial
is known, and otherwise those from the first storage record on. -/
def keptOf (old : Option UsbInfo) (records : List UsbInterface) : List UsbInterface :=
  match old with
  | some _ => records
  | none => records.dropWhile fun element => !element.isStorageDevice

/-- The entry under a serial after the flush of the records of this serial. -/
def flushEntry (old : Option UsbInfo) (records : List UsbInterface) : Option UsbInfo :=
  match old, keptOf old records with
  | some entry, kept => some (fillEntry entry kept)
  | none, [] => none
  | none, first :: rest => some (fillEntry (freshEntry first) rest)

theorem firstKnown_merge {α : Type} [DecidableEq α] (unknown a b : α) (values : List α) :
    firstKnown unknown ((if a = unknown then b else a) :: values) =
      firstKnown unknown (a :: b :: values) := by
  simp only [firstKnown_cons]
  by_cases h : a = unknown <;> simp [h]

theorem fillEntry_cons (entry : UsbInfo) (element : UsbInterface) (records : List UsbInterface) :
    fillEntry (mergeInterface entry element) records = fillEntry entry (element :: records) := by
  simp [fillEntry, mergeInterface, firstKnown_merge]

theorem fillEntry_nil (entry : UsbInfo) : fillEntry entry [] = entry := by
  have known : ∀ {α : Type} [DecidableEq α] (unknown value : α),
      firstKnown unknown [value] = value := by
    intro α _ unknown value
    rw [firstKnown_cons]
    split
    · next h => rw [h]; rfl
    · rfl
  simp [fillEntry, known]

theorem flusher_localRun_some :
    ∀ (slots : List (CppString × UsbInterface)) (entry : UsbInfo),
      flusher.localRun (some entry) slots = some (fillEntry entry (slots.map Prod.snd)) := by
  intro slots
  induction slots with
  | nil => intro entry; exact congrArg some (fillEntry_nil entry).symm
  | cons slot slots ih =>
      intro entry
      have unfolded : flusher.localRun (some entry) (slot :: slots) =
          flusher.localRun (some (mergeInterface entry slot.2)) slots := rfl
      rw [unfolded, ih, fillEntry_cons, List.map_cons]

theorem flusher_localRun :
    ∀ (slots : List (CppString × UsbInterface)) (old : Option UsbInfo),
      flusher.localRun old slots = flushEntry old (slots.map Prod.snd) := by
  intro slots
  induction slots with
  | nil =>
      intro old
      cases old with
      | none => rfl
      | some entry => exact flusher_localRun_some [] entry
  | cons slot slots ih =>
      intro old
      cases old with
      | some entry => exact flusher_localRun_some (slot :: slots) entry
      | none =>
          have unfolded : flusher.localRun none (slot :: slots) =
              flusher.localRun (flusher.next slot none) slots := rfl
          rw [unfolded]
          cases storage : slot.2.isStorageDevice with
          | true =>
              rw [flusher_next_storage slot storage, flusher_localRun_some]
              simp [flushEntry, keptOf, storage]
          | false =>
              rw [flusher_next_other slot storage, ih none]
              simp [flushEntry, keptOf, storage]

def recordsOf (serial : CppString) (slots : List (CppString × UsbInterface)) :
    List (CppString × UsbInterface) :=
  slots.filter fun slot => slot.2.serialNumber = serial

theorem flusher_getElem? (usbMap : UsbMap) (slots : List (CppString × UsbInterface))
    (serial : CppString) :
    (flusher.run usbMap slots)[serial]? =
      flushEntry usbMap[serial]? ((recordsOf serial slots).map Prod.snd) := by
  have projected : flusher.project serial slots = recordsOf serial slots := by
    simp [Machine.project, recordsOf, flusher]
  rw [Keyed.run_getElem?, projected, flusher_localRun]

theorem finalUsbMap_getElem? (log : List LogLine) (serial : CppString) :
    (finalUsbMap log)[serial]? =
      flushEntry (closedEntry (closingsOf serial (loopClosings log)))
        ((recordsOf serial (openRecords (loopInterfaces log))).map Prod.snd) := by
  unfold finalUsbMap
  rw [flusher_getElem?]
  unfold loopUsbMap
  rw [usbMap_getElem?]

end StoringDevices
