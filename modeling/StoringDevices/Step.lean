import StoringDevices.Line

/-! # One line, once

`effect` says everything a line can do to the port records, and `processLine_eq`
that the loop body does exactly this: it is always defined, it rewrites the
records by `Effect.apply`, and it touches `usb_map` only when a disconnect line
closes a non-empty storage record, by `recordClosing`. -/
set_option autoImplicit false

namespace StoringDevices

open Std (ExtTreeMap)

/-! ## Maps -/

theorem replaceInMap_eq {V : Type} {map : CppMap V} {key : CppString} {old : V}
    (present : map[key]? = some old) (new : V) :
    replaceInMap map key new = some (map.insert key new) := by
  have replaced : (map.erase key).insertIfNew key new = map.insert key new := by
    apply ExtTreeMap.ext_getElem?
    intro k
    rw [ExtTreeMap.getElem?_insertIfNew, ExtTreeMap.getElem?_insert, ExtTreeMap.getElem?_erase]
    by_cases h : key = k
    · subst h; simp
    · simp [h]
  simp only [replaceInMap, present, replaced]

theorem insertIfNew_absent {V : Type} {map : CppMap V} {key : CppString}
    (absent : map[key]? = none) (new : V) : map.insertIfNew key new = map.insert key new := by
  have notMem : key ∉ map := by
    rw [ExtTreeMap.mem_iff_isSome_getElem?, absent]
    simp
  apply ExtTreeMap.ext_getElem?
  intro k
  rw [ExtTreeMap.getElem?_insertIfNew, ExtTreeMap.getElem?_insert]
  simp [notMem]

theorem alter_eq_insert {V : Type} (map : CppMap V) (key : CppString) (f : Option V → V) :
    (map.alter key fun old => some (f old)) = map.insert key (f map[key]?) := by
  apply ExtTreeMap.ext_getElem?
  intro k
  rw [ExtTreeMap.getElem?_alter, ExtTreeMap.getElem?_insert]

theorem modify_eq_insert {V : Type} {map : CppMap V} {key : CppString} {old : V}
    (present : map[key]? = some old) (f : V → V) : map.modify key f = map.insert key (f old) := by
  apply ExtTreeMap.ext_getElem?
  intro k
  rw [ExtTreeMap.getElem?_modify, ExtTreeMap.getElem?_insert]
  by_cases h : key = k
  · subst h; simp [present]
  · simp [h]

theorem modify_absent {V : Type} {map : CppMap V} {key : CppString}
    (absent : map[key]? = none) (f : V → V) : map.modify key f = map := by
  apply ExtTreeMap.ext_getElem?
  intro k
  rw [ExtTreeMap.getElem?_modify]
  by_cases h : key = k
  · subst h; simp [absent]
  · simp [h]

theorem getElem?_modify_eq {V : Type} (map : CppMap V) (key k : CppString) (f : V → V) :
    (map.modify key f)[k]? = if key = k then map[k]?.map f else map[k]? := by
  rw [ExtTreeMap.getElem?_modify]
  by_cases h : key = k
  · subst h; simp
  · simp [h]

theorem getElem?_insert_eq {V : Type} (map : CppMap V) (key k : CppString) (v : V) :
    (map.insert key v)[k]? = if key = k then some v else map[k]? := by
  rw [ExtTreeMap.getElem?_insert]
  simp

theorem getElem?_alter_eq {V : Type} (map : CppMap V) (key k : CppString)
    (f : Option V → Option V) :
    (map.alter key f)[k]? = if key = k then f map[k]? else map[k]? := by
  rw [ExtTreeMap.getElem?_alter]
  by_cases h : key = k
  · subst h; simp
  · simp [h]

/-! ## Effects -/

/-- A record that the disconnect handler moves into `usb_map`. -/
def UsbInterface.isOpenStorage (element : UsbInterface) : Bool :=
  !element.isEmpty && element.isStorageDevice

theorem isOpenStorage_iff {element : UsbInterface} :
    element.isOpenStorage = true ↔ element.isEmpty = false ∧ element.isStorageDevice = true := by
  simp [UsbInterface.isOpenStorage]

theorem isOpenStorage_of_unflagged {element : UsbInterface}
    (unflagged : element.isStorageDevice = false) : element.isOpenStorage = false := by
  rw [UsbInterface.isOpenStorage, unflagged, Bool.and_false]

/-- The port on which `checkIfNewDeviceConnected` accepts the line. -/
def acceptedPort (line : LogLine) (interfaces : InterfacesMap) : Option CppString :=
  (newPort line).filter fun port => interfaces[port]?.all UsbInterface.isEmpty

section Accepted
variable {line : LogLine} {interfaces : InterfacesMap} {opened : CppString}

theorem newPort_of_accepted (accepted : acceptedPort line interfaces = some opened) :
    newPort line = some opened := by
  unfold acceptedPort at accepted
  exact (Option.filter_eq_some_iff.mp accepted).1

theorem acceptedPort_of_none (noNew : newPort line = none) : acceptedPort line interfaces = none := by
  unfold acceptedPort
  rw [noNew, Option.filter_none]

variable (new : newPort line = some opened)
include new

theorem acceptedPort_of_free (free : interfaces[opened]?.all UsbInterface.isEmpty = true) :
    acceptedPort line interfaces = some opened := by
  unfold acceptedPort
  rw [new, Option.filter_some, if_pos free]

theorem acceptedPort_of_taken (taken : interfaces[opened]?.all UsbInterface.isEmpty = false) :
    acceptedPort line interfaces = none := by
  unfold acceptedPort
  rw [new, Option.filter_some, if_neg (by rw [taken]; exact Bool.false_ne_true)]

end Accepted

/-- The record of `port` that `checkIfDeviceDisconnected` closes. -/
def closedRecord (line : LogLine) (interfaces : InterfacesMap) (port : CppString) :
    Option UsbInterface :=
  if disconnects line then interfaces[port]?.filter UsbInterface.isOpenStorage else none

theorem closedRecord_of_quiet {line : LogLine} {interfaces : InterfacesMap} {port : CppString}
    (quiet : disconnects line = false) : closedRecord line interfaces port = none := by
  unfold closedRecord
  rw [quiet, if_neg Bool.false_ne_true]

theorem closedRecord_of_unflagged {line : LogLine} {interfaces : InterfacesMap} {port : CppString}
    (unflagged : ∀ element, interfaces[port]? = some element → element.isStorageDevice = false) :
    closedRecord line interfaces port = none := by
  unfold closedRecord
  cases here : interfaces[port]? with
  | none => split <;> rfl
  | some element =>
      have shut := isOpenStorage_of_unflagged (unflagged element here)
      rw [Option.filter_some, shut]
      split <;> rfl

inductive Effect where
  | ignore
  | flag (port : CppString)
  | inform (port : CppString)
  | connect (port opened : CppString)
  | disconnect (port : CppString) (record : UsbInterface)
  deriving DecidableEq

def informed (line : LogLine) (port : CppString) (interfaces : InterfacesMap) : InterfacesMap :=
  interfaces.modify port (announce line)

def effect (line : LogLine) (interfaces : InterfacesMap) : Effect :=
  match storagePort line with
  | some port => .flag port
  | none =>
      match usbPort line with
      | none => .ignore
      | some port =>
          match acceptedPort line (informed line port interfaces) with
          | some opened => .connect port opened
          | none =>
              match closedRecord line (informed line port interfaces) port with
              | some record => .disconnect port record
              | none => .inform port

/-- What is known of a line and the records when its effect is given. -/
inductive EffectSpec (line : LogLine) (interfaces : InterfacesMap) : Effect → Prop where
  | ignore (storage : storagePort line = none) (usb : usbPort line = none) :
      EffectSpec line interfaces .ignore
  | flag {port : CppString} (storage : storagePort line = some port) :
      EffectSpec line interfaces (.flag port)
  | inform {port : CppString} (storage : storagePort line = none) (usb : usbPort line = some port)
      (refused : acceptedPort line (informed line port interfaces) = none)
      (kept : closedRecord line (informed line port interfaces) port = none) :
      EffectSpec line interfaces (.inform port)
  | connect {port opened : CppString} (storage : storagePort line = none)
      (usb : usbPort line = some port) (new : newPort line = some opened)
      (free : (informed line port interfaces)[opened]?.all UsbInterface.isEmpty = true) :
      EffectSpec line interfaces (.connect port opened)
  | disconnect {port : CppString} {record : UsbInterface} (storage : storagePort line = none)
      (usb : usbPort line = some port)
      (refused : acceptedPort line (informed line port interfaces) = none)
      (announced : disconnects line = true)
      (present : (informed line port interfaces)[port]? = some record)
      (live : record.isOpenStorage = true) : EffectSpec line interfaces (.disconnect port record)

theorem effect_spec (line : LogLine) (interfaces : InterfacesMap) :
    EffectSpec line interfaces (effect line interfaces) := by
  unfold effect
  cases storage : storagePort line with
  | some port => exact .flag storage
  | none =>
      cases usb : usbPort line with
      | none => exact .ignore storage usb
      | some port =>
          cases accepted : acceptedPort line (informed line port interfaces) with
          | some opened =>
              simp only [accepted]
              simp only [acceptedPort, Option.filter_eq_some_iff] at accepted
              exact .connect storage usb accepted.1 accepted.2
          | none =>
              cases closed : closedRecord line (informed line port interfaces) port with
              | none =>
                  simp only [accepted, closed]
                  exact .inform storage usb accepted closed
              | some record =>
                  simp only [accepted, closed]
                  unfold closedRecord at closed
                  split at closed
                  · next announced =>
                      rw [Option.filter_eq_some_iff] at closed
                      exact .disconnect storage usb accepted announced closed.1 closed.2
                  · cases closed

section Effects
variable {line : LogLine} {interfaces : InterfacesMap} {port : CppString}

theorem effect_flag (storage : storagePort line = some port) :
    effect line interfaces = .flag port := by
  unfold effect
  rw [storage]

variable (storage : storagePort line = none)
include storage

theorem effect_ignore (usb : usbPort line = none) : effect line interfaces = .ignore := by
  unfold effect
  rw [storage, usb]

variable (usb : usbPort line = some port)
include usb

theorem effect_connect {opened : CppString}
    (accepted : acceptedPort line (informed line port interfaces) = some opened) :
    effect line interfaces = .connect port opened := by
  unfold effect
  simp only [storage, usb, accepted]

variable (refused : acceptedPort line (informed line port interfaces) = none)
include refused

theorem effect_disconnect {record : UsbInterface}
    (closed : closedRecord line (informed line port interfaces) port = some record) :
    effect line interfaces = .disconnect port record := by
  unfold effect
  simp only [storage, usb, refused, closed]

theorem effect_inform (kept : closedRecord line (informed line port interfaces) port = none) :
    effect line interfaces = .inform port := by
  unfold effect
  simp only [storage, usb, refused, kept]

end Effects

def flagged (element : UsbInterface) : UsbInterface := { element with isStorageDevice := true }

/-- The record an accepted connection line leaves. -/
def connected (line : LogLine) (old : Option UsbInterface) : UsbInterface :=
  { old.getD initializeUsbInterface with isEmpty := false, connectionTime := logTime line }

def Effect.apply (line : LogLine) (interfaces : InterfacesMap) : Effect → InterfacesMap
  | .ignore => interfaces
  | .flag port => interfaces.modify port flagged
  | .inform port => informed line port interfaces
  | .connect port opened =>
      (informed line port interfaces).insert opened
        (connected line (informed line port interfaces)[opened]?)
  | .disconnect port _ => (informed line port interfaces).insert port initializeUsbInterface

def stepInterfaces (line : LogLine) (interfaces : InterfacesMap) : InterfacesMap :=
  (effect line interfaces).apply line interfaces

theorem informed_getElem? (line : LogLine) (port k : CppString) (interfaces : InterfacesMap) :
    (informed line port interfaces)[k]? =
      if port = k then interfaces[k]?.map (announce line) else interfaces[k]? :=
  getElem?_modify_eq interfaces port k (announce line)

@[simp] theorem apply_ignore (line : LogLine) (interfaces : InterfacesMap) :
    Effect.apply line interfaces .ignore = interfaces := rfl

theorem apply_flag_getElem? (line : LogLine) (interfaces : InterfacesMap) (port k : CppString) :
    (Effect.apply line interfaces (.flag port))[k]? =
      if port = k then interfaces[k]?.map flagged else interfaces[k]? :=
  getElem?_modify_eq interfaces port k flagged

theorem stepInterfaces_flag {line : LogLine} {interfaces : InterfacesMap} {port : CppString}
    {element : UsbInterface} (storage : storagePort line = some port)
    (present : interfaces[port]? = some element) :
    (stepInterfaces line interfaces)[port]? = some (flagged element) := by
  unfold stepInterfaces
  rw [effect_flag storage, apply_flag_getElem?, if_pos rfl, present, Option.map_some]

theorem apply_inform_getElem? (line : LogLine) (interfaces : InterfacesMap) (port k : CppString) :
    (Effect.apply line interfaces (.inform port))[k]? =
      if port = k then interfaces[k]?.map (announce line) else interfaces[k]? :=
  informed_getElem? line port k interfaces

theorem apply_connect_getElem? (line : LogLine) (interfaces : InterfacesMap)
    (port opened k : CppString) :
    (Effect.apply line interfaces (.connect port opened))[k]? =
      if opened = k then some (connected line (informed line port interfaces)[k]?)
      else (informed line port interfaces)[k]? := by
  unfold Effect.apply
  rw [getElem?_insert_eq]
  by_cases h : opened = k
  · subst h; rfl
  · simp [h]

theorem apply_disconnect_getElem? (line : LogLine) (interfaces : InterfacesMap)
    (port k : CppString) (record : UsbInterface) :
    (Effect.apply line interfaces (.disconnect port record))[k]? =
      if port = k then some initializeUsbInterface else interfaces[k]? := by
  unfold Effect.apply
  rw [getElem?_insert_eq, informed_getElem?]
  by_cases h : port = k <;> simp [h]

/-! The information handler leaves the session fields of a record alone. -/

theorem announce_session (line : LogLine) (element : UsbInterface) :
    (announce line element).isEmpty = element.isEmpty ∧
    (announce line element).isStorageDevice = element.isStorageDevice ∧
    (announce line element).connectionTime = element.connectionTime := by
  unfold announce
  split
  · exact ⟨rfl, rfl, rfl⟩
  · split
    · exact ⟨rfl, rfl, rfl⟩
    · split
      · exact ⟨rfl, rfl, rfl⟩
      · split <;> exact ⟨rfl, rfl, rfl⟩

@[simp] theorem announce_isEmpty (line : LogLine) (element : UsbInterface) :
    (announce line element).isEmpty = element.isEmpty := (announce_session line element).1

@[simp] theorem announce_isStorageDevice (line : LogLine) (element : UsbInterface) :
    (announce line element).isStorageDevice = element.isStorageDevice :=
  (announce_session line element).2.1

@[simp] theorem announce_connectionTime (line : LogLine) (element : UsbInterface) :
    (announce line element).connectionTime = element.connectionTime :=
  (announce_session line element).2.2

@[simp] theorem announce_isOpenStorage (line : LogLine) (element : UsbInterface) :
    (announce line element).isOpenStorage = element.isOpenStorage := by
  simp [UsbInterface.isOpenStorage]

/-- No announcement takes a port or frees it. -/
theorem informed_all_isEmpty (line : LogLine) (told port : CppString) (interfaces : InterfacesMap) :
    (informed line told interfaces)[port]?.all UsbInterface.isEmpty =
      interfaces[port]?.all UsbInterface.isEmpty := by
  rw [informed_getElem?]
  by_cases own : told = port
  · rw [if_pos own, Option.all_map]
    congr 1
    funext record
    exact announce_isEmpty line record
  · rw [if_neg own]

/-- A session moved into `usb_map`: the record of the port and the time of the
disconnect line. -/
structure Closing where
  port : CppString
  record : UsbInterface
  time : CppString
  deriving DecidableEq

def Effect.closing (line : LogLine) : Effect → Option Closing
  | .disconnect port record => some ⟨port, record, logTime line⟩
  | _ => none

def closingOf (line : LogLine) (interfaces : InterfacesMap) : Option Closing :=
  (effect line interfaces).closing line

theorem closingOf_disconnect {line : LogLine} {interfaces : InterfacesMap} {closing : Closing}
    (found : closingOf line interfaces = some closing) :
    effect line interfaces = .disconnect closing.port closing.record ∧
      closing.time = logTime line := by
  unfold closingOf at found
  cases here : effect line interfaces with
  | disconnect port record =>
      rw [here] at found
      cases found
      exact ⟨rfl, rfl⟩
  | _ =>
      rw [here] at found
      cases found

/-- The entry of the closing's serial, from what the map held under it. -/
def closeInto (closing : Closing) : Option UsbInfo → UsbInfo
  | some usbElement =>
      { usbElement with
        connectionTimes := usbElement.connectionTimes ++ [closing.record.connectionTime]
        disconnectionTimes := usbElement.disconnectionTimes ++ [closing.time] }
  | none =>
      { connectionTimes := [closing.record.connectionTime]
        disconnectionTimes := [closing.time]
        idVendor := closing.record.idVendor
        idProduct := closing.record.idProduct
        productName := closing.record.productName
        manufacturer := closing.record.manufacturer
        serialNumber := closing.record.serialNumber }

def recordClosing (usbMap : UsbMap) (closing : Closing) : UsbMap :=
  usbMap.alter closing.record.serialNumber fun old => some (closeInto closing old)

/-! ## One lemma for each handler -/

theorem checkIfStorageDevice_eq (line : LogLine) (interfaces : InterfacesMap) :
    checkIfStorageDevice line.text interfaces =
      some ((storagePort line).isSome,
        match storagePort line with
        | some port => interfaces.modify port flagged
        | none => interfaces) := by
  unfold checkIfStorageDevice storagePort
  cases regexSearch line.text storageRegex with
  | none => rfl
  | some found =>
      simp only [Option.map_some, Option.isSome_some]
      cases present : interfaces[getInterfaceIdFromRegex found]? with
      | none => rw [modify_absent present]
      | some element =>
          simp only [replaceInInterfacesMap]
          rw [replaceInMap_eq present, modify_eq_insert present]
          rfl

theorem checkIfNewDeviceConnected_eq (line : LogLine) (interfaces : InterfacesMap) :
    checkIfNewDeviceConnected line.text interfaces =
      some ((acceptedPort line interfaces).isSome,
        match acceptedPort line interfaces with
        | some port => interfaces.insert port (connected line interfaces[port]?)
        | none => interfaces) := by
  unfold checkIfNewDeviceConnected acceptedPort newPort
  cases regexSearch line.text newUsbRegex with
  | none => rfl
  | some found =>
      simp only [Option.map_some, Option.filter_some]
      cases present : interfaces[getInterfaceIdFromRegex found]? with
      | none =>
          simp only [insertIfNew_absent present, Option.all_none, if_true, Option.isSome_some,
            present]
          rfl
      | some element =>
          cases empty : element.isEmpty with
          | true =>
              simp only [empty, if_true, replaceInInterfacesMap, Option.all_some]
              rw [replaceInMap_eq present]
              simp only [present]
              rfl
          | false => simp [empty]

/-- A line without a port addresses the empty key. -/
theorem checkIfDeviceDisconnected_getD (line : LogLine) (interfaces : InterfacesMap)
    (usbMap : UsbMap) {port : CppString} (here : (usbPort line).getD [] = port) :
    checkIfDeviceDisconnected line.text interfaces usbMap =
      some (disconnects line,
        match closedRecord line interfaces port with
        | some record =>
            (interfaces.insert port initializeUsbInterface,
              recordClosing usbMap ⟨port, record, logTime line⟩)
        | none => (interfaces, usbMap)) := by
  unfold usbPort at here
  unfold checkIfDeviceDisconnected closedRecord disconnects
  cases regexSearch line.text disconnectionFoundRegex with
  | none => rfl
  | some found =>
      cases mention : regexSearch line.text usbRegex
      all_goals
        rw [mention] at here
        simp only [Option.map_none, Option.map_some, Option.getD_none, Option.getD_some] at here
        subst here
        simp only [Option.isSome_some, if_true]
        split
        · next absent =>
            simp only [absent]
            rfl
        · next element present =>
            simp only [present, Option.filter_some]
            cases isOpen : element.isOpenStorage with
            | false =>
                unfold UsbInterface.isOpenStorage at isOpen
                simp [isOpen]
            | true =>
                unfold UsbInterface.isOpenStorage at isOpen
                simp only [isOpen, if_true]
                cases known : usbMap[element.serialNumber]? with
                | some usbElement =>
                    simp only [replaceInUSBsMap, replaceInInterfacesMap, replaceInMap_eq known,
                      replaceInMap_eq present, recordClosing, alter_eq_insert]
                    rw [known]
                    rfl
                | none =>
                    simp only [replaceInInterfacesMap, insertIfNew_absent known,
                      replaceInMap_eq present, recordClosing, alter_eq_insert]
                    rw [known]
                    rfl

theorem checkIfDeviceDisconnected_eq (line : LogLine) (interfaces : InterfacesMap)
    (usbMap : UsbMap) {port : CppString} (here : usbPort line = some port) :
    checkIfDeviceDisconnected line.text interfaces usbMap =
      some (disconnects line,
        match closedRecord line interfaces port with
        | some record =>
            (interfaces.insert port initializeUsbInterface,
              recordClosing usbMap ⟨port, record, logTime line⟩)
        | none => (interfaces, usbMap)) :=
  checkIfDeviceDisconnected_getD line interfaces usbMap (by rw [here, Option.getD_some])

theorem checkIfInformationAboutDeviceFound_eq (line : LogLine) (interfaces : InterfacesMap) :
    checkIfInformationAboutDeviceFound line interfaces =
      some (false,
        match usbPort line with
        | some port => informed line port interfaces
        | none => interfaces) := by
  unfold checkIfInformationAboutDeviceFound usbPort
  cases regexSearch line.text usbRegex with
  | none => rfl
  | some found =>
      simp only [Option.map_some, informed]
      cases present : interfaces[getInterfaceIdFromRegex found]? with
      | none => rw [modify_absent present]
      | some element =>
          rw [modify_eq_insert present]
          have vendor := idAfterEquals_label "idVendor".toList (regexSearch line.text idVendorRegex)
            (by decide) fun w hw => (regexSearch_some hw).2
          have product := idAfterEquals_label "idProduct".toList
            (regexSearch line.text idProductRegex) (by decide) fun w hw => (regexSearch_some hw).2
          simp only [replaceInInterfacesMap, vendor, product, replaceInMap_eq present]
          unfold announce announcedSerialNumber announcedProductName announcedManufacturer
            announcedText describesIds
          cases regexSearch line.text idVendorAndIdProductRegex with
          | some _ => rfl
          | none =>
              simp only [Option.isSome_none, Bool.false_eq_true, if_false]
              cases serial : regexSearch line.text serialNumberRegex with
              | some w =>
                  have cut := textAfterColon_label "SerialNumber".toList w (by decide)
                    (regexSearch_some serial).2
                  simp only [Option.isSome_some, if_true, str, Option.getD_some, cut]
                  rfl
              | none =>
                  simp only [Option.isSome_none, Bool.false_eq_true, if_false]
                  cases name : regexSearch line.text productNameRegex with
                  | some w =>
                      have cut := textAfterColon_label "Product".toList w (by decide)
                        (regexSearch_some name).2
                      simp only [Option.isSome_some, if_true, str, Option.getD_some, cut]
                      rfl
                  | none =>
                      simp only [Option.isSome_none, Bool.false_eq_true, if_false]
                      cases maker : regexSearch line.text manufacturerRegex with
                      | some w =>
                          have cut := textAfterColon_label "Manufacturer".toList w (by decide)
                            (regexSearch_some maker).2
                          simp only [Option.isSome_some, if_true, str, Option.getD_some, cut]
                          rfl
                      | none =>
                          simp only [Option.isSome_none, Bool.false_eq_true, if_false, Option.map_none]
                          rw [← modify_eq_insert present fun e => e]
                          congr 2
                          apply ExtTreeMap.ext_getElem?
                          intro k
                          rw [getElem?_modify_eq]
                          simp

/-- The loop body, for every line and every state. -/
theorem processLine_eq (line : LogLine) (state : State) :
    processLine line state =
      some ⟨stepInterfaces line state.usbInterfacesMap,
        match closingOf line state.usbInterfacesMap with
        | some closing => recordClosing state.usbMap closing
        | none => state.usbMap⟩ := by
  unfold processLine stepInterfaces closingOf effect
  rw [checkIfStorageDevice_eq]
  cases storagePort line with
  | some port => rfl
  | none =>
      have seen : (regexSearch line.text usbRegex).isSome = (usbPort line).isSome := by
        simp [usbPort]
      simp only [Option.bind_eq_bind, Option.bind_some, Option.isSome_none, Bool.false_eq_true,
        if_false, seen]
      cases here : usbPort line with
      | none => rfl
      | some port =>
          simp only [checkIfInformationAboutDeviceFound_eq, checkIfNewDeviceConnected_eq, here,
            Option.isSome_some, if_true, Option.bind_some, Bool.false_eq_true, if_false]
          cases acceptedPort line (informed line port state.usbInterfacesMap) with
          | some opened => rfl
          | none =>
              simp only [Option.isSome_none, Bool.false_eq_true, if_false,
                checkIfDeviceDisconnected_eq line _ state.usbMap here, Option.bind_some]
              cases closedRecord line (informed line port state.usbInterfacesMap) port <;> rfl

end StoringDevices
