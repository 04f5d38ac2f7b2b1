import StoringDevices.Conservation
import StoringDevices.FlushIterators

/-! # The reader with its iterators

Each handler looks its key up, reads the element through the iterator that
`find` returned, and replaces the element.  No iterator outlives its element
there, so the line loop only reads valid ones and its elements are the entries
of the two maps.  The flush that follows advances an iterator whose element it
has replaced, unless no record of the run is left non-empty. -/
set_option autoImplicit false

namespace StoringDevices

open Handles (HandleMap Iterator Node Represents)

namespace ReaderIterators

open FlushIterators (HandledMap HandledState Outcome)

/-! ## The handlers -/

def checkIfStorageDevice (line : CppString) (usbInterfacesMap : HandledMap UsbInterface) :
    Option (Bool × HandledMap UsbInterface) :=
  match regexSearch line storageRegex with
  | none => some (false, usbInterfacesMap)
  | some idStorageFound =>
      let interfaceId := getInterfaceIdFromRegex idStorageFound
      if usbInterfacesMap.find interfaceId ≠ .past then do
        let it := usbInterfacesMap.find interfaceId
        let element ← usbInterfacesMap.deref it
        let (usbInterfacesMap, _) ← FlushIterators.replaceInInterfacesMap usbInterfacesMap interfaceId
          { element.value with isStorageDevice := true }
        some (true, usbInterfacesMap)
      else
        some (true, usbInterfacesMap)

def checkIfNewDeviceConnected (line : CppString) (usbInterfacesMap : HandledMap UsbInterface) :
    Option (Bool × HandledMap UsbInterface) :=
  match regexSearch line newUsbRegex with
  | none => some (false, usbInterfacesMap)
  | some regexFound =>
      let interfaceId := getInterfaceIdFromRegex regexFound
      if usbInterfacesMap.find interfaceId ≠ .past then do
        let it := usbInterfacesMap.find interfaceId
        let element ← usbInterfacesMap.deref it
        if element.value.isEmpty then
          let (usbInterfacesMap, _) ← FlushIterators.replaceInInterfacesMap usbInterfacesMap interfaceId
            { element.value with
              isEmpty := false, connectionTime := str (regexSearch line dateRegex) }
          some (true, usbInterfacesMap)
        else
          some (false, usbInterfacesMap)
      else
        some (true, (usbInterfacesMap.insert interfaceId
          { initializeUsbInterface with
            isEmpty := false, connectionTime := str (regexSearch line dateRegex) }).1)

/-- The entry of a disconnected storage device, appended to or inserted. -/
def saveDisconnected (usbMap : HandledMap UsbInfo) (element : UsbInterface) (time : CppString) :
    Option (HandledMap UsbInfo) :=
  if 0 < usbMap.count element.serialNumber then do
    let usbIt := usbMap.find element.serialNumber
    let usbElement ← usbMap.deref usbIt
    let (usbMap, _) ← FlushIterators.replaceInUSBsMap usbMap element.serialNumber
      { usbElement.value with
        connectionTimes := usbElement.value.connectionTimes ++ [element.connectionTime]
        disconnectionTimes := usbElement.value.disconnectionTimes ++ [time] }
    some usbMap
  else
    some (usbMap.insert element.serialNumber
      { connectionTimes := [element.connectionTime]
        disconnectionTimes := [time]
        idVendor := element.idVendor
        idProduct := element.idProduct
        productName := element.productName
        manufacturer := element.manufacturer
        serialNumber := element.serialNumber }).1

def checkIfDeviceDisconnected (line : CppString) (usbInterfacesMap : HandledMap UsbInterface)
    (usbMap : HandledMap UsbInfo) :
    Option (Bool × HandledMap UsbInterface × HandledMap UsbInfo) :=
  match regexSearch line disconnectionFoundRegex with
  | none => some (false, usbInterfacesMap, usbMap)
  | some _ =>
      let interfaceId := ((regexSearch line usbRegex).map getInterfaceIdFromRegex).getD []
      if usbInterfacesMap.find interfaceId ≠ .past then do
        let it := usbInterfacesMap.find interfaceId
        let element ← usbInterfacesMap.deref it
        let time := str (regexSearch line dateRegex)
        if !element.value.isEmpty && element.value.isStorageDevice then
          let usbMap ← saveDisconnected usbMap element.value time
          let (usbInterfacesMap, _) ←
            FlushIterators.replaceInInterfacesMap usbInterfacesMap interfaceId initializeUsbInterface
          some (true, usbInterfacesMap, usbMap)
        else
          some (true, usbInterfacesMap, usbMap)
      else
        some (true, usbInterfacesMap, usbMap)

def checkIfInformationAboutDeviceFound (line : LogLine)
    (usbInterfacesMap : HandledMap UsbInterface) : Option (Bool × HandledMap UsbInterface) :=
  match regexSearch line.text usbRegex with
  | none => some (false, usbInterfacesMap)
  | some regexFound =>
      let interfaceId := getInterfaceIdFromRegex regexFound
      if usbInterfacesMap.find interfaceId ≠ .past then do
        let it := usbInterfacesMap.find interfaceId
        let element ← usbInterfacesMap.deref it
        if (regexSearch line.text idVendorAndIdProductRegex).isSome then
          let idVendor ← idAfterEquals (str (regexSearch line.text idVendorRegex))
          let idProduct ← idAfterEquals (str (regexSearch line.text idProductRegex))
          let (usbInterfacesMap, _) ← FlushIterators.replaceInInterfacesMap usbInterfacesMap interfaceId
            { element.value with
              idVendor := idVendor.getD line.unsetVendor
              idProduct := idProduct.getD line.unsetProduct }
          some (false, usbInterfacesMap)
        else if (regexSearch line.text serialNumberRegex).isSome then
          let serialNumber ← textAfterColon (str (regexSearch line.text serialNumberRegex))
          let (usbInterfacesMap, _) ← FlushIterators.replaceInInterfacesMap usbInterfacesMap interfaceId
            { element.value with serialNumber := serialNumber }
          some (false, usbInterfacesMap)
        else if (regexSearch line.text productNameRegex).isSome then
          let productName ← textAfterColon (str (regexSearch line.text productNameRegex))
          let (usbInterfacesMap, _) ← FlushIterators.replaceInInterfacesMap usbInterfacesMap interfaceId
            { element.value with productName := productName }
          some (false, usbInterfacesMap)
        else if (regexSearch line.text manufacturerRegex).isSome then
          let manufacturer ← textAfterColon (str (regexSearch line.text manufacturerRegex))
          let (usbInterfacesMap, _) ← FlushIterators.replaceInInterfacesMap usbInterfacesMap interfaceId
            { element.value with manufacturer := manufacturer }
          some (false, usbInterfacesMap)
        else
          some (false, usbInterfacesMap)
      else
        some (false, usbInterfacesMap)

/-! ## The line loop -/

def processLine (line : LogLine) (state : HandledState) : Option HandledState := do
  let (isStorage, interfaces) ← checkIfStorageDevice line.text state.usbInterfacesMap
  if isStorage then
    some { state with usbInterfacesMap := interfaces }
  else if (regexSearch line.text usbRegex).isSome then
    let (isInformation, interfaces) ← checkIfInformationAboutDeviceFound line interfaces
    if isInformation then
      some { state with usbInterfacesMap := interfaces }
    else
      let (isNew, interfaces) ← checkIfNewDeviceConnected line.text interfaces
      if isNew then
        some { state with usbInterfacesMap := interfaces }
      else
        let (_, interfaces, usbMap) ←
          checkIfDeviceDisconnected line.text interfaces state.usbMap
        some ⟨interfaces, usbMap⟩
  else
    some { state with usbInterfacesMap := interfaces }

def readLines (lines : List LogLine) (state : HandledState) : Option HandledState :=
  lines.foldlM (fun state line => processLine line state) state

/-- The maps as they are declared, then the line loop and a number of turns of
the flush loop. -/
def getUSBsInfo (turns : Nat) (log : List LogLine) : Option Outcome := do
  let state ← readLines log ⟨.empty, .empty⟩
  some (FlushIterators.saveInterfacesInfoInUSBsMap turns state)

/-! ## The handlers on the elements and on the maps -/

/-- A handler's answer, with elements that are the entries of its map. -/
def Answers (handled : Bool × HandledMap UsbInterface) (mapped : Bool × InterfacesMap) : Prop :=
  handled.1 = mapped.1 ∧ Represents handled.2 mapped.2

/-- The two maps with their elements. -/
structure StateRepresents (handled : HandledState) (maps : State) : Prop where
  interfaces : Represents handled.usbInterfacesMap maps.usbInterfacesMap
  usbMap : Represents handled.usbMap maps.usbMap

section Handlers
variable {handled : HandledMap UsbInterface} {map : InterfacesMap}
  (represents : Represents handled map)

include represents

theorem replaceInInterfacesMap_rel {key : CppString} {old : UsbInterface}
    (present : map[key]? = some old) (new : UsbInterface) :
    Option.Rel (fun written written' => Represents written.1 written')
      (FlushIterators.replaceInInterfacesMap handled key new)
      (StoringDevices.replaceInInterfacesMap map key new) := by
  obtain ⟨after, position, run, represents⟩ := represents.replace present new
  unfold FlushIterators.replaceInInterfacesMap StoringDevices.replaceInInterfacesMap
  rw [run, replaceInMap_eq present]
  exact .some represents

/-- The end of a handler that replaces the element it found. -/
theorem replaced_rel {key : CppString} {old : UsbInterface} (present : map[key]? = some old)
    (new : UsbInterface) (answer : Bool) :
    Option.Rel Answers
      ((FlushIterators.replaceInInterfacesMap handled key new).bind fun written => some (answer, written.1))
      ((StoringDevices.replaceInInterfacesMap map key new).bind fun written =>
        some (answer, written)) := by
  apply Handles.rel_bind (replaceInInterfacesMap_rel represents present new)
  intro written written' represents
  exact .some ⟨rfl, represents⟩

theorem checkIfStorageDevice_rel (line : CppString) :
    Option.Rel Answers (checkIfStorageDevice line handled)
      (StoringDevices.checkIfStorageDevice line map) := by
  unfold checkIfStorageDevice StoringDevices.checkIfStorageDevice
  cases regexSearch line storageRegex with
  | none => exact .some ⟨rfl, represents⟩
  | some found =>
      cases present : map[getInterfaceIdFromRegex found]? with
      | none =>
          simp only [represents.find_absent present, present, ne_eq, not_true, if_false]
          exact .some ⟨rfl, represents⟩
      | some element =>
          obtain ⟨node, _, _, rfl, position, read⟩ := represents.find_present present
          simp only [position, read, present, ne_eq, reduceCtorEq, not_false_iff, if_true]
          exact replaced_rel represents present _ true

theorem checkIfNewDeviceConnected_rel (line : CppString) :
    Option.Rel Answers (checkIfNewDeviceConnected line handled)
      (StoringDevices.checkIfNewDeviceConnected line map) := by
  unfold checkIfNewDeviceConnected StoringDevices.checkIfNewDeviceConnected
  cases regexSearch line newUsbRegex with
  | none => exact .some ⟨rfl, represents⟩
  | some found =>
      cases present : map[getInterfaceIdFromRegex found]? with
      | none =>
          simp only [represents.find_absent present, present, ne_eq, not_true, if_false,
            insertIfNew_absent present]
          exact .some ⟨rfl, represents.insert present _⟩
      | some element =>
          obtain ⟨node, _, _, rfl, position, read⟩ := represents.find_present present
          simp only [position, read, present, ne_eq, reduceCtorEq, not_false_iff, if_true,
            Option.bind_eq_bind, Option.bind_some]
          cases node.value.isEmpty with
          | true => exact replaced_rel represents present _ true
          | false => exact .some ⟨rfl, represents⟩

theorem checkIfInformationAboutDeviceFound_rel (line : LogLine) :
    Option.Rel Answers (checkIfInformationAboutDeviceFound line handled)
      (StoringDevices.checkIfInformationAboutDeviceFound line map) := by
  unfold checkIfInformationAboutDeviceFound StoringDevices.checkIfInformationAboutDeviceFound
  have same : ∀ {A : Type} (x : Option A), Option.Rel Eq x x := by
    intro A x
    cases x with
    | none => exact .none
    | some a => exact .some rfl
  cases regexSearch line.text usbRegex with
  | none => exact .some ⟨rfl, represents⟩
  | some found =>
      cases present : map[getInterfaceIdFromRegex found]? with
      | none =>
          simp only [represents.find_absent present, present, ne_eq, not_true, if_false]
          exact .some ⟨rfl, represents⟩
      | some element =>
          obtain ⟨node, _, _, rfl, position, read⟩ := represents.find_present present
          simp only [position, read, present, ne_eq, reduceCtorEq, not_false_iff, if_true,
            Option.bind_eq_bind, Option.bind_some]
          split
          · apply Handles.rel_bind (same _)
            rintro idVendor _ rfl
            apply Handles.rel_bind (same _)
            rintro idProduct _ rfl
            exact replaced_rel represents present _ false
          · split
            · apply Handles.rel_bind (same _)
              rintro serialNumber _ rfl
              exact replaced_rel represents present _ false
            · split
              · apply Handles.rel_bind (same _)
                rintro productName _ rfl
                exact replaced_rel represents present _ false
              · split
                · apply Handles.rel_bind (same _)
                  rintro manufacturer _ rfl
                  exact replaced_rel represents present _ false
                · exact .some ⟨rfl, represents⟩

end Handlers

/-- The answer of the disconnection handler, with the elements of both maps. -/
def Closed (handled : Bool × HandledMap UsbInterface × HandledMap UsbInfo)
    (mapped : Bool × InterfacesMap × UsbMap) : Prop :=
  handled.1 = mapped.1 ∧ Represents handled.2.1 mapped.2.1 ∧ Represents handled.2.2 mapped.2.2

/-- The entry of a closed session is written as `recordClosing` writes it. -/
theorem saveDisconnected_represents {handled : HandledMap UsbInfo} {usbMap : UsbMap}
    (represents : Represents handled usbMap) (port : CppString) (record : UsbInterface)
    (time : CppString) :
    ∃ after, saveDisconnected handled record time = some after ∧
      Represents after (recordClosing usbMap ⟨port, record, time⟩) := by
  unfold saveDisconnected recordClosing
  rw [alter_eq_insert]
  cases known : usbMap[record.serialNumber]? with
  | none =>
      rw [if_neg (Nat.not_lt.mpr
        (Nat.le_of_eq ((represents.count_eq_zero_iff record.serialNumber).mpr known)))]
      exact ⟨_, rfl, represents.insert known _⟩
  | some entry =>
      have counted : handled.count record.serialNumber ≠ 0 := by
        intro zero
        rw [(represents.count_eq_zero_iff record.serialNumber).mp zero] at known
        cases known
      obtain ⟨node, _, _, rfl, position, read⟩ := represents.find_present known
      obtain ⟨after, _, run, represents⟩ := represents.replace known
        (closeInto ⟨port, record, time⟩ (some node.value))
      refine ⟨after, ?_, represents⟩
      simp only [if_pos (Nat.pos_of_ne_zero counted), position, read,
        FlushIterators.replaceInUSBsMap, Option.bind_eq_bind, Option.bind_some]
      unfold closeInto at run
      rw [run]
      rfl

theorem checkIfDeviceDisconnected_rel (line : LogLine) {handled : HandledMap UsbInterface}
    {map : InterfacesMap} (interfaces : Represents handled map) {handledUsbs : HandledMap UsbInfo}
    {usbs : UsbMap} (usbMap : Represents handledUsbs usbs) :
    Option.Rel Closed (checkIfDeviceDisconnected line.text handled handledUsbs)
      (StoringDevices.checkIfDeviceDisconnected line.text map usbs) := by
  rw [checkIfDeviceDisconnected_getD line map usbs rfl]
  unfold checkIfDeviceDisconnected closedRecord disconnects usbPort
  generalize ((regexSearch line.text usbRegex).map getInterfaceIdFromRegex).getD [] = port
  cases regexSearch line.text disconnectionFoundRegex with
  | none => exact .some ⟨rfl, interfaces, usbMap⟩
  | some _ =>
      cases present : map[port]? with
      | none =>
          simp only [interfaces.find_absent present, ne_eq, not_true, if_false, Option.filter_none,
            Option.isSome_some, if_true]
          exact .some ⟨rfl, interfaces, usbMap⟩
      | some element =>
          obtain ⟨node, _, _, rfl, position, read⟩ := interfaces.find_present present
          have isOpen : (!node.value.isEmpty && node.value.isStorageDevice) =
              node.value.isOpenStorage := rfl
          simp only [position, read, ne_eq, reduceCtorEq, not_false_iff, if_true, isOpen,
            Option.bind_eq_bind, Option.bind_some, Option.isSome_some, Option.filter_some]
          cases node.value.isOpenStorage with
          | false => exact .some ⟨rfl, interfaces, usbMap⟩
          | true =>
              obtain ⟨written, saved, usbMap⟩ :=
                saveDisconnected_represents usbMap port node.value (logTime line)
              obtain ⟨replaced, _, run, interfaces⟩ :=
                interfaces.replace present initializeUsbInterface
              unfold logTime at saved
              simp only [if_true, saved, FlushIterators.replaceInInterfacesMap, run,
                Option.bind_some]
              exact .some ⟨rfl, interfaces, usbMap⟩

/-! ## The line loop on the elements and on the maps -/

/-- One line: no handler reads an iterator whose element is gone, and the
elements stay the entries of the maps. -/
theorem processLine_rel (line : LogLine) {handled : HandledState} {maps : State}
    (represents : StateRepresents handled maps) :
    Option.Rel StateRepresents (processLine line handled)
      (StoringDevices.processLine line maps) := by
  obtain ⟨interfaces, usbMap⟩ := represents
  unfold processLine StoringDevices.processLine
  apply Handles.rel_bind (checkIfStorageDevice_rel interfaces line.text)
  rintro ⟨isStorage, interfaces⟩ ⟨_, interfaces'⟩ ⟨rfl, represents⟩
  cases isStorage with
  | true => exact .some ⟨represents, usbMap⟩
  | false =>
      simp only [Bool.false_eq_true, if_false]
      split
      · apply Handles.rel_bind (checkIfInformationAboutDeviceFound_rel represents line)
        rintro ⟨isInformation, interfaces⟩ ⟨_, interfaces'⟩ ⟨rfl, represents⟩
        cases isInformation with
        | true => exact .some ⟨represents, usbMap⟩
        | false =>
            simp only [Bool.false_eq_true, if_false]
            apply Handles.rel_bind (checkIfNewDeviceConnected_rel represents line.text)
            rintro ⟨isNew, interfaces⟩ ⟨_, interfaces'⟩ ⟨rfl, represents⟩
            cases isNew with
            | true => exact .some ⟨represents, usbMap⟩
            | false =>
                simp only [Bool.false_eq_true, if_false]
                apply Handles.rel_bind (checkIfDeviceDisconnected_rel line represents usbMap)
                rintro ⟨_, interfaces, usbMap⟩ ⟨_, interfaces', usbMap'⟩ ⟨_, represents, usbMap⟩
                exact .some ⟨represents, usbMap⟩
      · exact .some ⟨represents, usbMap⟩

/-- A run of the line loop, from any two states that correspond. -/
theorem readLines_represents (log : List LogLine) {handled : HandledState} {maps : State}
    (represents : StateRepresents handled maps) :
    ∃ handled' maps', readLines log handled = some handled' ∧
      StoringDevices.readLines log maps = some maps' ∧ StateRepresents handled' maps' := by
  have related : Option.Rel StateRepresents (readLines log handled)
      (StoringDevices.readLines log maps) :=
    Handles.rel_foldlM (fun _ _ line represents => processLine_rel line represents) log handled
      maps represents
  rw [readLines_eq] at related ⊢
  obtain ⟨handled', run, represents⟩ := Handles.rel_some related
  exact ⟨handled', _, run, rfl, represents⟩

/-- The maps as `getUSBsInfo` declares them. -/
theorem emptied_represents : StateRepresents ⟨.empty, .empty⟩ {} where
  interfaces := Handles.empty_represents
  usbMap := Handles.empty_represents

/-- The line loop of every log reads valid iterators only; its elements are the
entries of the two maps, in the order of their keys. -/
theorem line_loop_iterators_valid (log : List LogLine) :
    ∃ handled maps, readLines log ⟨.empty, .empty⟩ = some handled ∧
      StoringDevices.readLines log {} = some maps ∧ StateRepresents handled maps ∧
      handled.usbInterfacesMap.keys = maps.usbInterfacesMap.keys ∧
      handled.usbMap.keys = maps.usbMap.keys := by
  obtain ⟨handled, maps, run, run', represents⟩ :=
    readLines_represents log emptied_represents
  exact ⟨handled, maps, run, run', represents, represents.interfaces.keys_eq,
    represents.usbMap.keys_eq⟩

/-! ## The whole reader -/

/-- Over empty records the flush loop takes one turn for each and ends. -/
theorem flushLoop_over_empties {state : HandledState} :
    ∀ (after before : List (Node CppString UsbInterface)) (visited : List CppString) (turns : Nat),
      state.usbInterfacesMap.nodes = before ++ after →
      (∀ node ∈ after, node.value.isEmpty = true) →
      FlushIterators.flushLoop turns (Handles.iteratorTo after) state visited =
        if turns < after.length then .running
        else .reachedEnd (visited ++ after.map Node.key) state := by
  intro after
  induction after with
  | nil => intro before visited turns _ _; simp [Handles.iteratorTo, FlushIterators.flushLoop]
  | cons node after ih =>
      intro before visited turns split empty
      cases turns with
      | zero => rfl
      | succ turns =>
          rw [FlushIterators.turn_of_empty split (empty node (by simp)),
            ih (before ++ [node]) (visited ++ [node.key]) turns (by simp [split])
              fun other member => empty other (List.mem_cons_of_mem _ member)]
          simp

/-- The flush of a state whose elements are the entries of the maps. -/
theorem flush_outcome {handled : HandledState} {interfaces : InterfacesMap}
    (represents : Represents handled.usbInterfacesMap interfaces) :
    (openPorts interfaces = [] ∧
      ∀ turns, FlushIterators.saveInterfacesInfoInUSBsMap turns handled =
        if turns < interfaces.keys.length then .running else .reachedEnd interfaces.keys handled) ∨
    ∃ port empties, (openPorts interfaces).head? = some port ∧
      empties ++ [port] <+: interfaces.keys ∧
      ∀ turns, FlushIterators.saveInterfacesInfoInUSBsMap turns handled =
        if turns ≤ empties.length then .running else .invalidIterator (empties ++ [port]) := by
  unfold FlushIterators.saveInterfacesInfoInUSBsMap HandleMap.begin
  have keys := represents.keys_eq
  cases found : handled.usbInterfacesMap.nodes.find? fun node => !node.value.isEmpty with
  | none =>
      left
      have empty : ∀ node ∈ handled.usbInterfacesMap.nodes, node.value.isEmpty = true := by
        intro node member
        simpa using List.find?_eq_none.mp found node member
      constructor
      · rw [List.eq_nil_iff_forall_not_mem]
        intro port member
        obtain ⟨slot, inside, rfl⟩ := List.mem_map.mp member
        obtain ⟨present, live⟩ := mem_openRecords.mp inside
        obtain ⟨node, member, _, own⟩ := (represents _ _).mp present
        rw [← own, empty node member] at live
        cases live
      · intro turns
        rw [flushLoop_over_empties handled.usbInterfacesMap.nodes [] [] turns rfl empty, ← keys]
        simp [HandleMap.keys]
  | some live =>
      right
      obtain ⟨notEmpty, empties, rest, split, empty⟩ := List.find?_eq_some_iff_append.mp found
      have isLive : live.value.isEmpty = false := by simpa using notEmpty
      refine ⟨live.key, empties.map Node.key, ?_, ?_, ?_⟩
      · have noEmpties : empties.filter (fun node => !node.value.isEmpty) = [] := by
          rw [List.filter_eq_nil_iff]
          intro node member
          simpa using empty node member
        unfold openPorts openRecords
        rw [← represents.toList_eq, split, List.filter_map, List.map_map]
        have kept : (empties ++ live :: rest).filter
            ((fun slot : CppString × UsbInterface => !slot.2.isEmpty) ∘
              fun node => (node.key, node.value)) =
            live :: rest.filter fun node => !node.value.isEmpty := by
          change (empties ++ live :: rest).filter (fun node => !node.value.isEmpty) = _
          rw [List.filter_append, noEmpties, List.filter_cons, isLive]
          rfl
        rw [kept]
        rfl
      · rw [← keys]
        unfold HandleMap.keys
        rw [split]
        exact ⟨rest.map Node.key, by simp⟩
      · intro turns
        have outcome := FlushIterators.flushLoop_of_live isLive empties [] [] turns split
          (by simpa using empty)
        rw [← split] at outcome
        simpa using outcome

/-- The ports that a log leaves open are as many as its accepted connection lines
less its closings. -/
theorem openPorts_count (log : List LogLine) :
    {i | AcceptedAt log i}.ncard =
      {i | ∃ closing, ClosedAt log i closing}.ncard + (openPorts (loopInterfaces log)).length := by
  have counted := (openedEvents_perm log).length_eq
  rw [List.length_append, List.length_map, List.length_map, List.length_map] at counted
  rw [acceptedAt_ncard, closedAt_ncard, counted]

/-- After the line loop the flush either passes over empty records or stops at the
first that is not. -/
theorem reader_outcome (log : List LogLine) :
    (openPorts (loopInterfaces log) = [] ∧ ∃ final : HandledState,
      Represents final.usbMap (finalUsbMap log) ∧ ∀ turns, getUSBsInfo turns log =
        some (if turns < (loopInterfaces log).keys.length then .running
          else .reachedEnd (loopInterfaces log).keys final)) ∨
    ∃ port empties, (openPorts (loopInterfaces log)).head? = some port ∧
      empties ++ [port] <+: (loopInterfaces log).keys ∧ ∀ turns, getUSBsInfo turns log =
        some (if turns ≤ empties.length then .running else .invalidIterator (empties ++ [port])) := by
  obtain ⟨handled, maps, run, run', represents⟩ := readLines_represents log emptied_represents
  rw [readLines_log, Option.some.injEq] at run'
  subst run'
  have reader : ∀ turns, getUSBsInfo turns log =
      some (FlushIterators.saveInterfacesInfoInUSBsMap turns handled) := by
    intro turns
    unfold getUSBsInfo
    rw [run]
    rfl
  simp only [reader, Option.some.injEq]
  rcases flush_outcome represents.interfaces with ⟨closed, outcome⟩ | stopped
  · have unflushed : finalUsbMap log = loopUsbMap log := by
      unfold finalUsbMap
      rw [List.map_eq_nil_iff.mp closed]
      rfl
    refine .inl ⟨closed, handled, ?_, outcome⟩
    rw [unflushed]
    exact represents.usbMap
  · exact .inr stopped

/-- The reader ends, with valid iterators only, exactly when the log closes every
session that it opens.  It then has visited each port key once, and its elements
are the entries of the report; otherwise it is the first open port at which the
iterator of the flush goes bad.  One of the two comes after a turn for each port. -/
theorem getUSBsInfo_iterators_valid_iff (log : List LogLine) :
    ((∃ turns visited final, getUSBsInfo turns log = some (.reachedEnd visited final)) ↔
      {i | AcceptedAt log i}.ncard = {i | ∃ closing, ClosedAt log i closing}.ncard) ∧
    (∀ turns visited final, getUSBsInfo turns log = some (.reachedEnd visited final) →
      visited = (loopInterfaces log).keys ∧
        ∃ usbMap, StoringDevices.getUSBsInfo log = some usbMap ∧
          Represents final.usbMap usbMap) ∧
    (∀ turns visited, getUSBsInfo turns log = some (.invalidIterator visited) →
      visited <+: (loopInterfaces log).keys ∧
        visited.getLast? = (openPorts (loopInterfaces log)).head?) ∧
    ∀ turns, (loopInterfaces log).keys.length ≤ turns →
      ¬ getUSBsInfo turns log = some .running := by
  have counted := openPorts_count log
  rcases reader_outcome log with ⟨closed, final, represents, outcome⟩ |
      ⟨port, empties, first, inside, outcome⟩
  · simp only [outcome, Option.some.injEq]
    refine ⟨iff_of_true ⟨(loopInterfaces log).keys.length, _, _, if_neg (Nat.lt_irrefl _)⟩ ?_,
      ?_, ?_, ?_⟩
    · rw [counted, closed]
      rfl
    · intro turns visited final' ends
      split at ends
      · cases ends
      · cases ends
        exact ⟨rfl, finalUsbMap log, getUSBsInfo_eq log, represents⟩
    · intro turns visited stops
      split at stops <;> cases stops
    · intro turns enough running
      rw [if_neg (Nat.not_lt.mpr enough)] at running
      cases running
  · simp only [outcome, Option.some.injEq]
    have isOpen : openPorts (loopInterfaces log) ≠ [] := by
      intro closed
      rw [closed] at first
      cases first
    have some_open := List.length_pos_iff.mpr isOpen
    refine ⟨iff_of_false ?_ (by omega), ?_, ?_, ?_⟩
    · rintro ⟨turns, visited, final, ends⟩
      split at ends <;> cases ends
    · intro turns visited final ends
      split at ends <;> cases ends
    · intro turns visited stops
      split at stops
      · cases stops
      · cases stops
        exact ⟨inside, by rw [first, List.getLast?_concat]⟩
    · intro turns enough running
      have shorter : (empties ++ [port]).length ≤ (loopInterfaces log).keys.length :=
        inside.length_le
      rw [List.length_append, List.length_singleton] at shorter
      rw [if_neg (by omega)] at running
      cases running

end ReaderIterators

end StoringDevices
