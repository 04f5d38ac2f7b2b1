import StoringDevices.Conservation
import StoringDevices.PortMachine

/-! # Interleaving independence of ports

Two logs of single-port lines with the same lines on every port leave the same
port records.  Their closings are the same up to the order across ports, so the
final maps have the same keys, the same pairs up to order, and the same
unmatched connection times. -/
set_option autoImplicit false

namespace StoringDevices

open Std (ExtTreeMap)

/-! ## Observations of an entry -/

/-- The pairs that the report prints as connection and disconnection. -/
def UsbInfo.alignedPairs (entry : UsbInfo) : List (CppString × CppString) :=
  entry.connectionTimes.zip entry.disconnectionTimes

/-- The connection times without a disconnection. -/
def UsbInfo.unmatchedConnections (entry : UsbInfo) : List CppString :=
  entry.connectionTimes.drop entry.disconnectionTimes.length

/-- Two maps that differ in the order of the pairs of an entry, and in the
fields that the first closing of an entry decides. -/
structure SameUpToOrder (final final' : UsbMap) : Prop where
  keys : ∀ serial, serial ∈ final ↔ serial ∈ final'
  pairs : ∀ (serial : CppString) (entry entry' : UsbInfo), final[serial]? = some entry → final'[serial]? = some entry' →
    entry.alignedPairs.Perm entry'.alignedPairs
  unmatched : ∀ (serial : CppString) (entry entry' : UsbInfo), final[serial]? = some entry → final'[serial]? = some entry' →
    entry.unmatchedConnections = entry'.unmatchedConnections

/-- A session of `port` is recorded under `serial`: by a disconnect line, or by
the flush. -/
def RecordedFrom (log : List LogLine) (serial port : CppString) : Prop :=
  (∃ position closing, AppendedAt log position closing ∧ closing.port = port ∧
    closing.record.serialNumber = serial) ∨
  ∃ state record, readLines log {} = some state ∧
    (port, record) ∈ keptRecords (openRecords state.usbInterfacesMap) state.usbMap ∧
    record.serialNumber = serial

theorem final_entry_pairs {log : List LogLine} {serial : CppString} {entry : UsbInfo}
    (here : (finalUsbMap log)[serial]? = some entry) :
    entry.alignedPairs = (closingsOf serial (loopClosings log)).map
        (fun closing => (closing.record.connectionTime, closing.time)) ∧
      entry.unmatchedConnections =
        (recordsOf serial (keptRecords (openRecords (loopInterfaces log)) (loopUsbMap log))).map
          fun slot => slot.2.connectionTime := by
  obtain ⟨connections, disconnections⟩ := finalUsbMap_times here
  unfold UsbInfo.alignedPairs UsbInfo.unmatchedConnections
  rw [connections, disconnections]
  constructor
  · rw [← List.append_nil (List.map Closing.time _), List.zip_append (by simp), List.zip_nil_right,
      List.append_nil, List.zip_map']
  · rw [List.drop_left' (by simp)]

/-! ## Two logs with the same lines on every port -/

/-- Only the ports that some line mentions need to be compared. -/
theorem portLines_eq_of_mentioned {log log' : List LogLine}
    (same : ∀ port ∈ (log ++ log').flatMap mentions, portLines port log = portLines port log')
    (port : CppString) : portLines port log = portLines port log' := by
  by_cases mentioned : port ∈ (log ++ log').flatMap mentions
  · exact same port mentioned
  · have silent : ∀ line ∈ log ++ log', port ∉ mentions line := by
      intro line member named
      exact mentioned (List.mem_flatMap.mpr ⟨line, member, named⟩)
    have left : portLines port log = [] := by
      apply List.filter_eq_nil_iff.mpr
      intro line member
      simpa using silent line (List.mem_append_left _ member)
    have right : portLines port log' = [] := by
      apply List.filter_eq_nil_iff.mpr
      intro line member
      simpa using silent line (List.mem_append_right _ member)
    rw [left, right]

theorem keptOf_congr {old old' : Option UsbInfo} (same : old = none ↔ old' = none)
    (records : List UsbInterface) : keptOf old records = keptOf old' records := by
  cases old with
  | none =>
      rw [same.mp rfl]
  | some entry =>
      cases old' with
      | none => exact absurd (same.mpr rfl) (by simp)
      | some entry' => rfl

theorem closedEntry_eq_none {closings : List Closing} :
    closedEntry closings = none ↔ closings = [] := by
  cases closings <;> simp [closedEntry]

section TwoLogs
variable {log log' : List LogLine} (single : ∀ line ∈ log, SinglePort line)
  (single' : ∀ line ∈ log', SinglePort line)
  (same : ∀ port, portLines port log = portLines port log')
include single single' same

theorem loopInterfaces_eq : loopInterfaces log = loopInterfaces log' := by
  apply ExtTreeMap.ext_getElem?
  intro port
  rw [loopInterfaces_port single, loopInterfaces_port single', same port]

theorem closings_of_port_eq (port : CppString) :
    (loopClosings log).filter (fun closing => closing.port = port) =
      (loopClosings log').filter (fun closing => closing.port = port) := by
  rw [loopClosings_port single, loopClosings_port single', same port]

theorem loopClosings_perm : (loopClosings log).Perm (loopClosings log') := by
  have keyed : ((loopClosings log).map Closing.keyed).Perm
      ((loopClosings log').map Closing.keyed) := by
    apply Keyed.perm_of_project_eq
    intro port
    rw [map_keyed_project, map_keyed_project]
    exact closings_of_port_eq single single' same port
  have values := keyed.map Prod.snd
  rw [map_keyed_snd, map_keyed_snd] at values
  exact values

theorem closingsOf_perm (serial : CppString) :
    (closingsOf serial (loopClosings log)).Perm (closingsOf serial (loopClosings log')) :=
  (loopClosings_perm single single' same).filter _

theorem closedEntry_none_iff (serial : CppString) :
    closedEntry (closingsOf serial (loopClosings log)) = none ↔
      closedEntry (closingsOf serial (loopClosings log')) = none := by
  rw [closedEntry_eq_none, closedEntry_eq_none]
  have perm := closingsOf_perm single single' same serial
  constructor
  · intro nil
    rw [nil] at perm
    exact perm.symm.eq_nil
  · intro nil
    rw [nil] at perm
    exact perm.eq_nil

/-- The flush keeps the same records under each serial. -/
theorem kept_records_eq (serial : CppString) :
    (recordsOf serial (keptRecords (openRecords (loopInterfaces log)) (loopUsbMap log))).map Prod.snd =
      (recordsOf serial
        (keptRecords (openRecords (loopInterfaces log')) (loopUsbMap log'))).map Prod.snd := by
  rw [keptRecords_of_serial, keptRecords_of_serial, loopUsbMap_getElem?, loopUsbMap_getElem?,
    loopInterfaces_eq single single' same]
  exact keptOf_congr (closedEntry_none_iff single single' same serial) _

theorem final_same_up_to_order : SameUpToOrder (finalUsbMap log) (finalUsbMap log') := by
  refine ⟨?_, ?_, ?_⟩
  · intro serial
    have absent : (finalUsbMap log)[serial]? = none ↔ (finalUsbMap log')[serial]? = none := by
      rw [finalUsbMap_getElem?, finalUsbMap_getElem?, flushEntry_eq_none, flushEntry_eq_none,
        loopInterfaces_eq single single' same]
      have closed := closedEntry_none_iff single single' same serial
      rw [keptOf_congr closed, closed]
    rw [ExtTreeMap.mem_iff_isSome_getElem?, ExtTreeMap.mem_iff_isSome_getElem?,
      Option.isSome_iff_ne_none, Option.isSome_iff_ne_none, Ne, Ne, absent]
  · intro serial entry entry' here here'
    rw [(final_entry_pairs here).1, (final_entry_pairs here').1]
    exact (closingsOf_perm single single' same serial).map _
  · intro serial entry entry' here here'
    have kept := congrArg (List.map UsbInterface.connectionTime)
      (kept_records_eq single single' same serial)
    rw [List.map_map, List.map_map] at kept
    rw [(final_entry_pairs here).2, (final_entry_pairs here').2]
    exact kept

/-- When the closings of a serial are all on one port, they come in the order
of that port. -/
theorem closingsOf_eq {serial : CppString}
    (onePort : ∀ closing ∈ closingsOf serial (loopClosings log),
      ∀ closing' ∈ closingsOf serial (loopClosings log), closing.port = closing'.port) :
    closingsOf serial (loopClosings log) = closingsOf serial (loopClosings log') := by
  have perm := closingsOf_perm single single' same serial
  cases shape : closingsOf serial (loopClosings log) with
  | nil =>
      rw [shape] at perm
      exact perm.symm.eq_nil.symm
  | cons first rest =>
      have inside : first ∈ closingsOf serial (loopClosings log) := by rw [shape]; simp
      have onFirst : ∀ closings : List Closing,
          (∀ closing ∈ closingsOf serial closings, closing.port = first.port) →
            closingsOf serial closings = closingsOf serial
              (closings.filter fun closing => closing.port = first.port) := by
        intro closings ports
        unfold closingsOf at ports ⊢
        rw [List.filter_filter, List.filter_congr]
        intro closing member
        by_cases own : closing.record.serialNumber = serial
        · have port := ports closing (List.mem_filter.mpr ⟨member, decide_eq_true own⟩)
          simp [own, port]
        · simp [own]
      have ports : ∀ closing ∈ closingsOf serial (loopClosings log), closing.port = first.port :=
        fun closing member => onePort closing member first inside
      have ports' : ∀ closing ∈ closingsOf serial (loopClosings log'),
          closing.port = first.port :=
        fun closing member => ports closing (perm.mem_iff.mpr member)
      rw [← shape, onFirst _ ports, onFirst _ ports',
        closings_of_port_eq single single' same first.port]

theorem final_eq_of_one_port
    (onePort : ∀ serial port port', RecordedFrom log serial port → RecordedFrom log serial port' →
      port = port') : finalUsbMap log = finalUsbMap log' := by
  apply ExtTreeMap.ext_getElem?
  intro serial
  rw [finalUsbMap_getElem?, finalUsbMap_getElem?, loopInterfaces_eq single single' same]
  have recorded : ∀ closing ∈ closingsOf serial (loopClosings log),
      RecordedFrom log serial closing.port := by
    intro closing member
    obtain ⟨inside, own⟩ := mem_closingsOf.mp member
    rw [← closingEvents_map_snd] at inside
    obtain ⟨event, happened, rfl⟩ := List.mem_map.mp inside
    exact .inl ⟨event.1, event.2, appendedAt_iff.mpr happened, rfl, own⟩
  rw [closingsOf_eq single single' same]
  intro closing member closing' member'
  exact onePort serial _ _ (recorded closing member) (recorded closing' member')

end TwoLogs

/-- Equal lines convert alike: a line carries the values its conversions leave
unset. -/
theorem interleaving_independent {log log' : List LogLine}
    (single : ∀ line ∈ log, SinglePort line) (single' : ∀ line ∈ log', SinglePort line)
    (same : ∀ port, portLines port log = portLines port log') :
    ∃ state state' final final',
      readLines log {} = some state ∧ readLines log' {} = some state' ∧
      getUSBsInfo log = some final ∧ getUSBsInfo log' = some final' ∧
      state.usbInterfacesMap = state'.usbInterfacesMap ∧
      SameUpToOrder final final' ∧
      ((∀ serial port port', RecordedFrom log serial port → RecordedFrom log serial port' →
        port = port') → final = final') := by
  refine ⟨_, _, _, _, readLines_log log, readLines_log log', getUSBsInfo_eq log,
    getUSBsInfo_eq log', ?_, ?_, ?_⟩
  · exact loopInterfaces_eq single single' same
  · exact final_same_up_to_order single single' same
  · exact final_eq_of_one_port single single' same

/-! Two sticks in use at once, pulled in either order. -/

def pulledFirstFirst : List LogLine :=
  [{ text := "Jan 1 09:00:01 usb 1-1: new device".toList },
    { text := "Jan 1 09:00:02 usb-storage 1-1:1.0".toList },
    { text := "Jan 1 09:00:03 usb 1-2: new device".toList },
    { text := "Jan 1 09:00:04 usb-storage 1-2:1.0".toList },
    { text := "Jan 1 09:00:05 usb 1-1: USB disconnect".toList },
    { text := "Jan 1 09:00:06 usb 1-2: USB disconnect".toList }]

def pulledSecondFirst : List LogLine :=
  [{ text := "Jan 1 09:00:03 usb 1-2: new device".toList },
    { text := "Jan 1 09:00:04 usb-storage 1-2:1.0".toList },
    { text := "Jan 1 09:00:01 usb 1-1: new device".toList },
    { text := "Jan 1 09:00:06 usb 1-2: USB disconnect".toList },
    { text := "Jan 1 09:00:02 usb-storage 1-1:1.0".toList },
    { text := "Jan 1 09:00:05 usb 1-1: USB disconnect".toList }]

theorem two_sticks_either_order :
    ∃ state state' final final',
      readLines pulledFirstFirst {} = some state ∧ readLines pulledSecondFirst {} = some state' ∧
      getUSBsInfo pulledFirstFirst = some final ∧ getUSBsInfo pulledSecondFirst = some final' ∧
      state.usbInterfacesMap = state'.usbInterfacesMap ∧ SameUpToOrder final final' := by
  have single : ∀ line ∈ pulledFirstFirst, SinglePort line := by
    unfold pulledFirstFirst
    repeat rw [String.toList_ofList]
    decide +kernel
  have single' : ∀ line ∈ pulledSecondFirst, SinglePort line := by
    unfold pulledSecondFirst
    repeat rw [String.toList_ofList]
    decide +kernel
  have same : ∀ port, portLines port pulledFirstFirst = portLines port pulledSecondFirst := by
    apply portLines_eq_of_mentioned
    unfold pulledFirstFirst pulledSecondFirst
    repeat rw [String.toList_ofList]
    decide +kernel
  obtain ⟨state, state', final, final', loop, loop', result, result', records, order, _⟩ :=
    interleaving_independent single single' same
  exact ⟨state, state', final, final', loop, loop', result, result', records, order⟩

end StoringDevices
