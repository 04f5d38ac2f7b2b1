import StoringDevices.Status

/-! # What one flush does to the two maps

The loop reads and empties each record once and grows the map it looks serials
up in, so a record is kept or not by what the smaller ports have left there.
`reachedAt` is the state in which the loop comes to a port. -/
set_option autoImplicit false

namespace StoringDevices

open Std (ExtTreeMap)
open Keyed (Machine)

/-! ## The state at a visit -/

/-- The state in which the loop comes to the port. -/
def reachedAt (state : State) (port : CppString) : Option State :=
  (state.usbInterfacesMap.keys.takeWhile fun key => key ≠ port).foldlM saveInterface state

/-- The loop visits the port, and then its record is not empty, and is storage or
has a serial that is a key. -/
def KeptAtVisit (state : State) (port : CppString) : Prop :=
  port ∈ state.usbInterfacesMap ∧ ∃ reached element, reachedAt state port = some reached ∧
    reached.usbInterfacesMap[port]? = some element ∧ element.isEmpty = false ∧
    (element.isStorageDevice = true ∨ element.serialNumber ∈ reached.usbMap)

/-- The loop comes to a port with its record unchanged and the records of the
smaller ports flushed. -/
theorem reachedAt_eq {state : State} {port : CppString}
    (present : port ∈ state.usbInterfacesMap) :
    ∃ interfaces : InterfacesMap,
      reachedAt state port = some ⟨interfaces, flushedBefore state port⟩ ∧
        interfaces[port]? = state.usbInterfacesMap[port]? := by
  have keys : (state.usbInterfacesMap.keys.takeWhile fun key => key ≠ port) =
      (state.usbInterfacesMap.toList.takeWhile fun slot => slot.1 ≠ port).map Prod.fst := by
    rw [← ExtTreeMap.map_fst_toList_eq_keys, List.takeWhile_map]
    rfl
  have below : (state.usbInterfacesMap.toList.takeWhile fun slot => slot.1 ≠ port) =
      state.usbInterfacesMap.toList.filter fun slot => compare slot.1 port = .lt := by
    apply Keyed.sorted_takeWhile (Keyed.toList_sorted state.usbInterfacesMap)
    rw [← ExtTreeMap.mem_keys, ← ExtTreeMap.map_fst_toList_eq_keys, List.mem_map] at present
    exact present
  have distinct : (state.usbInterfacesMap.toList.map Prod.fst).Nodup := by
    rw [ExtTreeMap.map_fst_toList_eq_keys]
    exact ExtTreeMap.nodup_keys
  have absent : port ∉ (state.usbInterfacesMap.toList.filter fun slot =>
      compare slot.1 port = .lt).map Prod.fst := by
    intro inside
    obtain ⟨slot, member, own⟩ := List.mem_map.mp inside
    have order := of_decide_eq_true (List.mem_filter.mp member).2
    have self : compare port port = .eq := Std.ReflCmp.compare_self
    rw [own, self] at order
    cases order
  obtain ⟨interfaces, run, records⟩ := saveInterfaces_eq
    (state.usbInterfacesMap.toList.filter fun slot => compare slot.1 port = .lt) state
    (distinct.sublist (List.filter_sublist.map _)) fun slot member =>
      ExtTreeMap.mem_toList_iff_getElem?_eq_some.mp (List.mem_filter.mp member).1
  refine ⟨interfaces, ?_, ?_⟩
  · unfold reachedAt flushedBefore recordsBefore openRecords
    rw [keys, below, run, List.filter_comm]
  · rw [records port, if_neg absent]

theorem keptAtVisit_iff {state : State} {port : CppString} :
    KeptAtVisit state port ↔
      port ∈ (keptRecords (openRecords state.usbInterfacesMap) state.usbMap).map Prod.fst := by
  rw [List.mem_map]
  constructor
  · intro kept
    obtain ⟨known, reached, element, visit, present, live, reason⟩ := kept
    obtain ⟨interfaces, run, record⟩ := reachedAt_eq known
    rw [visit, Option.some.injEq] at run
    subst run
    rw [record] at present
    exact ⟨(port, element), (mem_keptRecords_visited present live).mpr reason, rfl⟩
  · intro found
    obtain ⟨slot, member, own⟩ := found
    subst own
    obtain ⟨present, live⟩ := mem_openRecords.mp ((keptRecords_sublist _ _).subset member)
    have known : slot.1 ∈ state.usbInterfacesMap :=
      ExtTreeMap.mem_iff_isSome_getElem?.mpr (by rw [present]; rfl)
    obtain ⟨interfaces, run, record⟩ := reachedAt_eq known
    exact ⟨known, _, slot.2, run, record.trans present, live,
      (mem_keptRecords_visited present live).mp member⟩

/-! ## The number of connection times -/

/-- The connection times of all entries. -/
def connectionTimesOf (usbMap : UsbMap) : List CppString :=
  usbMap.toList.flatMap fun slot => slot.2.connectionTimes

/-- A write at one serial changes the number of times by what it changes there. -/
theorem connectionTimesOf_alter (usbMap : UsbMap) (serial : CppString)
    (write : Option UsbInfo → Option UsbInfo) :
    (connectionTimesOf (usbMap.alter serial write)).length +
        ((usbMap[serial]?.map UsbInfo.connectionTimes).getD []).length =
      (connectionTimesOf usbMap).length +
        (((write usbMap[serial]?).map UsbInfo.connectionTimes).getD []).length := by
  have others : ∀ other, other ≠ serial → (usbMap.alter serial write)[other]? = usbMap[other]? := by
    intro other ne
    rw [getElem?_alter_eq, if_neg (Ne.symm ne)]
  have here : (usbMap.alter serial write)[serial]? = write usbMap[serial]? := by
    rw [getElem?_alter_eq, if_pos rfl]
  have own : ∀ entry : Option UsbInfo,
      (entry.toList.map fun value => (serial, value)).flatMap
        (fun slot => slot.2.connectionTimes) = (entry.map UsbInfo.connectionTimes).getD [] := by
    intro entry
    cases entry <;> simp
  unfold connectionTimesOf
  rw [Keyed.toList_split usbMap serial, Keyed.toList_split (usbMap.alter serial write) serial,
    Keyed.toList_side (by simp) others, Keyed.toList_side (by simp) others, here]
  simp only [List.flatMap_append, List.length_append, own]
  omega

theorem connectionTimesOf_step (usbMap : UsbMap) (slot : CppString × UsbInterface) :
    (connectionTimesOf (flusher.step usbMap slot)).length = (connectionTimesOf usbMap).length +
      if usbMap[slot.2.serialNumber]?.isSome || slot.2.isStorageDevice then 1 else 0 := by
  have written := connectionTimesOf_alter usbMap slot.2.serialNumber (flusher.next slot)
  have stepped : flusher.step usbMap slot =
      usbMap.alter slot.2.serialNumber (flusher.next slot) := rfl
  rw [stepped]
  cases known : usbMap[slot.2.serialNumber]? with
  | some entry =>
      rw [known] at written
      simp [mergeInterface] at written ⊢
      omega
  | none =>
      rw [known] at written
      cases storage : slot.2.isStorageDevice with
      | true =>
          rw [flusher_next_storage slot storage] at written
          simpa [freshEntry] using written
      | false =>
          rw [flusher_next_other slot storage] at written
          simpa using written

/-- Each record that the flush keeps adds one connection time. -/
theorem connectionTimesOf_run :
    ∀ (slots : List (CppString × UsbInterface)) (usbMap : UsbMap),
      (connectionTimesOf (flusher.run usbMap slots)).length =
        (connectionTimesOf usbMap).length + (keptRecords slots usbMap).length := by
  intro slots
  induction slots with
  | nil => intro usbMap; rfl
  | cons slot slots ih =>
      intro usbMap
      have unfolded : flusher.run usbMap (slot :: slots) =
          flusher.run (flusher.step usbMap slot) slots := rfl
      rw [unfolded, ih, connectionTimesOf_step, keptRecords_cons, List.length_append]
      split <;> simp
      omega

/-! ## The second flush -/

theorem flushed_isEmpty (element : UsbInterface) : (flushed element).isEmpty = true := by
  unfold flushed
  split
  · assumption
  · rfl

/-- A flush of empty records changes nothing. -/
theorem flush_of_empty {state : State}
    (empty : ∀ (port : CppString) (element : UsbInterface),
      state.usbInterfacesMap[port]? = some element → element.isEmpty = true) :
    saveInterfacesInfoInUSBsMap state = some state := by
  obtain ⟨interfaces, run, records⟩ := saveInterfacesInfoInUSBsMap_eq state
  have none : openRecords state.usbInterfacesMap = [] := by
    apply List.eq_nil_iff_forall_not_mem.mpr
    intro slot member
    obtain ⟨present, live⟩ := mem_openRecords.mp member
    rw [empty slot.1 slot.2 present] at live
    cases live
  have same : interfaces = state.usbInterfacesMap := by
    apply ExtTreeMap.ext_getElem?
    intro port
    rw [records port]
    cases here : state.usbInterfacesMap[port]? with
    | none => rfl
    | some element => simp [flushed, empty port element here]
  rw [run, none, same]
  rfl

/-! ## One flush -/

/-- The flush empties every record once, keeps one connection time for each
record that is storage or known at its visit, adds the serials of the non-empty
storage records, and leaves nothing for a second flush. -/
theorem flush_empties_records_once (state : State) :
    ∃ after, saveInterfacesInfoInUSBsMap state = some after ∧
      (∀ port, port ∈ after.usbInterfacesMap ↔ port ∈ state.usbInterfacesMap) ∧
      (∀ port : CppString,
        after.usbInterfacesMap[port]? = state.usbInterfacesMap[port]?.map flushed) ∧
      (connectionTimesOf after.usbMap).length =
        (connectionTimesOf state.usbMap).length + {port | KeptAtVisit state port}.ncard ∧
      (∀ serial, serial ∈ after.usbMap ↔ serial ∈ state.usbMap ∨
        ∃ (port : CppString) (element : UsbInterface),
          state.usbInterfacesMap[port]? = some element ∧ element.isEmpty = false ∧
          element.isStorageDevice = true ∧ element.serialNumber = serial) ∧
      saveInterfacesInfoInUSBsMap after = some after := by
  obtain ⟨interfaces, run, records⟩ := saveInterfacesInfoInUSBsMap_eq state
  refine ⟨_, run, ?_, records, ?_, ?_, ?_⟩
  · intro port
    rw [ExtTreeMap.mem_iff_isSome_getElem?, ExtTreeMap.mem_iff_isSome_getElem?, records port,
      Option.isSome_map]
  · have distinct : ((keptRecords (openRecords state.usbInterfacesMap) state.usbMap).map
        Prod.fst).Nodup :=
      (openPorts_nodup state.usbInterfacesMap).sublist ((keptRecords_sublist _ _).map _)
    rw [connectionTimesOf_run, Lists.ncard_of_members distinct fun port => keptAtVisit_iff,
      List.length_map]
  · intro serial
    rw [mem_flusher_run]
    constructor
    · intro inside
      rcases inside with known | ⟨slot, member, storage, own⟩
      · exact .inl known
      · obtain ⟨present, live⟩ := mem_openRecords.mp member
        exact .inr ⟨slot.1, slot.2, present, live, storage, own⟩
    · intro origin
      rcases origin with known | ⟨port, element, present, live, storage, own⟩
      · exact .inl known
      · exact .inr ⟨(port, element), mem_openRecords.mpr ⟨present, live⟩, storage, own⟩
  · apply flush_of_empty
    intro port element here
    rw [records port] at here
    obtain ⟨before, _, rfl⟩ := Option.map_eq_some_iff.mp here
    exact flushed_isEmpty before

/-- What a `usb-storage` line leaves on an empty record. -/
def flaggedEmpty : State where
  usbInterfacesMap := (∅ : InterfacesMap).insert "1-1".toList
    { initializeUsbInterface with isStorageDevice := true }

/-- The serial of an empty storage record becomes no key. -/
theorem empty_storage_record_adds_no_key :
    ¬ ∀ (state after : State), saveInterfacesInfoInUSBsMap state = some after →
      ∀ serial, serial ∉ state.usbMap → (serial ∈ after.usbMap ↔
        ∃ (port : CppString) (element : UsbInterface),
          state.usbInterfacesMap[port]? = some element ∧ element.isStorageDevice = true ∧
          element.serialNumber = serial) := by
  intro law
  have only : ∀ (port : CppString) (element : UsbInterface),
      flaggedEmpty.usbInterfacesMap[port]? = some element →
        element = { initializeUsbInterface with isStorageDevice := true } := by
    intro port element here
    unfold flaggedEmpty at here
    simp only [getElem?_insert_eq, ExtTreeMap.getElem?_empty] at here
    split at here
    · exact (Option.some.inj here).symm
    · cases here
  have unchanged : saveInterfacesInfoInUSBsMap flaggedEmpty = some flaggedEmpty := by
    apply flush_of_empty
    intro port element here
    rw [only port element here]
    rfl
  have absent : ([] : CppString) ∉ flaggedEmpty.usbMap := ExtTreeMap.not_mem_empty
  have inserted := (law flaggedEmpty flaggedEmpty unchanged [] absent).mpr
    ⟨"1-1".toList, { initializeUsbInterface with isStorageDevice := true },
      by simp [flaggedEmpty], rfl, rfl⟩
  exact absent inserted

end StoringDevices
