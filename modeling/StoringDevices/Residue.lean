import StoringDevices.Growth
import StoringDevices.Session

/-! # What a non-storage session leaves behind

A non-storage session leaves its record open on its port.  Two runs that differ
in such a residue emit the same closings as long as no `usb-storage` line names
the port, and the flush gives the same map when it records the port's record in
neither run.  Otherwise the residue, or the session it kept out, is reported. -/
set_option autoImplicit false

namespace StoringDevices

open Std (ExtTreeMap)
open Keyed (Machine)

/-! ## Two runs that differ at one port -/

/-- `interfaces` has a residue at `port`, an open non-storage record with the
connection time `time`; `clean` has no storage record there; otherwise they agree. -/
structure Apart (port time : CppString) (interfaces clean : InterfacesMap) : Prop where
  others : ∀ k, k ≠ port → interfaces[k]? = clean[k]?
  residue : ∃ element, interfaces[port]? = some element ∧ element.isEmpty = false ∧
    element.isStorageDevice = false ∧ element.connectionTime = time
  unflagged : ∀ element, clean[port]? = some element → element.isStorageDevice = false

section OneLine
variable {port time : CppString} {interfaces clean : InterfacesMap}
  (apart : Apart port time interfaces clean)
include apart

theorem Apart.after_informed (line : LogLine) (told : CppString) :
    Apart port time (informed line told interfaces) (informed line told clean) := by
  obtain ⟨element, present, live, unflagged, opened⟩ := apart.residue
  refine ⟨?_, ?_, ?_⟩
  · intro k ne
    rw [informed_getElem?, informed_getElem?, apart.others k ne]
  · rw [informed_getElem?, present]
    by_cases own : told = port
    · exact ⟨announce line element, by simp [own], by simpa using live, by simpa using unflagged,
        by simpa using opened⟩
    · exact ⟨element, by simp [own], live, unflagged, opened⟩
  · intro other here
    rw [informed_getElem?] at here
    by_cases own : told = port
    · rw [if_pos own] at here
      obtain ⟨old, found, rfl⟩ := Option.map_eq_some_iff.mp here
      simpa using apart.unflagged old found
    · rw [if_neg own] at here
      exact apart.unflagged other here

/-- The disconnect handler does not close the residue. -/
theorem Apart.closedRecord_residue (line : LogLine) : closedRecord line interfaces port = none := by
  obtain ⟨element, present, _, unflagged, _⟩ := apart.residue
  apply closedRecord_of_unflagged
  intro other here
  rw [present, Option.some.injEq] at here
  rw [← here]
  exact unflagged

theorem Apart.closedRecord_eq (line : LogLine) (k : CppString) :
    closedRecord line interfaces k = closedRecord line clean k := by
  by_cases own : k = port
  · rw [own, apart.closedRecord_residue line, closedRecord_of_unflagged apart.unflagged]
  · unfold closedRecord
    rw [apart.others k own]

theorem Apart.insert_other {k : CppString} (ne : k ≠ port) (element : UsbInterface) :
    Apart port time (interfaces.insert k element) (clean.insert k element) := by
  refine ⟨?_, ?_, ?_⟩
  · intro k' ne'
    rw [getElem?_insert_eq, getElem?_insert_eq, apart.others k' ne']
  · rw [getElem?_insert_eq, if_neg ne]
    exact apart.residue
  · intro other here
    rw [getElem?_insert_eq, if_neg ne] at here
    exact apart.unflagged other here

theorem Apart.insert_clean {element : UsbInterface} (unflagged : element.isStorageDevice = false) :
    Apart port time interfaces (clean.insert port element) := by
  refine ⟨?_, apart.residue, ?_⟩
  · intro k ne
    rw [getElem?_insert_eq, if_neg (Ne.symm ne), apart.others k ne]
  · intro other here
    rw [getElem?_insert_eq, if_pos rfl, Option.some.injEq] at here
    rw [← here]
    exact unflagged

theorem Apart.flag_other {k : CppString} (ne : k ≠ port) :
    Apart port time (interfaces.modify k flagged) (clean.modify k flagged) := by
  refine ⟨?_, ?_, ?_⟩
  · intro k' ne'
    rw [getElem?_modify_eq, getElem?_modify_eq, apart.others k' ne']
  · rw [getElem?_modify_eq, if_neg ne]
    exact apart.residue
  · intro other here
    rw [getElem?_modify_eq, if_neg ne] at here
    exact apart.unflagged other here

theorem Apart.acceptedPort_eq {line : LogLine} (other : newPort line ≠ some port) :
    acceptedPort line interfaces = acceptedPort line clean := by
  unfold acceptedPort
  cases new : newPort line with
  | none => rfl
  | some opened =>
      have ne : opened ≠ port := fun here => other (by rw [new, here])
      rw [Option.filter_some, Option.filter_some, apart.others opened ne]

/-- The residue refuses a connection to its port. -/
theorem Apart.refuses {line : LogLine} (opens : newPort line = some port) :
    acceptedPort line interfaces = none := by
  obtain ⟨element, present, live, _, _⟩ := apart.residue
  exact acceptedPort_of_taken opens (by rw [present, Option.all_some, live])

/-- A line that does not flag the port, and opens it only as its own port. -/
theorem Apart.step {line : LogLine} (notStorage : storagePort line ≠ some port)
    (ownLine : newPort line = some port → usbPort line = some port) :
    closingOf line interfaces = closingOf line clean ∧
      Apart port time (stepInterfaces line interfaces) (stepInterfaces line clean) := by
  unfold closingOf stepInterfaces effect
  cases storage : storagePort line with
  | some flaggedPort =>
      have ne : flaggedPort ≠ port := fun same => notStorage (by rw [storage, same])
      exact ⟨rfl, apart.flag_other ne⟩
  | none =>
      cases usb : usbPort line with
      | none => exact ⟨rfl, apart⟩
      | some told =>
          have after := apart.after_informed line told
          have records := after.closedRecord_eq line told
          simp only
          by_cases opens : newPort line = some port
          · -- no record of the port is closed either
            have own := ownLine opens
            rw [usb, Option.some.injEq] at own
            subst own
            rw [← records, after.closedRecord_residue line, after.refuses opens]
            cases accepted : acceptedPort line (informed line told clean) with
            | none => exact ⟨rfl, after⟩
            | some opened =>
                have same : opened = told :=
                  Option.some.inj ((newPort_of_accepted accepted).symm.trans opens)
                subst same
                refine ⟨rfl, after.insert_clean ?_⟩
                cases here : (informed line opened clean)[opened]? with
                | none => rfl
                | some old => exact after.unflagged old here
          · rw [after.acceptedPort_eq opens, records]
            cases accepted : acceptedPort line (informed line told clean) with
            | some opened =>
                have ne : opened ≠ port := by
                  intro here
                  exact opens (by rw [newPort_of_accepted accepted, here])
                refine ⟨rfl, ?_⟩
                simp only [Effect.apply]
                rw [after.others opened ne]
                exact after.insert_other ne _
            | none =>
                cases closed : closedRecord line (informed line told clean) told with
                | none => exact ⟨rfl, after⟩
                | some record =>
                    have ne : told ≠ port := by
                      intro here
                      subst here
                      rw [← records, after.closedRecord_residue line] at closed
                      cases closed
                    exact ⟨rfl, after.insert_other ne _⟩

end OneLine

/-- The lines neither flag the port nor open it as another port's line. -/
structure Unflagged (port : CppString) (lines : List LogLine) : Prop where
  storage : ∀ line ∈ lines, storagePort line ≠ some port
  own : ∀ line ∈ lines, newPort line = some port → usbPort line = some port

theorem Apart.run {port time : CppString} :
    ∀ (lines : List LogLine) (interfaces clean : InterfacesMap),
      Apart port time interfaces clean → Unflagged port lines →
      runClosings lines interfaces = runClosings lines clean ∧
        Apart port time (runInterfaces lines interfaces) (runInterfaces lines clean) := by
  intro lines
  induction lines with
  | nil => intro interfaces clean apart _; exact ⟨rfl, apart⟩
  | cons line lines ih =>
      intro interfaces clean apart unflagged
      obtain ⟨closings, after⟩ := apart.step (unflagged.storage line (by simp))
        (unflagged.own line (by simp))
      obtain ⟨rest, final⟩ := ih _ _ after
        ⟨fun other member => unflagged.storage other (List.mem_cons_of_mem _ member),
          fun other member => unflagged.own other (List.mem_cons_of_mem _ member)⟩
      exact ⟨by rw [runClosings, runClosings, closings, rest], final⟩

/-! ## The flush at one port -/

/-- The flush of the state records the record of `port`: it is not empty, and
is storage or finds its serial, in `usb_map` or from a smaller port. -/
def FlushRecords (state : State) (port : CppString) : Prop :=
  ∃ element : UsbInterface, state.usbInterfacesMap[port]? = some element ∧
    element.isEmpty = false ∧
    (element.isStorageDevice = true ∨ element.serialNumber ∈ state.usbMap ∨
      ∃ (other : CppString) (element' : UsbInterface), compare other port = .lt ∧
        state.usbInterfacesMap[other]? = some element' ∧ element'.isOpenStorage = true ∧
        element'.serialNumber = element.serialNumber)

theorem flushRecords_iff {state : State} {port : CppString} :
    FlushRecords state port ↔ ∃ element ∈ state.usbInterfacesMap[port]?, element.isEmpty = false ∧
      (element.isStorageDevice = true ∨ element.serialNumber ∈ state.usbMap ∨
        ∃ slot ∈ state.usbInterfacesMap.toList, compare slot.1 port = .lt ∧
          slot.2.isOpenStorage = true ∧ slot.2.serialNumber = element.serialNumber) := by
  constructor
  · intro h
    obtain ⟨element, present, live, known⟩ := h
    refine ⟨element, present, live, ?_⟩
    rcases known with storage | known | ⟨other, element', before, present', live', own⟩
    · exact .inl storage
    · exact .inr (.inl known)
    · exact .inr (.inr ⟨(other, element'),
        ExtTreeMap.mem_toList_iff_getElem?_eq_some.mpr present', before, live', own⟩)
  · intro h
    obtain ⟨element, present, live, known⟩ := h
    refine ⟨element, present, live, ?_⟩
    rcases known with storage | known | ⟨slot, member, before, live', own⟩
    · exact .inl storage
    · exact .inr (.inl known)
    · exact .inr (.inr ⟨slot.1, slot.2, before,
        ExtTreeMap.mem_toList_iff_getElem?_eq_some.mp member, live', own⟩)

instance (state : State) (port : CppString) : Decidable (FlushRecords state port) :=
  decidable_of_iff' _ flushRecords_iff

/-- The open records of the ports before `port`, and of those after it. -/
def recordsBefore (interfaces : InterfacesMap) (port : CppString) :
    List (CppString × UsbInterface) :=
  (openRecords interfaces).filter fun slot => compare slot.1 port = .lt

def recordsAfter (interfaces : InterfacesMap) (port : CppString) :
    List (CppString × UsbInterface) :=
  (openRecords interfaces).filter fun slot => compare slot.1 port = .gt

theorem openRecords_split (interfaces : InterfacesMap) (port : CppString) :
    openRecords interfaces = recordsBefore interfaces port ++
      ((interfaces[port]?.filter fun element => !element.isEmpty).toList.map
        (fun element => (port, element)) ++ recordsAfter interfaces port) := by
  rw [← openRecords_of_port]
  exact Keyed.sorted_split port _ (openRecords_sorted interfaces)

/-- A record that the flush visits, between those of the other ports. -/
theorem openRecords_visited {interfaces : InterfacesMap} {port : CppString} {element : UsbInterface}
    (present : interfaces[port]? = some element) (live : element.isEmpty = false) :
    openRecords interfaces =
      recordsBefore interfaces port ++ (port, element) :: recordsAfter interfaces port := by
  rw [openRecords_split interfaces port, present, Option.filter_some, if_pos (by simp [live])]
  rfl

theorem Apart.records_eq {port time : CppString} {interfaces clean : InterfacesMap}
    (apart : Apart port time interfaces clean) :
    recordsBefore interfaces port = recordsBefore clean port ∧
      recordsAfter interfaces port = recordsAfter clean port := by
  have sides : ∀ order : Ordering, order ≠ .eq →
      (openRecords interfaces).filter (fun slot => compare slot.1 port = order) =
        (openRecords clean).filter fun slot => compare slot.1 port = order := by
    intro order side
    apply Keyed.sorted_side_ext (openRecords_sorted interfaces) (openRecords_sorted clean) side
    intro slot off
    rw [mem_openRecords, mem_openRecords, apart.others slot.1 off]
  exact ⟨sides .lt (by simp), sides .gt (by simp)⟩

/-- The map when the flush comes to `port`. -/
def flushedBefore (state : State) (port : CppString) : UsbMap :=
  flusher.run state.usbMap (recordsBefore state.usbInterfacesMap port)

theorem mem_flushedBefore {state : State} {port serial : CppString} :
    serial ∈ flushedBefore state port ↔ serial ∈ state.usbMap ∨
      ∃ (other : CppString) (element' : UsbInterface), compare other port = .lt ∧
        state.usbInterfacesMap[other]? = some element' ∧ element'.isOpenStorage = true ∧
        element'.serialNumber = serial := by
  unfold flushedBefore
  rw [mem_flusher_run]
  constructor
  · intro h
    rcases h with known | ⟨slot, member, storage, own⟩
    · exact .inl known
    · obtain ⟨inside, before⟩ := List.mem_filter.mp member
      obtain ⟨present, live⟩ := mem_openRecords.mp inside
      exact .inr ⟨slot.1, slot.2, of_decide_eq_true before, present,
        isOpenStorage_iff.mpr ⟨live, storage⟩, own⟩
  · intro h
    rcases h with known | ⟨other, element', before, present, live, own⟩
    · exact .inl known
    · obtain ⟨notEmpty, storage⟩ := isOpenStorage_iff.mp live
      refine .inr ⟨(other, element'), List.mem_filter.mpr ⟨mem_openRecords.mpr ⟨present, notEmpty⟩,
        decide_eq_true before⟩, storage, own⟩

theorem flusher_run_append (usbMap : UsbMap) (slots slots' : List (CppString × UsbInterface)) :
    flusher.run usbMap (slots ++ slots') = flusher.run (flusher.run usbMap slots) slots' :=
  List.foldl_append

/-- A record that the flush does not record leaves the map alone. -/
theorem flush_of_unrecorded {state : State} {port : CppString}
    (unrecorded : ¬ FlushRecords state port) :
    flusher.run state.usbMap (openRecords state.usbInterfacesMap) =
      flusher.run (flushedBefore state port) (recordsAfter state.usbInterfacesMap port) := by
  rw [openRecords_split state.usbInterfacesMap port, flusher_run_append, flusher_run_append]
  congr 1
  cases here : state.usbInterfacesMap[port]? with
  | none => rfl
  | some element =>
      cases empty : element.isEmpty with
      | true => simp [Option.filter_some, empty, flushedBefore, Machine.run]
      | false =>
          have unflagged : element.isStorageDevice = false := by
            by_contra flag
            exact unrecorded ⟨element, here, empty, .inl (by simpa using flag)⟩
          have unknown : (flushedBefore state port)[element.serialNumber]? = none := by
            by_contra known
            have member : element.serialNumber ∈ flushedBefore state port := by
              rw [ExtTreeMap.mem_iff_isSome_getElem?, Option.isSome_iff_ne_none]
              exact known
            exact unrecorded ⟨element, here, empty, .inr (mem_flushedBefore.mp member)⟩
          have still := flusher_step_other (port, element) unknown unflagged
          simp only [Option.filter_some, empty, Bool.not_false, if_true, Option.toList_some,
            List.map_cons, List.map_nil]
          exact still

/-- A record that the flush records: its entry gains the connection time. -/
theorem flush_of_recorded {state : State} {port : CppString} (recorded : FlushRecords state port) :
    ∃ (element : UsbInterface) (entry : UsbInfo),
      state.usbInterfacesMap[port]? = some element ∧
      (flusher.run state.usbMap (openRecords state.usbInterfacesMap))[element.serialNumber]? =
        some entry ∧
      entry.connectionTimes =
        ((flushedBefore state port)[element.serialNumber]?.map UsbInfo.connectionTimes).getD [] ++
          element.connectionTime ::
            (recordsOf element.serialNumber (recordsAfter state.usbInterfacesMap port)).map
              fun slot => slot.2.connectionTime := by
  obtain ⟨element, here, live, kept⟩ := recorded
  have next : ∃ old, flusher.next (port, element) (flushedBefore state port)[element.serialNumber]? =
      some old ∧ old.connectionTimes =
        ((flushedBefore state port)[element.serialNumber]?.map UsbInfo.connectionTimes).getD [] ++
          [element.connectionTime] := by
    cases known : (flushedBefore state port)[element.serialNumber]? with
    | some old => exact ⟨_, rfl, rfl⟩
    | none =>
        have storage : element.isStorageDevice = true := by
          rcases kept with flag | reported
          · exact flag
          · have member := mem_flushedBefore.mpr reported
            rw [ExtTreeMap.mem_iff_isSome_getElem?, known] at member
            cases member
        exact ⟨_, flusher_next_storage (port, element) storage, rfl⟩
  obtain ⟨old, stepped, times⟩ := next
  refine ⟨element, fillEntry old ((recordsOf element.serialNumber
    (recordsAfter state.usbInterfacesMap port)).map Prod.snd), here, ?_, ?_⟩
  · have stepHere : (flusher.step (flushedBefore state port) (port, element))[element.serialNumber]? =
        some old := by
      rw [Keyed.step_getElem?_self flusher _ rfl]
      exact stepped
    rw [openRecords_visited here live, flusher_run_append]
    change (flusher.run (flusher.step (flushedBefore state port) (port, element))
      (recordsAfter state.usbInterfacesMap port))[element.serialNumber]? = _
    rw [flusher_getElem?, stepHere]
    rfl
  · unfold fillEntry
    simp [times, List.map_map]

section FlushApart
variable {port time : CppString} {state clean : State}
  (apart : Apart port time state.usbInterfacesMap clean.usbInterfacesMap)
  (maps : state.usbMap = clean.usbMap)
include apart maps

/-- The two flushes come to the port with the same map. -/
theorem Apart.flushedBefore_eq : flushedBefore state port = flushedBefore clean port := by
  unfold flushedBefore
  rw [apart.records_eq.1, maps]

theorem Apart.flush_eq (residue : ¬ FlushRecords state port)
    (unrecorded : ¬ FlushRecords clean port) :
    flusher.run state.usbMap (openRecords state.usbInterfacesMap) =
      flusher.run clean.usbMap (openRecords clean.usbInterfacesMap) := by
  rw [flush_of_unrecorded residue, flush_of_unrecorded unrecorded, apart.flushedBefore_eq maps,
    apart.records_eq.2]

/-- A record that only one of the two flushes records shows in its map. -/
theorem Apart.flush_ne (residue : ¬ FlushRecords state port) (recorded : FlushRecords clean port) :
    flusher.run state.usbMap (openRecords state.usbInterfacesMap) ≠
      flusher.run clean.usbMap (openRecords clean.usbInterfacesMap) := by
  intro same
  obtain ⟨element, entry, _, here, times⟩ := flush_of_recorded recorded
  rw [← same, flush_of_unrecorded residue, apart.flushedBefore_eq maps, apart.records_eq.2,
    flusher_getElem?] at here
  -- the entry has one connection more than the records of the other ports give it
  have more := congrArg List.length times
  have fewer := congrArg List.length (flushEntry_times here).1
  have kept := (keptOf_sublist (flushedBefore clean port)[element.serialNumber]?
    ((recordsOf element.serialNumber
      (recordsAfter clean.usbInterfacesMap port)).map Prod.snd)).length_le
  simp only [List.length_append, List.length_cons, List.length_map] at more fewer kept
  omega

end FlushApart

/-! ## Times that the map reports -/

def ReportsTime (final : UsbMap) (time : CppString) : Prop :=
  ∃ (serial : CppString) (entry : UsbInfo), final[serial]? = some entry ∧
    time ∈ entry.connectionTimes

theorem closing_time_reported {log : List LogLine} {closing : Closing}
    (member : closing ∈ loopClosings log) :
    ReportsTime (finalUsbMap log) closing.record.connectionTime := by
  have inside := mem_closingsOf.mpr ⟨member, rfl⟩
  cases here : (finalUsbMap log)[closing.record.serialNumber]? with
  | none =>
      rw [(finalUsbMap_none.mp here).1] at inside
      cases inside
  | some entry =>
      refine ⟨_, entry, here, ?_⟩
      rw [(finalUsbMap_times here).1]
      exact List.mem_append_left _ (List.mem_map_of_mem inside)

theorem flushed_time_reported {log : List LogLine} {port : CppString} {element : UsbInterface}
    (present : (loopInterfaces log)[port]? = some element)
    (recorded : FlushRecords ⟨loopInterfaces log, loopUsbMap log⟩ port) :
    ReportsTime (finalUsbMap log) element.connectionTime := by
  obtain ⟨element', entry, present', here, times⟩ := flush_of_recorded recorded
  have same : element' = element := Option.some.inj (present'.symm.trans present)
  subst same
  refine ⟨_, entry, here, ?_⟩
  rw [times]
  exact List.mem_append_right _ List.mem_cons_self

/-- The time of an open storage record is not lost. -/
theorem open_storage_kept (port time : CppString) :
    ∀ (lines : List LogLine) (interfaces : InterfacesMap) (element : UsbInterface),
      interfaces[port]? = some element → element.isOpenStorage = true →
      element.connectionTime = time →
      (∃ closing ∈ runClosings lines interfaces, closing.record.connectionTime = time) ∨
      ∃ element', (runInterfaces lines interfaces)[port]? = some element' ∧
        element'.isOpenStorage = true ∧ element'.connectionTime = time := by
  intro lines
  induction lines with
  | nil =>
      intro interfaces element present live opened
      exact .inr ⟨element, present, live, opened⟩
  | cons line lines ih =>
      intro interfaces element present live opened
      have heardTime : (heard port element line).connectionTime = time := by
        rw [heard_connectionTime, opened]
      rcases step_open present (isOpenStorage_iff.mp live).1 with ⟨closes, _⟩ | kept
      · left
        refine ⟨⟨port, heard port element line, logTime line⟩, ?_, heardTime⟩
        rw [runClosings, closes]
        exact List.mem_cons_self
      · rcases ih _ _ kept (heard_isOpenStorage live port line) heardTime with
          ⟨closing, member, same⟩ | later
        · left
          refine ⟨closing, ?_, same⟩
          rw [runClosings]
          exact List.mem_append_right _ member
        · exact .inr later

/-! ## A non-storage session between two logs -/

/-- The session changes the record of its port only, and closes nothing. -/
theorem session_leaves_residue {before : List LogLine} {session : Session}
    (idle : Idle (loopInterfaces before)[session.port]?) (other : session.isStorage = false) :
    loopClosings (before ++ session.lines) = loopClosings before ∧
      Apart session.port (logTime session.new) (loopInterfaces (before ++ session.lines))
        (loopInterfaces before) := by
  have single : ∀ line ∈ session.lines, SinglePort line := by
    intro line member
    obtain ⟨kind, isLine⟩ := session.lines_isLine line member
    exact isLine.singlePort
  obtain ⟨run, silent⟩ := session.run_other idle other
  have interfaces : loopInterfaces (before ++ session.lines) =
      runInterfaces session.lines (loopInterfaces before) := runInterfaces_append _ _ _
  obtain ⟨live, flag, opened⟩ := session.record_session
  constructor
  · have nothing : runClosings session.lines (loopInterfaces before) = [] := by
      apply List.eq_nil_iff_forall_not_mem.mpr
      intro closing member
      have atPort : closing ∈ (runClosings session.lines (loopInterfaces before)).filter
          fun c => decide (c.port = closing.port) :=
        List.mem_filter.mpr ⟨member, by simp⟩
      rw [runClosings_port single] at atPort
      by_cases own : closing.port = session.port
      · rw [own, session.portLines_self, silent] at atPort
        cases atPort
      · rw [session.portLines_other own] at atPort
        cases atPort
    unfold loopClosings
    rw [runClosings_append]
    change loopClosings before ++ runClosings session.lines (loopInterfaces before) = _
    rw [nothing, List.append_nil]
    rfl
  · rw [interfaces]
    refine ⟨?_, ?_, ?_⟩
    · intro k ne
      rw [runInterfaces_port single, session.portLines_other ne]
      rfl
    · refine ⟨session.record, ?_, live, by rw [flag, other], opened⟩
      rw [runInterfaces_port single, session.portLines_self, run]
    · intro element here
      rcases idle with none_ | initial
      · rw [none_] at here
        cases here
      · rw [initial] at here
        cases here
        rfl

/-- The condition under which the session leaves no trace: after it no
`usb-storage` line names its port, each line that opens the port is the port's
own, and the flush records the port's record neither with nor without it. -/
structure LeavesNoTrace (port : CppString) (after : List LogLine) (state clean : State) : Prop where
  unflagged : Unflagged port after
  residue : ¬ FlushRecords state port
  clean : ¬ FlushRecords clean port

section TwoRuns
variable {before after : List LogLine} {session : Session}
  (idle : Idle (loopInterfaces before)[session.port]?) (other : session.isStorage = false)
include idle other

theorem runs_apart {prefix_ : List LogLine} (unflagged : Unflagged session.port prefix_) :
    loopClosings (before ++ session.lines ++ prefix_) = loopClosings (before ++ prefix_) ∧
      Apart session.port (logTime session.new) (loopInterfaces (before ++ session.lines ++ prefix_))
        (loopInterfaces (before ++ prefix_)) := by
  obtain ⟨closings, apart⟩ := session_leaves_residue idle other
  obtain ⟨later, final⟩ := apart.run prefix_ _ _ unflagged
  have split : ∀ log : List LogLine, loopInterfaces (log ++ prefix_) =
      runInterfaces prefix_ (loopInterfaces log) := fun log => runInterfaces_append _ _ _
  have splitClosings : ∀ log : List LogLine, loopClosings (log ++ prefix_) =
      loopClosings log ++ runClosings prefix_ (loopInterfaces log) := by
    intro log
    exact runClosings_append _ _ _
  constructor
  · rw [splitClosings, splitClosings, closings, later]
  · rw [split, split]
    exact final

theorem same_without_trace
    (noTrace : LeavesNoTrace session.port after
      ⟨loopInterfaces (before ++ session.lines ++ after), loopUsbMap (before ++ session.lines ++ after)⟩
      ⟨loopInterfaces (before ++ after), loopUsbMap (before ++ after)⟩) :
    finalUsbMap (before ++ session.lines ++ after) = finalUsbMap (before ++ after) := by
  obtain ⟨closings, apart⟩ := runs_apart idle other noTrace.unflagged
  have maps : loopUsbMap (before ++ session.lines ++ after) = loopUsbMap (before ++ after) := by
    unfold loopUsbMap
    rw [closings]
  exact apart.flush_eq maps noTrace.residue noTrace.clean

/-- A later `usb-storage` line of the port makes the session's time reported. -/
theorem flagged_residue_reported {early late : List LogLine} {line : LogLine}
    (unflagged : Unflagged session.port early) (flag : storagePort line = some session.port) :
    ReportsTime (finalUsbMap (before ++ session.lines ++ (early ++ line :: late)))
      (logTime session.new) := by
  obtain ⟨_, apart⟩ := runs_apart idle other unflagged
  obtain ⟨element, present, live, _, opened⟩ := apart.residue
  have split : before ++ session.lines ++ (early ++ line :: late) =
      (before ++ session.lines ++ early) ++ line :: late := (List.append_assoc _ _ _).symm
  have raised : (stepInterfaces line (loopInterfaces (before ++ session.lines ++ early)))[session.port]? =
      some (flagged element) := stepInterfaces_flag flag present
  have isOpen : (flagged element).isOpenStorage = true := isOpenStorage_iff.mpr ⟨live, rfl⟩
  have interfaces : loopInterfaces (before ++ session.lines ++ (early ++ line :: late)) =
      runInterfaces late (stepInterfaces line (loopInterfaces (before ++ session.lines ++ early))) := by
    rw [split]
    exact runInterfaces_append _ _ _
  rcases open_storage_kept session.port (logTime session.new) late _ _ raised isOpen opened with
    ⟨closing, member, time⟩ | ⟨element', kept, isOpen', time⟩
  · rw [← time]
    apply closing_time_reported
    rw [split]
    unfold loopClosings
    rw [runClosings_append, runClosings]
    exact List.mem_append_right _ (List.mem_append_right _ member)
  · rw [← interfaces] at kept
    rw [← time]
    apply flushed_time_reported kept
    obtain ⟨notEmpty, storage⟩ := isOpenStorage_iff.mp isOpen'
    exact ⟨element', kept, notEmpty, .inl storage⟩

end TwoRuns

/-- The lines before the first `usb-storage` line of the port. -/
theorem split_at_flag {port : CppString} :
    ∀ lines : List LogLine, (∃ line ∈ lines, storagePort line = some port) →
      ∃ early line late, lines = early ++ line :: late ∧ storagePort line = some port ∧
        ∀ other ∈ early, storagePort other ≠ some port := by
  intro lines
  induction lines with
  | nil =>
      intro flagged
      obtain ⟨line, member, _⟩ := flagged
      cases member
  | cons line lines ih =>
      intro flagged
      by_cases here : storagePort line = some port
      · exact ⟨[], line, lines, rfl, here, fun other member => by cases member⟩
      · have later : ∃ line ∈ lines, storagePort line = some port := by
          obtain ⟨found, member, flag⟩ := flagged
          rcases List.mem_cons.mp member with same | member
          · exact absurd (same ▸ flag) here
          · exact ⟨found, member, flag⟩
        obtain ⟨early, flag, late, split, isFlag, others⟩ := ih later
        refine ⟨line :: early, flag, late, by rw [split]; rfl, isFlag, ?_⟩
        intro other member
        rcases List.mem_cons.mp member with same | member
        · rw [same]
          exact here
        · exact others other member

theorem own_of_single {port : CppString} {lines : List LogLine}
    (single : ∀ line ∈ lines, SinglePort line) :
    ∀ line ∈ lines, newPort line = some port → usbPort line = some port := by
  intro line member new
  cases usb : usbPort line with
  | none => exact absurd (newPort_some new).usb (usbPort_none usb port)
  | some told => rw [single line member _ (usbPort_mem usb) _ (newPort_mem new)]

/-- Where the condition fails, the maps differ, provided the date of the session
is told from those of the other lines. -/
theorem trace_shows {before after : List LogLine} {session : Session}
    (idle : Idle (loopInterfaces before)[session.port]?) (other : session.isStorage = false)
    (single : ∀ line ∈ after, SinglePort line)
    (dates : ∀ line ∈ before ++ after, logTime line ≠ logTime session.new)
    (same : finalUsbMap (before ++ session.lines ++ after) = finalUsbMap (before ++ after)) :
    LeavesNoTrace session.port after
      ⟨loopInterfaces (before ++ session.lines ++ after), loopUsbMap (before ++ session.lines ++ after)⟩
      ⟨loopInterfaces (before ++ after), loopUsbMap (before ++ after)⟩ := by
  have untold : ¬ ReportsTime (finalUsbMap (before ++ session.lines ++ after))
      (logTime session.new) := by
    rw [same]
    intro told
    obtain ⟨serial, entry, here, member⟩ := told
    obtain ⟨line, inside, time⟩ := connectionTime_of_line here member
    exact dates line inside time
  have own : ∀ line ∈ after, newPort line = some session.port → usbPort line = some session.port :=
    own_of_single single
  have unflagged : Unflagged session.port after := by
    refine ⟨?_, own⟩
    intro line member flag
    obtain ⟨early, first, late, split, isFlag, others⟩ := split_at_flag after ⟨line, member, flag⟩
    apply untold
    rw [split]
    apply flagged_residue_reported idle other _ isFlag
    refine ⟨others, fun line member => own line ?_⟩
    rw [split]
    exact List.mem_append_left _ member
  obtain ⟨closings, apart⟩ := runs_apart idle other unflagged
  have residue : ¬ FlushRecords ⟨loopInterfaces (before ++ session.lines ++ after),
      loopUsbMap (before ++ session.lines ++ after)⟩ session.port := by
    intro recorded
    obtain ⟨element, present, _, _, opened⟩ := apart.residue
    apply untold
    rw [← opened]
    exact flushed_time_reported present recorded
  refine ⟨unflagged, residue, ?_⟩
  intro recorded
  have maps : loopUsbMap (before ++ session.lines ++ after) = loopUsbMap (before ++ after) := by
    unfold loopUsbMap
    rw [closings]
  exact apart.flush_ne maps residue recorded same

/-- A non-storage session on an idle port, between any two logs. -/
theorem nonstorage_session_trace {before after : List LogLine} {session : Session}
    {start state clean : State} (started : readLines before {} = some start)
    (idle : Idle start.usbInterfacesMap[session.port]?) (other : session.isStorage = false)
    (run : readLines (before ++ session.lines ++ after) {} = some state)
    (cleanRun : readLines (before ++ after) {} = some clean) :
    (LeavesNoTrace session.port after state clean →
      getUSBsInfo (before ++ session.lines ++ after) = getUSBsInfo (before ++ after)) ∧
    ((∀ line ∈ after, SinglePort line) →
      (∀ line ∈ before ++ after, logTime line ≠ logTime session.new) →
      getUSBsInfo (before ++ session.lines ++ after) = getUSBsInfo (before ++ after) →
      LeavesNoTrace session.port after state clean) := by
  rw [readLines_log, Option.some.injEq] at started run cleanRun
  subst started run cleanRun
  rw [getUSBsInfo_eq, getUSBsInfo_eq, Option.some.injEq]
  exact ⟨same_without_trace idle other, fun single dates => trace_shows idle other single dates⟩

/-! A mouse on a port, and then a stick on another port or on the same one. -/

def mouseSession : Session where
  port := "1-1".toList
  new := { text := "Jan 1 09:00:02 usb 1-1: new".toList }
  body := []
  disconnect := some { text := "usb 1-1: USB disconnect".toList }
  isNew := by decide +kernel
  isBody := by
    intro line member
    cases member
  isDisconnect := by
    intro line member
    cases member
    decide +kernel

def stickElsewhere : List LogLine :=
  [{ text := "Jan 1 09:00:03 usb 1-2: new".toList }, { text := "usb 1-2: SerialNumber: A".toList },
    { text := "usb-storage 1-2:1.0".toList }]

theorem mouse_leaves_stick_elsewhere :
    getUSBsInfo ([] ++ mouseSession.lines ++ stickElsewhere) = getUSBsInfo ([] ++ stickElsewhere) := by
  have noTrace : LeavesNoTrace mouseSession.port stickElsewhere
      ⟨loopInterfaces ([] ++ mouseSession.lines ++ stickElsewhere),
        loopUsbMap ([] ++ mouseSession.lines ++ stickElsewhere)⟩
      ⟨loopInterfaces ([] ++ stickElsewhere), loopUsbMap ([] ++ stickElsewhere)⟩ := by
    refine ⟨⟨?_, ?_⟩, ?_, ?_⟩
    · decide +kernel
    · decide +kernel
    · decide +kernel
    · decide +kernel
  exact (nonstorage_session_trace (readLines_log []) (.inl rfl) rfl (readLines_log _)
    (readLines_log _)).1 noTrace

def stickHere : List LogLine :=
  [{ text := "Jan 1 09:00:03 usb 1-1: new".toList }, { text := "usb-storage 1-1:1.0".toList }]

/-- The stick is reported with the connection time of the mouse. -/
theorem mouse_leaves_trace :
    ∃ start, readLines [] {} = some start ∧ Idle start.usbInterfacesMap[mouseSession.port]? ∧
      mouseSession.isStorage = false ∧ mouseSession.isClosed = true ∧
      getUSBsInfo ([] ++ mouseSession.lines ++ stickHere) ≠ getUSBsInfo ([] ++ stickHere) := by
  refine ⟨_, readLines_log [], .inl rfl, rfl, rfl, ?_⟩
  intro same
  rw [getUSBsInfo_eq, getUSBsInfo_eq, Option.some.injEq] at same
  have times := congrArg (fun final : UsbMap =>
    final.toList.map fun slot => slot.2.connectionTimes) same
  exact absurd times (by decide +kernel)

end StoringDevices
