import StoringDevices.Lib.Lists
import StoringDevices.Provenance

/-! # The map over whole runs

Which line appended what: the entries of `usb_map` hold aligned pairs, each
appended by one disconnect line from one port record; the flush only appends
connection times; and no connection event is recorded twice or lost, save those
of the records the flush drops. -/
set_option autoImplicit false

namespace StoringDevices

open Std (ExtTreeMap)

/-! ## Lines in terms of the handlers -/

/-- What `checkIfNewDeviceConnected` returns on the line; `false` when the loop
body does not call it. -/
def connectionAccepted (line : LogLine) (state : State) : Option Bool := do
  let (isStorage, interfaces) ← checkIfStorageDevice line.text state.usbInterfacesMap
  if isStorage then
    some false
  else if (regexSearch line.text usbRegex).isSome then
    let (isInformation, interfaces) ← checkIfInformationAboutDeviceFound line interfaces
    if isInformation then
      some false
    else
      let (isNew, _) ← checkIfNewDeviceConnected line.text interfaces
      some isNew
  else
    some false

theorem connectionAccepted_eq (line : LogLine) (state : State) :
    connectionAccepted line state = some (openedOn line state.usbInterfacesMap).isSome := by
  unfold connectionAccepted openedOn effect
  rw [checkIfStorageDevice_eq]
  cases storagePort line with
  | some port => rfl
  | none =>
      have seen : (regexSearch line.text usbRegex).isSome = (usbPort line).isSome := by
        simp [usbPort]
      simp only [Option.bind_eq_bind, Option.bind_some, Option.isSome_none, Bool.false_eq_true,
        if_false, seen]
      cases here : usbPort line with
      | none => rfl
      | some port =>
          simp only [checkIfInformationAboutDeviceFound_eq, checkIfNewDeviceConnected_eq, here,
            Option.isSome_some, if_true, Option.bind_some, Bool.false_eq_true, if_false]
          cases acceptedPort line (informed line port state.usbInterfacesMap) with
          | some opened => rfl
          | none => cases closedRecord line (informed line port state.usbInterfacesMap) port <;> rfl

/-- The connection line at `position` is accepted. -/
def AcceptedAt (log : List LogLine) (position : Nat) : Prop :=
  ∃ line state, log[position]? = some line ∧ readLines (log.take position) {} = some state ∧
    connectionAccepted line state = some true

/-- The disconnect line finds the record of `closing`: the three handlers before
the one of disconnections pass the line on, and the record they leave for the port
of the line is non-empty and flagged as storage. -/
def Closes (line : LogLine) (before : State) (closing : Closing) : Prop :=
  ∃ interfaces told interfaces',
    checkIfStorageDevice line.text before.usbInterfacesMap = some (false, interfaces) ∧
    usbPort line = some closing.port ∧
    checkIfInformationAboutDeviceFound line interfaces = some (false, told) ∧
    checkIfNewDeviceConnected line.text told = some (false, interfaces') ∧
    (regexSearch line.text disconnectionFoundRegex).isSome = true ∧
    interfaces'[closing.port]? = some closing.record ∧
    closing.record.isEmpty = false ∧ closing.record.isStorageDevice = true ∧
    closing.time = str (regexSearch line.text dateRegex)

/-- The line at `position` finds the record of `closing`. -/
def ClosedAt (log : List LogLine) (position : Nat) (closing : Closing) : Prop :=
  ∃ line before, log[position]? = some line ∧ readLines (log.take position) {} = some before ∧
    Closes line before closing

/-- The line at `position` appends the times of `closing` to the entry of its
serial. -/
def AppendedAt (log : List LogLine) (position : Nat) (closing : Closing) : Prop :=
  ClosedAt log position closing ∧ ∃ line before after,
    log[position]? = some line ∧ readLines (log.take position) {} = some before ∧
    processLine line before = some after ∧ after.usbMap = recordClosing before.usbMap closing

theorem acceptedAt_iff {log : List LogLine} {position : Nat} :
    AcceptedAt log position ↔ position ∈ (openedEvents log).map Prod.fst := by
  rw [List.mem_map]
  constructor
  · intro h
    obtain ⟨line, state, here, before, accepted⟩ := h
    rw [readLines_log, Option.some.injEq] at before
    rw [connectionAccepted_eq, ← before, Option.some.injEq] at accepted
    obtain ⟨port, opens⟩ := Option.isSome_iff_exists.mp accepted
    refine ⟨(position, port), mem_events.mpr ?_, rfl⟩
    unfold eventAt
    rw [here, Option.bind_some, opens]
  · intro h
    obtain ⟨⟨i, port⟩, member, rfl⟩ := h
    obtain ⟨line, here, opens⟩ := Option.bind_eq_some_iff.mp (mem_events.mp member)
    refine ⟨line, _, here, readLines_log _, ?_⟩
    rw [connectionAccepted_eq, opens]
    rfl

/-- A disconnect line that finds a record is one that closes it. -/
theorem closes_iff {line : LogLine} {before : State} {closing : Closing} :
    Closes line before closing ↔ closingOf line before.usbInterfacesMap = some closing := by
  constructor
  · rintro ⟨interfaces, told, interfaces', storage, usb, information, new, announced, present,
      notEmpty, flag, time⟩
    rw [checkIfStorageDevice_eq, Option.some.injEq, Prod.mk.injEq, Option.isSome_eq_false_iff,
      Option.isNone_iff_eq_none] at storage
    obtain ⟨noStorage, kept⟩ := storage
    rw [noStorage] at kept
    rw [← kept, checkIfInformationAboutDeviceFound_eq, usb] at information
    simp only [Option.some.injEq, Prod.mk.injEq, true_and] at information
    rw [← information, checkIfNewDeviceConnected_eq, Option.some.injEq, Prod.mk.injEq,
      Option.isSome_eq_false_iff, Option.isNone_iff_eq_none] at new
    obtain ⟨refused, left⟩ := new
    rw [refused] at left
    have found : closedRecord line (informed line closing.port before.usbInterfacesMap)
        closing.port = some closing.record := by
      simp only at left
      rw [closedRecord, if_pos (show disconnects line = true from announced), left, present,
        Option.filter_some, if_pos (isOpenStorage_iff.mpr ⟨notEmpty, flag⟩)]
    unfold closingOf effect
    simp only [noStorage, usb, refused, found, Effect.closing]
    cases closing
    simp only at time
    rw [time]
    rfl
  · intro closes
    obtain ⟨effectHere, time⟩ := closingOf_disconnect closes
    have spec := effect_spec line before.usbInterfacesMap
    rw [effectHere] at spec
    cases spec with
    | disconnect storage usb refused announced present live =>
        obtain ⟨notEmpty, flag⟩ := isOpenStorage_iff.mp live
        have told := checkIfInformationAboutDeviceFound_eq line before.usbInterfacesMap
        have passed := checkIfNewDeviceConnected_eq line
          (informed line closing.port before.usbInterfacesMap)
        rw [usb] at told
        rw [refused] at passed
        refine ⟨_, _, _, ?_, usb, told, passed, announced, present, notEmpty, flag, time⟩
        rw [checkIfStorageDevice_eq, storage]
        rfl

theorem closedAt_iff {log : List LogLine} {position : Nat} {closing : Closing} :
    ClosedAt log position closing ↔ (position, closing) ∈ closingEvents log := by
  unfold closingEvents
  rw [mem_events]
  unfold eventAt
  constructor
  · intro closed
    obtain ⟨line, before, here, loop, closes⟩ := closed
    rw [readLines_log, Option.some.injEq] at loop
    subst loop
    have found := closes_iff.mp closes
    rw [here, Option.bind_some]
    simp only at found ⊢
    rw [found]
  · intro found
    obtain ⟨line, here, closes⟩ := Option.bind_eq_some_iff.mp found
    exact ⟨line, _, here, readLines_log _, closes_iff.mpr closes⟩

theorem ClosedAt.flag {log : List LogLine} {position : Nat} {closing : Closing}
    (closed : ClosedAt log position closing) : closing.record.isStorageDevice = true := by
  obtain ⟨_, _, _, _, _, _, _, _, _, _, _, _, _, _, flag, _⟩ := closed
  exact flag

theorem appendedAt_iff {log : List LogLine} {position : Nat} {closing : Closing} :
    AppendedAt log position closing ↔ (position, closing) ∈ closingEvents log := by
  refine ⟨fun appended => closedAt_iff.mp appended.1, ?_⟩
  intro found
  obtain ⟨line, here, closes⟩ := Option.bind_eq_some_iff.mp (mem_events.mp found)
  have closes' : closingOf line (loopInterfaces (log.take position)) = some closing := closes
  refine ⟨closedAt_iff.mpr found, line, _, _, here, readLines_log _, processLine_eq _ _, ?_⟩
  simp only [closes']

/-! ## Records the flush keeps and records it drops -/

/-- The records the flush moves into the map. -/
def keptRecords (slots : List (CppString × UsbInterface)) (usbMap : UsbMap) :
    List (CppString × UsbInterface) :=
  ((flusher.outputs slots usbMap).filter fun o => o.2.1).map fun o => o.2.2

/-- The records the flush drops: not storage, and of a serial that is not a key
when the record is visited. -/
def droppedRecords (slots : List (CppString × UsbInterface)) (usbMap : UsbMap) :
    List (CppString × UsbInterface) :=
  ((flusher.outputs slots usbMap).filter fun o => !o.2.1).map fun o => o.2.2

theorem flusher_outputs_cons (slot : CppString × UsbInterface)
    (slots : List (CppString × UsbInterface)) (usbMap : UsbMap) :
    flusher.outputs (slot :: slots) usbMap =
      (slot.2.serialNumber,
        (usbMap[slot.2.serialNumber]?.isSome || slot.2.isStorageDevice, slot)) ::
        flusher.outputs slots (flusher.step usbMap slot) := rfl

theorem kept_append_dropped_perm (slots : List (CppString × UsbInterface)) (usbMap : UsbMap) :
    (keptRecords slots usbMap ++ droppedRecords slots usbMap).Perm slots := by
  have all : ∀ (slots : List (CppString × UsbInterface)) (usbMap : UsbMap),
      (flusher.outputs slots usbMap).map (fun o => o.2.2) = slots := by
    intro slots
    induction slots with
    | nil => intro usbMap; rfl
    | cons slot slots ih =>
        intro usbMap
        rw [flusher_outputs_cons, List.map_cons, ih]
  unfold keptRecords droppedRecords
  rw [← List.map_append]
  conv_rhs => rw [← all slots usbMap]
  exact (List.filter_append_perm _ _).map _

theorem keptRecords_cons (slot : CppString × UsbInterface)
    (slots : List (CppString × UsbInterface)) (usbMap : UsbMap) :
    keptRecords (slot :: slots) usbMap =
      (if usbMap[slot.2.serialNumber]?.isSome || slot.2.isStorageDevice then [slot] else []) ++
        keptRecords slots (flusher.step usbMap slot) := by
  unfold keptRecords
  rw [flusher_outputs_cons]
  cases h : usbMap[slot.2.serialNumber]?.isSome || slot.2.isStorageDevice <;> simp

theorem keptRecords_append (slots' : List (CppString × UsbInterface)) :
    ∀ (slots : List (CppString × UsbInterface)) (usbMap : UsbMap),
      keptRecords (slots ++ slots') usbMap =
        keptRecords slots usbMap ++ keptRecords slots' (flusher.run usbMap slots) := by
  intro slots
  induction slots with
  | nil => intro usbMap; rfl
  | cons slot slots ih =>
      intro usbMap
      rw [List.cons_append, keptRecords_cons, keptRecords_cons, ih, List.append_assoc]
      rfl

theorem keptRecords_sublist (slots : List (CppString × UsbInterface)) :
    ∀ usbMap : UsbMap, (keptRecords slots usbMap).Sublist slots := by
  induction slots with
  | nil => intro usbMap; exact List.Sublist.refl _
  | cons slot slots ih =>
      intro usbMap
      rw [keptRecords_cons]
      have tail := ih (flusher.step usbMap slot)
      cases h : usbMap[slot.2.serialNumber]?.isSome || slot.2.isStorageDevice with
      | true => simpa using tail
      | false => simpa using tail.cons slot

theorem recordsOf_cons (serial : CppString) (slot : CppString × UsbInterface)
    (slots : List (CppString × UsbInterface)) :
    recordsOf serial (slot :: slots) =
      (if slot.2.serialNumber = serial then [slot] else []) ++ recordsOf serial slots := by
  unfold recordsOf
  by_cases h : slot.2.serialNumber = serial <;> simp [h]

theorem recordsOf_append (serial : CppString) (slots slots' : List (CppString × UsbInterface)) :
    recordsOf serial (slots ++ slots') = recordsOf serial slots ++ recordsOf serial slots' :=
  List.filter_append _ _

/-- Under each serial the flush keeps what `keptOf` says. -/
theorem keptRecords_of_serial (serial : CppString) :
    ∀ (slots : List (CppString × UsbInterface)) (usbMap : UsbMap),
      (recordsOf serial (keptRecords slots usbMap)).map Prod.snd =
        keptOf usbMap[serial]? ((recordsOf serial slots).map Prod.snd) := by
  intro slots
  induction slots with
  | nil => intro usbMap; cases h : usbMap[serial]? <;> rfl
  | cons slot slots ih =>
      intro usbMap
      have tail := ih (flusher.step usbMap slot)
      rw [keptRecords_cons, recordsOf_append, recordsOf_cons, List.map_append, tail]
      by_cases here : slot.2.serialNumber = serial
      · have key : flusher.key slot = some serial := by simp [flusher, here]
        rw [Keyed.step_getElem?_self flusher usbMap key, here]
        cases known : usbMap[serial]? with
        | some entry => simp [recordsOf, keptOf, here]
        | none =>
            cases storage : slot.2.isStorageDevice with
            | true => simp [recordsOf, keptOf, here, storage, flusher_next_storage slot storage]
            | false => simp [recordsOf, keptOf, storage, flusher_next_other slot storage]
      · have key : flusher.key slot ≠ some serial := by simpa [flusher] using here
        rw [Keyed.step_getElem?_other flusher usbMap key]
        cases usbMap[slot.2.serialNumber]?.isSome || slot.2.isStorageDevice <;>
          simp [recordsOf, here]

/-! ## Entries and their times -/

theorem flushEntry_times {old : Option UsbInfo} {records : List UsbInterface} {entry : UsbInfo}
    (h : flushEntry old records = some entry) :
    entry.connectionTimes = (old.map UsbInfo.connectionTimes).getD [] ++
        (keptOf old records).map UsbInterface.connectionTime ∧
      entry.disconnectionTimes = (old.map UsbInfo.disconnectionTimes).getD [] := by
  unfold flushEntry at h
  cases old with
  | some entry' =>
      cases h
      exact ⟨rfl, rfl⟩
  | none =>
      cases kept : keptOf none records with
      | nil => simp [kept] at h
      | cons first rest =>
          simp only [kept, Option.some.injEq] at h
          subst h
          exact ⟨rfl, rfl⟩

theorem flushEntry_eq_none {old : Option UsbInfo} {records : List UsbInterface} :
    flushEntry old records = none ↔ old = none ∧ keptOf old records = [] := by
  unfold flushEntry
  cases old with
  | some entry => simp
  | none => cases keptOf none records <;> simp

theorem fillEntry_serial {entry : UsbInfo} {records : List UsbInterface} {serial : CppString}
    (own : entry.serialNumber = serial) (theirs : ∀ r ∈ records, r.serialNumber = serial) :
    (fillEntry entry records).serialNumber = serial := by
  have all : ∀ s ∈ entry.serialNumber :: records.map UsbInterface.serialNumber, s = serial := by
    intro s member
    rcases List.mem_cons.mp member with rfl | member
    · exact own
    · obtain ⟨r, hr, rfl⟩ := List.mem_map.mp member
      exact theirs r hr
  unfold fillEntry firstKnown
  cases found : (entry.serialNumber :: records.map UsbInterface.serialNumber).find?
      fun s => decide (s ≠ []) with
  | some s => exact all s (List.mem_of_find?_eq_some found)
  | none =>
      have first := List.find?_eq_none.mp found entry.serialNumber (by simp)
      simp only [ne_eq, decide_not, Bool.not_eq_true', decide_eq_false_iff_not,
        Decidable.not_not] at first
      exact first.symm.trans own

theorem keptOf_sublist (old : Option UsbInfo) (records : List UsbInterface) :
    (keptOf old records).Sublist records := by
  cases old with
  | some entry => exact List.Sublist.refl _
  | none => exact (List.dropWhile_suffix _).sublist

theorem flushEntry_serial {old : Option UsbInfo} {records : List UsbInterface} {entry : UsbInfo}
    {serial : CppString} (h : flushEntry old records = some entry)
    (own : ∀ e ∈ old, e.serialNumber = serial) (theirs : ∀ r ∈ records, r.serialNumber = serial) :
    entry.serialNumber = serial := by
  unfold flushEntry at h
  cases old with
  | some entry' =>
      cases h
      exact fillEntry_serial (own entry' rfl) theirs
  | none =>
      have kept : ∀ r ∈ keptOf none records, r.serialNumber = serial := fun r member =>
        theirs r ((keptOf_sublist none records).subset member)
      cases shape : keptOf none records with
      | nil => simp [shape] at h
      | cons first rest =>
          simp only [shape, Option.some.injEq] at h
          rw [shape] at kept
          subst h
          exact fillEntry_serial (kept first (by simp)) fun r member =>
            kept r (List.mem_cons_of_mem _ member)

theorem closedEntry_some {closings : List Closing} {entry : UsbInfo}
    (h : closedEntry closings = some entry) :
    closings ≠ [] ∧
      entry.connectionTimes = closings.map (fun closing => closing.record.connectionTime) ∧
      entry.disconnectionTimes = closings.map Closing.time ∧
      ∃ closing ∈ closings, entry.serialNumber = closing.record.serialNumber := by
  cases closings with
  | nil => cases h
  | cons first rest =>
      cases h
      exact ⟨by simp, rfl, rfl, first, by simp, rfl⟩

theorem loopUsbMap_getElem? (log : List LogLine) (serial : CppString) :
    (loopUsbMap log)[serial]? = closedEntry (closingsOf serial (loopClosings log)) :=
  usbMap_getElem? (loopClosings log) serial

theorem closedEntry_times (closings : List Closing) :
    ((closedEntry closings).map UsbInfo.connectionTimes).getD [] =
        closings.map (fun closing => closing.record.connectionTime) ∧
      ((closedEntry closings).map UsbInfo.disconnectionTimes).getD [] = closings.map Closing.time := by
  cases closings with
  | nil => exact ⟨rfl, rfl⟩
  | cons first rest => exact ⟨rfl, rfl⟩

def closingEventsOf (serial : CppString) (log : List LogLine) : List (Nat × Closing) :=
  (closingEvents log).filter fun e => e.2.record.serialNumber = serial

theorem closingEventsOf_map_snd (serial : CppString) (log : List LogLine) :
    (closingEventsOf serial log).map Prod.snd = closingsOf serial (loopClosings log) := by
  unfold closingEventsOf closingsOf
  rw [← closingEvents_map_snd, List.filter_map]
  rfl

theorem finalUsbMap_times {log : List LogLine} {serial : CppString} {entry : UsbInfo}
    (here : (finalUsbMap log)[serial]? = some entry) :
    entry.connectionTimes =
        (closingsOf serial (loopClosings log)).map (fun closing => closing.record.connectionTime) ++
          (recordsOf serial (keptRecords (openRecords (loopInterfaces log)) (loopUsbMap log))).map
            (fun slot => slot.2.connectionTime) ∧
      entry.disconnectionTimes = (closingsOf serial (loopClosings log)).map Closing.time := by
  rw [finalUsbMap_getElem?] at here
  obtain ⟨connections, disconnections⟩ := flushEntry_times here
  obtain ⟨closedConnections, closedDisconnections⟩ :=
    closedEntry_times (closingsOf serial (loopClosings log))
  have kept := keptRecords_of_serial serial (openRecords (loopInterfaces log)) (loopUsbMap log)
  rw [loopUsbMap_getElem?] at kept
  rw [connections, disconnections, closedConnections, closedDisconnections, ← kept, List.map_map]
  exact ⟨rfl, rfl⟩

theorem finalUsbMap_none {log : List LogLine} {serial : CppString} :
    (finalUsbMap log)[serial]? = none ↔
      closingsOf serial (loopClosings log) = [] ∧
        recordsOf serial (keptRecords (openRecords (loopInterfaces log)) (loopUsbMap log)) = [] := by
  have kept := keptRecords_of_serial serial (openRecords (loopInterfaces log)) (loopUsbMap log)
  rw [loopUsbMap_getElem?] at kept
  rw [finalUsbMap_getElem?, flushEntry_eq_none, ← kept, List.map_eq_nil_iff]
  cases closingsOf serial (loopClosings log) <;> simp [closedEntry]

theorem mem_closingsOf {serial : CppString} {closings : List Closing} {closing : Closing} :
    closing ∈ closingsOf serial closings ↔
      closing ∈ closings ∧ closing.record.serialNumber = serial := by
  simp [closingsOf]

theorem mem_recordsOf {serial : CppString} {slots : List (CppString × UsbInterface)}
    {slot : CppString × UsbInterface} :
    slot ∈ recordsOf serial slots ↔ slot ∈ slots ∧ slot.2.serialNumber = serial := by
  simp [recordsOf]

/-! ## The invariant of the map -/

/-- An entry of `usb_map` in the loop: its pairs were each appended by one
disconnect line, in the order of the lines. -/
structure Aligned (log : List LogLine) (serial : CppString) (entry : UsbInfo) : Prop where
  serialNumber : entry.serialNumber = serial
  nonempty : entry.connectionTimes ≠ []
  sameLength : entry.connectionTimes.length = entry.disconnectionTimes.length
  appended : ∃ pairs : List (Nat × Closing),
    pairs.Pairwise (fun a b => a.1 < b.1) ∧
    (∀ e ∈ pairs, AppendedAt log e.1 e.2 ∧ e.2.record.serialNumber = serial) ∧
    entry.connectionTimes = pairs.map (fun e => e.2.record.connectionTime) ∧
    entry.disconnectionTimes = pairs.map (fun e => e.2.time)

/-- An entry after the flush of `state`: the lists it had, and connection times
of non-empty port records. -/
structure Flushed (state : State) (serial : CppString) (entry : UsbInfo) : Prop where
  serialNumber : entry.serialNumber = serial
  nonempty : entry.connectionTimes ≠ []
  longer : entry.disconnectionTimes.length ≤ entry.connectionTimes.length
  appended : ∃ added : List (CppString × UsbInterface),
    added.Sublist (openRecords state.usbInterfacesMap) ∧
    (∀ slot ∈ added, slot.2.serialNumber = serial) ∧
    entry.connectionTimes = (state.usbMap[serial]?.getD {}).connectionTimes ++
      added.map (fun slot => slot.2.connectionTime) ∧
    entry.disconnectionTimes = (state.usbMap[serial]?.getD {}).disconnectionTimes

theorem loop_entry_aligned {log : List LogLine} {serial : CppString} {entry : UsbInfo}
    (here : (loopUsbMap log)[serial]? = some entry) : Aligned log serial entry := by
  rw [loopUsbMap_getElem?] at here
  obtain ⟨nonempty, connections, disconnections, first, member, own⟩ := closedEntry_some here
  refine ⟨?_, ?_, ?_, closingEventsOf serial log, ?_, ?_, ?_, ?_⟩
  · rw [own]
    exact (mem_closingsOf.mp member).2
  · rw [connections]
    simpa using nonempty
  · rw [connections, disconnections, List.length_map, List.length_map]
  · exact (events_increasing closingOf log).sublist List.filter_sublist
  · intro e inside
    obtain ⟨event, ofSerial⟩ := List.mem_filter.mp inside
    exact ⟨appendedAt_iff.mpr event, of_decide_eq_true ofSerial⟩
  · rw [connections, ← closingEventsOf_map_snd, List.map_map]
    rfl
  · rw [disconnections, ← closingEventsOf_map_snd, List.map_map]
    rfl

theorem final_entry_flushed {log : List LogLine} {serial : CppString} {entry : UsbInfo}
    (here : (finalUsbMap log)[serial]? = some entry) :
    Flushed ⟨loopInterfaces log, loopUsbMap log⟩ serial entry := by
  obtain ⟨connections, disconnections⟩ := finalUsbMap_times here
  obtain ⟨closedConnections, closedDisconnections⟩ :=
    closedEntry_times (closingsOf serial (loopClosings log))
  have before : ((loopUsbMap log)[serial]?.getD {}).connectionTimes =
        (closingsOf serial (loopClosings log)).map (fun closing => closing.record.connectionTime) ∧
      ((loopUsbMap log)[serial]?.getD {}).disconnectionTimes =
        (closingsOf serial (loopClosings log)).map Closing.time := by
    rw [← closedConnections, ← closedDisconnections, loopUsbMap_getElem?]
    cases closedEntry (closingsOf serial (loopClosings log)) <;> exact ⟨rfl, rfl⟩
  refine ⟨?_, ?_, ?_, recordsOf serial (keptRecords (openRecords (loopInterfaces log))
    (loopUsbMap log)), ?_, ?_, ?_, ?_⟩
  · rw [finalUsbMap_getElem?] at here
    refine flushEntry_serial here ?_ ?_
    · intro e known
      obtain ⟨_, _, _, first, member, own⟩ := closedEntry_some known
      rw [own]
      exact (mem_closingsOf.mp member).2
    · intro r member
      obtain ⟨slot, inside, rfl⟩ := List.mem_map.mp member
      exact (mem_recordsOf.mp inside).2
  · intro empty
    have absent : (finalUsbMap log)[serial]? = none := by
      rw [finalUsbMap_none]
      rw [connections, List.append_eq_nil_iff, List.map_eq_nil_iff, List.map_eq_nil_iff] at empty
      exact empty
    rw [absent] at here
    cases here
  · rw [connections, disconnections]
    simp
  · exact List.filter_sublist.trans (keptRecords_sublist _ _)
  · intro slot member
    exact (mem_recordsOf.mp member).2
  · rw [connections, before.1]
  · rw [disconnections, before.2]

/-- Over every run: before the flush the entries are aligned, under their own
serials, at every point of the line loop; the flush keeps the aligned pairs. -/
theorem usbMap_invariant (log : List LogLine) :
    (∀ before, before <+: log → ∃ state, readLines before {} = some state ∧
      ∀ serial entry, state.usbMap[serial]? = some entry → Aligned before serial entry) ∧
    ∃ state final, readLines log {} = some state ∧ getUSBsInfo log = some final ∧
      ∀ serial entry, final[serial]? = some entry → Flushed state serial entry := by
  constructor
  · intro before _
    exact ⟨_, readLines_log before, fun serial entry here => loop_entry_aligned here⟩
  · exact ⟨_, _, readLines_log log, getUSBsInfo_eq log, fun serial entry here =>
      final_entry_flushed here⟩

/-! ## Conservation of connection events -/

/-- The positions of the lines whose times the final map holds under a serial. -/
def sources (log : List LogLine) (serial : CppString) : List Nat :=
  (closingEventsOf serial log).map (closingOrigin log) ++
    (recordsOf serial (keptRecords (openRecords (loopInterfaces log)) (loopUsbMap log))).map
      fun slot => origin log slot.1

theorem openRecord_origin {log : List LogLine} {slot : CppString × UsbInterface}
    (member : slot ∈ openRecords (loopInterfaces log)) :
    origin log slot.1 ∈ (openedEvents log).map Prod.fst ∧
      timeAt log (origin log slot.1) = slot.2.connectionTime := by
  obtain ⟨present, live⟩ := mem_openRecords.mp member
  have time : openTime (loopInterfaces log) slot.1 = some slot.2.connectionTime := by
    simp [openTime, present, live]
  obtain ⟨opened, same⟩ := origin_of_open log slot.1 _ time
  exact ⟨List.mem_map.mpr ⟨_, opened, rfl⟩, same⟩

theorem keptRecords_subset {log : List LogLine} {slot : CppString × UsbInterface}
    (member : slot ∈ keptRecords (openRecords (loopInterfaces log)) (loopUsbMap log)) :
    slot ∈ openRecords (loopInterfaces log) := (keptRecords_sublist _ _).subset member

theorem sources_times {log : List LogLine} {serial : CppString} {entry : UsbInfo}
    (here : (finalUsbMap log)[serial]? = some entry) :
    entry.connectionTimes = (sources log serial).map (timeAt log) := by
  rw [(finalUsbMap_times here).1]
  unfold sources
  rw [List.map_append, ← closingEventsOf_map_snd, List.map_map, List.map_map, List.map_map]
  congr 1
  · apply List.map_congr_left
    intro e member
    exact (closingOrigin_spec (List.mem_filter.mp member).1).2.symm
  · apply List.map_congr_left
    intro slot member
    exact (openRecord_origin (keptRecords_subset (mem_recordsOf.mp member).1)).2.symm

theorem source_opened {log : List LogLine} {serial : CppString} {i : Nat}
    (member : i ∈ sources log serial) : i ∈ (openedEvents log).map Prod.fst := by
  rcases List.mem_append.mp member with member | member
  · obtain ⟨e, inside, rfl⟩ := List.mem_map.mp member
    exact (closingOrigin_spec (List.mem_filter.mp inside).1).1
  · obtain ⟨slot, inside, rfl⟩ := List.mem_map.mp member
    exact (openRecord_origin (keptRecords_subset (mem_recordsOf.mp inside).1)).1

/-- Every recorded connection time is the date of a line. -/
theorem connectionTime_of_line {log : List LogLine} {serial : CppString} {entry : UsbInfo}
    {time : CppString} (here : (finalUsbMap log)[serial]? = some entry)
    (member : time ∈ entry.connectionTimes) : ∃ line ∈ log, logTime line = time := by
  rw [sources_times here] at member
  obtain ⟨i, source, rfl⟩ := List.mem_map.mp member
  obtain ⟨e, opened, rfl⟩ := List.mem_map.mp (source_opened source)
  have inside := event_inside opened
  refine ⟨log[e.1], List.getElem_mem inside, ?_⟩
  simp [timeAt, inside]

theorem mem_finalKeys {log : List LogLine} {serial : CppString}
    (present : (finalUsbMap log)[serial]? ≠ none) : serial ∈ (finalUsbMap log).keys := by
  rw [ExtTreeMap.mem_keys, ExtTreeMap.mem_iff_isSome_getElem?]
  exact Option.isSome_iff_ne_none.mpr present

theorem closing_serial_mem {log : List LogLine} {e : Nat × Closing} (member : e ∈ closingEvents log) :
    e.2.record.serialNumber ∈ (finalUsbMap log).keys := by
  apply mem_finalKeys
  rw [Ne, finalUsbMap_none]
  intro h
  obtain ⟨nil, _⟩ := h
  have inside : e.2 ∈ closingsOf e.2.record.serialNumber (loopClosings log) := by
    rw [mem_closingsOf, ← closingEvents_map_snd]
    exact ⟨List.mem_map.mpr ⟨e, member, rfl⟩, rfl⟩
  rw [nil] at inside
  simp at inside

theorem kept_serial_mem {log : List LogLine} {slot : CppString × UsbInterface}
    (member : slot ∈ keptRecords (openRecords (loopInterfaces log)) (loopUsbMap log)) :
    slot.2.serialNumber ∈ (finalUsbMap log).keys := by
  apply mem_finalKeys
  rw [Ne, finalUsbMap_none]
  intro h
  obtain ⟨_, nil⟩ := h
  have inside := mem_recordsOf.mpr ⟨member, rfl⟩
  rw [nil] at inside
  simp at inside

theorem closingEventsOf_perm (log : List LogLine) :
    ((finalUsbMap log).keys.flatMap fun serial => closingEventsOf serial log).Perm
      (closingEvents log) :=
  Keyed.flatMap_filter_perm (fun e : Nat × Closing => e.2.record.serialNumber)
    ExtTreeMap.nodup_keys _ fun _ member => closing_serial_mem member

/-- The recorded positions are those of all closings and of all kept records. -/
theorem sources_perm (log : List LogLine) :
    ((finalUsbMap log).keys.flatMap (sources log)).Perm
      ((closingEvents log).map (closingOrigin log) ++
        (keptRecords (openRecords (loopInterfaces log)) (loopUsbMap log)).map
          fun slot => origin log slot.1) := by
  have kept := Keyed.flatMap_filter_perm
    (fun slot : CppString × UsbInterface => slot.2.serialNumber) ExtTreeMap.nodup_keys
    (keptRecords (openRecords (loopInterfaces log)) (loopUsbMap log))
    fun _ member => kept_serial_mem member
  have parts := ((closingEventsOf_perm log).map (closingOrigin log)).append (kept.map fun slot => origin log slot.1)
  rw [List.map_flatMap, List.map_flatMap] at parts
  exact (List.flatMap_append_perm _ _ _).symm.trans parts

theorem acceptedAt_ncard (log : List LogLine) :
    {i | AcceptedAt log i}.ncard = (openedEvents log).length := by
  rw [Lists.ncard_of_members (openedPositions_nodup log) fun i => acceptedAt_iff, List.length_map]

theorem closedAt_ncard (log : List LogLine) :
    {i | ∃ closing, ClosedAt log i closing}.ncard = (closingEvents log).length := by
  have distinct : ((closingEvents log).map Prod.fst).Nodup :=
    List.pairwise_map.mpr ((events_increasing closingOf log).imp fun h => Nat.ne_of_lt h)
  rw [Lists.ncard_of_members distinct, List.length_map]
  intro i
  rw [List.mem_map]
  constructor
  · intro h
    obtain ⟨closing, closes⟩ := h
    exact ⟨(i, closing), closedAt_iff.mp closes, rfl⟩
  · intro h
    obtain ⟨⟨j, closing⟩, member, rfl⟩ := h
    exact ⟨closing, closedAt_iff.mpr member⟩

theorem sum_entries {A : Type} (log : List LogLine) (lists : CppString → List A)
    (field : UsbInfo → List CppString)
    (same : ∀ serial entry, (finalUsbMap log)[serial]? = some entry →
      (field entry).length = (lists serial).length) :
    ((finalUsbMap log).toList.map fun slot => (field slot.2).length).sum =
      ((finalUsbMap log).keys.flatMap lists).length := by
  rw [List.length_flatMap, ← ExtTreeMap.map_fst_toList_eq_keys, List.map_map]
  congr 1
  apply List.map_congr_left
  intro slot member
  exact same slot.1 slot.2 (ExtTreeMap.mem_toList_iff_getElem?_eq_some.mp member)

/-- Every recorded connection time is the date of its own accepted line, and the
accepted lines are the recorded ones and those whose records the flush drops. -/
theorem connection_events_conserved (log : List LogLine) :
    ∃ state final, readLines log {} = some state ∧ getUSBsInfo log = some final ∧
      ∃ source : CppString → List Nat,
        (∀ serial entry, final[serial]? = some entry →
          entry.connectionTimes = (source serial).map (timeAt log)) ∧
        (∀ serial ∈ final.keys, ∀ i ∈ source serial, AcceptedAt log i) ∧
        (final.keys.flatMap source).Nodup ∧
        {i | AcceptedAt log i}.ncard =
          (final.toList.map fun slot => slot.2.connectionTimes.length).sum +
            (droppedRecords (openRecords state.usbInterfacesMap) state.usbMap).length ∧
        (final.toList.map fun slot => slot.2.disconnectionTimes.length).sum =
          {i | ∃ closing, ClosedAt log i closing}.ncard := by
  refine ⟨_, _, readLines_log log, getUSBsInfo_eq log, sources log, ?_, ?_, ?_, ?_, ?_⟩
  · intro serial entry here
    exact sources_times here
  · intro serial _ i member
    rw [acceptedAt_iff]
    exact source_opened member
  · have all := (openedEvents_perm log).nodup_iff.mp (openedPositions_nodup log)
    refine (sources_perm log).nodup_iff.mpr (all.sublist ?_)
    refine List.Sublist.append_left ?_ _
    unfold openPorts
    rw [List.map_map]
    exact (keptRecords_sublist _ _).map _
  · have opened := (openedEvents_perm log).length_eq
    have recorded := (sources_perm log).length_eq
    have split := (kept_append_dropped_perm (openRecords (loopInterfaces log))
      (loopUsbMap log)).length_eq
    have total := sum_entries log (sources log) UsbInfo.connectionTimes
      fun serial entry here => by rw [sources_times here, List.length_map]
    rw [acceptedAt_ncard, total]
    simp only [List.length_map, List.length_append, openPorts] at opened recorded split ⊢
    omega
  · have total := sum_entries log (fun serial => closingEventsOf serial log)
      UsbInfo.disconnectionTimes fun serial entry here => by
        rw [(finalUsbMap_times here).2, ← closingEventsOf_map_snd, List.length_map, List.length_map]
    rw [total, closedAt_ncard, (closingEventsOf_perm log).length_eq]

end StoringDevices
