import StoringDevices.Conservation
import StoringDevices.Session

/-! # The map of a log of storage sessions

The closings of such a log are its closed sessions in the order of their
disconnect lines, and the records left for the flush are those of its open
sessions in the order of their ports.  From these the map is read off. -/
set_option autoImplicit false

namespace StoringDevices

open Std (ExtTreeMap)

/-! ## Closings and open records -/

theorem closings_ports_sublist :
    ∀ (log : List LogLine) (interfaces : InterfacesMap),
      ((runClosings log interfaces).map Closing.port).Sublist
        ((log.filter fun line => disconnects line).map fun line => (linePort line).getD []) := by
  intro log
  induction log with
  | nil => intro interfaces; exact List.Sublist.refl _
  | cons line log ih =>
      intro interfaces
      have tail := ih (stepInterfaces line interfaces)
      rw [runClosings, List.map_append]
      cases closes : closingOf line interfaces with
      | none =>
          cases announced : disconnects line with
          | false =>
              rw [List.filter_cons_of_neg (by simp [announced])]
              exact tail
          | true =>
              rw [List.filter_cons_of_pos (by simp [announced])]
              exact tail.cons _
      | some closing =>
          have spec := effect_spec line interfaces
          rw [(closingOf_disconnect closes).1] at spec
          cases spec with
          | disconnect storage usb refused announced present live =>
              have key : (linePort line).getD [] = closing.port := by
                unfold linePort
                rw [storage, usb]
                rfl
              rw [List.filter_cons_of_pos (by simp [announced]), List.map_cons, key]
              exact tail.cons_cons closing.port

section StorageLogs
variable {log : List LogLine} {sessions : CppString → List Session}
  (wellFormed : SessionLog log sessions)
  (storage : ∀ port, ∀ session ∈ sessions port, session.isStorage = true)
include wellFormed storage

theorem closings_of_sessions (port : CppString) :
    (loopClosings log).filter (fun closing => closing.port = port) =
      (sessions port).filterMap Session.closing := by
  have same : loopClosings log = loopClosings (spoken log) := runClosings_spoken log ∅
  rw [same, loopClosings_port wellFormed.single, wellFormed.ofPort]
  exact (sessions_run _ _ (.inl rfl) (storage port) (wellFormed.closed port)).1

theorem openRecords_of_sessions (port : CppString) :
    (openRecords (loopInterfaces log)).filter (fun slot => slot.1 = port) =
      ((sessions port).filter Session.isOpen).map fun session => (session.port, session.record) := by
  have same : loopInterfaces log = loopInterfaces (spoken log) := runInterfaces_spoken log ∅
  have run := (sessions_run _ _ (.inl rfl) (storage port) (wellFormed.closed port)).2
  rw [same, openRecords_of_port, loopInterfaces_port wellFormed.single, wellFormed.ofPort, run,
    List.map_map]
  apply List.map_congr_left
  intro session member
  have own := wellFormed.ownPort port session (List.mem_filter.mp member).1
  simp [own]

/-- The closings of the log are its closed sessions. -/
theorem loopClosings_eq {closed : List Session} (order : InDisconnectOrder log sessions closed) :
    loopClosings log = closed.filterMap Session.closing := by
  have projections : ∀ port,
      (((loopClosings log).map Closing.keyed).filter fun o => o.1 = port).map Prod.snd =
        (((closed.filterMap Session.closing).map Closing.keyed).filter
          fun o => o.1 = port).map Prod.snd := by
    intro port
    have ofPort : (closed.filterMap Session.closing).filter
          (fun closing => closing.port = port) =
        (closed.filter fun session => session.port = port).filterMap Session.closing := by
      rw [List.filter_filterMap, List.filterMap_filter]
      apply List.filterMap_congr
      intro session member
      unfold Session.closing
      cases session.disconnect with
      | none => simp
      | some line => by_cases own : session.port = port <;> simp [own]
    have closedOnly : ((sessions port).filter Session.isClosed).filterMap Session.closing =
        (sessions port).filterMap Session.closing := by
      rw [List.filterMap_filter]
      apply List.filterMap_congr
      intro session member
      unfold Session.isClosed Session.closing
      cases session.disconnect <;> rfl
    rw [map_keyed_project, map_keyed_project, closings_of_sessions wellFormed storage, ofPort,
      order.ofPort, closedOnly]
  have lengths : (loopClosings log).length = (closed.filterMap Session.closing).length := by
    simpa using (Keyed.perm_of_project_eq projections).length_eq
  have allClosed : ∀ session ∈ closed, session.isClosed = true := by
    intro session member
    have atPort : session ∈ closed.filter fun other => decide (other.port = session.port) :=
      List.mem_filter.mpr ⟨member, by simp⟩
    rw [order.ofPort session.port] at atPort
    exact (List.mem_filter.mp atPort).2
  have ports : (closed.filterMap Session.closing).map Closing.port =
      (log.filter fun line => disconnects line).map fun line => (linePort line).getD [] := by
    have keys := congrArg (List.map fun line : Option LogLine => (line.bind linePort).getD [])
      order.lines
    rw [List.map_map, List.map_map] at keys
    rw [List.map_filterMap]
    refine Eq.trans ?_ keys
    rw [← List.filterMap_eq_map]
    apply List.filterMap_congr
    intro session member
    obtain ⟨line, here⟩ := Option.isSome_iff_exists.mp (allClosed session member)
    have isLine := session.isDisconnect line (by rw [here]; rfl)
    simp [Session.closing, here, isLine.linePort_eq]
  have sameKeys : ((loopClosings log).map Closing.keyed).map Prod.fst =
      ((closed.filterMap Session.closing).map Closing.keyed).map Prod.fst := by
    have sublist : ((loopClosings log).map Closing.port).Sublist
        ((closed.filterMap Session.closing).map Closing.port) := by
      rw [ports]
      exact closings_ports_sublist log ∅
    rw [List.map_map, List.map_map]
    exact sublist.eq_of_length (by simpa using lengths)
  have keyed := Keyed.eq_of_keys_eq_of_project_eq _ _ sameKeys projections
  rw [← map_keyed_snd (loopClosings log), keyed, map_keyed_snd]

theorem exists_port_order :
    ∃ opened, InPortOrder sessions opened ∧
      opened.map (fun session => (session.port, session.record)) =
        openRecords (loopInterfaces log) := by
  have own : ∀ port, ∀ session ∈ (sessions port).filter Session.isOpen, session.port = port := by
    intro port session member
    exact wellFormed.ownPort port session (List.mem_filter.mp member).1
  obtain ⟨opened, images, ports⟩ := Keyed.exists_merge Prod.fst Session.port
    (fun session => (session.port, session.record)) (openRecords (loopInterfaces log)) _ own
    fun port => (openRecords_of_sessions wellFormed storage port).symm
  refine ⟨opened, ⟨?_, ports⟩, images⟩
  have sorted := openRecords_sorted (loopInterfaces log)
  rw [← images, List.pairwise_map] at sorted
  exact sorted

end StorageLogs

/-! ## The entry of a serial -/

def Session.announces (serial : CppString) (session : Session) : Bool :=
  decide (session.serialNumber = serial)

/-- What is reported under `serial` of its closed and its open sessions: the
pairs of the closed ones, then the connections of the open ones; each remaining
field is the first one known among the first closed session and the open ones. -/
def reported (serial : CppString) (closed opened : List Session) : Option UsbInfo :=
  match closed.take 1 ++ opened with
  | [] => none
  | described =>
      some
        { connectionTimes := (closed ++ opened).map fun session => logTime session.new
          disconnectionTimes := closed.filterMap fun session => session.disconnect.map logTime
          idVendor := firstKnown 0 (described.map Session.idVendor)
          idProduct := firstKnown 0 (described.map Session.idProduct)
          productName := firstKnown [] (described.map Session.productName)
          manufacturer := firstKnown [] (described.map Session.manufacturer)
          serialNumber := serial }

theorem closingsOf_sessions (serial : CppString) (closed : List Session) :
    closingsOf serial (closed.filterMap Session.closing) =
      (closed.filter (Session.announces serial)).filterMap Session.closing := by
  unfold closingsOf
  rw [List.filter_filterMap, List.filterMap_filter]
  apply List.filterMap_congr
  intro session member
  unfold Session.closing Session.announces
  cases session.disconnect with
  | none => simp
  | some line =>
      have own := session.record_serialNumber
      by_cases here : session.serialNumber = serial <;> simp [own, here]

theorem recordsOf_sessions (serial : CppString) (opened : List Session) :
    (recordsOf serial (opened.map fun session => (session.port, session.record))).map Prod.snd =
      (opened.filter (Session.announces serial)).map Session.record := by
  unfold recordsOf
  rw [List.filter_map, List.map_map]
  have same : opened.filter ((fun slot => slot.2.serialNumber = serial) ∘
      fun session => (session.port, session.record)) =
      opened.filter (Session.announces serial) := by
    apply List.filter_congr
    intro session member
    simp [Session.announces, session.record_serialNumber]
  rw [same]
  rfl

theorem final_of_sessions {log : List LogLine} {sessions : CppString → List Session}
    (wellFormed : SessionLog log sessions)
    (storage : ∀ port, ∀ session ∈ sessions port, session.isStorage = true) :
    ∃ closed opened, InDisconnectOrder log sessions closed ∧ InPortOrder sessions opened ∧
      ∀ serial, (finalUsbMap log)[serial]? =
        flushEntry (closedEntry
            ((closed.filter (Session.announces serial)).filterMap Session.closing))
          ((opened.filter (Session.announces serial)).map Session.record) := by
  obtain ⟨closed, order⟩ := wellFormed.exists_disconnect_order
  obtain ⟨opened, ports, records⟩ := exists_port_order wellFormed storage
  refine ⟨closed, opened, order, ports, ?_⟩
  intro serial
  rw [finalUsbMap_getElem?, loopClosings_eq wellFormed storage order, ← records,
    closingsOf_sessions, recordsOf_sessions]

/-! ## The map, session by session -/

theorem mem_sessions {log : List LogLine} {sessions : CppString → List Session}
    {closed opened : List Session} (wellFormed : SessionLog log sessions)
    (order : InDisconnectOrder log sessions closed) (ports : InPortOrder sessions opened)
    (session : Session) : session ∈ closed ++ opened ↔ ∃ port, session ∈ sessions port := by
  have atPort : ∀ list : List Session, session ∈ list ↔
      session ∈ list.filter fun other => decide (other.port = session.port) := by
    intro list
    simp
  rw [List.mem_append, atPort closed, atPort opened, order.ofPort, ports.ofPort, List.mem_filter,
    List.mem_filter]
  constructor
  · intro h
    rcases h with ⟨member, _⟩ | ⟨member, _⟩
    · exact ⟨_, member⟩
    · exact ⟨_, member⟩
  · intro h
    obtain ⟨port, member⟩ := h
    have own := wellFormed.ownPort port session member
    rw [← own] at member
    unfold Session.isClosed Session.isOpen
    cases session.disconnect with
    | none => exact .inr ⟨member, rfl⟩
    | some line => exact .inl ⟨member, rfl⟩

theorem closed_of_order {log : List LogLine} {sessions : CppString → List Session}
    {closed : List Session} (order : InDisconnectOrder log sessions closed) :
    ∀ session ∈ closed, ∃ line, session.disconnect = some line := by
  intro session member
  have atPort : session ∈ closed.filter fun other => decide (other.port = session.port) :=
    List.mem_filter.mpr ⟨member, by simp⟩
  rw [order.ofPort session.port] at atPort
  exact Option.isSome_iff_exists.mp (List.mem_filter.mp atPort).2

/-- The flush keeps every record of a storage session. -/
theorem keptOf_storage (old : Option UsbInfo) {opened : List Session}
    (storage : ∀ session ∈ opened, session.isStorage = true) :
    keptOf old (opened.map Session.record) = opened.map Session.record := by
  cases old with
  | some entry => rfl
  | none =>
      cases opened with
      | nil => rfl
      | cons first rest =>
          have flag := first.record_session.2.1
          rw [storage first (by simp)] at flag
          simp [keptOf, flag]

/-- The fields besides the times come from the first closing and the records. -/
theorem flushEntry_described {closings : List Closing} {records : List UsbInterface}
    {entry : UsbInfo} (here : flushEntry (closedEntry closings) records = some entry)
    (kept : keptOf (closedEntry closings) records = records) :
    entry.idVendor = firstKnown 0
        (((closings.take 1).map Closing.record ++ records).map UsbInterface.idVendor) ∧
      entry.idProduct = firstKnown 0
        (((closings.take 1).map Closing.record ++ records).map UsbInterface.idProduct) ∧
      entry.productName = firstKnown []
        (((closings.take 1).map Closing.record ++ records).map UsbInterface.productName) ∧
      entry.manufacturer = firstKnown []
        (((closings.take 1).map Closing.record ++ records).map UsbInterface.manufacturer) := by
  unfold flushEntry at here
  rw [kept] at here
  cases closings with
  | nil =>
      cases records with
      | nil => cases here
      | cons first rest =>
          cases here
          exact ⟨rfl, rfl, rfl, rfl⟩
  | cons first rest =>
      cases here
      exact ⟨rfl, rfl, rfl, rfl⟩

section OneSerial
variable {serial : CppString} {closed opened : List Session}
  (ended : ∀ session ∈ closed, ∃ line, session.disconnect = some line)
  (storage : ∀ session ∈ opened, session.isStorage = true)
  (own : ∀ session ∈ closed ++ opened, session.serialNumber = serial)
include ended storage own

theorem entry_times {entry : UsbInfo}
    (here : flushEntry (closedEntry (closed.filterMap Session.closing))
      (opened.map Session.record) = some entry) :
    entry.serialNumber = serial ∧
      entry.connectionTimes = (closed ++ opened).map (fun session => logTime session.new) ∧
      entry.disconnectionTimes =
        closed.filterMap fun session => session.disconnect.map logTime := by
  obtain ⟨connections, disconnections⟩ := flushEntry_times here
  obtain ⟨closedConnections, closedDisconnections⟩ :=
    closedEntry_times (closed.filterMap Session.closing)
  have closedTimes : (closed.filterMap Session.closing).map
        (fun closing => closing.record.connectionTime) =
      closed.map fun session => logTime session.new := by
    rw [List.map_filterMap, ← List.filterMap_eq_map]
    apply List.filterMap_congr
    intro session member
    obtain ⟨line, shape⟩ := ended session member
    simp [Session.closing, shape, session.record_session.2.2]
  have openedTimes : (opened.map Session.record).map UsbInterface.connectionTime =
      opened.map fun session => logTime session.new := by
    rw [List.map_map]
    apply List.map_congr_left
    intro session member
    exact session.record_session.2.2
  refine ⟨?_, ?_, ?_⟩
  · refine flushEntry_serial here ?_ ?_
    · intro e known
      obtain ⟨_, _, _, first, member, same⟩ := closedEntry_some known
      obtain ⟨session, inside, shape⟩ := List.mem_filterMap.mp member
      obtain ⟨line, _, image⟩ := Option.map_eq_some_iff.mp shape
      rw [same, ← image]
      exact session.record_serialNumber.trans (own session (List.mem_append_left _ inside))
    · intro record member
      obtain ⟨session, inside, image⟩ := List.mem_map.mp member
      rw [← image]
      exact session.record_serialNumber.trans (own session (List.mem_append_right _ inside))
  · rw [connections, closedConnections, keptOf_storage _ storage, closedTimes, openedTimes,
      List.map_append]
  · rw [disconnections, closedDisconnections, List.map_filterMap]
    apply List.filterMap_congr
    intro session member
    unfold Session.closing
    cases session.disconnect <;> rfl

theorem entry_exists :
    flushEntry (closedEntry (closed.filterMap Session.closing)) (opened.map Session.record) = none ↔
      closed = [] ∧ opened = [] := by
  rw [flushEntry_eq_none, keptOf_storage _ storage, List.map_eq_nil_iff]
  cases closed with
  | nil => simp [closedEntry]
  | cons first rest =>
      obtain ⟨line, shape⟩ := ended first (by simp)
      simp [Session.closing, shape, closedEntry]

/-- The entry of one serial is what is reported of its sessions. -/
theorem entry_reported (ids : ∀ session ∈ closed ++ opened, session.GivesIds) :
    flushEntry (closedEntry (closed.filterMap Session.closing)) (opened.map Session.record) =
      reported serial closed opened := by
  cases found : flushEntry (closedEntry (closed.filterMap Session.closing))
      (opened.map Session.record) with
  | none =>
      obtain ⟨rfl, rfl⟩ := (entry_exists ended storage own).mp found
      rfl
  | some entry =>
      obtain ⟨serialOk, connections, disconnections⟩ := entry_times ended storage own found
      have described : ((closed.filterMap Session.closing).take 1).map Closing.record ++
          opened.map Session.record = (closed.take 1 ++ opened).map Session.record := by
        cases closed with
        | nil => rfl
        | cons first rest =>
            obtain ⟨line, shape⟩ := ended first (by simp)
            simp [Session.closing, shape]
      have inside : ∀ session ∈ closed.take 1 ++ opened, session ∈ closed ++ opened := by
        intro session member
        rcases List.mem_append.mp member with member | member
        · exact List.mem_append_left _ (List.mem_of_mem_take member)
        · exact List.mem_append_right _ member
      obtain ⟨vendor, product, name, maker⟩ := flushEntry_described found (keptOf_storage _ storage)
      rw [described, List.map_map] at vendor product name maker
      rw [List.map_congr_left fun session member =>
        (session.record_ids (ids session (inside session member))).1] at vendor
      rw [List.map_congr_left fun session member =>
        (session.record_ids (ids session (inside session member))).2] at product
      rw [List.map_congr_left fun session _ => session.record_productName] at name
      rw [List.map_congr_left fun session _ => session.record_manufacturer] at maker
      have someSession : closed.take 1 ++ opened ≠ [] := by
        intro nil
        rw [List.append_eq_nil_iff, List.take_eq_nil_iff] at nil
        have empty := (entry_exists ended storage own).mpr ⟨by simpa using nil.1, nil.2⟩
        rw [empty] at found
        cases found
      unfold reported
      cases shape : closed.take 1 ++ opened with
      | nil => exact absurd shape someSession
      | cons first rest =>
          rw [shape] at vendor product name maker
          cases entry
          simp only at serialOk connections disconnections vendor product name maker
          rw [serialOk, connections, disconnections, vendor, product, name, maker]

end OneSerial

/-! ## Logs of storage sessions -/

theorem mem_announces {list : List Session} {serial : CppString} {session : Session} :
    session ∈ list.filter (Session.announces serial) ↔
      session ∈ list ∧ session.serialNumber = serial := by
  simp [Session.announces]

theorem mem_finalUsbMap {log : List LogLine} {serial : CppString} :
    serial ∈ finalUsbMap log ↔ (finalUsbMap log)[serial]? ≠ none := by
  rw [ExtTreeMap.mem_iff_isSome_getElem?, Option.isSome_iff_ne_none]

theorem announcers_ended {log : List LogLine} {sessions : CppString → List Session}
    {closed : List Session} (order : InDisconnectOrder log sessions closed) (serial : CppString) :
    ∀ session ∈ closed.filter (Session.announces serial),
      ∃ line, session.disconnect = some line := by
  intro session member
  exact closed_of_order order session (mem_announces.mp member).1

theorem announcers_own (closed opened : List Session) (serial : CppString) :
    ∀ session ∈ closed.filter (Session.announces serial) ++
      opened.filter (Session.announces serial), session.serialNumber = serial := by
  intro session member
  rcases List.mem_append.mp member with member | member
  · exact (mem_announces.mp member).2
  · exact (mem_announces.mp member).2

section StorageSessions
variable {log : List LogLine} {sessions : CppString → List Session}
  {closed opened : List Session} (wellFormed : SessionLog log sessions)
  (storage : ∀ port, ∀ session ∈ sessions port, session.isStorage = true)
  (order : InDisconnectOrder log sessions closed) (ports : InPortOrder sessions opened)
include wellFormed storage order ports

theorem announcers_storage (serial : CppString) :
    ∀ session ∈ opened.filter (Session.announces serial), session.isStorage = true := by
  intro session member
  have inside := List.mem_append_right closed (mem_announces.mp member).1
  obtain ⟨port, here⟩ := (mem_sessions wellFormed order ports session).mp inside
  exact storage port session here

/-- The keys are the serials of the sessions. -/
theorem session_serials
    (final : ∀ serial, (finalUsbMap log)[serial]? =
      flushEntry (closedEntry ((closed.filter (Session.announces serial)).filterMap Session.closing))
        ((opened.filter (Session.announces serial)).map Session.record)) (serial : CppString) :
    serial ∈ finalUsbMap log ↔ ∃ port, ∃ session ∈ sessions port, session.serialNumber = serial := by
  have absent := entry_exists (announcers_ended order serial)
    (announcers_storage wellFormed storage order ports serial)
    (announcers_own closed opened serial)
  rw [mem_finalUsbMap, final, Ne, absent]
  constructor
  · intro present
    by_contra nobody
    apply present
    have noneIn : ∀ list : List Session, (∀ session ∈ list, session ∈ closed ++ opened) →
        list.filter (Session.announces serial) = [] := by
      intro list inside
      apply List.filter_eq_nil_iff.mpr
      intro session member announces
      obtain ⟨port, here⟩ := (mem_sessions wellFormed order ports session).mp (inside session member)
      exact nobody ⟨port, session, here, of_decide_eq_true announces⟩
    exact ⟨noneIn closed fun _ => List.mem_append_left _, noneIn opened fun _ => List.mem_append_right _⟩
  · intro somebody both
    obtain ⟨port, session, here, own⟩ := somebody
    have inside := (mem_sessions wellFormed order ports session).mpr ⟨port, here⟩
    rcases List.mem_append.mp inside with member | member
    · have found := mem_announces.mpr ⟨member, own⟩
      rw [both.1] at found
      cases found
    · have found := mem_announces.mpr ⟨member, own⟩
      rw [both.2] at found
      cases found

end StorageSessions

/-- The result on a log of storage sessions, in any interleaving. -/
theorem storage_sessions_reported {log : List LogLine} {sessions : CppString → List Session}
    (wellFormed : SessionLog log sessions)
    (storage : ∀ port, ∀ session ∈ sessions port, session.isStorage = true)
    (ids : ∀ port, ∀ session ∈ sessions port, session.GivesIds) :
    ∃ closed opened final,
      InDisconnectOrder log sessions closed ∧ InPortOrder sessions opened ∧
      getUSBsInfo log = some final ∧
      (∀ serial, serial ∈ final ↔
        ∃ port, ∃ session ∈ sessions port, session.serialNumber = serial) ∧
      ∀ serial, final[serial]? =
        reported serial (closed.filter (Session.announces serial))
          (opened.filter (Session.announces serial)) := by
  obtain ⟨closed, opened, order, ports, final⟩ := final_of_sessions wellFormed storage
  refine ⟨closed, opened, _, order, ports, getUSBsInfo_eq log, ?_, ?_⟩
  · exact session_serials wellFormed storage order ports final
  · intro serial
    rw [final serial]
    apply entry_reported (announcers_ended order serial)
      (announcers_storage wellFormed storage order ports serial)
      (announcers_own closed opened serial)
    intro session member
    have inside : session ∈ closed ++ opened := by
      rcases List.mem_append.mp member with member | member
      · exact List.mem_append_left _ (mem_announces.mp member).1
      · exact List.mem_append_right _ (mem_announces.mp member).1
    obtain ⟨port, here⟩ := (mem_sessions wellFormed order ports session).mp inside
    exact ids port session here

/-! Two sticks without a serial number, one of them pulled. -/

def pulledStick : Session where
  port := "1-1".toList
  new := { text := "Jan 1 09:00:01 usb 1-1: new".toList }
  body :=
    [{ text := "usb 1-1: USB device found, idVendor=1921, idProduct=21".toList },
      { text := "usb-storage 1-1:1.0".toList }]
  disconnect := some { text := "Jan 1 09:00:08 usb 1-1: USB disconnect".toList }
  isNew := by decide +kernel
  isBody := by
    intro line member
    rcases List.mem_cons.mp member with rfl | member
    · exact ⟨.found, by decide, by decide +kernel⟩
    · have same := List.mem_singleton.mp member
      subst same
      exact ⟨.storage, by decide, by decide +kernel⟩
  isDisconnect := by
    intro line member
    cases member
    decide +kernel

def pluggedStick : Session where
  port := "1-2".toList
  new := { text := "Jan 1 09:00:03 usb 1-2: new".toList }
  body :=
    [{ text := "usb 1-2: USB device found, idVendor=951, idProduct=16".toList },
      { text := "usb-storage 1-2:1.0".toList }]
  disconnect := none
  isNew := by decide +kernel
  isBody := by
    intro line member
    rcases List.mem_cons.mp member with rfl | member
    · exact ⟨.found, by decide, by decide +kernel⟩
    · have same := List.mem_singleton.mp member
      subst same
      exact ⟨.storage, by decide, by decide +kernel⟩
  isDisconnect := by
    intro line member
    cases member

/-- The lines of the two sessions and another line, with the ports they name. -/
def twoSticksTagged : List (Option CppString × LogLine) :=
  [(some "1-1".toList, pulledStick.new),
    (some "1-2".toList, pluggedStick.new),
    (some "1-1".toList, { text := "usb 1-1: USB device found, idVendor=1921, idProduct=21".toList }),
    (some "1-2".toList, { text := "usb 1-2: USB device found, idVendor=951, idProduct=16".toList }),
    (none, { text := "Started Session 2".toList }),
    (some "1-1".toList, { text := "usb-storage 1-1:1.0".toList }),
    (some "1-2".toList, { text := "usb-storage 1-2:1.0".toList }),
    (some "1-1".toList, { text := "Jan 1 09:00:08 usb 1-1: USB disconnect".toList })]

def twoSticks : List LogLine := twoSticksTagged.map Prod.snd

def twoSticksSessions (port : CppString) : List Session :=
  if port = "1-1".toList then [pulledStick]
  else if port = "1-2".toList then [pluggedStick]
  else []

theorem mem_twoSticksSessions {port : CppString} {session : Session} :
    session ∈ twoSticksSessions port ↔
      session = pulledStick ∧ port = "1-1".toList ∨ session = pluggedStick ∧ port = "1-2".toList := by
  unfold twoSticksSessions
  by_cases first : port = "1-1".toList
  · have notSecond : port ≠ "1-2".toList := by rw [first]; decide
    simp [first]
  · by_cases second : port = "1-2".toList
    · simp [second]
    · rw [if_neg first, if_neg second]
      constructor
      · intro member
        cases member
      · intro h
        rcases h with ⟨_, same⟩ | ⟨_, same⟩
        · exact absurd same first
        · exact absurd same second

theorem twoSticks_storage :
    ∀ port, ∀ session ∈ twoSticksSessions port, session.isStorage = true := by
  intro port session member
  rcases mem_twoSticksSessions.mp member with ⟨rfl, _⟩ | ⟨rfl, _⟩
  · decide +kernel
  · decide +kernel

theorem twoSticks_tags : ∀ e ∈ twoSticksTagged, Tagged e := by
  have found : ∀ (session : Session) {line : LogLine}, line ∈ session.body →
      ∃ kind : Kind, IsLine kind session.port line := by
    intro session line member
    obtain ⟨kind, _, isLine⟩ := session.isBody line member
    exact ⟨kind, isLine⟩
  intro e member
  unfold twoSticksTagged at member
  simp only [List.mem_cons, List.not_mem_nil, or_false] at member
  rcases member with rfl | rfl | rfl | rfl | rfl | rfl | rfl | rfl
  · exact .inr ⟨.new, _, rfl, pulledStick.isNew⟩
  · exact .inr ⟨.new, _, rfl, pluggedStick.isNew⟩
  · obtain ⟨kind, isLine⟩ := found pulledStick (List.Mem.head _)
    exact .inr ⟨kind, _, rfl, isLine⟩
  · obtain ⟨kind, isLine⟩ := found pluggedStick (List.Mem.head _)
    exact .inr ⟨kind, _, rfl, isLine⟩
  · exact .inl ⟨rfl, by decide +kernel⟩
  · obtain ⟨kind, isLine⟩ := found pulledStick (List.Mem.tail _ (List.Mem.head _))
    exact .inr ⟨kind, _, rfl, isLine⟩
  · obtain ⟨kind, isLine⟩ := found pluggedStick (List.Mem.tail _ (List.Mem.head _))
    exact .inr ⟨kind, _, rfl, isLine⟩
  · exact .inr ⟨.disconnect, _, rfl, pulledStick.isDisconnect _ rfl⟩

theorem twoSticks_sessionLog : SessionLog twoSticks twoSticksSessions := by
  refine sessionLog_of_tags twoSticks_tags ?_ ?_ ?_
  · intro port session member
    rcases mem_twoSticksSessions.mp member with ⟨rfl, rfl⟩ | ⟨rfl, rfl⟩ <;> rfl
  · intro port
    unfold twoSticksSessions
    by_cases first : port = "1-1".toList
    · subst first
      rfl
    · by_cases second : port = "1-2".toList
      · subst second
        rfl
      · have others : ∀ e ∈ twoSticksTagged, e.1 = none ∨ e.1 = some "1-1".toList ∨
            e.1 = some "1-2".toList := by decide +kernel
        rw [if_neg first, if_neg second, List.flatMap_nil, List.map_eq_nil_iff]
        apply List.filter_eq_nil_iff.mpr
        intro e member here
        have tag := of_decide_eq_true here
        rcases others e member with other | other | other
        · rw [tag] at other; cases other
        · exact first (Option.some.inj (tag.symm.trans other))
        · exact second (Option.some.inj (tag.symm.trans other))
  · intro port session member
    have short : (twoSticksSessions port).length ≤ 1 := by
      unfold twoSticksSessions
      split
      · exact Nat.le_refl 1
      · split
        · exact Nat.le_refl 1
        · exact Nat.zero_le 1
    have nil : (twoSticksSessions port).dropLast = [] := by
      rw [← List.length_eq_zero_iff, List.length_dropLast]
      omega
    rw [nil] at member
    cases member

theorem two_sticks_reported :
    ∃ closed opened final,
      InDisconnectOrder twoSticks twoSticksSessions closed ∧
      InPortOrder twoSticksSessions opened ∧ getUSBsInfo twoSticks = some final ∧
      ∀ serial, final[serial]? =
        reported serial (closed.filter (Session.announces serial))
          (opened.filter (Session.announces serial)) := by
  have ids : ∀ port, ∀ session ∈ twoSticksSessions port, session.GivesIds := by
    intro port session member line inside found
    rcases mem_twoSticksSessions.mp member with ⟨rfl, _⟩ | ⟨rfl, _⟩
    · rcases List.mem_cons.mp inside with rfl | inside
      · exact ⟨⟨'1', "921".toList, by decide, by decide +kernel⟩,
          ⟨'2', "1".toList, by decide, by decide +kernel⟩⟩
      · have same := List.mem_singleton.mp inside
        subst same
        exact absurd found (by decide +kernel)
    · rcases List.mem_cons.mp inside with rfl | inside
      · exact ⟨⟨'9', "51".toList, by decide, by decide +kernel⟩,
          ⟨'1', "6".toList, by decide, by decide +kernel⟩⟩
      · have same := List.mem_singleton.mp inside
        subst same
        exact absurd found (by decide +kernel)
  obtain ⟨closed, opened, final, order, ports, result, _, entries⟩ :=
    storage_sessions_reported twoSticks_sessionLog twoSticks_storage ids
  exact ⟨closed, opened, final, order, ports, result, entries⟩

/-! ## Entries are per serial number -/

theorem session_recorded {log : List LogLine} {sessions : CppString → List Session}
    (wellFormed : SessionLog log sessions)
    (storage : ∀ port, ∀ session ∈ sessions port, session.isStorage = true) {port : CppString}
    {session : Session} (member : session ∈ sessions port) :
    ∃ entry, (finalUsbMap log)[session.serialNumber]? = some entry ∧
      logTime session.new ∈ entry.connectionTimes := by
  obtain ⟨closed, opened, order, ports, final⟩ := final_of_sessions wellFormed storage
  have present := (session_serials wellFormed storage order ports final session.serialNumber).mpr
    ⟨port, session, member, rfl⟩
  rw [mem_finalUsbMap] at present
  obtain ⟨entry, here⟩ := Option.ne_none_iff_exists'.mp present
  have found := here
  rw [final] at found
  have times := (entry_times (announcers_ended order _)
    (announcers_storage wellFormed storage order ports _) (announcers_own closed opened _) found).2.1
  refine ⟨entry, here, ?_⟩
  rw [times, ← List.filter_append]
  apply List.mem_map.mpr
  refine ⟨session, mem_announces.mpr ⟨?_, rfl⟩, rfl⟩
  exact (mem_sessions wellFormed order ports session).mpr ⟨port, member⟩

/-- The sessions recorded under an entry are those that announced its serial,
whatever ids they announced. -/
theorem sessions_share_serial_entry {log : List LogLine} {sessions : CppString → List Session}
    (wellFormed : SessionLog log sessions)
    (storage : ∀ port, ∀ session ∈ sessions port, session.isStorage = true) :
    ∃ closed opened final,
      InDisconnectOrder log sessions closed ∧ InPortOrder sessions opened ∧
      getUSBsInfo log = some final ∧
      (∀ serial entry, final[serial]? = some entry →
        entry.serialNumber = serial ∧
        entry.connectionTimes = ((closed.filter (Session.announces serial)) ++
          opened.filter (Session.announces serial)).map (fun session => logTime session.new) ∧
        entry.disconnectionTimes = (closed.filter (Session.announces serial)).filterMap
          fun session => session.disconnect.map logTime) ∧
      ∀ port, ∀ session ∈ sessions port, session.serialNumber ∈ final := by
  obtain ⟨closed, opened, order, ports, final⟩ := final_of_sessions wellFormed storage
  refine ⟨closed, opened, _, order, ports, getUSBsInfo_eq log, ?_, ?_⟩
  · intro serial entry here
    rw [final serial] at here
    exact entry_times (announcers_ended order serial)
      (announcers_storage wellFormed storage order ports serial)
      (announcers_own closed opened serial) here
  · intro port session member
    exact (session_serials wellFormed storage order ports final _).mpr ⟨port, session, member, rfl⟩

theorem two_sticks_share_entry :
    ∃ closed opened final,
      InDisconnectOrder twoSticks twoSticksSessions closed ∧
      InPortOrder twoSticksSessions opened ∧ getUSBsInfo twoSticks = some final ∧
      ∀ port, ∀ session ∈ twoSticksSessions port, session.serialNumber ∈ final := by
  obtain ⟨closed, opened, final, order, ports, result, _, keys⟩ :=
    sessions_share_serial_entry twoSticks_sessionLog twoSticks_storage
  exact ⟨closed, opened, final, order, ports, result, keys⟩

/-- Sessions listed under one entry announced the same ids and serial. -/
def DevicesApart (sessions : CppString → List Session) (final : UsbMap) : Prop :=
  ∀ (serial : CppString) (entry : UsbInfo), final[serial]? = some entry →
    ∀ port, ∀ session ∈ sessions port, ∀ port', ∀ session' ∈ sessions port',
      logTime session.new ∈ entry.connectionTimes → logTime session'.new ∈ entry.connectionTimes →
        session.idVendor = session'.idVendor ∧ session.idProduct = session'.idProduct ∧
          session.serialNumber = session'.serialNumber

/-- Two sticks of different vendors without a serial are one entry. -/
theorem sticks_without_serial_merged :
    SessionLog twoSticks twoSticksSessions ∧
      (∀ port, ∀ session ∈ twoSticksSessions port, session.isStorage = true) ∧
      ∃ final, getUSBsInfo twoSticks = some final ∧ ¬ DevicesApart twoSticksSessions final := by
  refine ⟨twoSticks_sessionLog, twoSticks_storage, _, getUSBsInfo_eq twoSticks, ?_⟩
  intro apart
  have first : pulledStick ∈ twoSticksSessions "1-1".toList :=
    mem_twoSticksSessions.mpr (.inl ⟨rfl, rfl⟩)
  have second : pluggedStick ∈ twoSticksSessions "1-2".toList :=
    mem_twoSticksSessions.mpr (.inr ⟨rfl, rfl⟩)
  obtain ⟨entry, here, time⟩ := session_recorded twoSticks_sessionLog twoSticks_storage first
  obtain ⟨entry', here', time'⟩ := session_recorded twoSticks_sessionLog twoSticks_storage second
  have serials : pulledStick.serialNumber = pluggedStick.serialNumber := by
    unfold Session.serialNumber pulledStick pluggedStick
    simp only
    repeat rw [String.toList_ofList]
    decide +kernel
  rw [serials, here', Option.some.injEq] at here
  subst here
  have same := (apart _ _ here' _ pulledStick first _ pluggedStick second time time').1
  unfold Session.idVendor pulledStick pluggedStick at same
  simp only at same
  repeat rw [String.toList_ofList] at same
  exact absurd same (by decide +kernel)

end StoringDevices
