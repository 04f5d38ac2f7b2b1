import StoringDevices.Report
import StoringDevices.Residue

/-! # The connected status

The times under a serial are one more than balanced for each record that the
flush appends to it.  A storage device still plugged in leaves such a record on
its port, but so does what an earlier session left there, and so does a
non-storage device whose serial is known.  The status is exact when every record
that the flush appends belongs to a plugged-in storage device. -/
set_option autoImplicit false

namespace StoringDevices

open Std (ExtTreeMap)

/-! ## The last session of a port -/

/-- A connection line of the port, neither a `usb-storage` nor a disconnect line. -/
def Opens (port : CppString) (line : LogLine) : Prop :=
  storagePort line = none ∧ disconnects line = false ∧ newPort line = some port

instance (port : CppString) (line : LogLine) : Decidable (Opens port line) :=
  inferInstanceAs (Decidable (_ ∧ _ ∧ _))

/-- A disconnect line of the port. -/
def PullsOut (port : CppString) (line : LogLine) : Prop :=
  disconnects line = true ∧ usbPort line = some port

instance (port : CppString) (line : LogLine) : Decidable (PullsOut port line) :=
  inferInstanceAs (Decidable (_ ∧ _))

/-- The lines after the last connection line of the port. -/
def lastBody (port : CppString) (log : List LogLine) : List LogLine :=
  (log.reverse.takeWhile fun line => decide (¬ Opens port line)).reverse

/-- The last session of the port has a `usb-storage` line and no disconnect line,
and announced the serial, or none when the serial is empty. -/
structure PluggedIn (log : List LogLine) (port serial : CppString) : Prop where
  opened : ∃ line ∈ log, Opens port line
  stays : ∀ line ∈ lastBody port log, ¬ PullsOut port line
  storage : ∃ line ∈ lastBody port log, storagePort line = some port
  announced : (lastRead (readOn readSerialNumber port) (lastBody port log)).getD [] = serial

theorem PluggedIn.serial_eq {log : List LogLine} {port serial serial' : CppString}
    (plugged : PluggedIn log port serial) (plugged' : PluggedIn log port serial') :
    serial = serial' := by
  rw [← plugged.announced, ← plugged'.announced]

theorem lastBody_snoc (port : CppString) (log : List LogLine) (line : LogLine) :
    lastBody port (log ++ [line]) = if Opens port line then [] else lastBody port log ++ [line] := by
  unfold lastBody
  rw [List.reverse_append, List.reverse_singleton, List.singleton_append]
  by_cases opens : Opens port line
  · rw [List.takeWhile_cons_of_neg (by simpa using opens), if_pos opens]
    rfl
  · rw [List.takeWhile_cons_of_pos (by simpa using opens), if_neg opens, List.reverse_cons]

theorem split_at_lastBody {port : CppString} (log : List LogLine)
    (opened : ∃ line ∈ log, Opens port line) :
    ∃ before line, log = before ++ line :: lastBody port log ∧ Opens port line := by
  induction log using List.reverseRecOn with
  | nil =>
      obtain ⟨line, member, _⟩ := opened
      cases member
  | append_singleton log last ih =>
      rw [lastBody_snoc]
      by_cases here : Opens port last
      · rw [if_pos here]
        exact ⟨log, last, rfl, here⟩
      · rw [if_neg here]
        have earlier : ∃ line ∈ log, Opens port line := by
          obtain ⟨line, member, opens⟩ := opened
          rcases List.mem_append.mp member with inside | same
          · exact ⟨line, inside, opens⟩
          · rw [List.mem_singleton.mp same] at opens
            exact absurd opens here
        obtain ⟨before, line, split, opens⟩ := ih earlier
        refine ⟨before, line, ?_, opens⟩
        conv_lhs => rw [split]
        simp

/-! ## The record of a plugged-in device -/

/-- After a connection line the record of the port is not empty. -/
theorem Opens.record {port : CppString} {line : LogLine} (opens : Opens port line)
    (interfaces : InterfacesMap) :
    ∃ element, (stepInterfaces line interfaces)[port]? = some element ∧
      element.isEmpty = false := by
  obtain ⟨storage, stays, new⟩ := opens
  cases usb : usbPort line with
  | none => exact absurd (newPort_some new).usb (usbPort_none usb port)
  | some told =>
      cases free : (informed line told interfaces)[port]?.all UsbInterface.isEmpty with
      | true =>
          have connects : effect line interfaces = .connect told port :=
            effect_connect storage usb (acceptedPort_of_free new free)
          exact ⟨_, step_opened connects, rfl⟩
      | false =>
          have informs : effect line interfaces = .inform told :=
            effect_inform storage usb (acceptedPort_of_taken new free) (closedRecord_of_quiet stays)
          unfold stepInterfaces
          rw [informs, apply_inform_getElem?, ← informed_getElem?]
          cases here : (informed line told interfaces)[port]? with
          | none =>
              rw [here] at free
              cases free
          | some element =>
              rw [here] at free
              exact ⟨element, rfl, free⟩

/-- A non-empty record hears the lines until the port is pulled out. -/
theorem unpulled_run (port : CppString) :
    ∀ (body : List LogLine) (interfaces : InterfacesMap) (element : UsbInterface),
      interfaces[port]? = some element → element.isEmpty = false →
      (∀ line ∈ body, ¬ PullsOut port line) →
      (runInterfaces body interfaces)[port]? = some (body.foldl (heard port) element) := by
  intro body
  induction body with
  | nil => intro interfaces element present _ _; exact present
  | cons line body ih =>
      intro interfaces element present live stays
      have kept : (stepInterfaces line interfaces)[port]? = some (heard port element line) := by
        rcases step_open present live with ⟨closes, _⟩ | kept
        · have spec := effect_spec line interfaces
          rw [(closingOf_disconnect closes).1] at spec
          cases spec with
          | disconnect storage usb refused announced present' live' =>
              exact absurd ⟨announced, usb⟩ (stays line (by simp))
        · exact kept
      exact ih _ _ kept (by simpa using live)
        fun other member => stays other (List.mem_cons_of_mem _ member)

theorem PluggedIn.record {log : List LogLine} {port serial : CppString}
    (plugged : PluggedIn log port serial) :
    ∃ element, (loopInterfaces log)[port]? = some element ∧ element.isEmpty = false ∧
      element.isStorageDevice = true ∧ (serial ≠ [] → element.serialNumber = serial) := by
  obtain ⟨before, line, split, opens⟩ := split_at_lastBody log plugged.opened
  obtain ⟨first, present, live⟩ := opens.record (loopInterfaces before)
  have run : (loopInterfaces log)[port]? =
      some ((lastBody port log).foldl (heard port) first) := by
    have after := unpulled_run port (lastBody port log) _ first present live plugged.stays
    conv_lhs => rw [split]
    unfold loopInterfaces
    rw [runInterfaces_append]
    exact after
  have flag : ((lastBody port log).any fun line => storagePort line = some port) =
      true := by
    obtain ⟨line', member, storage⟩ := plugged.storage
    exact List.any_eq_true.mpr ⟨line', member, decide_eq_true storage⟩
  have announced := plugged.announced
  rw [foldl_heard] at run
  refine ⟨_, run, live, by simp [flag], ?_⟩
  intro known
  simp only
  cases last : lastRead (readOn readSerialNumber port) (lastBody port log) with
  | none =>
      rw [last] at announced
      exact absurd announced.symm known
  | some told =>
      rw [last] at announced
      exact announced

theorem PluggedIn.flushed {log : List LogLine} {port serial : CppString}
    (plugged : PluggedIn log port serial) :
    ∃ element, (loopInterfaces log)[port]? = some element ∧
      FlushRecords ⟨loopInterfaces log, loopUsbMap log⟩ port ∧
      (serial ≠ [] → element.serialNumber = serial) := by
  obtain ⟨element, present, live, storage, announced⟩ := plugged.record
  exact ⟨element, present, ⟨element, present, live, .inl storage⟩, announced⟩

/-! ## The records that the flush appends -/

/-- The flush keeps no record of the port before or after it visits the port. -/
theorem not_mem_keptRecords_aside {interfaces : InterfacesMap} {slot : CppString × UsbInterface}
    {order : Ordering} (side : order ≠ .eq) (usbMap : UsbMap) :
    slot ∉ keptRecords ((openRecords interfaces).filter
      fun other => compare other.1 slot.1 = order) usbMap := by
  intro member
  have inside := List.mem_filter.mp ((keptRecords_sublist _ _).subset member)
  have same := of_decide_eq_true inside.2
  have self : compare slot.1 slot.1 = .eq := Std.ReflCmp.compare_self
  rw [self] at same
  exact side same.symm

theorem mem_keptRecords_visited {state : State} {port : CppString} {element : UsbInterface}
    (present : state.usbInterfacesMap[port]? = some element) (live : element.isEmpty = false) :
    (port, element) ∈ keptRecords (openRecords state.usbInterfacesMap) state.usbMap ↔
      element.isStorageDevice = true ∨ element.serialNumber ∈ flushedBefore state port := by
  have before : (port, element) ∉
      keptRecords (recordsBefore state.usbInterfacesMap port) state.usbMap :=
    not_mem_keptRecords_aside (by simp) _
  have after : (port, element) ∉ keptRecords (recordsAfter state.usbInterfacesMap port)
      (flusher.step (flushedBefore state port) (port, element)) :=
    not_mem_keptRecords_aside (by simp) _
  rw [openRecords_visited present live, keptRecords_append, keptRecords_cons, List.mem_append,
    List.mem_append]
  change _ ∨ (_ ∈ (if (flushedBefore state port)[element.serialNumber]?.isSome ||
    element.isStorageDevice then [(port, element)] else []) ∨ _ ∈ keptRecords
      (recordsAfter state.usbInterfacesMap port)
      (flusher.step (flushedBefore state port) (port, element))) ↔ _
  rw [or_iff_right before, or_iff_left after, ExtTreeMap.mem_iff_isSome_getElem?]
  cases element.isStorageDevice <;>
    cases (flushedBefore state port)[element.serialNumber]?.isSome <;> simp

/-- The flush keeps exactly the records of the ports that it records. -/
theorem mem_keptRecords (state : State) {port : CppString} {element : UsbInterface} :
    (port, element) ∈ keptRecords (openRecords state.usbInterfacesMap) state.usbMap ↔
      state.usbInterfacesMap[port]? = some element ∧ FlushRecords state port := by
  constructor
  · intro member
    obtain ⟨present, live⟩ := mem_openRecords.mp ((keptRecords_sublist _ _).subset member)
    refine ⟨present, element, present, live, ?_⟩
    rcases (mem_keptRecords_visited present live).mp member with storage | known
    · exact .inl storage
    · exact .inr (mem_flushedBefore.mp known)
  · intro kept
    obtain ⟨present, element', present', live, reason⟩ := kept
    have same : element' = element := Option.some.inj (present'.symm.trans present)
    subst same
    apply (mem_keptRecords_visited present live).mpr
    rcases reason with storage | known
    · exact .inl storage
    · exact .inr (mem_flushedBefore.mpr known)

/-- The ports whose records the flush appends to the entry of the serial. -/
def flushedPorts (log : List LogLine) (serial : CppString) : Set CppString :=
  {port | ∃ element, (loopInterfaces log)[port]? = some element ∧
    FlushRecords ⟨loopInterfaces log, loopUsbMap log⟩ port ∧ element.serialNumber = serial}

/-- The ports with a plugged-in storage device of the serial. -/
def pluggedPorts (log : List LogLine) (serial : CppString) : Set CppString :=
  {port | PluggedIn log port serial}

theorem mem_flushedPorts {log : List LogLine} {serial port : CppString} :
    port ∈ flushedPorts log serial ↔ port ∈ (recordsOf serial
      (keptRecords (openRecords (loopInterfaces log)) (loopUsbMap log))).map Prod.fst := by
  rw [List.mem_map]
  constructor
  · intro flushed
    obtain ⟨element, present, recorded, own⟩ := flushed
    have kept := (mem_keptRecords ⟨loopInterfaces log, loopUsbMap log⟩).mpr ⟨present, recorded⟩
    exact ⟨(port, element), mem_recordsOf.mpr ⟨kept, own⟩, rfl⟩
  · intro found
    obtain ⟨slot, member, same⟩ := found
    subst same
    obtain ⟨kept, own⟩ := mem_recordsOf.mp member
    obtain ⟨present, recorded⟩ := (mem_keptRecords ⟨loopInterfaces log, loopUsbMap log⟩).mp kept
    exact ⟨slot.2, present, recorded, own⟩

theorem flushedPorts_finite (log : List LogLine) (serial : CppString) :
    (flushedPorts log serial).Finite :=
  (List.finite_toSet _).subset fun _ member => mem_flushedPorts.mp member

/-- Each record that the flush appends leaves one connection time unmatched. -/
theorem entry_balance {log : List LogLine} {serial : CppString} {entry : UsbInfo}
    (here : (finalUsbMap log)[serial]? = some entry) :
    entry.connectionTimes.length =
      entry.disconnectionTimes.length + (flushedPorts log serial).ncard := by
  have distinct : ((recordsOf serial (keptRecords (openRecords (loopInterfaces log))
      (loopUsbMap log))).map Prod.fst).Nodup := by
    refine (openPorts_nodup (loopInterfaces log)).sublist (List.Sublist.map _ ?_)
    exact List.filter_sublist.trans (keptRecords_sublist _ _)
  have count : (flushedPorts log serial).ncard = _ :=
    Lists.ncard_of_members distinct fun port => mem_flushedPorts
  obtain ⟨connections, disconnections⟩ := finalUsbMap_times here
  rw [count, connections, disconnections]
  simp

theorem final_of_flushed {log : List LogLine} {serial port : CppString}
    (flushed : port ∈ flushedPorts log serial) : ∃ entry, (finalUsbMap log)[serial]? = some entry := by
  obtain ⟨element, present, recorded, own⟩ := flushed
  have kept := (mem_keptRecords ⟨loopInterfaces log, loopUsbMap log⟩).mpr ⟨present, recorded⟩
  have known := kept_serial_mem kept
  rw [own, ExtTreeMap.mem_keys, ExtTreeMap.mem_iff_isSome_getElem?] at known
  exact Option.isSome_iff_exists.mp known

/-- Every record that the flush appends belongs to the plugged-in storage device
that announced its serial. -/
def FlushesPluggedIn (log : List LogLine) (state : State) : Prop :=
  ∀ port element, state.usbInterfacesMap[port]? = some element → FlushRecords state port →
    PluggedIn log port element.serialNumber

theorem flushedPorts_eq {log : List LogLine}
    (flushes : FlushesPluggedIn log ⟨loopInterfaces log, loopUsbMap log⟩) (serial : CppString) :
    flushedPorts log serial = pluggedPorts log serial := by
  apply Set.Subset.antisymm
  · intro port flushed
    obtain ⟨element, present, recorded, own⟩ := flushed
    rw [← own]
    exact flushes port element present recorded
  · intro port plugged
    obtain ⟨element, present, recorded, _⟩ := PluggedIn.flushed plugged
    have announced := flushes port element present recorded
    exact ⟨element, present, recorded, announced.serial_eq plugged⟩

theorem plugged_subset_flushed {log : List LogLine} {serial : CppString} (known : serial ≠ []) :
    pluggedPorts log serial ⊆ flushedPorts log serial := by
  intro port plugged
  obtain ⟨element, present, recorded, announced⟩ := PluggedIn.flushed plugged
  exact ⟨element, present, recorded, announced known⟩

/-- Equal counts leave no room for a record of another origin. -/
theorem flushes_of_counts {log : List LogLine}
    (counts : ∀ serial entry, (finalUsbMap log)[serial]? = some entry →
      (flushedPorts log serial).ncard = (pluggedPorts log serial).ncard) :
    FlushesPluggedIn log ⟨loopInterfaces log, loopUsbMap log⟩ := by
  have equal : ∀ serial port, port ∈ flushedPorts log serial →
      pluggedPorts log serial ⊆ flushedPorts log serial →
      pluggedPorts log serial = flushedPorts log serial := by
    intro serial port flushed inside
    obtain ⟨entry, here⟩ := final_of_flushed flushed
    exact Set.eq_of_subset_of_ncard_le inside (counts serial entry here).le
      (flushedPorts_finite log serial)
  have announced : ∀ serial port, port ∈ flushedPorts log serial →
      pluggedPorts log serial = flushedPorts log serial := by
    intro serial port flushed
    apply equal serial port flushed
    by_cases known : serial = []
    · -- a device that announced no serial cannot hold a record with one
      subst known
      intro other plugged
      obtain ⟨element, present, recorded, _⟩ := PluggedIn.flushed plugged
      have ofSerial : other ∈ flushedPorts log element.serialNumber :=
        ⟨element, present, recorded, rfl⟩
      by_cases stale : element.serialNumber = []
      · rw [stale] at ofSerial
        exact ofSerial
      · have same := equal _ other ofSerial (plugged_subset_flushed stale)
        rw [← same] at ofSerial
        exact absurd (ofSerial.serial_eq plugged) stale
    · exact plugged_subset_flushed known
  intro port element present recorded
  have flushed : port ∈ flushedPorts log element.serialNumber := ⟨element, present, recorded, rfl⟩
  rw [← announced element.serialNumber port flushed] at flushed
  exact flushed

/-- For every log: the counts, and with them the status in the report, are exact
if and only if the flush appends the records of plugged-in devices only. -/
theorem connected_status_exact_iff (log : List LogLine) :
    (∃ final, getUSBsInfo log = some final ∧ ∀ serial entry, final[serial]? = some entry →
      entry.connectionTimes.length = entry.disconnectionTimes.length +
          {port | PluggedIn log port serial}.ncard ∧
        (ShowsConnected final serial ↔ ∃ port, PluggedIn log port serial)) ↔
    ∀ state, readLines log {} = some state → FlushesPluggedIn log state := by
  constructor
  · intro exact_
    obtain ⟨final, result, counts⟩ := exact_
    rw [getUSBsInfo_eq, Option.some.injEq] at result
    subst result
    intro state loop
    rw [readLines_log, Option.some.injEq] at loop
    subst loop
    apply flushes_of_counts
    intro serial entry here
    have balance := entry_balance here
    have count := (counts serial entry here).1
    unfold pluggedPorts
    omega
  · intro flushes
    have equal := flushedPorts_eq (flushes _ (readLines_log log))
    refine ⟨_, getUSBsInfo_eq log, ?_⟩
    intro serial entry here
    have balance := entry_balance here
    have finite := flushedPorts_finite log serial
    rw [equal] at balance finite
    refine ⟨balance, ?_⟩
    rw [showsConnected_iff here]
    have some_ : 0 < (pluggedPorts log serial).ncard ↔ ∃ port, PluggedIn log port serial :=
      Set.ncard_pos finite
    rw [← some_]
    omega

/-! A stick without a serial is pulled out of one port; a mouse without a serial
stays plugged in on another. -/

/-- `true` for a connection line of the port, `false` for a disconnect line. -/
def switches (port : CppString) (log : List LogLine) : List Bool :=
  log.filterMap fun line =>
    if newPort line = some port then some true
    else if disconnects line = true ∧ usbPort line = some port then some false
    else none

/-- On each port connection and disconnect lines alternate, and a session
announces at most one serial number, before its `usb-storage` lines. -/
structure AlternatingLog (log : List LogLine) : Prop where
  lines : ∀ line ∈ log, Silent line ∨ ∃ kind port, IsLine kind port line
  alternates : ∀ port, List.IsChain (· ≠ ·) (false :: switches port log)
  serials : SerialsInSession log

def stickThenMouse : List LogLine :=
  [{ text := "usb 1-1: new".toList }, { text := "usb-storage 1-1:1.0".toList },
    { text := "usb 1-1: USB disconnect".toList }, { text := "usb 1-2: new".toList }]

def stickThenMouseKinds : List (Kind × CppString) :=
  [(.new, "1-1".toList), (.storage, "1-1".toList), (.disconnect, "1-1".toList),
    (.new, "1-2".toList)]

/-- What `switches` looks at. -/
def marked (line : LogLine) : Option CppString × Bool × Option CppString :=
  (newPort line, disconnects line, usbPort line)

theorem stickThenMouse_alternates (port : CppString) :
    List.IsChain (· ≠ ·) (false :: switches port stickThenMouse) := by
  have marks : stickThenMouse.map marked =
      [(some "1-1".toList, false, some "1-1".toList), (none, false, none),
        (none, true, some "1-1".toList), (some "1-2".toList, false, some "1-2".toList)] := by
    decide +kernel
  have seen : switches port stickThenMouse = (stickThenMouse.map marked).filterMap fun mark =>
      if mark.1 = some port then some true
      else if mark.2.1 = true ∧ mark.2.2 = some port then some false
      else none := by
    rw [List.filterMap_map]
    rfl
  have apart : "1-1".toList ≠ "1-2".toList := by decide
  rw [seen, marks]
  generalize "1-1".toList = first at apart
  generalize "1-2".toList = second at apart
  by_cases here : first = port
  · subst here
    simp [Ne.symm apart]
  · by_cases there : second = port
    · simp [here, there]
    · simp [here, there]

theorem stickThenMouse_alternating : AlternatingLog stickThenMouse := by
  have kinds : ∀ e ∈ stickThenMouseKinds.zip stickThenMouse, IsLine e.1.1 e.1.2 e.2 := by
    decide +kernel
  have quiet : ∀ line ∈ stickThenMouse, (announcedSerialNumber line).isSome = false := by
    decide +kernel
  refine ⟨?_, stickThenMouse_alternates, ?_⟩
  · intro line member
    have zipped : stickThenMouse = (stickThenMouseKinds.zip stickThenMouse).map Prod.snd := rfl
    rw [zipped] at member
    obtain ⟨e, inside, rfl⟩ := List.mem_map.mp member
    exact .inr ⟨_, _, kinds e inside⟩
  · intro i j port line line' _ _ here' told _
    have silent := quiet line' (List.mem_of_getElem? here')
    rw [told.2] at silent
    cases silent

/-- The stick is shown as connected. -/
theorem pulled_stick_shown_connected :
    AlternatingLog stickThenMouse ∧
      ¬ ∃ final, getUSBsInfo stickThenMouse = some final ∧
        ∀ serial entry, final[serial]? = some entry →
          entry.connectionTimes.length = entry.disconnectionTimes.length +
              {port | PluggedIn stickThenMouse port serial}.ncard ∧
            (ShowsConnected final serial ↔ ∃ port, PluggedIn stickThenMouse port serial) := by
  refine ⟨stickThenMouse_alternating, ?_⟩
  intro exact_
  obtain ⟨final, result, counts⟩ := exact_
  rw [getUSBsInfo_eq, Option.some.injEq] at result
  subst result
  have times : (finalUsbMap stickThenMouse)[([] : CppString)]?.map
      (fun entry => (entry.connectionTimes.length, entry.disconnectionTimes.length)) =
        some (2, 1) := by decide +kernel
  obtain ⟨entry, here, lengths⟩ := Option.map_eq_some_iff.mp times
  rw [Prod.mk.injEq] at lengths
  have shown : ShowsConnected (finalUsbMap stickThenMouse) [] := by
    rw [showsConnected_iff here]
    omega
  obtain ⟨port, plugged⟩ := (counts [] entry here).2.mp shown
  -- only the first port has a usb-storage line, and it is pulled out
  have first : ∀ line ∈ stickThenMouse, ∀ p ∈ storagePort line, p = "1-1".toList := by
    decide +kernel
  have pulled : ∃ line ∈ lastBody "1-1".toList stickThenMouse, PullsOut "1-1".toList line := by
    decide +kernel
  obtain ⟨line, inside, storage⟩ := plugged.storage
  have member : line ∈ stickThenMouse := by
    have within := (List.takeWhile_prefix _).subset (List.mem_reverse.mp inside)
    exact List.mem_reverse.mp within
  have own := first line member port storage
  subst own
  obtain ⟨line', inside', pulls⟩ := pulled
  exact plugged.stays line' inside' pulls

end StoringDevices
