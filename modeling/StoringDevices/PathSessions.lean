import StoringDevices.Conservation
import StoringDevices.History
import StoringDevices.Paths
import StoringDevices.Standing

/-! # A storage session on a device path

The five lines of a session on any path of the kernel.  Describing and closing
the session go by the port the patterns read of the path, opening it by the path
itself.  The session is recorded when its disconnect line closes the record that
its connection line opened; on lines read as what they are this is so exactly
when the path is the port read of it. -/
set_option autoImplicit false

namespace StoringDevices

/-! ## Sessions -/

/-- The lines of a storage session of `path` with the serial number `s`. -/
structure PathSession (path s : CppString) where
  new : LogLine
  found : LogLine
  serialNumber : LogLine
  storage : LogLine
  disconnect : LogLine
  isNew : ∃ header rest, PlainHeader header ∧
    new.text = usbMessage header path ("new ".toList ++ rest)
  isFound : ∃ header idVendor idProduct rest, PlainHeader header ∧ IsNumber idVendor ∧
    IsNumber idProduct ∧ found.text = usbMessage header path ("New USB device found, idVendor=".toList ++
      (idVendor ++ (", idProduct=".toList ++ (idProduct ++ rest))))
  isSerialNumber : ∃ header, PlainHeader header ∧
    serialNumber.text = usbMessage header path (TextField.serialNumber.label ++ s)
  isStorage : ∃ header rest, PlainHeader header ∧
    storage.text = header ++ ("usb-storage ".toList ++ (path ++ (":1.0: ".toList ++ rest)))
  isDisconnect : ∃ header rest, PlainHeader header ∧
    disconnect.text = usbMessage header path ("USB disconnect, ".toList ++ rest)

namespace PathSession
variable {path s : CppString} (session : PathSession path s)

/-- The lines while the stick is plugged in. -/
def plugged : List LogLine :=
  [session.new, session.found, session.serialNumber, session.storage]

def lines : List LogLine := session.plugged ++ [session.disconnect]

end PathSession

def Kind.front : Kind → CppString
  | .storage => "usb-storage ".toList
  | _ => "usb ".toList

/-- The line mentions its path only, and matches no pattern but that of its kind. -/
structure ReadAlone (kind : Kind) (path : CppString) (line : LogLine) : Prop where
  mention : ∃ before after, cStr line.text = before ++ (kind.front ++ (path ++ ':' :: after)) ∧
    OnlyMention line kind.front before
  alone : ∀ other : Kind, (regexSearch line.text other.regex).isSome = true → other = kind

namespace ReadAlone
variable {kind : Kind} {path : CppString} {line : LogLine} (read : ReadAlone kind path line)
  (isPath : IsPath path)
include read

theorem search_none {other : Kind} (ne : other ≠ kind) :
    regexSearch line.text other.regex = none := by
  cases found : regexSearch line.text other.regex with
  | none => rfl
  | some w => exact absurd (read.alone other (by rw [found]; rfl)) ne

theorem newPort_none (other : kind ≠ .new) : newPort line = none := by
  have failed := read.search_none (Ne.symm other)
  rw [Kind.regex] at failed
  simp [newPort, failed]

theorem disconnects_false (other : kind ≠ .disconnect) : disconnects line = false := by
  have failed := read.search_none (Ne.symm other)
  rw [Kind.regex] at failed
  simp [disconnects, failed]

include isPath

theorem storagePort_eq : storagePort line = if kind = .storage then readPort path else none := by
  obtain ⟨before, after, text, only⟩ := read.mention
  rw [storagePort_path isPath text only]
  cases kind <;> rfl

theorem usbPort_eq : usbPort line = if kind = .storage then none else readPort path := by
  obtain ⟨before, after, text, only⟩ := read.mention
  rw [usbPort_path isPath text only]
  cases kind <;> rfl

end ReadAlone

namespace PathSession
variable {path s : CppString} (session : PathSession path s)

/-- Each line of the session is read as what it is: it mentions no other port,
matches no other pattern, and its serial number is not cut. -/
structure Unambiguous : Prop where
  new : ReadAlone .new path session.new
  found : ReadAlone .found path session.found
  serialNumber : ReadAlone .serialNumber path session.serialNumber
  storage : ReadAlone .storage path session.storage
  disconnect : ReadAlone .disconnect path session.disconnect
  uncut : ∀ c ∈ s, c ≠ '\n' ∧ c ≠ '\r' ∧ c ≠ '\x00'

/-- The serial number of the record that the new line opens, when it has heard the
lines up to its disconnect line; a record that was there before keeps what it had. -/
def LeavesSerial (interfaces : InterfacesMap) (port : CppString) : Prop :=
  match interfaces[port]? with
  | none => (lastRead (readOn readSerialNumber port) session.lines.tail).getD [] = s
  | some element =>
      (lastRead (readOn readSerialNumber port) session.lines).getD element.serialNumber = s

/-- The new line opens `port`, no line closes a record before the disconnect line
closes that of `port`, and the record has the serial of the session by then. -/
structure Attributable (interfaces : InterfacesMap) (port : CppString) : Prop where
  opens : opensPort session.new = some port
  free : ∀ element, interfaces[port]? = some element → element.isEmpty = true
  kept : ClosesNothing interfaces session.plugged
  closes : ClosesAfter interfaces session.plugged session.disconnect
  own : usbPort session.disconnect = some port
  serial : session.LeavesSerial interfaces port

/-- One connection time and one disconnection time more, both under the serial
of the session and taken from its lines: the disconnect line finds the record that
the new line opened, and no line before it moves a record into the map. -/
structure Recorded (before after : State) : Prop where
  others : ∀ serial, serial ≠ s → after.usbMap[serial]? = before.usbMap[serial]?
  times : ∃ entry, after.usbMap[s]? = some entry ∧
    entry.connectionTimes = (before.usbMap[s]?.getD {}).connectionTimes ++ [logTime session.new] ∧
    entry.disconnectionTimes =
      (before.usbMap[s]?.getD {}).disconnectionTimes ++ [logTime session.disconnect]
  own : ∃ port last closing, newPort session.new = some port ∧
    connectionAccepted session.new before = some true ∧
    readLines session.plugged before = some last ∧ last.usbMap = before.usbMap ∧
    Closes session.disconnect last closing ∧ closing.port = port

/-- What the map holds after one closing under the serial of the session. -/
theorem times_of_closing (usbMap : UsbMap) {closing : Closing}
    (serial : closing.record.serialNumber = s)
    (opened : closing.record.connectionTime = logTime session.new)
    (closed : closing.time = logTime session.disconnect) :
    (∀ other, other ≠ s → (recordClosing usbMap closing)[other]? = usbMap[other]?) ∧
      ∃ entry, (recordClosing usbMap closing)[s]? = some entry ∧
        entry.connectionTimes = (usbMap[s]?.getD {}).connectionTimes ++ [logTime session.new] ∧
        entry.disconnectionTimes =
          (usbMap[s]?.getD {}).disconnectionTimes ++ [logTime session.disconnect] := by
  unfold recordClosing
  constructor
  · intro other ne
    rw [serial, getElem?_alter_eq, if_neg (Ne.symm ne)]
  · refine ⟨closeInto closing usbMap[s]?, ?_, ?_⟩
    · rw [serial, getElem?_alter_eq, if_pos rfl]
    · rw [← opened, ← closed]
      cases usbMap[s]? <;> exact ⟨rfl, rfl⟩

/-- The closing of a recorded session is under its serial. -/
theorem serial_of_recorded {before after : State} {closing : Closing}
    (recorded : session.Recorded before after)
    (closed : after.usbMap = recordClosing before.usbMap closing) :
    closing.record.serialNumber = s := by
  obtain ⟨entry, here, connections, _⟩ := recorded.times
  by_contra other
  rw [closed, recordClosing, getElem?_alter_eq, if_neg other] at here
  rw [here, Option.getD_some] at connections
  have width := congrArg List.length connections
  rw [List.length_append, List.length_singleton] at width
  omega

theorem not_recorded_unchanged {before after : State} (unchanged : after.usbMap = before.usbMap) :
    ¬ session.Recorded before after := by
  intro recorded
  obtain ⟨entry, here, connections, _⟩ := recorded.times
  rw [unchanged] at here
  rw [here, Option.getD_some] at connections
  have width := congrArg List.length connections
  rw [List.length_append, List.length_singleton] at width
  omega

/-! ## The run of a session -/

section Opened
variable {port : CppString} {interfaces : InterfacesMap} (opens : opensPort session.new = some port)
  (free : ∀ element, interfaces[port]? = some element → element.isEmpty = true)
  (silent : runClosings session.plugged interfaces = [])
include opens free silent

/-- The record that the disconnect line finds, if it finds that of the port. -/
theorem closing_record {closing : Closing}
    (closes : closingOf session.disconnect (runInterfaces session.plugged interfaces) = some closing)
    (own : closing.port = port) :
    closing.record = session.lines.tail.foldl (heard port) (connected session.new
      (interfaces[port]?.map fun element => heard port element session.new)) := by
  obtain ⟨_, last, lastHere, _, image⟩ := closing_heard closes
  rw [plugged, runClosings, List.append_eq_nil_iff, Option.toList_eq_nil_iff] at silent
  have opened := step_unclosed silent.1 port
  rw [if_pos ⟨opens, any_live_eq_false free⟩] at opened
  have kept := open_run _ silent.2 opened (by rfl)
  rw [own] at lastHere image
  have same : some last = some _ := lastHere.symm.trans kept
  rw [Option.some.injEq] at same
  rw [image, same]
  rfl

theorem closing_fields {closing : Closing}
    (closes : closingOf session.disconnect (runInterfaces session.plugged interfaces) = some closing)
    (own : closing.port = port) :
    closing.record.connectionTime = logTime session.new ∧
      (closing.record.serialNumber = s ↔ session.LeavesSerial interfaces port) := by
  rw [session.closing_record opens free silent closes own, foldl_heard]
  refine ⟨rfl, ?_⟩
  unfold LeavesSerial
  cases interfaces[port]? with
  | none => rfl
  | some element =>
      have opened : (connected session.new (some (heard port element session.new))).serialNumber =
          (readOn readSerialNumber port session.new).getD element.serialNumber := by
        simp [connected, heard_eq]
      have whole : (lastRead (readOn readSerialNumber port) session.lines).getD
            element.serialNumber =
          (lastRead (readOn readSerialNumber port) session.lines.tail).getD
            ((readOn readSerialNumber port session.new).getD element.serialNumber) :=
        lastRead_cons _ session.new session.lines.tail _
      simp only [Option.map_some, opened, whole]

end Opened

theorem opens_of_accepted {line : LogLine} {port : CppString} {state : State}
    (accepted : connectionAccepted line state = some true) (new : newPort line = some port) :
    opensPort line = some port ∧
      ∀ element, state.usbInterfacesMap[port]? = some element → element.isEmpty = true := by
  rw [connectionAccepted_eq, Option.some.injEq, openedOn] at accepted
  have spec := effect_spec line state.usbInterfacesMap
  cases here : effect line state.usbInterfacesMap with
  | connect told opened =>
      rw [here] at spec
      cases spec with
      | connect storage usb new' _ =>
          rw [new, Option.some.injEq] at new'
          obtain ⟨opens, idle⟩ := connect_iff.mp ⟨told, here⟩
          rw [← new'] at opens idle
          refine ⟨opens, ?_⟩
          intro element present
          simpa [present] using idle
  | _ =>
      rw [here] at accepted
      cases accepted

theorem accepted_of_opens {line : LogLine} {port : CppString} {state : State}
    (opens : opensPort line = some port)
    (free : ∀ element, state.usbInterfacesMap[port]? = some element → element.isEmpty = true) :
    newPort line = some port ∧ connectionAccepted line state = some true := by
  obtain ⟨told, here⟩ := connect_iff.mpr ⟨opens, any_live_eq_false free⟩
  constructor
  · unfold opensPort at opens
    split at opens
    · exact opens
    · cases opens
  · rw [connectionAccepted_eq, openedOn, here]
    rfl

theorem recorded_iff {state after : State} (run : readLines session.lines state = some after) :
    session.Recorded state after ↔ ∃ port, session.Attributable state.usbInterfacesMap port := by
  have last := readLines_eq session.plugged state
  have closed : after.usbMap = (runClosings session.plugged state.usbInterfacesMap ++
      (closingOf session.disconnect (runInterfaces session.plugged state.usbInterfacesMap)).toList).foldl
        recordClosing state.usbMap := by
    rw [readLines_eq, Option.some.injEq] at run
    rw [← run, lines, runClosings_snoc]
  constructor
  · intro recorded
    obtain ⟨port, before, closing, new, accepted, until_, unchanged, closes, own⟩ := recorded.own
    rw [last, Option.some.injEq] at until_
    rw [← until_] at unchanged closes
    obtain ⟨opens, free⟩ := opens_of_accepted accepted new
    have silent := recordClosings_eq_self_iff.mp unchanged
    have nothing := runClosings_eq_nil_iff.mp silent
    have found := closes_iff.mp closes
    simp only at found
    rw [silent, found, List.nil_append] at closed
    have serial := session.serial_of_recorded recorded closed
    obtain ⟨_, leaves⟩ := session.closing_fields opens free silent found own
    refine ⟨port, opens, free, nothing, ?_, ?_, leaves.mp serial⟩
    · exact (standing_of_closesNothing nothing).closes_iff.mp (by rw [found]; rfl)
    · rw [← own]
      exact (closing_of_port found).1
  · intro attributable
    obtain ⟨port, opens, free, nothing, closes, own, leaves⟩ := attributable
    have silent := runClosings_eq_nil_iff.mpr nothing
    obtain ⟨closing, found⟩ :=
      Option.isSome_iff_exists.mp ((standing_of_closesNothing nothing).closes_iff.mpr closes)
    have samePort : closing.port = port := by
      have told := (closing_of_port found).1
      rw [own, Option.some.injEq] at told
      exact told.symm
    rw [silent, found, List.nil_append] at closed
    obtain ⟨time, serial⟩ := session.closing_fields opens free silent found samePort
    obtain ⟨new, accepted⟩ := accepted_of_opens opens free
    have appended := session.times_of_closing state.usbMap (serial.mpr leaves) time
      (closingOf_disconnect found).2
    rw [Option.toList_some, List.foldl_cons, List.foldl_nil] at closed
    rw [silent, List.foldl_nil] at last
    refine ⟨?_, ?_, port, _, closing, new, accepted, last, rfl, closes_iff.mpr found, samePort⟩
    · rw [closed]
      exact appended.1
    · rw [closed]
      exact appended.2

/-! ## Lines read as what they are -/

section Run
variable (isPath : IsPath path) (clear : session.Unambiguous)
include isPath

theorem disconnects_disconnect : disconnects session.disconnect = true := by
  obtain ⟨header, rest, plain, text⟩ := session.isDisconnect
  unfold disconnects
  rw [regexSearch_isSome_iff, text, cStr_usbMessage plain isPath.ofPath.noNul,
    cStr_front (by decide +kernel)]
  refine ⟨"USB disconnect".toList, ⟨header ++ ("usb ".toList ++ (path ++ ": ".toList)),
    ", ".toList ++ cStr rest, ?_⟩, (Regex.matches_literal_iff _ _).mpr rfl⟩
  simp [usbMessage]

include clear

theorem newPort_new : newPort session.new = if readPort path = some path then some path else none := by
  obtain ⟨before, after, mention, only⟩ := clear.new.mention
  have usb := clear.new.usbPort_eq isPath
  rw [if_neg (by simp)] at usb
  by_cases own : readPort path = some path
  · rw [if_pos own]
    have isPort : IsPort path := by
      rw [own] at usb
      exact (usbPort_some usb).1
    cases new : newPort session.new with
    | some port => rw [newPort_path isPath mention only new]
    | none =>
        exfalso
        obtain ⟨header, rest, plain, text⟩ := session.isNew
        refine portOf_none matches_newUsbRegex_iff new path ⟨isPort, header, ' ' :: cStr rest, ?_⟩
        rw [text, cStr_usbMessage plain isPath.ofPath.noNul, cStr_front (by decide)]
        simp [usbMessage]
  · rw [if_neg own]
    cases new : newPort session.new with
    | none => rfl
    | some port =>
        have same := newPort_path isPath mention only new
        have named := (newPort_some new).usb
        cases read : readPort path with
        | none =>
            rw [read] at usb
            exact absurd named (usbPort_none usb port)
        | some other =>
            have ne : other ≠ path := fun here => own (by rw [read, here])
            rw [newPort_none_of_path isPath mention only read ne] at new
            cases new

theorem read_serialNumber : readSerialNumber session.serialNumber = some s := by
  obtain ⟨header, plain, text⟩ := session.isSerialNumber
  have terminators : ∀ c ∈ s, c ≠ '\n' ∧ c ≠ '\r' := fun c member =>
    ⟨(clear.uncut c member).1, (clear.uncut c member).2.1⟩
  have ids : regexSearch session.serialNumber.text idVendorAndIdProductRegex = none :=
    clear.serialNumber.search_none (by simp : Kind.found ≠ .serialNumber)
  have foremost : Foremost .serialNumber s session.serialNumber := by
    refine ⟨fun member => (clear.uncut _ member).2.2 rfl, ?_⟩
    intro regex known
    rw [List.mem_singleton.mp known]
    exact ids
  exact (read_descriptor plain isPath.ofPath terminators text).mpr foremost

/-- Only the serial number line gives the serial number. -/
theorem leavesSerial (own : readPort path = some path) (interfaces : InterfacesMap) :
    session.LeavesSerial interfaces path := by
  have here : readOn readSerialNumber path session.serialNumber = some s := by
    have storage := clear.serialNumber.storagePort_eq isPath
    have usb := clear.serialNumber.usbPort_eq isPath
    rw [if_neg (by simp)] at storage usb
    rw [readOn, if_pos ⟨storage, usb.trans own⟩, session.read_serialNumber isPath clear]
  have silent : ∀ {kind : Kind} {line : LogLine}, ReadAlone kind path line →
      kind ≠ .serialNumber → readOn readSerialNumber path line = none := by
    intro kind line read other
    have failed : regexSearch line.text serialNumberRegex = none :=
      read.search_none (Ne.symm other)
    simp [readOn, readSerialNumber, announcedSerialNumber, announcedText, failed]
  have found := silent clear.found (by simp)
  have storage := silent clear.storage (by simp)
  have last := silent clear.disconnect (by simp)
  have new := silent clear.new (by simp)
  unfold LeavesSerial
  split <;> simp [lastRead, lines, plugged, new, found, here, storage, last]

/-- For a session of a path without a session open. -/
theorem attributable_iff {interfaces : InterfacesMap}
    (idle : ∀ element, interfaces[path]? = some element → element.isEmpty = true) :
    (∃ port, session.Attributable interfaces port) ↔ readPort path = some path := by
  have newStorage := clear.new.storagePort_eq isPath
  rw [if_neg (by simp)] at newStorage
  have new := session.newPort_new isPath clear
  have lastUsb := clear.disconnect.usbPort_eq isPath
  rw [if_neg (by simp)] at lastUsb
  constructor
  · intro attributable
    obtain ⟨port, opens, _⟩ := attributable
    rw [opensPort, if_pos newStorage, new] at opens
    by_contra other
    rw [if_neg other] at opens
    cases opens
  · intro own
    rw [if_pos own] at new
    rw [own] at lastUsb
    have opens : opensPort session.new = some path := by rw [opensPort, if_pos newStorage, new]
    have opened : ∀ lines, OpenedIn (session.new :: lines) path := fun lines =>
      ⟨session.new, by simp, opens⟩
    have flags : storagePort session.storage = some path := by
      rw [clear.storage.storagePort_eq isPath, if_pos rfl, own]
    refine ⟨path, opens, idle, ?_, ⟨?_, ?_, ⟨path, lastUsb, ?_, ?_⟩, ?_⟩, lastUsb, ?_⟩
    · apply closesNothing_of_quiet
      simp [plugged, clear.new.disconnects_false, clear.found.disconnects_false,
        clear.serialNumber.disconnects_false, clear.storage.disconnects_false]
    · rw [clear.disconnect.storagePort_eq isPath, if_neg (by simp)]
    · exact session.disconnects_disconnect isPath
    · exact .inr (opened _)
    · exact .inr ⟨[session.new, session.found, session.serialNumber], session.storage, [], rfl, flags,
        .inr (opened _)⟩
    · intro other new'
      rw [clear.disconnect.newPort_none (by simp)] at new'
      cases new'
    · exact session.leavesSerial isPath clear own interfaces

end Run

end PathSession

/-- A session on any path, in every state in which no session of the path is open. -/
theorem path_session_recorded {path s : CppString} (isPath : IsPath path)
    (session : PathSession path s) {state : State}
    (idle : ∀ element, state.usbInterfacesMap[path]? = some element → element.isEmpty = true) :
    ∃ after, readLines session.lines state = some after ∧
      (session.Recorded state after ↔
        ∃ port, session.Attributable state.usbInterfacesMap port) ∧
      (session.Unambiguous →
        ((∃ port, session.Attributable state.usbInterfacesMap port) ↔ readPort path = some path)) :=
  ⟨_, readLines_eq session.lines state, session.recorded_iff (readLines_eq session.lines state),
    fun clear => session.attributable_iff isPath clear idle⟩

/-! ## Sticks on the first and on the tenth port of a bus -/

theorem datedHeader_plain : PlainHeader "Jan 1 09:00:01 ".toList := by
  refine ⟨by decide, ?_⟩
  intro regex known
  simp only [handlerRegexes, List.mem_cons, List.not_mem_nil, or_false] at known
  rcases known with rfl | rfl | rfl | rfl | rfl | rfl | rfl | rfl | rfl | rfl <;> decide +kernel

theorem stickNumbers : IsNumber "1921".toList ∧ IsNumber "21".toList := by
  simp [IsNumber, isDigit]

def stickFoundText : CppString :=
  "New USB device found, idVendor=".toList ++
    ("1921".toList ++ (", idProduct=".toList ++ ("21".toList ++ [])))

def stickOn (path : CppString) : PathSession path "A7".toList where
  new := { text := usbMessage "Jan 1 09:00:01 ".toList path "new USB device".toList }
  found := { text := usbMessage [] path stickFoundText }
  serialNumber := { text := usbMessage [] path (TextField.serialNumber.label ++ "A7".toList) }
  storage := { text := "usb-storage ".toList ++ (path ++ (":1.0: ".toList ++ [])) }
  disconnect :=
    { text := usbMessage "Jan 1 09:00:01 ".toList path
        ("USB disconnect, ".toList ++ "device number 5".toList) }
  isNew := ⟨_, "USB device".toList, datedHeader_plain, rfl⟩
  isFound := ⟨_, _, _, _, noHeader_plain, stickNumbers.1, stickNumbers.2, rfl⟩
  isSerialNumber := ⟨_, noHeader_plain, rfl⟩
  isStorage := ⟨[], [], noHeader_plain, rfl⟩
  isDisconnect := ⟨_, _, datedHeader_plain, rfl⟩

theorem firstPath_isPath : IsPath "1-1".toList :=
  ⟨"1".toList, "1".toList, [], by simp [IsNumber, isDigit], by simp [IsNumber, isDigit], by simp,
    by decide⟩

theorem tenthPath_isPath : IsPath "1-10".toList :=
  ⟨"1".toList, "10".toList, [], by simp [IsNumber, isDigit], by simp [IsNumber, isDigit], by simp,
    by decide⟩

theorem freshSystem_idle {path : CppString} (element : UsbInterface)
    (present : (∅ : InterfacesMap)[path]? = some element) : element.isEmpty = true := by
  cases present

theorem firstSession_unambiguous : (stickOn "1-1".toList).Unambiguous where
  new := ⟨⟨"Jan 1 09:00:01 ".toList, " new USB device".toList, by decide +kernel,
    onlyMention_of_starts (by decide +kernel) (by decide +kernel)⟩, by decide +kernel⟩
  found := ⟨⟨[], ' ' :: stickFoundText, by decide +kernel,
    onlyMention_of_starts (by decide +kernel) (by decide +kernel)⟩, by decide +kernel⟩
  serialNumber := ⟨⟨[], " SerialNumber: A7".toList, by decide +kernel,
    onlyMention_of_starts (by decide +kernel) (by decide +kernel)⟩, by decide +kernel⟩
  storage := ⟨⟨[], "1.0: ".toList, by decide +kernel,
    onlyMention_of_starts (by decide +kernel) (by decide +kernel)⟩, by decide +kernel⟩
  disconnect := ⟨⟨"Jan 1 09:00:01 ".toList, " USB disconnect, device number 5".toList,
    by decide +kernel, onlyMention_of_starts (by decide +kernel) (by decide +kernel)⟩,
    by decide +kernel⟩
  uncut := by simp

/-- On a fresh system the session on the first port is recorded. -/
theorem firstSession_recorded :
    (∃ port, (stickOn "1-1".toList).Attributable ∅ port) ∧
      ∃ after, readLines (stickOn "1-1".toList).lines {} = some after ∧
        (stickOn "1-1".toList).Recorded {} after := by
  obtain ⟨after, run, recorded, attributable⟩ :=
    @path_session_recorded _ _ firstPath_isPath (stickOn "1-1".toList) {} freshSystem_idle
  have meets := (attributable firstSession_unambiguous).mpr (by decide)
  exact ⟨meets, after, run, recorded.mpr meets⟩

/-- On a fresh system the session on the tenth port is not recorded at all. -/
theorem tenthSession_lost :
    IsPath "1-10".toList ∧
      (∀ element : UsbInterface, (∅ : InterfacesMap)["1-10".toList]? = some element →
        element.isEmpty = true) ∧
      ∃ after, readLines (stickOn "1-10".toList).lines {} = some after ∧ after.usbMap = ∅ ∧
        ¬ (stickOn "1-10".toList).Recorded {} after := by
  have silent : runClosings (stickOn "1-10".toList).lines ∅ = [] := by decide +kernel
  have unchanged : (runClosings (stickOn "1-10".toList).lines ∅).foldl recordClosing
      (∅ : UsbMap) = ∅ := by
    rw [silent, List.foldl_nil]
  have loop := readLines_eq (stickOn "1-10".toList).lines {}
  rw [unchanged] at loop
  exact ⟨tenthPath_isPath, freshSystem_idle, _, loop, rfl,
    (stickOn "1-10".toList).not_recorded_unchanged rfl⟩

end StoringDevices
