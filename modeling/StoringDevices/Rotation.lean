import StoringDevices.EmptyRecords
import StoringDevices.Rewriting

/-! # A log in pieces

Where a log is cut with every port record back at its initial value, what follows
is read as if it stood alone, provided it describes no port before it opens it.
A port record that was initialised then stands for one that is not there. -/
set_option autoImplicit false

namespace StoringDevices

open Std (ExtTreeMap)

/-! ## Initialised records and missing ones -/

/-- The line flags the port, or announces data for it. -/
def Describes (line : LogLine) (port : CppString) : Prop :=
  storagePort line = some port ∨
    storagePort line = none ∧ usbPort line = some port ∧ AnnouncesData line

instance (line : LogLine) (port : CppString) : Decidable (Describes line port) :=
  inferInstanceAs (Decidable (_ ∨ _ ∧ _ ∧ _))

/-- The records are those of `alone`, but for ports that `alone` does not have. -/
def InitialBeside (interfaces alone : InterfacesMap) : Prop :=
  ∀ port : CppString, interfaces[port]? = alone[port]? ∨
    interfaces[port]? = some initializeUsbInterface ∧ alone[port]? = none

/-- Every record is as initialised. -/
def Quiescent (log : List LogLine) : Prop :=
  ∀ (port : CppString) (record : UsbInterface), (loopInterfaces log)[port]? = some record →
    record = initializeUsbInterface

/-- No line describes a port that the lines before it have not opened. -/
def OpensFirst (log : List LogLine) : Prop :=
  ∀ before line after, log = before ++ line :: after →
    ∀ port : CppString, Describes line port → (loopInterfaces before)[port]? ≠ none

section OneLine
variable {line : LogLine} {interfaces alone : InterfacesMap}
  (beside : InitialBeside interfaces alone)

include beside

theorem InitialBeside.all_isEmpty (port : CppString) :
    interfaces[port]?.all UsbInterface.isEmpty = alone[port]?.all UsbInterface.isEmpty := by
  rcases beside port with same | ⟨initial, absent⟩
  · rw [same]
  · rw [initial, absent]
    rfl

theorem InitialBeside.filter_open (port : CppString) :
    interfaces[port]?.filter UsbInterface.isOpenStorage =
      alone[port]?.filter UsbInterface.isOpenStorage := by
  rcases beside port with same | ⟨initial, absent⟩
  · rw [same]
  · rw [initial, absent]
    rfl

/-- An announcement for a port that `alone` has. -/
theorem InitialBeside.told {port : CppString}
    (known : AnnouncesData line → alone[port]? ≠ none) :
    InitialBeside (informed line port interfaces) (informed line port alone) := by
  intro k
  rw [informed_getElem?, informed_getElem?]
  by_cases own : port = k
  · subst own
    rw [if_pos rfl, if_pos rfl]
    rcases beside port with same | ⟨initial, absent⟩
    · exact .inl (by rw [same])
    · have plain : announce line initializeUsbInterface = initializeUsbInterface := by
        by_contra announces
        exact known (announce_initial_iff.mp announces) absent
      exact .inr ⟨by rw [initial, Option.map_some, plain], by rw [absent, Option.map_none]⟩
  · rw [if_neg own, if_neg own]
    exact beside k

variable (known : ∀ port, Describes line port → alone[port]? ≠ none)
include known

theorem InitialBeside.effect_eq : effect line interfaces = effect line alone := by
  cases storage : storagePort line with
  | some port => rw [effect_flag storage, effect_flag storage]
  | none =>
      cases usb : usbPort line with
      | none => rw [effect_ignore storage usb, effect_ignore storage usb]
      | some port =>
          have told := @InitialBeside.told line interfaces alone beside port
            fun announces => known port (.inr ⟨storage, usb, announces⟩)
          have accepted : acceptedPort line (informed line port interfaces) =
              acceptedPort line (informed line port alone) := by
            unfold acceptedPort
            congr 1
            funext opened
            exact told.all_isEmpty opened
          have closed : closedRecord line (informed line port interfaces) port =
              closedRecord line (informed line port alone) port := by
            unfold closedRecord
            rw [told.filter_open port]
          unfold effect
          simp only [storage, usb, accepted, closed]

theorem InitialBeside.step :
    InitialBeside (stepInterfaces line interfaces) (stepInterfaces line alone) := by
  have same := beside.effect_eq known
  have spec := effect_spec line alone
  intro k
  unfold stepInterfaces
  rw [same]
  cases here : effect line alone with
  | ignore => exact beside k
  | flag port =>
      rw [here] at spec
      cases spec with
      | flag storage =>
          rw [apply_flag_getElem?, apply_flag_getElem?]
          by_cases own : port = k
          · subst own
            rw [if_pos rfl, if_pos rfl]
            rcases beside port with equal | ⟨_, absent⟩
            · exact .inl (by rw [equal])
            · exact absurd absent (known port (.inl storage))
          · rw [if_neg own, if_neg own]
            exact beside k
  | inform port =>
      rw [here] at spec
      cases spec with
      | inform storage usb _ _ =>
          exact beside.told (fun announces => known port (.inr ⟨storage, usb, announces⟩)) k
  | connect port opened =>
      rw [here] at spec
      cases spec with
      | connect storage usb _ _ =>
          have told := beside.told fun announces => known port (.inr ⟨storage, usb, announces⟩)
          rw [apply_connect_getElem?, apply_connect_getElem?]
          by_cases own : opened = k
          · subst own
            rw [if_pos rfl, if_pos rfl]
            rcases told opened with equal | ⟨initial, absent⟩
            · exact .inl (by rw [equal])
            · exact .inl (by rw [initial, absent]; rfl)
          · rw [if_neg own, if_neg own]
            exact told k
  | disconnect port record =>
      rw [apply_disconnect_getElem?, apply_disconnect_getElem?]
      by_cases own : port = k
      · rw [if_pos own, if_pos own]
        exact .inl rfl
      · rw [if_neg own, if_neg own]
        exact beside k

theorem InitialBeside.closing_eq : closingOf line interfaces = closingOf line alone := by
  unfold closingOf
  rw [beside.effect_eq known]

end OneLine

/-! ## What follows a cut -/

/-- The closings are the same, and the records are again those beside initialised
ones; by induction on the lines, with those already read by `alone`. -/
theorem run_beside :
    ∀ (log before : List LogLine) (interfaces : InterfacesMap), OpensFirst (before ++ log) →
      InitialBeside interfaces (loopInterfaces before) →
      InitialBeside (runInterfaces log interfaces) (loopInterfaces (before ++ log)) ∧
        runClosings log interfaces = runClosings log (loopInterfaces before) := by
  intro log
  induction log with
  | nil =>
      intro before interfaces _ beside
      rw [List.append_nil]
      exact ⟨beside, rfl⟩
  | cons line log ih =>
      intro before interfaces opensFirst beside
      have known := opensFirst before line log rfl
      have split : before ++ line :: log = (before ++ [line]) ++ log := by simp
      rw [split] at opensFirst ⊢
      have next : InitialBeside (stepInterfaces line interfaces) (loopInterfaces (before ++ [line])) := by
        rw [loopInterfaces_snoc]
        exact beside.step known
      obtain ⟨records, closings⟩ := ih (before ++ [line]) _ opensFirst next
      refine ⟨records, ?_⟩
      rw [loopInterfaces_snoc] at closings
      rw [runClosings, runClosings, closings, beside.closing_eq known]

theorem openRecords_beside {interfaces alone : InterfacesMap}
    (beside : InitialBeside interfaces alone) : openRecords interfaces = openRecords alone := by
  apply Keyed.sorted_ext (openRecords_sorted interfaces) (openRecords_sorted alone)
  intro slot
  rw [mem_openRecords, mem_openRecords]
  rcases beside slot.1 with same | ⟨initial, absent⟩
  · rw [same]
  · rw [initial, absent, Option.some.injEq]
    constructor
    · rintro ⟨own, live⟩
      rw [← own] at live
      cases live
    · rintro ⟨own, _⟩
      cases own

section Cut
variable {log : List LogLine} (quiescent : Quiescent log)
include quiescent

theorem Quiescent.beside_empty : InitialBeside (loopInterfaces log) (loopInterfaces []) := by
  intro port
  have empty : (loopInterfaces [])[port]? = none := ExtTreeMap.getElem?_empty
  cases here : (loopInterfaces log)[port]? with
  | none => exact .inl empty.symm
  | some record => exact .inr ⟨by rw [quiescent port record here], empty⟩

variable {more : List LogLine} (opensFirst : OpensFirst more)
include opensFirst

/-- The sessions of what follows are closed as they are on their own. -/
theorem Quiescent.closings_append :
    loopClosings (log ++ more) = loopClosings log ++ loopClosings more := by
  obtain ⟨_, closings⟩ := run_beside more [] _ opensFirst quiescent.beside_empty
  unfold loopClosings
  rw [runClosings_append]
  exact congrArg _ closings

theorem Quiescent.interfaces_append :
    InitialBeside (loopInterfaces (log ++ more)) (loopInterfaces more) := by
  obtain ⟨records, _⟩ := run_beside more [] _ opensFirst quiescent.beside_empty
  unfold loopInterfaces at records ⊢
  rw [runInterfaces_append]
  exact records

theorem Quiescent.openRecords_append :
    openRecords (loopInterfaces (log ++ more)) = openRecords (loopInterfaces more) :=
  openRecords_beside (quiescent.interfaces_append opensFirst)

end Cut

/-! ## A session of one port -/

theorem portNext_some (line : LogLine) (record : UsbInterface) :
    portNext line (some record) ≠ none := by
  unfold portNext
  split
  · simp
  · split
    · simp
    · split <;> simp

theorem localRun_some :
    ∀ (word : List LogLine) (record : UsbInterface),
      portMachine.localRun (some record) word ≠ none := by
  intro word
  induction word with
  | nil => intro record; exact Option.some_ne_none record
  | cons line word ih =>
      intro record
      obtain ⟨next, here⟩ := Option.ne_none_iff_exists'.mp (portNext_some line record)
      have unfolded : portMachine.localRun (some record) (line :: word) =
          portMachine.localRun (portNext line (some record)) word := rfl
      rw [unfolded, here]
      exact ih next

/-- A session begins with the line that opens its port. -/
theorem opensFirst_of_port {port : CppString} {first : LogLine} {rest : List LogLine}
    (new : IsLine .new port first) (lines : ∀ line ∈ rest, ∃ kind, IsLine kind port line) :
    OpensFirst (first :: rest) := by
  intro before line after split told describes
  cases before with
  | nil =>
      rw [List.nil_append, List.cons.injEq] at split
      obtain ⟨rfl, _⟩ := split
      exfalso
      rcases describes with storage | ⟨_, _, announces⟩
      · rw [new.storagePort_eq, if_neg (by simp)] at storage
        cases storage
      · exact announce_initial_iff.mpr announces (new.announce_id (.inl rfl) initializeUsbInterface)
  | cons opening before =>
      rw [List.cons_append, List.cons.injEq] at split
      obtain ⟨rfl, rfl⟩ := split
      obtain ⟨kind, isLine⟩ := lines line (by simp)
      have own : told = port := by
        rcases describes with storage | ⟨storage, usb, _⟩
        · rw [isLine.storagePort_eq] at storage
          split at storage
          · exact (Option.some.inj storage).symm
          · cases storage
        · have key := isLine.linePort_eq
          unfold linePort at key
          rw [storage] at key
          exact Option.some.inj (usb.symm.trans key)
      have word : ∀ line ∈ first :: before, ∃ kind, IsLine kind port line := by
        intro other member
        rcases List.mem_cons.mp member with rfl | member
        · exact ⟨_, new⟩
        · exact lines other (by simp [member])
      have records := (run_of_port (first :: before) word ∅).1 port
      rw [if_pos rfl, ExtTreeMap.getElem?_empty] at records
      unfold loopInterfaces
      rw [own, records]
      have opened : portMachine.localRun none (first :: before) =
          portMachine.localRun (some (connected first none)) before := by
        have unfolded : portMachine.localRun none (first :: before) =
            portMachine.localRun (portNext first none) before := rfl
        rw [unfolded, new.portNext_new]
        rfl
      rw [opened]
      exact localRun_some before _

/-! ## Reading on from a report -/

/-- The reader started with a report in place of an empty `usb_map`. -/
def resume (usbMap : UsbMap) (more : List LogLine) : Option UsbMap := do
  let state ← readLines more { usbMap := usbMap }
  let state ← saveInterfacesInfoInUSBsMap state
  some state.usbMap

theorem resume_eq (usbMap : UsbMap) (more : List LogLine) :
    resume usbMap more =
      some (flusher.run ((loopClosings more).foldl recordClosing usbMap)
        (openRecords (loopInterfaces more))) := by
  unfold resume
  rw [readLines_eq, Option.bind_eq_bind, Option.bind_some]
  obtain ⟨interfaces, flush⟩ := saveInterfacesInfoInUSBsMap_usbMap
    ⟨loopInterfaces more, (loopClosings more).foldl recordClosing usbMap⟩
  unfold loopInterfaces loopClosings at flush ⊢
  rw [flush]
  rfl

section Reports
variable {log : List LogLine} (quiescent : Quiescent log)
include quiescent

theorem Quiescent.openRecords_nil : openRecords (loopInterfaces log) = [] := by
  rw [List.eq_nil_iff_forall_not_mem]
  intro slot member
  obtain ⟨present, live⟩ := mem_openRecords.mp member
  rw [quiescent slot.1 slot.2 present] at live
  cases live

theorem Quiescent.finalUsbMap_eq : finalUsbMap log = loopUsbMap log := by
  unfold finalUsbMap
  rw [quiescent.openRecords_nil]
  rfl

theorem Quiescent.append {more : List LogLine} (opensFirst : OpensFirst more)
    (quiescent' : Quiescent more) : Quiescent (log ++ more) := by
  intro port record present
  rcases quiescent.interfaces_append opensFirst port with same | ⟨initial, _⟩
  · rw [same] at present
    exact quiescent' port record present
  · rw [initial, Option.some.injEq] at present
    exact present.symm

theorem Quiescent.getUSBsInfo_append {more : List LogLine} (opensFirst : OpensFirst more) :
    getUSBsInfo (log ++ more) = resume (finalUsbMap log) more := by
  rw [getUSBsInfo_eq, resume_eq, quiescent.finalUsbMap_eq]
  unfold finalUsbMap loopUsbMap
  rw [quiescent.openRecords_append opensFirst, quiescent.closings_append opensFirst,
    List.foldl_append]

end Reports

theorem quiescent_nil : Quiescent [] := by
  intro port record present
  have empty : (loopInterfaces [])[port]? = none := ExtTreeMap.getElem?_empty
  rw [empty] at present
  cases present

theorem foldlM_resume :
    ∀ (pieces : List (List LogLine)) (log last : List LogLine), Quiescent log →
      (∀ piece ∈ pieces, Quiescent piece ∧ OpensFirst piece) → OpensFirst last →
      getUSBsInfo (log ++ (pieces.flatten ++ last)) =
        (pieces ++ [last]).foldlM resume (finalUsbMap log) := by
  intro pieces
  induction pieces with
  | nil =>
      intro log last quiescent _ opensFirst
      rw [List.flatten_nil, List.nil_append, List.nil_append, List.foldlM_cons,
        quiescent.getUSBsInfo_append opensFirst]
      cases resume (finalUsbMap log) last <;> rfl
  | cons piece pieces ih =>
      intro log last quiescent each opensLast
      obtain ⟨quiescent', opensFirst⟩ := each piece (by simp)
      have rest := ih (log ++ piece) last (quiescent.append opensFirst quiescent')
        (fun other member => each other (List.mem_cons_of_mem _ member)) opensLast
      have here : resume (finalUsbMap log) piece = some (finalUsbMap (log ++ piece)) := by
        rw [← quiescent.getUSBsInfo_append opensFirst, getUSBsInfo_eq]
      rw [List.flatten_cons, List.cons_append, List.foldlM_cons, here, List.append_assoc,
        ← List.append_assoc log, rest]
      rfl

/-- A log cut where every record is as initialised is read piece by piece, each
from the report of the pieces before it. -/
theorem getUSBsInfo_of_pieces (pieces : List (List LogLine)) (last : List LogLine)
    (quiescent : ∀ piece ∈ pieces, Quiescent piece)
    (opensFirst : ∀ piece ∈ pieces ++ [last], OpensFirst piece) :
    getUSBsInfo (pieces.flatten ++ last) = (pieces ++ [last]).foldlM resume ∅ := by
  have each : ∀ piece ∈ pieces, Quiescent piece ∧ OpensFirst piece := fun piece member =>
    ⟨quiescent piece member, opensFirst piece (List.mem_append_left _ member)⟩
  have start : finalUsbMap [] = ∅ := by
    rw [quiescent_nil.finalUsbMap_eq]
    rfl
  rw [← start]
  exact foldlM_resume pieces [] last quiescent_nil each (opensFirst last (by simp))

def disconnectLine : LogLine := { text := "usb 1-1: USB disconnect".toList }

/-- A stick plugged in and pulled out. -/
def stickSession : List LogLine := [newLine, storageLine, disconnectLine]

theorem stickSession_piece : Quiescent stickSession ∧ OpensFirst stickSession := by
  have kinds : IsLine .new "1-1".toList newLine ∧ IsLine .storage "1-1".toList storageLine ∧
      IsLine .disconnect "1-1".toList disconnectLine := by
    decide +kernel
  obtain ⟨new, storage, disconnect⟩ := kinds
  have lines : ∀ line ∈ [storageLine, disconnectLine], ∃ kind, IsLine kind "1-1".toList line := by
    intro line member
    simp only [List.mem_cons, List.not_mem_nil, or_false] at member
    rcases member with rfl | rfl
    · exact ⟨_, storage⟩
    · exact ⟨_, disconnect⟩
  refine ⟨?_, opensFirst_of_port new lines⟩
  intro port record present
  have word : ∀ line ∈ stickSession, ∃ kind, IsLine kind "1-1".toList line := by
    intro line member
    rcases List.mem_cons.mp member with rfl | member
    · exact ⟨_, new⟩
    · exact lines line member
  have records := (run_of_port stickSession word ∅).1 port
  have initial : portMachine.localRun none stickSession = some initializeUsbInterface := by
    decide +kernel
  rw [ExtTreeMap.getElem?_empty, initial] at records
  unfold loopInterfaces at present
  rw [records] at present
  split at present
  · exact (Option.some.inj present).symm
  · cases present

theorem stick_sessions_read_on :
    getUSBsInfo ([stickSession, stickSession].flatten ++ stickSession) =
      ([stickSession, stickSession] ++ [stickSession]).foldlM resume ∅ :=
  getUSBsInfo_of_pieces [stickSession, stickSession] stickSession
    (by simp [stickSession_piece.1]) (by simp [stickSession_piece.2])

/-! ## Reports made on their own -/

/-- The entry of a serial in two reports, the earlier one first. -/
def joinEntries : Option UsbInfo → Option UsbInfo → Option UsbInfo
  | none, later => later
  | some earlier, none => some earlier
  | some earlier, some later =>
      some
        { earlier with
          connectionTimes := earlier.connectionTimes ++ later.connectionTimes
          disconnectionTimes := earlier.disconnectionTimes ++ later.disconnectionTimes }

theorem closedEntry_append (closings closings' : List Closing) :
    closedEntry (closings ++ closings') = joinEntries (closedEntry closings) (closedEntry closings') := by
  cases closings with
  | nil => rfl
  | cons first closings =>
      cases closings' with
      | nil => simp [closedEntry, joinEntries]
      | cons first' closings' => simp [closedEntry, joinEntries]

theorem Quiescent.entry_append {log more : List LogLine} (quiescent : Quiescent log)
    (opensFirst : OpensFirst more) (quiescent' : Quiescent more) (serial : CppString) :
    (finalUsbMap (log ++ more))[serial]? =
      joinEntries (finalUsbMap log)[serial]? (finalUsbMap more)[serial]? := by
  rw [(quiescent.append opensFirst quiescent').finalUsbMap_eq, quiescent.finalUsbMap_eq,
    quiescent'.finalUsbMap_eq]
  unfold loopUsbMap
  rw [usbMap_getElem?, usbMap_getElem?, usbMap_getElem?, quiescent.closings_append opensFirst,
    ← closedEntry_append]
  unfold closingsOf
  rw [List.filter_append]

theorem foldl_joinEntries :
    ∀ (pieces : List (List LogLine)) (log : List LogLine), Quiescent log →
      (∀ piece ∈ pieces, Quiescent piece ∧ OpensFirst piece) → ∀ serial : CppString,
      (finalUsbMap (log ++ pieces.flatten))[serial]? =
        (pieces.map fun piece => (finalUsbMap piece)[serial]?).foldl joinEntries
          (finalUsbMap log)[serial]? := by
  intro pieces
  induction pieces with
  | nil =>
      intro log _ _ serial
      rw [List.flatten_nil, List.append_nil]
      rfl
  | cons piece pieces ih =>
      intro log quiescent each serial
      obtain ⟨quiescent', opensFirst⟩ := each piece (by simp)
      rw [List.flatten_cons, ← List.append_assoc,
        ih (log ++ piece) (quiescent.append opensFirst quiescent')
          (fun other member => each other (List.mem_cons_of_mem _ member)) serial,
        quiescent.entry_append opensFirst quiescent' serial]
      rfl

theorem mapM_getUSBsInfo (pieces : List (List LogLine)) :
    pieces.mapM getUSBsInfo = some (pieces.map finalUsbMap) := by
  induction pieces with
  | nil => rfl
  | cons piece pieces ih =>
      rw [List.mapM_cons, getUSBsInfo_eq, ih]
      rfl

/-- Reports of the pieces made on their own join to the report of the log. -/
theorem reports_of_pieces_join (pieces : List (List LogLine))
    (each : ∀ piece ∈ pieces, Quiescent piece ∧ OpensFirst piece) :
    ∃ final reports, getUSBsInfo pieces.flatten = some final ∧
      pieces.mapM getUSBsInfo = some reports ∧
      ∀ serial : CppString, final[serial]? =
        (reports.map fun report => report[serial]?).foldl joinEntries none := by
  refine ⟨_, _, getUSBsInfo_eq pieces.flatten, mapM_getUSBsInfo pieces, ?_⟩
  intro serial
  have joined := foldl_joinEntries pieces [] quiescent_nil each serial
  have none_ : (finalUsbMap [])[serial]? = none := by
    rw [quiescent_nil.finalUsbMap_eq]
    exact ExtTreeMap.getElem?_empty
  rw [none_, List.nil_append] at joined
  rw [joined, List.map_map]
  rfl

theorem stick_session_reports_join :
    ∃ final reports, getUSBsInfo [stickSession, stickSession].flatten = some final ∧
      [stickSession, stickSession].mapM getUSBsInfo = some reports ∧
      ∀ serial : CppString, final[serial]? =
        (reports.map fun report => report[serial]?).foldl joinEntries none :=
  reports_of_pieces_join [stickSession, stickSession] (by simp [stickSession_piece])

end StoringDevices
