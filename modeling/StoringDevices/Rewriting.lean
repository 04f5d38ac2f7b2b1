import StoringDevices.Kinds
import StoringDevices.Lib.Transducer

/-! # Logs that read the same

Two logs are read the same when one becomes the other by dropping lines that say
nothing, exchanging neighbouring lines of different ports or of different fields
of one port, and dropping a line that the line before or after it makes void. -/
set_option autoImplicit false

namespace StoringDevices

open Transducer (Same Rewrites)

/-- The line loop, emitting its closings. -/
def reader : Transducer.Machine InterfacesMap LogLine Closing where
  next := stepInterfaces
  emit := closingOf

theorem reader_run (log : List LogLine) (interfaces : InterfacesMap) :
    reader.run log interfaces = runInterfaces log interfaces := rfl

theorem reader_outputs :
    ∀ (log : List LogLine) (interfaces : InterfacesMap),
      reader.outputs log interfaces = runClosings log interfaces := by
  intro log
  induction log with
  | nil => intro interfaces; rfl
  | cons line log ih =>
      intro interfaces
      have rest := ih (stepInterfaces line interfaces)
      rw [runClosings, ← rest]
      rfl

/-! ## The rules -/

/-- The kinds of the lines between a connection and a disconnection. -/
def Kind.isBody (kind : Kind) : Bool := kind ≠ .new && kind ≠ .disconnect

/-- Each side leaves the records and the closings as the other does. -/
inductive LineRule : List LogLine → List LogLine → Prop where
  /-- A line that matches no pattern. -/
  | silent {line : LogLine} : Silent line → LineRule [line] []
  /-- Lines of two ports, unless both disconnect. -/
  | ports {line line' : LogLine} {kind kind' : Kind} {port port' : CppString} :
      IsLine kind port line → IsLine kind' port' line' → port ≠ port' →
      (kind ≠ .disconnect ∨ kind' ≠ .disconnect) → LineRule [line, line'] [line', line]
  /-- Lines about two fields of a port. -/
  | fields {line line' : LogLine} {kind kind' : Kind} {port : CppString} :
      IsLine kind port line → IsLine kind' port line' → kind ≠ kind' →
      kind.isBody = true → kind'.isBody = true → LineRule [line, line'] [line', line]
  /-- The later of two lines about a field counts. -/
  | overwritten {line line' : LogLine} {kind : Kind} {port : CppString} :
      IsLine kind port line → IsLine kind port line' → kind.isBody = true →
      LineRule [line, line'] [line']
  /-- The earlier of two connections, or of two disconnections, counts. -/
  | repeated {line line' : LogLine} {kind : Kind} {port : CppString} :
      IsLine kind port line → IsLine kind port line' → kind.isBody = false →
      LineRule [line, line'] [line]

/-! ## What a line of one kind stores -/

/-- The record after a line of a body kind. -/
def Kind.store (kind : Kind) (line : LogLine) (element : UsbInterface) : UsbInterface :=
  match kind with
  | .storage => flagged element
  | .found =>
      { element with
        idVendor := (parsedIdVendor line).getD line.unsetVendor
        idProduct := (parsedIdProduct line).getD line.unsetProduct }
  | .serialNumber => { element with serialNumber := (announcedSerialNumber line).getD [] }
  | .product => { element with productName := (announcedProductName line).getD [] }
  | .manufacturer => { element with manufacturer := (announcedManufacturer line).getD [] }
  | .new => element
  | .disconnect => element

theorem IsLine.announced {kind : Kind} {port : CppString} {line : LogLine}
    (isLine : IsLine kind port line) (width : Nat) :
    announcedText line kind.regex width =
      some ((announcedText line kind.regex width).getD []) := by
  obtain ⟨found, here⟩ := Option.isSome_iff_exists.mp ((isLine.matched kind).mpr rfl)
  unfold announcedText
  rw [here]
  rfl

theorem IsLine.heard_store {kind : Kind} {port : CppString} {line : LogLine}
    (isLine : IsLine kind port line) (body : kind.isBody = true) (element : UsbInterface) :
    heard port element line = kind.store line element := by
  have storage := isLine.storagePort_eq
  unfold heard
  cases kind with
  | new => cases body
  | disconnect => cases body
  | storage =>
      rw [if_pos rfl] at storage
      simp [storage, Kind.store]
  | found =>
      rw [if_neg (by simp)] at storage
      have ids : describesIds line = true := isLine.describesIds_iff.mpr rfl
      simp [storage, isLine.usbPort_eq (by simp), announce, ids, Kind.store]
  | serialNumber =>
      rw [if_neg (by simp)] at storage
      have ids : describesIds line = false := by
        rw [Bool.eq_false_iff, Ne, isLine.describesIds_iff]
        simp
      have own : announcedSerialNumber line = some ((announcedSerialNumber line).getD []) :=
        isLine.announced _
      rw [storage, isLine.usbPort_eq (by simp)]
      unfold announce
      rw [own]
      simp [ids, Kind.store]
  | product =>
      rw [if_neg (by simp)] at storage
      have ids : describesIds line = false := by
        rw [Bool.eq_false_iff, Ne, isLine.describesIds_iff]
        simp
      have own : announcedProductName line = some ((announcedProductName line).getD []) :=
        isLine.announced _
      rw [storage, isLine.usbPort_eq (by simp)]
      unfold announce
      rw [isLine.announcedSerialNumber_eq_none (by simp), own]
      simp [ids, Kind.store]
  | manufacturer =>
      rw [if_neg (by simp)] at storage
      have ids : describesIds line = false := by
        rw [Bool.eq_false_iff, Ne, isLine.describesIds_iff]
        simp
      have own : announcedManufacturer line = some ((announcedManufacturer line).getD []) :=
        isLine.announced _
      rw [storage, isLine.usbPort_eq (by simp)]
      unfold announce
      rw [isLine.announcedSerialNumber_eq_none (by simp),
        isLine.announcedProductName_eq_none (by simp), own]
      simp [ids, Kind.store]

/-- Two fields are stored in either order. -/
theorem Kind.store_comm {kind kind' : Kind} (other : kind ≠ kind') (line line' : LogLine)
    (element : UsbInterface) :
    kind'.store line' (kind.store line element) = kind.store line (kind'.store line' element) := by
  cases kind <;> cases kind' <;> first | rfl | exact absurd rfl other

/-- A field keeps what was stored last. -/
theorem Kind.store_store (kind : Kind) (line line' : LogLine) (element : UsbInterface) :
    kind.store line' (kind.store line element) = kind.store line' element := by
  cases kind <;> rfl

/-! ## Lines of one port -/

section OneLine
variable {kind : Kind} {port : CppString} {line : LogLine} (isLine : IsLine kind port line)
  (interfaces : InterfacesMap)
include isLine

theorem IsLine.step_getElem? (k : CppString) :
    (stepInterfaces line interfaces)[k]? =
      if port = k then portNext line interfaces[k]? else interfaces[k]? := by
  rw [stepInterfaces_single isLine.singlePort]
  by_cases own : port = k
  · subst own
    rw [if_pos rfl]
    exact Keyed.step_getElem?_self portMachine interfaces isLine.linePort_eq
  · rw [if_neg own]
    apply Keyed.step_getElem?_other portMachine interfaces
    intro same
    exact own (Option.some.inj (isLine.linePort_eq.symm.trans same))

theorem IsLine.closingOf_eq : closingOf line interfaces = portEmit line interfaces[port]? := by
  rw [closingOf_single isLine.singlePort, isLine.linePort_eq]

end OneLine

/-- Lines of one port are run on its record. -/
theorem run_of_port {port : CppString} :
    ∀ (word : List LogLine), (∀ line ∈ word, ∃ kind, IsLine kind port line) →
      ∀ interfaces : InterfacesMap,
        (∀ k, (runInterfaces word interfaces)[k]? =
          if port = k then portMachine.localRun interfaces[k]? word else interfaces[k]?) ∧
        runClosings word interfaces = portMachine.localOutputs word interfaces[port]? := by
  intro word
  induction word with
  | nil =>
      intro _ interfaces
      refine ⟨fun k => ?_, rfl⟩
      by_cases own : port = k
      · rw [if_pos own]
        rfl
      · rw [if_neg own]
        rfl
  | cons line word ih =>
      intro lines interfaces
      obtain ⟨kind, isLine⟩ := lines line (by simp)
      obtain ⟨records, closings⟩ := ih (fun other member => lines other (by simp [member]))
        (stepInterfaces line interfaces)
      have unfolded : runInterfaces (line :: word) interfaces =
          runInterfaces word (stepInterfaces line interfaces) := rfl
      constructor
      · intro k
        rw [unfolded, records k, isLine.step_getElem?]
        by_cases own : port = k
        · rw [if_pos own, if_pos own, if_pos own]
          rfl
        · rw [if_neg own, if_neg own, if_neg own]
      · rw [runClosings, closings, isLine.closingOf_eq, isLine.step_getElem?, if_pos rfl]
        rfl

/-- Two words about one port are the same when they are so on its record. -/
theorem same_of_port {port : CppString} {left right : List LogLine}
    (lines : ∀ line ∈ left ++ right, ∃ kind, IsLine kind port line)
    (records : ∀ old, portMachine.localRun old left = portMachine.localRun old right)
    (closings : ∀ old, portMachine.localOutputs left old = portMachine.localOutputs right old) :
    Same reader left right := by
  have runs := run_of_port left fun line member => lines line (List.mem_append_left _ member)
  have runs' := run_of_port right fun line member => lines line (List.mem_append_right _ member)
  constructor
  · intro interfaces
    apply Std.ExtTreeMap.ext_getElem?
    intro k
    rw [reader_run, reader_run, (runs interfaces).1 k, (runs' interfaces).1 k, records]
  · intro interfaces
    rw [reader_outputs, reader_outputs, (runs interfaces).2, (runs' interfaces).2, closings]

theorem localRun_pair (line line' : LogLine) (old : Option UsbInterface) :
    portMachine.localRun old [line, line'] = portNext line' (portNext line old) := rfl

theorem localRun_single (line : LogLine) (old : Option UsbInterface) :
    portMachine.localRun old [line] = portNext line old := rfl

theorem localOutputs_pair (line line' : LogLine) (old : Option UsbInterface) :
    portMachine.localOutputs [line, line'] old =
      (portEmit line old).toList ++ (portEmit line' (portNext line old)).toList := by
  simp [Keyed.Machine.localOutputs, portMachine]

theorem localOutputs_single (line : LogLine) (old : Option UsbInterface) :
    portMachine.localOutputs [line] old = (portEmit line old).toList := by
  simp [Keyed.Machine.localOutputs, portMachine]

theorem Kind.isBody_iff {kind : Kind} : kind.isBody = true ↔ kind ≠ .new ∧ kind ≠ .disconnect := by
  unfold Kind.isBody
  simp

theorem IsLine.portNext_store {kind : Kind} {port : CppString} {line : LogLine}
    (isLine : IsLine kind port line) (body : kind.isBody = true) (old : Option UsbInterface) :
    portNext line old = old.map (kind.store line) := by
  rw [isLine.portNext_heard (Kind.isBody_iff.mp body)]
  congr 1
  funext element
  exact isLine.heard_store body element

/-! ## Each rule keeps what is read -/

theorem same_of_silent {line : LogLine} (silent : Silent line) : Same reader [line] [] := by
  constructor
  · intro interfaces
    exact silent.stepInterfaces_eq interfaces
  · intro interfaces
    rw [reader_outputs, reader_outputs]
    change (closingOf line interfaces).toList ++ [] = []
    rw [silent.closingOf_eq]
    rfl

theorem same_of_fields {kind kind' : Kind} {port : CppString} {line line' : LogLine}
    (isLine : IsLine kind port line) (isLine' : IsLine kind' port line') (other : kind ≠ kind')
    (body : kind.isBody = true) (body' : kind'.isBody = true) :
    Same reader [line, line'] [line', line] := by
  apply same_of_port
  · intro l member
    simp only [List.mem_append, List.mem_cons, List.not_mem_nil, or_false] at member
    rcases member with (rfl | rfl) | (rfl | rfl)
    · exact ⟨kind, isLine⟩
    · exact ⟨kind', isLine'⟩
    · exact ⟨kind', isLine'⟩
    · exact ⟨kind, isLine⟩
  · intro old
    rw [localRun_pair, localRun_pair, isLine.portNext_store body, isLine'.portNext_store body',
      isLine.portNext_store body, isLine'.portNext_store body', Option.map_map, Option.map_map]
    congr 1
    funext element
    exact Kind.store_comm other line line' element
  · intro old
    have quiet := isLine.portEmit_none (Kind.isBody_iff.mp body).2
    have quiet' := isLine'.portEmit_none (Kind.isBody_iff.mp body').2
    simp [localOutputs_pair, quiet, quiet']

theorem same_of_overwritten {kind : Kind} {port : CppString} {line line' : LogLine}
    (isLine : IsLine kind port line) (isLine' : IsLine kind port line')
    (body : kind.isBody = true) : Same reader [line, line'] [line'] := by
  apply same_of_port
  · intro l member
    simp only [List.mem_append, List.mem_cons, List.not_mem_nil, or_false] at member
    rcases member with (rfl | rfl) | rfl
    · exact ⟨kind, isLine⟩
    · exact ⟨kind, isLine'⟩
    · exact ⟨kind, isLine'⟩
  · intro old
    rw [localRun_pair, localRun_single, isLine.portNext_store body, isLine'.portNext_store body,
      isLine'.portNext_store body, Option.map_map]
    congr 1
    funext element
    exact Kind.store_store kind line line' element
  · intro old
    have quiet := isLine.portEmit_none (Kind.isBody_iff.mp body).2
    have quiet' := isLine'.portEmit_none (Kind.isBody_iff.mp body).2
    simp [localOutputs_pair, localOutputs_single, quiet, quiet']

/-- The second connection finds the record taken, and the second disconnection
finds it closed. -/
theorem same_of_repeated {kind : Kind} {port : CppString} {line line' : LogLine}
    (isLine : IsLine kind port line) (isLine' : IsLine kind port line')
    (outer : kind.isBody = false) : Same reader [line, line'] [line] := by
  apply same_of_port
  · intro l member
    simp only [List.mem_append, List.mem_cons, List.not_mem_nil, or_false] at member
    rcases member with (rfl | rfl) | rfl
    · exact ⟨kind, isLine⟩
    · exact ⟨kind, isLine'⟩
    · exact ⟨kind, isLine⟩
  · intro old
    rw [localRun_pair, localRun_single]
    cases kind with
    | new =>
        rw [isLine.portNext_new, isLine'.portNext_new]
        by_cases free : old.all UsbInterface.isEmpty
        · have taken : (some (connected line old)).all UsbInterface.isEmpty = false := by
            cases old <;> rfl
          rw [if_pos free, taken]
          rfl
        · rw [if_neg free, if_neg free]
    | disconnect =>
        rw [isLine.portNext_disconnect, isLine'.portNext_disconnect]
        by_cases live : old.any UsbInterface.isOpenStorage
        · rw [if_pos live]
          rfl
        · rw [if_neg live, if_neg live]
    | _ => cases outer
  · intro old
    rw [localOutputs_pair, localOutputs_single]
    cases kind with
    | new =>
        have quiet := isLine'.portEmit_none (by simp)
        rw [quiet]
        simp
    | disconnect =>
        have closed : (portNext line old).filter UsbInterface.isOpenStorage = none := by
          rw [isLine.portNext_disconnect]
          by_cases live : old.any UsbInterface.isOpenStorage
          · rw [if_pos live]
            rfl
          · rw [if_neg live]
            cases old with
            | none => rfl
            | some element => simpa [Option.filter_some] using live
        rw [isLine'.portEmit_disconnect, closed]
        simp
    | _ => cases outer

theorem same_of_ports {kind kind' : Kind} {port port' : CppString} {line line' : LogLine}
    (isLine : IsLine kind port line) (isLine' : IsLine kind' port' line') (apart : port ≠ port')
    (quiet : kind ≠ .disconnect ∨ kind' ≠ .disconnect) :
    Same reader [line, line'] [line', line] := by
  constructor
  · intro interfaces
    apply Std.ExtTreeMap.ext_getElem?
    intro k
    change (stepInterfaces line' (stepInterfaces line interfaces))[k]? =
      (stepInterfaces line (stepInterfaces line' interfaces))[k]?
    rw [isLine'.step_getElem?, isLine.step_getElem?, isLine.step_getElem?, isLine'.step_getElem?]
    by_cases own : port = k
    · have other : port' ≠ k := fun same => apart (own.trans same.symm)
      rw [if_pos own, if_neg other, if_pos own, if_neg other]
    · rw [if_neg own, if_neg own]
  · intro interfaces
    rw [reader_outputs, reader_outputs]
    simp only [runClosings, List.append_nil]
    rw [isLine'.closingOf_eq, isLine.closingOf_eq, isLine.closingOf_eq, isLine'.closingOf_eq,
      isLine.step_getElem?, isLine'.step_getElem?, if_neg apart, if_neg (Ne.symm apart)]
    rcases quiet with quiet | quiet
    · rw [isLine.portEmit_none quiet]
      simp
    · rw [isLine'.portEmit_none quiet]
      simp

theorem LineRule.same {left right : List LogLine} (rule : LineRule left right) :
    Same reader left right := by
  cases rule with
  | silent silent => exact same_of_silent silent
  | ports isLine isLine' apart quiet => exact same_of_ports isLine isLine' apart quiet
  | fields isLine isLine' other body body' => exact same_of_fields isLine isLine' other body body'
  | overwritten isLine isLine' body => exact same_of_overwritten isLine isLine' body
  | repeated isLine isLine' outer => exact same_of_repeated isLine isLine' outer

/-! ## Rewritten logs -/

/-- A log and what it becomes by the rules are read the same, whatever follows. -/
theorem getUSBsInfo_of_rewriting {log log' : List LogLine}
    (rewriting : Relation.EqvGen (Rewrites LineRule) log log') (more : List LogLine) :
    getUSBsInfo (log ++ more) = getUSBsInfo (log' ++ more) := by
  have same : Same reader (log ++ more) (log' ++ more) :=
    (Same.of_rewriting (fun _ _ => LineRule.same) rewriting).append (Same.refl more)
  have interfaces : loopInterfaces (log ++ more) = loopInterfaces (log' ++ more) := same.run ∅
  have closings : loopClosings (log ++ more) = loopClosings (log' ++ more) := by
    have outputs := same.outputs ∅
    rw [reader_outputs, reader_outputs] at outputs
    exact outputs
  rw [getUSBsInfo_eq, getUSBsInfo_eq]
  unfold finalUsbMap loopUsbMap
  rw [interfaces, closings]

def newLine : LogLine := { text := "usb 1-1: new".toList }

def storageLine : LogLine := { text := "usb-storage 1-1:1.0".toList }

def serialLine : LogLine := { text := "usb 1-1: SerialNumber: A".toList }

/-- The connection line written twice, and the two lines about the device in the
other order. -/
theorem relayed_stick_read_same :
    getUSBsInfo ([newLine, newLine, serialLine, storageLine] ++ []) =
      getUSBsInfo ([newLine, storageLine, serialLine] ++ []) := by
  have kinds : IsLine .new "1-1".toList newLine ∧ IsLine .storage "1-1".toList storageLine ∧
      IsLine .serialNumber "1-1".toList serialLine := by
    decide +kernel
  obtain ⟨new, storage, serial⟩ := kinds
  have dropped : Rewrites LineRule [newLine, newLine, serialLine, storageLine]
      [newLine, serialLine, storageLine] :=
    .inside [] [serialLine, storageLine] (LineRule.repeated new new rfl)
  have exchanged : Rewrites LineRule [newLine, serialLine, storageLine]
      [newLine, storageLine, serialLine] :=
    .inside [newLine] [] (LineRule.fields serial storage (by decide) rfl rfl)
  exact getUSBsInfo_of_rewriting
    (.trans _ _ _ (.rel _ _ dropped) (.rel _ _ exchanged)) []

end StoringDevices
