import Mathlib.Data.List.TakeWhile
import StoringDevices.Conservation
import StoringDevices.Kinds

/-! # Growth of the report

The final map reports a serial when `usb_map` holds it at the end of the loop,
or a non-empty storage record does.  A line can only make a serial disappear by
announcing another one for an open storage record that holds its only trace. -/
set_option autoImplicit false

namespace StoringDevices

open Std (ExtTreeMap)

/-! ## What the flush reports -/

theorem mem_flusher_run (usbMap : UsbMap) (slots : List (CppString × UsbInterface))
    (serial : CppString) :
    serial ∈ flusher.run usbMap slots ↔
      serial ∈ usbMap ∨
        ∃ slot ∈ slots, slot.2.isStorageDevice = true ∧ slot.2.serialNumber = serial := by
  rw [ExtTreeMap.mem_iff_isSome_getElem?, ExtTreeMap.mem_iff_isSome_getElem?,
    Option.isSome_iff_ne_none, Option.isSome_iff_ne_none, flusher_getElem?, Ne, flushEntry_eq_none]
  cases known : usbMap[serial]? with
  | some entry => simp
  | none =>
      have dropped : keptOf none ((recordsOf serial slots).map Prod.snd) = [] ↔
          ∀ slot ∈ slots, slot.2.serialNumber = serial → slot.2.isStorageDevice = false := by
        unfold keptOf
        rw [List.dropWhile_eq_nil_iff]
        constructor
        · intro all slot member own
          have inside := List.mem_map_of_mem (f := Prod.snd) (mem_recordsOf.mpr ⟨member, own⟩)
          simpa using all slot.2 inside
        · intro all element member
          obtain ⟨slot, inside, rfl⟩ := List.mem_map.mp member
          obtain ⟨here, own⟩ := mem_recordsOf.mp inside
          simpa using all slot here own
      simp only [true_and, dropped, ne_eq, not_true_eq_false, false_or]
      constructor
      · intro some_
        by_contra nobody
        apply some_
        intro slot member own
        cases storage : slot.2.isStorageDevice with
        | false => rfl
        | true => exact absurd ⟨slot, member, storage, own⟩ nobody
      · intro h all
        obtain ⟨slot, member, storage, own⟩ := h
        rw [all slot member own] at storage
        cases storage

/-- The flush of the state reports the serial. -/
def Reports (state : State) (serial : CppString) : Prop :=
  serial ∈ state.usbMap ∨ ∃ (port : CppString) (element : UsbInterface),
    state.usbInterfacesMap[port]? = some element ∧ element.isOpenStorage = true ∧
    element.serialNumber = serial

theorem reports_iff {log : List LogLine} {serial : CppString} :
    serial ∈ finalUsbMap log ↔ Reports ⟨loopInterfaces log, loopUsbMap log⟩ serial := by
  unfold finalUsbMap Reports
  rw [mem_flusher_run]
  simp only
  constructor
  · intro h
    rcases h with known | ⟨slot, member, storage, own⟩
    · exact .inl known
    · obtain ⟨present, live⟩ := mem_openRecords.mp member
      exact .inr ⟨slot.1, slot.2, present, isOpenStorage_iff.mpr ⟨live, storage⟩, own⟩
  · intro h
    rcases h with known | ⟨port, element, present, live, own⟩
    · exact .inl known
    · obtain ⟨notEmpty, storage⟩ := isOpenStorage_iff.mp live
      exact .inr ⟨(port, element), mem_openRecords.mpr ⟨present, notEmpty⟩, storage, own⟩

/-! ## The line that loses a serial -/

/-- The line announces another serial for the open storage record of its port,
and no entry and no other storage record, open or opened by the line, holds the
old one. -/
structure Forgets (line : LogLine) (state : State) (serial : CppString) : Prop where
  unrecorded : serial ∉ state.usbMap
  replaced : ∃ (port : CppString) (element : UsbInterface) (new : CppString),
    state.usbInterfacesMap[port]? = some element ∧
    element.isOpenStorage = true ∧ element.serialNumber = serial ∧
    storagePort line = none ∧ usbPort line = some port ∧
    readSerialNumber line = some new ∧ new ≠ serial ∧
    ∀ (other : CppString) (element' : UsbInterface), other ≠ port → state.usbInterfacesMap[other]? = some element' →
      element'.isStorageDevice = true → element'.serialNumber = serial →
        element'.isEmpty = true ∧ newPort line ≠ some other

/-- The state after a line. -/
def stepState (line : LogLine) (state : State) : State where
  usbInterfacesMap := stepInterfaces line state.usbInterfacesMap
  usbMap :=
    match closingOf line state.usbInterfacesMap with
    | some closing => recordClosing state.usbMap closing
    | none => state.usbMap

theorem mem_stepState (line : LogLine) (state : State) (serial : CppString) :
    serial ∈ (stepState line state).usbMap ↔ serial ∈ state.usbMap ∨
      ∃ closing, closingOf line state.usbInterfacesMap = some closing ∧
        closing.record.serialNumber = serial := by
  unfold stepState
  cases closes : closingOf line state.usbInterfacesMap with
  | none => simp
  | some closing =>
      simp only
      rw [ExtTreeMap.mem_iff_isSome_getElem?, ExtTreeMap.mem_iff_isSome_getElem?, recordClosing,
        getElem?_alter_eq]
      by_cases own : closing.record.serialNumber = serial
      · simp [own]
      · simp [own]

/-- A record does not hear a line about another port. -/
theorem heard_other {line : LogLine} {port other : CppString} (storage : storagePort line = none)
    (usb : usbPort line = some port) (ne : other ≠ port) (element : UsbInterface) :
    heard other element line = element := by
  unfold heard
  rw [storage, usb]
  simp [Ne.symm ne]

theorem heard_isOpenStorage {element : UsbInterface} (live : element.isOpenStorage = true)
    (port : CppString) (line : LogLine) : (heard port element line).isOpenStorage = true := by
  obtain ⟨notEmpty, storage⟩ := isOpenStorage_iff.mp live
  rw [isOpenStorage_iff, heard_isEmpty, heard_eq]
  exact ⟨notEmpty, by rw [storage, Bool.true_or]⟩

/-- A line that opens `other` while its own record is open. -/
theorem opens_other {line : LogLine} {interfaces : InterfacesMap} {port other : CppString}
    {element : UsbInterface} (storage : storagePort line = none) (usb : usbPort line = some port)
    (ne : other ≠ port) (new : newPort line = some other)
    (present : interfaces[other]? = some element) (empty : element.isEmpty = true) :
    (stepInterfaces line interfaces)[other]? = some (connected line (some element)) := by
  have free : (informed line port interfaces)[other]?.all UsbInterface.isEmpty = true := by
    rw [informed_all_isEmpty, present, Option.all_some, empty]
  have accepted := acceptedPort_of_free new free
  rw [step_opened (effect_connect storage usb accepted), present, Option.map_some, heard_other storage usb ne]

theorem lost_forgets {line : LogLine} {state : State} {serial : CppString}
    (before : Reports state serial) (after : ¬ Reports (stepState line state) serial) :
    Forgets line state serial := by
  have unrecorded : serial ∉ state.usbMap := by
    intro known
    exact after (.inl ((mem_stepState line state serial).mpr (.inl known)))
  rcases before with known | ⟨port, element, present, live, own⟩
  · exact absurd known unrecorded
  · obtain ⟨notEmpty, _⟩ := isOpenStorage_iff.mp live
    have changed : (heard port element line).serialNumber ≠ serial := by
      intro same
      rcases step_open present notEmpty with ⟨closes, _⟩ | kept
      · exact after (.inl ((mem_stepState line state serial).mpr (.inr ⟨_, closes, same⟩)))
      · exact after (.inr ⟨port, _, kept, heard_isOpenStorage live port line, same⟩)
    rw [heard_eq] at changed
    simp only at changed
    cases read : readOn readSerialNumber port line with
    | none =>
        rw [read, Option.getD_none] at changed
        exact absurd own changed
    | some new =>
        rw [read, Option.getD_some] at changed
        unfold readOn at read
        split at read
        · next here =>
            obtain ⟨storage, usb⟩ := here
            refine ⟨unrecorded, port, element, new, present, live, own, storage, usb, read,
              changed, ?_⟩
            intro other element' ne present' storage' own'
            have still := heard_other storage usb ne element'
            have empty : element'.isEmpty = true := by
              by_contra notEmpty'
              have open' : element'.isEmpty = false := by simpa using notEmpty'
              rcases step_open present' open' with ⟨closes, _⟩ | kept
              · have closedOwn : (heard other element' line).serialNumber = serial := by
                  rw [still, own']
                exact after (.inl ((mem_stepState line state serial).mpr
                  (.inr ⟨_, closes, closedOwn⟩)))
              · rw [still] at kept
                exact after (.inr ⟨other, element', kept,
                  isOpenStorage_iff.mpr ⟨open', storage'⟩, own'⟩)
            refine ⟨empty, ?_⟩
            intro opens
            have opened := opens_other storage usb ne opens present' empty
            exact after (.inr ⟨other, _, opened,
              isOpenStorage_iff.mpr ⟨rfl, storage'⟩, own'⟩)
        · cases read

theorem forgets_lost {line : LogLine} {state : State} {serial : CppString}
    (forgets : Forgets line state serial) :
    Reports state serial ∧ ¬ Reports (stepState line state) serial := by
  obtain ⟨unrecorded, port, element, new, present, live, own, storage, usb, read, changed,
    others⟩ := forgets
  obtain ⟨notEmpty, _⟩ := isOpenStorage_iff.mp live
  have heardSerial : (heard port element line).serialNumber = new := by
    rw [heard_eq]
    simp [readOn, storage, usb, read]
  refine ⟨.inr ⟨port, element, present, live, own⟩, ?_⟩
  intro reported
  rcases reported with known | ⟨other, element', present', live', own'⟩
  · rcases (mem_stepState line state serial).mp known with known | ⟨closing, closes, same⟩
    · exact unrecorded known
    · -- only the record of the line's own port can be closed
      obtain ⟨here, _⟩ := closingOf_disconnect closes
      have spec := effect_spec line state.usbInterfacesMap
      rw [here] at spec
      cases spec with
      | disconnect _ usb' _ _ _ _ =>
          have samePort : closing.port = port := Option.some.inj (usb'.symm.trans usb)
          obtain ⟨_, element'', present'', _, image⟩ := closing_heard closes
          rw [samePort, present, Option.some.injEq] at present''
          rw [image, samePort, ← present'', heardSerial] at same
          exact changed same
  · obtain ⟨notEmpty', storage'⟩ := isOpenStorage_iff.mp live'
    have after : (stepInterfaces line state.usbInterfacesMap)[other]? = some element' := present'
    by_cases here : other = port
    · subst here
      rcases step_open present notEmpty with ⟨_, closed⟩ | kept
      · rw [closed] at after
        cases after
        cases notEmpty'
      · rw [kept, Option.some.injEq] at after
        rw [← after, heardSerial] at own'
        exact changed own'
    · have still : state.usbInterfacesMap[other]?.map (fun e => heard other e line) =
          state.usbInterfacesMap[other]? := by
        cases state.usbInterfacesMap[other]? with
        | none => rfl
        | some e => rw [Option.map_some, heard_other storage usb here]
      by_cases opens : ∃ told, effect line state.usbInterfacesMap = .connect told other
      · obtain ⟨told, connects⟩ := opens
        have spec := effect_spec line state.usbInterfacesMap
        rw [connects] at spec
        cases spec with
        | connect _ _ new' _ =>
            rw [step_opened connects, still, Option.some.injEq] at after
            cases old : state.usbInterfacesMap[other]? with
            | none =>
                rw [old] at after
                rw [← after] at storage'
                cases storage'
            | some e =>
                rw [old] at after
                rw [← after] at storage' own'
                exact (others other e here old storage' own').2 new'
      · have unopened : ∀ told, effect line state.usbInterfacesMap ≠ .connect told other :=
          fun told connects => opens ⟨told, connects⟩
        rcases step_unopened unopened with ⟨_, _, closed⟩ | kept
        · rw [closed] at after
          cases after
          cases notEmpty'
        · rw [kept, still] at after
          have empty := (others other element' here after storage' own').1
          rw [empty] at notEmpty'
          cases notEmpty'

/-! ## Runs -/

theorem loopState_snoc (log : List LogLine) (line : LogLine) :
    (⟨loopInterfaces (log ++ [line]), loopUsbMap (log ++ [line])⟩ : State) =
      stepState line ⟨loopInterfaces log, loopUsbMap log⟩ := by
  have loop := readLines_log (log ++ [line])
  unfold readLines at loop
  rw [List.foldlM_append] at loop
  have before := readLines_log log
  unfold readLines at before
  rw [before] at loop
  simp only [Option.bind_eq_bind, Option.bind_some, List.foldlM_cons, List.foldlM_nil,
    processLine_eq] at loop
  exact (Option.some.inj loop).symm

theorem reports_append {log : List LogLine} {serial : CppString} :
    ∀ rest : List LogLine,
      (∀ before line, before ++ [line] <+: rest →
        ¬ Forgets line ⟨loopInterfaces (log ++ before), loopUsbMap (log ++ before)⟩ serial) →
      Reports ⟨loopInterfaces log, loopUsbMap log⟩ serial →
      Reports ⟨loopInterfaces (log ++ rest), loopUsbMap (log ++ rest)⟩ serial := by
  intro rest
  induction rest using List.reverseRecOn with
  | nil =>
      intro _ reported
      rw [List.append_nil]
      exact reported
  | append_singleton rest line ih =>
      intro kept reported
      have earlier := ih (fun before other inside => kept before other
        (inside.trans (List.prefix_append rest [line]))) reported
      have last := kept rest line (List.prefix_refl _)
      rw [← List.append_assoc, loopState_snoc]
      by_contra lost
      exact last (lost_forgets earlier lost)

/-- Over the extension of a log by `rest`, no serial disappears between any two
points exactly when no line of `rest` forgets one. -/
theorem reports_grow_iff (log rest : List LogLine) :
    (∀ before after, before <+: after → after <+: rest →
      ∃ final final', getUSBsInfo (log ++ before) = some final ∧
        getUSBsInfo (log ++ after) = some final' ∧ ∀ serial, serial ∈ final → serial ∈ final') ↔
    ∀ before line state serial, before ++ [line] <+: rest →
      readLines (log ++ before) {} = some state → ¬ Forgets line state serial := by
  constructor
  · intro grows before line state serial inside loop forgets
    rw [readLines_log, Option.some.injEq] at loop
    rw [← loop] at forgets
    obtain ⟨reported, lost⟩ := forgets_lost forgets
    obtain ⟨final, final', result, result', keys⟩ :=
      grows before (before ++ [line]) (List.prefix_append before [line]) inside
    rw [getUSBsInfo_eq, Option.some.injEq] at result result'
    rw [← loopState_snoc] at lost
    apply lost
    rw [← reports_iff, List.append_assoc, result']
    apply keys
    rw [← result, reports_iff]
    exact reported
  · intro kept before after inside within
    refine ⟨_, _, getUSBsInfo_eq _, getUSBsInfo_eq _, ?_⟩
    intro serial reported
    obtain ⟨extension, rfl⟩ := inside
    rw [reports_iff] at reported ⊢
    rw [← List.append_assoc]
    apply reports_append extension _ reported
    intro before' line inside'
    have position : (before ++ before') ++ [line] <+: rest := by
      rw [List.append_assoc]
      exact (List.prefix_append_right_inj before |>.mpr inside').trans within
    have loop := readLines_log (log ++ (before ++ before'))
    rw [← List.append_assoc] at loop
    exact kept (before ++ before') line _ serial position
      (by rw [← List.append_assoc]; exact loop)

/-! A stick is plugged in when the machine is powered off; the next one on its
port takes over the record. -/

/-- The line announces a serial number for the port. -/
def SaysSerial (line : LogLine) (port : CppString) : Prop :=
  NamesUsb line port ∧ (announcedSerialNumber line).isSome = true

instance (line : LogLine) (port : CppString) : Decidable (SaysSerial line port) :=
  inferInstanceAs (Decidable (_ ∧ _))

/-- On each port, after a serial-number or a usb-storage line a connection line
comes before the next serial-number line. -/
def SerialsInSession (log : List LogLine) : Prop :=
  ∀ (i j : Nat) (port : CppString) (line line' : LogLine), i < j → log[i]? = some line →
    log[j]? = some line' → SaysSerial line' port → SaysSerial line port ∨ NamesStorage line port →
      ∃ k opener, i < k ∧ k < j ∧ log[k]? = some opener ∧ NamesNew opener port

def beforePowerOff : List LogLine :=
  [{ text := "usb 1-1: new".toList }, { text := "usb 1-1: SerialNumber: A".toList },
    { text := "usb-storage 1-1:1.0".toList }]

def afterPowerOn : List LogLine :=
  [{ text := "usb 1-1: new".toList }, { text := "usb 1-1: SerialNumber: B".toList }]

theorem powered_off_stick_disappears :
    SerialsInSession (beforePowerOff ++ afterPowerOn) ∧
      ∃ final final', getUSBsInfo beforePowerOff = some final ∧
        getUSBsInfo (beforePowerOff ++ afterPowerOn) = some final' ∧
        ¬ ∀ serial, serial ∈ final → serial ∈ final' := by
  have checked : ∀ j ∈ List.range 5, ∀ line' ∈ (beforePowerOff ++ afterPowerOn)[j]?,
      ∀ port ∈ mentions line', SaysSerial line' port → ∀ i ∈ List.range j,
        ∀ line ∈ (beforePowerOff ++ afterPowerOn)[i]?, SaysSerial line port ∨ NamesStorage line port →
          ∃ k ∈ List.range j, i < k ∧
            ∃ opener ∈ (beforePowerOff ++ afterPowerOn)[k]?, NamesNew opener port := by
    decide +kernel
  refine ⟨?_, _, _, getUSBsInfo_eq _, getUSBsInfo_eq _, ?_⟩
  · intro i j port line line' earlier here here' told before
    have inside := (List.getElem?_eq_some_iff.mp here').1
    obtain ⟨k, within, after, opener, found, new⟩ := checked j (List.mem_range.mpr inside) line' here'
      port (mem_mentions.mpr (.inl told.1)) told i (List.mem_range.mpr earlier) line here before
    exact ⟨k, opener, after, List.mem_range.mp within, found, new⟩
  · intro grows
    have known : "A".toList ∈ finalUsbMap beforePowerOff := by decide +kernel
    exact absurd (grows _ known) (by decide +kernel)

end StoringDevices
