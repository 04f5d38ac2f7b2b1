import StoringDevices.Kinds
import StoringDevices.Lib.Lists
import StoringDevices.Provenance

/-! # Empty records

A record is reset when it is closed and filled in when it is opened; what opens
it sets two fields only, so nothing may be written to it in between.  The handlers
of `usb-storage` lines and of announcements do not look at `isEmpty`. -/
set_option autoImplicit false

namespace StoringDevices

/-! ## One line -/

/-- An empty record is as initialised, so that a connection starts from nothing. -/
structure EmptyIsClean (interfaces : InterfacesMap) : Prop where
  initial : ∀ (port : CppString) (element : UsbInterface), interfaces[port]? = some element →
    element.isEmpty = true → element = initializeUsbInterface
  opened : ∀ (line : LogLine) (port : CppString), acceptedPort line interfaces = some port →
    ∃ after, checkIfNewDeviceConnected line.text interfaces = some (true, after) ∧
      after[port]? = some { initializeUsbInterface with
        isEmpty := false, connectionTime := logTime line }

/-- The line announces an id other than 0, or a text that is not empty. -/
def AnnouncesData (line : LogLine) : Prop :=
  (∃ id ∈ readIdVendor line, id ≠ 0) ∨ (∃ id ∈ readIdProduct line, id ≠ 0) ∨
    (∃ text ∈ readSerialNumber line, text ≠ []) ∨ (∃ text ∈ readProductName line, text ≠ []) ∨
      ∃ text ∈ readManufacturer line, text ≠ []

instance (line : LogLine) : Decidable (AnnouncesData line) :=
  inferInstanceAs (Decidable (_ ∨ _ ∨ _ ∨ _ ∨ _))

/-- These are the values that an initialised record does not have. -/
theorem announce_initial_iff {line : LogLine} :
    announce line initializeUsbInterface ≠ initializeUsbInterface ↔ AnnouncesData line := by
  unfold AnnouncesData
  rw [← Lists.getD_ne_iff, ← Lists.getD_ne_iff, ← Lists.getD_ne_iff, ← Lists.getD_ne_iff, ← Lists.getD_ne_iff, announce_eq, Ne,
    UsbInterface.mk.injEq]
  simp only [initializeUsbInterface, true_and]
  tauto

/-- The line flags an empty record as storage, or announces data on an empty
record that it does not open. -/
def WritesToEmpty (line : LogLine) (interfaces : InterfacesMap) : Prop :=
  ∃ (port : CppString) (element : UsbInterface), interfaces[port]? = some element ∧
    element.isEmpty = true ∧
    (storagePort line = some port ∨
      storagePort line = none ∧ usbPort line = some port ∧ newPort line ≠ some port ∧
        AnnouncesData line)

theorem emptyIsClean_iff (interfaces : InterfacesMap) :
    EmptyIsClean interfaces ↔ ∀ (port : CppString) (element : UsbInterface),
      interfaces[port]? = some element → element.isEmpty = true →
        element = initializeUsbInterface := by
  constructor
  · intro clean
    exact clean.initial
  · intro initial
    refine ⟨initial, ?_⟩
    intro line port accepted
    refine ⟨interfaces.insert port (connected line interfaces[port]?), ?_, ?_⟩
    · rw [checkIfNewDeviceConnected_eq, accepted]
      rfl
    · rw [getElem?_insert_eq, if_pos rfl]
      have free := (Option.filter_eq_some_iff.mp accepted).2
      cases here : interfaces[port]? with
      | none => rfl
      | some element =>
          rw [here, Option.all_some] at free
          rw [initial port element here free]
          rfl

/-- The record that an announcement leaves, and the one it was. -/
theorem informed_before {line : LogLine} {interfaces : InterfacesMap} {told port : CppString}
    {after : UsbInterface} (here : (informed line told interfaces)[port]? = some after) :
    ∃ element, interfaces[port]? = some element ∧ element.isEmpty = after.isEmpty ∧
      (after = element ∨ told = port ∧ after = announce line element) := by
  rw [informed_getElem?] at here
  by_cases same : told = port
  · subst same
    rw [if_pos rfl] at here
    obtain ⟨element, present, rfl⟩ := Option.map_eq_some_iff.mp here
    exact ⟨element, present, (announce_isEmpty line element).symm, .inr ⟨rfl, rfl⟩⟩
  · rw [if_neg same] at here
    exact ⟨after, here, rfl, .inl rfl⟩

/-- Where an empty record comes from. -/
theorem empty_before {line : LogLine} {interfaces : InterfacesMap} {port : CppString}
    {after : UsbInterface} (here : (stepInterfaces line interfaces)[port]? = some after)
    (empty : after.isEmpty = true) :
    after = initializeUsbInterface ∨ ∃ element, interfaces[port]? = some element ∧
      element.isEmpty = true ∧
      (after = element ∨ storagePort line = some port ∨
        storagePort line = none ∧ usbPort line = some port ∧ newPort line ≠ some port ∧
          after = announce line element) := by
  have spec := effect_spec line interfaces
  unfold stepInterfaces at here
  cases case : effect line interfaces with
  | ignore =>
      rw [case, apply_ignore] at here
      exact .inr ⟨after, here, empty, .inl rfl⟩
  | flag told =>
      rw [case] at here spec
      cases spec with
      | flag storage =>
          rw [apply_flag_getElem?] at here
          by_cases same : told = port
          · subst same
            rw [if_pos rfl] at here
            obtain ⟨element, present, rfl⟩ := Option.map_eq_some_iff.mp here
            exact .inr ⟨element, present, empty, .inr (.inl storage)⟩
          · rw [if_neg same] at here
            exact .inr ⟨after, here, empty, .inl rfl⟩
  | inform told =>
      rw [case] at here spec
      cases spec with
      | inform storage usb refused _ =>
          have spoken : (informed line told interfaces)[port]? = some after := here
          obtain ⟨element, present, same, shape⟩ := informed_before spoken
          rw [empty] at same
          refine .inr ⟨element, present, same, ?_⟩
          rcases shape with unchanged | ⟨rfl, announced⟩
          · exact .inl unchanged
          · -- a line that names an empty record as new opens it
            have notNew : newPort line ≠ some told := by
              intro new
              rw [acceptedPort, new, Option.filter_some, spoken, Option.all_some, if_pos empty]
                at refused
              cases refused
            exact .inr (.inr ⟨storage, usb, notNew, announced⟩)
  | connect told opened =>
      rw [case] at here spec
      cases spec with
      | connect storage usb new _ =>
          rw [apply_connect_getElem?] at here
          by_cases isOpened : opened = port
          · rw [if_pos isOpened, Option.some.injEq] at here
            rw [← here] at empty
            cases empty
          · rw [if_neg isOpened] at here
            obtain ⟨element, present, same, shape⟩ := informed_before here
            rw [empty] at same
            refine .inr ⟨element, present, same, ?_⟩
            rcases shape with unchanged | ⟨rfl, announced⟩
            · exact .inl unchanged
            · have notNew : newPort line ≠ some told := by
                rw [new]
                exact fun equal => isOpened (Option.some.inj equal)
              exact .inr (.inr ⟨storage, usb, notNew, announced⟩)
  | disconnect told record =>
      rw [case, apply_disconnect_getElem?] at here
      by_cases same : told = port
      · rw [if_pos same, Option.some.injEq] at here
        exact .inl here.symm
      · rw [if_neg same] at here
        exact .inr ⟨after, here, empty, .inl rfl⟩

/-- An announcement stays in an empty record that the line does not open. -/
theorem announced_after {line : LogLine} {interfaces : InterfacesMap} {port : CppString}
    {element : UsbInterface} (present : interfaces[port]? = some element)
    (empty : element.isEmpty = true) (storage : storagePort line = none)
    (usb : usbPort line = some port) (notNew : newPort line ≠ some port) :
    (stepInterfaces line interfaces)[port]? = some (announce line element) := by
  have spoken : (informed line port interfaces)[port]? = some (announce line element) := by
    rw [informed_getElem?, if_pos rfl, present, Option.map_some]
  have spec := effect_spec line interfaces
  unfold stepInterfaces
  cases case : effect line interfaces with
  | ignore =>
      rw [case] at spec
      cases spec with
      | ignore _ silent =>
          rw [usb] at silent
          cases silent
  | flag told =>
      rw [case] at spec
      cases spec with
      | flag flags =>
          rw [storage] at flags
          cases flags
  | inform told =>
      rw [case] at spec
      cases spec with
      | inform _ here _ _ =>
          rw [usb, Option.some.injEq] at here
          subst here
          exact spoken
  | connect told opened =>
      rw [case] at spec
      cases spec with
      | connect _ here new _ =>
          rw [usb, Option.some.injEq] at here
          subst here
          have other : opened ≠ port := fun same => notNew (by rw [new, same])
          rw [apply_connect_getElem?, if_neg other]
          exact spoken
  | disconnect told record =>
      rw [case] at spec
      cases spec with
      | disconnect _ here _ _ closed live =>
          rw [usb, Option.some.injEq] at here
          subst here
          rw [spoken, Option.some.injEq] at closed
          have full := (isOpenStorage_iff.mp live).1
          rw [← closed, announce_isEmpty, empty] at full
          cases full

/-- A line keeps the empty records clean unless it writes to one of them. -/
theorem emptyIsClean_step {line : LogLine} {interfaces : InterfacesMap}
    (clean : EmptyIsClean interfaces) :
    EmptyIsClean (stepInterfaces line interfaces) ↔ ¬ WritesToEmpty line interfaces := by
  constructor
  · intro after written
    obtain ⟨port, element, present, empty, writes⟩ := written
    have initial := clean.initial port element present empty
    rcases writes with storage | ⟨storage, usb, notNew, data⟩
    · have reset := after.initial port (flagged element) (stepInterfaces_flag storage present) empty
      rw [initial] at reset
      cases reset
    · have reset := after.initial port (announce line element)
        (announced_after present empty storage usb notNew) (by rw [announce_isEmpty, empty])
      rw [initial] at reset
      exact announce_initial_iff.mpr data reset
  · intro spared
    rw [emptyIsClean_iff]
    intro port after here empty
    rcases empty_before here empty with reset | ⟨element, present, wasEmpty, comes⟩
    · exact reset
    · have initial := clean.initial port element present wasEmpty
      rcases comes with same | storage | ⟨storage, usb, notNew, announced⟩
      · rw [same, initial]
      · exact absurd ⟨port, element, present, wasEmpty, .inl storage⟩ spared
      · by_cases data : AnnouncesData line
        · exact absurd ⟨port, element, present, wasEmpty, .inr ⟨storage, usb, notNew, data⟩⟩ spared
        · rw [announced, initial]
          exact not_not.mp (mt announce_initial_iff.mp data)

/-! ## Runs -/

/-- In every state of a run the empty records are clean, exactly when no line of
the run writes to one. -/
theorem empty_records_clean_iff (log : List LogLine) :
    (∀ before after state, log = before ++ after → readLines before {} = some state →
      EmptyIsClean state.usbInterfacesMap) ↔
    ∀ before line after state, log = before ++ line :: after → readLines before {} = some state →
      ¬ WritesToEmpty line state.usbInterfacesMap := by
  have reached : ∀ {before state}, readLines before {} = some state →
      state.usbInterfacesMap = loopInterfaces before := by
    intro before state run
    rw [readLines_log, Option.some.injEq] at run
    rw [← run]
  constructor
  · intro clean before line after state split run
    have now := clean before (line :: after) state split run
    have next := clean (before ++ [line]) after _ (by rw [split]; simp) (readLines_log _)
    rw [reached run] at now ⊢
    simp only [loopInterfaces_snoc] at next
    exact (emptyIsClean_step now).mp next
  · intro spared before
    induction before using List.reverseRecOn with
    | nil =>
        intro after state _ run
        rw [reached run, emptyIsClean_iff]
        intro port element present
        cases present
    | append_singleton before line ih =>
        intro after state split run
        rw [List.append_assoc, List.singleton_append] at split
        rw [reached run, loopInterfaces_snoc]
        have now := ih (line :: after) _ split (readLines_log before)
        exact (emptyIsClean_step now).mpr (spared before line after _ split (readLines_log before))

/-! A stick is pulled, and then a device on the tenth port of a hub is announced. -/

def stickThenTenth : List LogLine :=
  [{ text := "Jan 1 09:00:01 usb 1-1: new".toList }, { text := "usb-storage 1-1:1.0".toList },
    { text := "Jan 1 09:00:05 usb 1-1: USB disconnect".toList },
    { text := "usb 1-10: SerialNumber: B".toList }]

theorem tenth_fills_empty_record :
    ∃ state, readLines stickThenTenth {} = some state ∧ ¬ EmptyIsClean state.usbInterfacesMap := by
  refine ⟨_, readLines_log stickThenTenth, ?_⟩
  intro clean
  have filled : (loopInterfaces stickThenTenth)["1-1".toList]? =
      some { initializeUsbInterface with serialNumber := "B".toList } := by
    unfold stickThenTenth
    repeat rw [String.toList_ofList]
    decide +kernel
  have reset := clean.initial _ _ filled rfl
  cases reset

end StoringDevices
