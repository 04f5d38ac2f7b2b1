import StoringDevices.Lib.Lists
import StoringDevices.Descriptors

/-! # Lines that close nothing

As long as no record is closed, what the handlers find at a port can be read off
the records before and the lines so far: the port is open if it was or if a line
opens it, and it is flagged if it was or if a `usb-storage` line finds a record
there.  So the lines say themselves which of them is the first to close one. -/
set_option autoImplicit false

namespace StoringDevices

/-! ## What the lines say -/

/-- The port of a connection line, be it free or not. -/
def opensPort (line : LogLine) : Option CppString :=
  if storagePort line = none then newPort line else none

section LinesSoFar
variable (interfaces : InterfacesMap) (lines : List LogLine)

def OpenedIn (port : CppString) : Prop := ∃ line ∈ lines, opensPort line = some port

/-- The port has a record after the lines. -/
def PresentAfter (port : CppString) : Prop :=
  interfaces[port]?.isSome = true ∨ OpenedIn lines port

/-- The record of the port is not empty after the lines. -/
def LiveAfter (port : CppString) : Prop :=
  interfaces[port]?.any (fun element => !element.isEmpty) = true ∨ OpenedIn lines port

/-- The record of the port is flagged as storage after the lines. -/
def FlaggedAfter (port : CppString) : Prop :=
  interfaces[port]?.any UsbInterface.isStorageDevice = true ∨
    ∃ before line after, lines = before ++ line :: after ∧ storagePort line = some port ∧
      PresentAfter interfaces before port

/-- The line is a disconnect line of an open storage record after the lines, and
opens no free port. -/
structure ClosesAfter (line : LogLine) : Prop where
  storage : storagePort line = none
  announced : disconnects line = true
  found : ∃ port, usbPort line = some port ∧ LiveAfter interfaces lines port ∧
    FlaggedAfter interfaces lines port
  refused : ∀ opened, newPort line = some opened → LiveAfter interfaces lines opened

/-- No line closes a record after the lines before it. -/
def ClosesNothing : Prop :=
  ∀ before line after, lines = before ++ line :: after → ¬ ClosesAfter interfaces before line

end LinesSoFar

section Snoc
variable {interfaces : InterfacesMap} {lines : List LogLine} {line : LogLine} {port : CppString}

theorem openedIn_snoc :
    OpenedIn (lines ++ [line]) port ↔ OpenedIn lines port ∨ opensPort line = some port := by
  simp [OpenedIn, or_and_right, exists_or]

theorem presentAfter_snoc : PresentAfter interfaces (lines ++ [line]) port ↔
    PresentAfter interfaces lines port ∨ opensPort line = some port := by
  rw [PresentAfter, PresentAfter, openedIn_snoc, or_assoc]

theorem liveAfter_snoc : LiveAfter interfaces (lines ++ [line]) port ↔
    LiveAfter interfaces lines port ∨ opensPort line = some port := by
  rw [LiveAfter, LiveAfter, openedIn_snoc, or_assoc]

theorem flaggedAfter_snoc : FlaggedAfter interfaces (lines ++ [line]) port ↔
    FlaggedAfter interfaces lines port ∨
      storagePort line = some port ∧ PresentAfter interfaces lines port := by
  unfold FlaggedAfter
  rw [or_assoc]
  apply or_congr_right
  constructor
  · intro h
    obtain ⟨before, flagging, after, split, storage, present⟩ := h
    rcases Lists.snoc_eq_split_iff.mp split with ⟨_, rfl, rfl⟩ | ⟨rest, _, earlier⟩
    · exact .inr ⟨storage, present⟩
    · exact .inl ⟨before, flagging, rest, earlier, storage, present⟩
  · intro h
    rcases h with ⟨before, flagging, after, split, storage, present⟩ | ⟨storage, present⟩
    · exact ⟨before, flagging, after ++ [line], by simp [split], storage, present⟩
    · exact ⟨lines, line, [], rfl, storage, present⟩

theorem closesNothing_snoc : ClosesNothing interfaces (lines ++ [line]) ↔
    ClosesNothing interfaces lines ∧ ¬ ClosesAfter interfaces lines line := by
  constructor
  · intro nothing
    refine ⟨?_, nothing lines line [] rfl⟩
    intro before earlier after split
    exact nothing before earlier (after ++ [line]) (by simp [split])
  · intro h before last after split
    rcases Lists.snoc_eq_split_iff.mp split with ⟨_, rfl, rfl⟩ | ⟨rest, _, earlier⟩
    · exact h.2
    · exact h.1 before last rest earlier

theorem closesNothing_of_quiet (quiet : ∀ line ∈ lines, disconnects line = false) :
    ClosesNothing interfaces lines := by
  intro before line after split closes
  have announced := closes.announced
  rw [quiet line (by rw [split]; simp)] at announced
  cases announced

end Snoc

/-! ## One line -/

section OneLine
variable {line : LogLine} {interfaces : InterfacesMap} {port : CppString}

theorem any_live_eq_false {record : Option UsbInterface}
    (free : ∀ element, record = some element → element.isEmpty = true) :
    record.any (fun element => !element.isEmpty) = false := by
  cases record with
  | none => rfl
  | some element => simp [free element rfl]

/-- A connection line opens its port exactly when the port is free. -/
theorem connect_iff : (∃ told, effect line interfaces = .connect told port) ↔
    opensPort line = some port ∧
      interfaces[port]?.any (fun element => !element.isEmpty) = false := by
  have free : interfaces[port]?.all UsbInterface.isEmpty = true ↔
      interfaces[port]?.any (fun element => !element.isEmpty) = false := by
    cases interfaces[port]? <;> simp
  rw [← free]
  constructor
  · intro h
    obtain ⟨told, here⟩ := h
    have spec := effect_spec line interfaces
    rw [here] at spec
    cases spec with
    | connect storage usb new idle =>
        rw [informed_all_isEmpty] at idle
        exact ⟨by rw [opensPort, if_pos storage, new], idle⟩
  · intro h
    obtain ⟨opens, idle⟩ := h
    unfold opensPort at opens
    split at opens
    · next storage =>
        cases usb : usbPort line with
        | none => exact absurd (newPort_some opens).usb (usbPort_none usb port)
        | some told =>
            exact ⟨told, effect_connect storage usb
              (acceptedPort_of_free opens (by rw [informed_all_isEmpty, idle]))⟩
    · cases opens

/-- Whether a line closes a record, in terms of the records before it. -/
theorem closingOf_isSome_iff : (closingOf line interfaces).isSome = true ↔
    storagePort line = none ∧ disconnects line = true ∧
      (∃ port element, usbPort line = some port ∧ interfaces[port]? = some element ∧
        element.isOpenStorage = true) ∧
      ∀ opened, newPort line = some opened →
        ∃ record, interfaces[opened]? = some record ∧ record.isEmpty = false := by
  constructor
  · intro found
    obtain ⟨closing, found⟩ := Option.isSome_iff_exists.mp found
    obtain ⟨_, element, present, live, _⟩ := closing_heard found
    have spec := effect_spec line interfaces
    rw [(closingOf_disconnect found).1] at spec
    cases spec with
    | disconnect storage usb refused announced _ _ =>
        exact ⟨storage, announced, ⟨_, element, usb, present, live⟩,
          acceptedPort_eq_none_iff.mp refused⟩
  · intro h
    obtain ⟨storage, announced, ⟨port, element, usb, present, live⟩, taken⟩ := h
    have record : closedRecord line (informed line port interfaces) port =
        some (announce line element) := by
      unfold closedRecord
      rw [if_pos announced, informed_getElem?, if_pos rfl, present, Option.map_some,
        Option.filter_some, if_pos (by rw [announce_isOpenStorage, live])]
    unfold closingOf
    rw [effect_disconnect storage usb (acceptedPort_eq_none_iff.mpr taken) record]
    rfl

/-- What a line that closes nothing leaves at a port. -/
theorem step_unclosed (unclosed : closingOf line interfaces = none) (port : CppString) :
    (stepInterfaces line interfaces)[port]? =
      if opensPort line = some port ∧
          interfaces[port]?.any (fun element => !element.isEmpty) = false then
        some (connected line (interfaces[port]?.map fun element => heard port element line))
      else
        interfaces[port]?.map fun element => heard port element line := by
  by_cases opens : opensPort line = some port ∧
      interfaces[port]?.any (fun element => !element.isEmpty) = false
  · obtain ⟨told, here⟩ := connect_iff.mpr opens
    rw [if_pos opens, step_opened here]
  · rw [if_neg opens]
    rcases step_unopened (fun told here => opens (connect_iff.mp ⟨told, here⟩)) with
      ⟨record, here, _⟩ | hears
    · rw [closingOf, here] at unclosed
      cases unclosed
    · exact hears

end OneLine

/-! ## Runs that close nothing -/

/-- The records that stand after the lines are as the lines say. -/
structure Standing (interfaces : InterfacesMap) (lines : List LogLine) (now : InterfacesMap) :
    Prop where
  present : ∀ port, now[port]?.isSome = true ↔ PresentAfter interfaces lines port
  live : ∀ port, now[port]?.any (fun element => !element.isEmpty) = true ↔
    LiveAfter interfaces lines port
  flag : ∀ port, now[port]?.any UsbInterface.isStorageDevice = true ↔
    FlaggedAfter interfaces lines port

section Run
variable {interfaces now : InterfacesMap} {lines : List LogLine} {line : LogLine}

theorem standing_nil (interfaces : InterfacesMap) : Standing interfaces [] interfaces where
  present port := by simp [PresentAfter, OpenedIn]
  live port := by simp [LiveAfter, OpenedIn]
  flag port := by simp [FlaggedAfter]

theorem Standing.step (standing : Standing interfaces lines now)
    (unclosed : closingOf line now = none) :
    Standing interfaces (lines ++ [line]) (stepInterfaces line now) where
  present port := by
    rw [presentAfter_snoc, ← standing.present, step_unclosed unclosed]
    cases now[port]? with
    | none => by_cases opens : opensPort line = some port <;> simp [opens]
    | some element => split <;> simp
  live port := by
    rw [liveAfter_snoc, ← standing.live, step_unclosed unclosed]
    cases now[port]? with
    | none => by_cases opens : opensPort line = some port <;> simp [opens, connected]
    | some element =>
        by_cases opens : opensPort line = some port <;>
          cases empty : element.isEmpty <;> simp [opens, empty, connected]
  flag port := by
    rw [flaggedAfter_snoc, ← standing.flag, ← standing.present, step_unclosed unclosed]
    have unflagging : opensPort line = some port → storagePort line ≠ some port := by
      intro opens storage
      rw [opensPort, if_neg (by rw [storage]; simp)] at opens
      cases opens
    cases now[port]? with
    | none => split <;> simp [connected, initializeUsbInterface]
    | some element =>
        split
        · next opened =>
            simp [connected, heard_eq, unflagging opened.1]
        · simp [heard_eq]

theorem Standing.closes_iff (standing : Standing interfaces lines now) :
    (closingOf line now).isSome = true ↔ ClosesAfter interfaces lines line := by
  have taken : ∀ port, (∃ element, now[port]? = some element ∧ element.isEmpty = false) ↔
      LiveAfter interfaces lines port := by
    intro port
    rw [← standing.live]
    cases now[port]? <;> simp
  rw [closingOf_isSome_iff]
  constructor
  · intro h
    obtain ⟨storage, announced, ⟨port, element, usb, present, isOpen⟩, refused⟩ := h
    obtain ⟨notEmpty, flag⟩ := isOpenStorage_iff.mp isOpen
    refine ⟨storage, announced, ⟨port, usb, ?_, ?_⟩, ?_⟩
    · exact (taken port).mp ⟨element, present, notEmpty⟩
    · exact (standing.flag port).mp (by rw [present, Option.any_some, flag])
    · exact fun opened new => (taken opened).mp (refused opened new)
  · intro closes
    obtain ⟨port, usb, live, flag⟩ := closes.found
    obtain ⟨element, present, notEmpty⟩ := (taken port).mpr live
    have isFlagged := (standing.flag port).mpr flag
    rw [present, Option.any_some] at isFlagged
    exact ⟨closes.storage, closes.announced,
      ⟨port, element, usb, present, isOpenStorage_iff.mpr ⟨notEmpty, isFlagged⟩⟩,
      fun opened new => (taken opened).mpr (closes.refused opened new)⟩

theorem runClosings_snoc (lines : List LogLine) (line : LogLine) (interfaces : InterfacesMap) :
    runClosings (lines ++ [line]) interfaces =
      runClosings lines interfaces ++ (closingOf line (runInterfaces lines interfaces)).toList := by
  rw [runClosings_append, runClosings, runClosings, List.append_nil]

theorem standing_run (lines : List LogLine) (interfaces : InterfacesMap) :
    (runClosings lines interfaces = [] ↔ ClosesNothing interfaces lines) ∧
      (runClosings lines interfaces = [] →
        Standing interfaces lines (runInterfaces lines interfaces)) := by
  induction lines using List.reverseRecOn with
  | nil =>
      refine ⟨⟨fun _ before line after split => ?_, fun _ => rfl⟩, fun _ => standing_nil interfaces⟩
      simp at split
  | append_singleton lines line ih =>
      obtain ⟨silent, standing⟩ := ih
      have last : runClosings lines interfaces = [] →
          (closingOf line (runInterfaces lines interfaces) = none ↔
            ¬ ClosesAfter interfaces lines line) := by
        intro none_
        rw [← (standing none_).closes_iff, Option.not_isSome_iff_eq_none]
      rw [runClosings_snoc, List.append_eq_nil_iff, Option.toList_eq_nil_iff, closesNothing_snoc,
        ← silent]
      refine ⟨and_congr_right last, ?_⟩
      intro h
      have next := (standing h.1).step h.2
      rw [runInterfaces_append]
      exact next

theorem runClosings_eq_nil_iff : runClosings lines interfaces = [] ↔ ClosesNothing interfaces lines :=
  (standing_run lines interfaces).1

theorem standing_of_closesNothing (nothing : ClosesNothing interfaces lines) :
    Standing interfaces lines (runInterfaces lines interfaces) :=
  (standing_run lines interfaces).2 (runClosings_eq_nil_iff.mpr nothing)

/-- An open record hears the lines that close nothing. -/
theorem open_run {port : CppString} :
    ∀ (lines : List LogLine) {interfaces : InterfacesMap} {element : UsbInterface},
      runClosings lines interfaces = [] → interfaces[port]? = some element →
        element.isEmpty = false →
          (runInterfaces lines interfaces)[port]? = some (lines.foldl (heard port) element) := by
  intro lines
  induction lines with
  | nil => intro interfaces element _ present _; exact present
  | cons line lines ih =>
      intro interfaces element silent present live
      rw [runClosings, List.append_eq_nil_iff, Option.toList_eq_nil_iff] at silent
      rcases @step_open line _ _ _ present live with ⟨closed, _⟩ | hears
      · rw [silent.1] at closed
        cases closed
      · exact ih silent.2 hears (by rw [heard_isEmpty, live])

end Run

end StoringDevices
