import StoringDevices.Ledger

/-! # Lines about one port

A line whose `usb d-d` and `usb-storage d-d` mentions name one port reads and
writes the record of this port alone.  Over logs of such lines the line loop is
a keyed machine, so the records and closings of a port are a function of the
lines that mention it. -/
set_option autoImplicit false

namespace StoringDevices

open Std (ExtTreeMap)
open Keyed (Machine)

/-! ## Mentions -/

/-- The port right after `front` at the start of `s`. -/
def mentionAt (front s : CppString) : Option CppString :=
  if front.isPrefixOf s ∧ IsPort ((s.drop front.length).take 3) then
    some ((s.drop front.length).take 3)
  else none

/-- The ports of the `usb d-d` and `usb-storage d-d` mentions of a line. -/
def mentions (line : LogLine) : List CppString :=
  (cStr line.text).tails.flatMap fun s =>
    (mentionAt "usb ".toList s).toList ++ (mentionAt "usb-storage ".toList s).toList

instance (port : CppString) (line : LogLine) : Decidable (port ∈ mentions line) :=
  List.instDecidableMemOfLawfulBEq port (mentions line)

theorem mentionAt_eq_some {front s port : CppString} :
    mentionAt front s = some port ↔ IsPort port ∧ front ++ port <+: s := by
  unfold mentionAt
  constructor
  · intro found
    split at found
    · next h =>
        cases found
        obtain ⟨rest, rfl⟩ := List.isPrefixOf_iff_prefix.mp h.1
        refine ⟨h.2, rest.drop 3, ?_⟩
        rw [List.drop_left, List.append_assoc, List.take_append_drop]
    · cases found
  · intro h
    obtain ⟨isPort, rest, rfl⟩ := h
    have cut : ((front ++ port ++ rest).drop front.length).take 3 = port := by
      rw [List.append_assoc, List.drop_left, ← isPort.length, List.take_left]
    rw [cut, if_pos]
    refine ⟨List.isPrefixOf_iff_prefix.mpr ⟨port ++ rest, ?_⟩, isPort⟩
    rw [List.append_assoc]

theorem mentionAt_tails {front port : CppString} {line : LogLine} :
    (∃ s ∈ (cStr line.text).tails, mentionAt front s = some port) ↔ names front line port [] := by
  simp only [List.mem_tails, mentionAt_eq_some, names, List.append_nil]
  constructor
  · intro h
    obtain ⟨s, tail, isPort, head⟩ := h
    exact ⟨isPort, head.isInfix.trans tail.isInfix⟩
  · intro h
    obtain ⟨isPort, a, b, split⟩ := h
    refine ⟨front ++ port ++ b, ⟨a, ?_⟩, isPort, ⟨b, rfl⟩⟩
    rw [← split]
    simp only [List.append_assoc]

theorem mem_mentions {line : LogLine} {port : CppString} :
    port ∈ mentions line ↔ NamesUsb line port ∨ NamesStorage line port := by
  unfold mentions NamesUsb NamesStorage
  rw [← mentionAt_tails, ← mentionAt_tails, List.mem_flatMap]
  simp only [List.mem_append, Option.mem_toList]
  constructor
  · intro h
    obtain ⟨s, tail, found | found⟩ := h
    · exact .inl ⟨s, tail, found⟩
    · exact .inr ⟨s, tail, found⟩
  · rintro (⟨s, tail, found⟩ | ⟨s, tail, found⟩)
    · exact ⟨s, tail, .inl found⟩
    · exact ⟨s, tail, .inr found⟩

/-- All mentions of the line name one port, or there is none. -/
def SinglePort (line : LogLine) : Prop :=
  ∀ port ∈ mentions line, ∀ port' ∈ mentions line, port = port'

instance (line : LogLine) : Decidable (SinglePort line) :=
  inferInstanceAs (Decidable (∀ port ∈ mentions line, ∀ port' ∈ mentions line, port = port'))

/-- The lines that mention the port. -/
def portLines (port : CppString) (log : List LogLine) : List LogLine :=
  log.filter fun line => port ∈ mentions line

theorem storagePort_mem {line : LogLine} {port : CppString} (h : storagePort line = some port) :
    port ∈ mentions line := mem_mentions.mpr (.inr (storagePort_some h))

theorem usbPort_mem {line : LogLine} {port : CppString} (h : usbPort line = some port) :
    port ∈ mentions line := mem_mentions.mpr (.inl (usbPort_some h))

theorem newPort_mem {line : LogLine} {port : CppString} (h : newPort line = some port) :
    port ∈ mentions line := mem_mentions.mpr (.inl (newPort_some h).usb)

/-! ## The record of the port of a line -/

/-- The port whose record a line can touch. -/
def linePort (line : LogLine) : Option CppString :=
  match storagePort line with
  | some port => some port
  | none => usbPort line

def accepts (line : LogLine) (old : Option UsbInterface) : Bool :=
  (newPort line).isSome && old.all UsbInterface.isEmpty

def closes (line : LogLine) (old : Option UsbInterface) : Option UsbInterface :=
  if disconnects line then old.filter UsbInterface.isOpenStorage else none

/-- The record of the line's port after the line. -/
def portNext (line : LogLine) (old : Option UsbInterface) : Option UsbInterface :=
  match storagePort line with
  | some _ => old.map flagged
  | none =>
      if accepts line (old.map (announce line)) then
        some (connected line (old.map (announce line)))
      else
        match closes line (old.map (announce line)) with
        | some _ => some initializeUsbInterface
        | none => old.map (announce line)

def portEmit (line : LogLine) (old : Option UsbInterface) : Option Closing :=
  match storagePort line, usbPort line with
  | none, some port =>
      if accepts line (old.map (announce line)) then none
      else (closes line (old.map (announce line))).map fun record => ⟨port, record, logTime line⟩
  | _, _ => none

/-- The line loop on lines about one port each. -/
def portMachine : Machine CppString UsbInterface LogLine Closing where
  key := linePort
  next := portNext
  emit := portEmit

theorem linePort_iff {line : LogLine} (single : SinglePort line) {port : CppString} :
    linePort line = some port ↔ port ∈ mentions line := by
  unfold linePort
  constructor
  · intro h
    cases storage : storagePort line with
    | some port' =>
        rw [storage] at h
        cases h
        exact storagePort_mem storage
    | none =>
        rw [storage] at h
        exact usbPort_mem h
  · intro member
    cases storage : storagePort line with
    | some port' => exact congrArg some (single _ (storagePort_mem storage) _ member)
    | none =>
        cases usb : usbPort line with
        | some port' => exact congrArg some (single _ (usbPort_mem usb) _ member)
        | none =>
            exfalso
            rcases mem_mentions.mp member with named | named
            · exact usbPort_none usb port named
            · exact storagePort_none storage port named

theorem portLines_eq_project {log : List LogLine} (single : ∀ line ∈ log, SinglePort line)
    (port : CppString) : portLines port log = portMachine.project port log := by
  unfold portLines Machine.project
  apply List.filter_congr
  intro line member
  have same := @linePort_iff line (single line member) port
  exact decide_eq_decide.mpr same.symm

section Refinement
variable {line : LogLine} (single : SinglePort line) (interfaces : InterfacesMap)
include single

theorem acceptedPort_single {port : CppString} (usb : usbPort line = some port)
    (interfaces : InterfacesMap) :
    acceptedPort line interfaces = if accepts line interfaces[port]? then some port else none := by
  unfold acceptedPort accepts
  cases new : newPort line with
  | none => rfl
  | some opened =>
      have same : opened = port := single _ (newPort_mem new) _ (usbPort_mem usb)
      subst same
      simp [Option.filter_some]

/-- The effect of a line that names its port, in terms of the record of the port. -/
theorem effect_single {port : CppString} (storage : storagePort line = none)
    (usb : usbPort line = some port) :
    effect line interfaces =
      if accepts line (interfaces[port]?.map (announce line)) then .connect port port
      else (closes line (interfaces[port]?.map (announce line))).elim (.inform port)
        (.disconnect port) := by
  have here : (informed line port interfaces)[port]? = interfaces[port]?.map (announce line) := by
    rw [informed_getElem?, if_pos rfl]
  have closed : closedRecord line (informed line port interfaces) port =
      closes line (interfaces[port]?.map (announce line)) := by
    unfold closedRecord closes
    rw [here]
  have accepted := acceptedPort_single single usb (informed line port interfaces)
  rw [here] at accepted
  cases opens : accepts line (interfaces[port]?.map (announce line)) with
  | true => exact effect_connect storage usb (by rw [accepted, if_pos opens])
  | false =>
      have refused : acceptedPort line (informed line port interfaces) = none := by
        rw [accepted, opens, if_neg Bool.false_ne_true]
      rw [if_neg Bool.false_ne_true]
      cases record : closes line (interfaces[port]?.map (announce line)) with
      | some r => exact effect_disconnect storage usb refused (by rw [closed, record])
      | none => exact effect_inform storage usb refused (by rw [closed, record])

theorem stepInterfaces_single :
    stepInterfaces line interfaces = portMachine.step interfaces line := by
  have key : portMachine.key line = linePort line := rfl
  have next : portMachine.next line = portNext line := rfl
  unfold stepInterfaces Machine.step
  rw [key, next]
  unfold linePort
  cases storage : storagePort line with
  | some port =>
      rw [effect_flag storage]
      apply ExtTreeMap.ext_getElem?
      intro k
      rw [apply_flag_getElem?, getElem?_alter_eq]
      simp [portNext, storage]
  | none =>
      cases usb : usbPort line with
      | none =>
          rw [effect_ignore storage usb]
          rfl
      | some port =>
          rw [effect_single single interfaces storage usb]
          apply ExtTreeMap.ext_getElem?
          intro k
          rw [getElem?_alter_eq]
          cases accepted : accepts line (interfaces[port]?.map (announce line)) with
          | true =>
              rw [if_pos rfl, apply_connect_getElem?, informed_getElem?]
              by_cases same : port = k
              · subst same; simp [portNext, storage, accepted]
              · simp [same]
          | false =>
              rw [if_neg Bool.false_ne_true]
              cases record : closes line (interfaces[port]?.map (announce line)) with
              | some r =>
                  rw [Option.elim_some, apply_disconnect_getElem?]
                  by_cases same : port = k
                  · subst same; simp [portNext, storage, accepted, record]
                  · simp [same]
              | none =>
                  rw [Option.elim_none, apply_inform_getElem?]
                  by_cases same : port = k
                  · subst same; simp [portNext, storage, accepted, record]
                  · simp [same]

theorem closingOf_single :
    closingOf line interfaces =
      match linePort line with
      | some port => portEmit line interfaces[port]?
      | none => none := by
  unfold closingOf linePort portEmit
  cases storage : storagePort line with
  | some port =>
      rw [effect_flag storage]
      rfl
  | none =>
      cases usb : usbPort line with
      | none =>
          rw [effect_ignore storage usb]
          rfl
      | some port =>
          simp only [effect_single single interfaces storage usb]
          cases accepts line (interfaces[port]?.map (announce line)) with
          | true => rfl
          | false => cases closes line (interfaces[port]?.map (announce line)) <;> rfl

end Refinement

theorem portEmit_port {line : LogLine} {old : Option UsbInterface} {closing : Closing}
    (found : portEmit line old = some closing) : linePort line = some closing.port := by
  unfold portEmit at found
  unfold linePort
  split at found
  · next port storage usb =>
      split at found
      · cases found
      · obtain ⟨record, _, rfl⟩ := Option.map_eq_some_iff.mp found
        rw [storage]
        exact usb
  · cases found

theorem runInterfaces_single :
    ∀ (log : List LogLine) (interfaces : InterfacesMap), (∀ line ∈ log, SinglePort line) →
      runInterfaces log interfaces = portMachine.run interfaces log := by
  intro log
  induction log with
  | nil => intro interfaces _; rfl
  | cons line log ih =>
      intro interfaces single
      have rest := ih (stepInterfaces line interfaces)
        fun other member => single other (List.mem_cons_of_mem _ member)
      rw [stepInterfaces_single (single line (by simp))] at rest
      unfold runInterfaces at rest ⊢
      rw [List.foldl_cons, stepInterfaces_single (single line (by simp))]
      exact rest

/-- A closing with its port, as an output of the machine. -/
def Closing.keyed (closing : Closing) : CppString × Closing := (closing.port, closing)

theorem map_keyed_snd (closings : List Closing) :
    (closings.map Closing.keyed).map Prod.snd = closings := by
  rw [List.map_map]
  exact List.map_id' closings

theorem map_keyed_project (closings : List Closing) (port : CppString) :
    ((closings.map Closing.keyed).filter fun o => o.1 = port).map Prod.snd =
      closings.filter fun closing => decide (closing.port = port) := by
  rw [List.filter_map]
  exact map_keyed_snd _

theorem runClosings_single :
    ∀ (log : List LogLine) (interfaces : InterfacesMap), (∀ line ∈ log, SinglePort line) →
      (runClosings log interfaces).map Closing.keyed = portMachine.outputs log interfaces := by
  intro log
  induction log with
  | nil => intro interfaces _; rfl
  | cons line log ih =>
      intro interfaces single
      have rest := ih (stepInterfaces line interfaces)
        fun other member => single other (List.mem_cons_of_mem _ member)
      have emit : ∀ old, portMachine.emit line old = portEmit line old := fun _ => rfl
      have key : portMachine.key line = linePort line := rfl
      rw [runClosings, List.map_append, rest, closingOf_single (single line (by simp)),
        stepInterfaces_single (single line (by simp)), Machine.outputs, key]
      cases port : linePort line with
      | none =>
          have still : portMachine.step interfaces line = interfaces := by
            simp [Machine.step, key, port]
          simp [still]
      | some p =>
          simp only [emit]
          cases found : portEmit line interfaces[p]? with
          | none => rfl
          | some closing =>
              have same : p = closing.port :=
                Option.some.inj (port.symm.trans (portEmit_port found))
              simp [same, Closing.keyed]

/-! ## The runs of a port -/

/-- The record of a port is a function of the lines that mention it. -/
theorem runInterfaces_port {log : List LogLine} (single : ∀ line ∈ log, SinglePort line)
    (interfaces : InterfacesMap) (port : CppString) :
    (runInterfaces log interfaces)[port]? =
      portMachine.localRun interfaces[port]? (portLines port log) := by
  rw [runInterfaces_single log interfaces single, Keyed.run_getElem?,
    portLines_eq_project single port]

/-- So are the closings of the port. -/
theorem runClosings_port {log : List LogLine} (single : ∀ line ∈ log, SinglePort line)
    (interfaces : InterfacesMap) (port : CppString) :
    (runClosings log interfaces).filter (fun closing => closing.port = port) =
      portMachine.localOutputs (portLines port log) interfaces[port]? := by
  have projected := Keyed.outputs_project portMachine port log interfaces
  rw [← runClosings_single log interfaces single, ← portLines_eq_project single port,
    map_keyed_project] at projected
  exact projected

theorem loopInterfaces_port {log : List LogLine} (single : ∀ line ∈ log, SinglePort line)
    (port : CppString) :
    (loopInterfaces log)[port]? = portMachine.localRun none (portLines port log) := by
  have run := runInterfaces_port single ∅ port
  rw [ExtTreeMap.getElem?_empty] at run
  exact run

theorem loopClosings_port {log : List LogLine} (single : ∀ line ∈ log, SinglePort line)
    (port : CppString) :
    (loopClosings log).filter (fun closing => closing.port = port) =
      portMachine.localOutputs (portLines port log) none := by
  have run := runClosings_port single ∅ port
  rw [ExtTreeMap.getElem?_empty] at run
  exact run

end StoringDevices
