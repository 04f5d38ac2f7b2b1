import StoringDevices.Ledger
import StoringDevices.Lib.Handles

/-! # The flush loop with its iterators

`replaceInInterfacesMap` erases the element that the iterator of the loop points
to and inserts another one for the key; the loop ignores the iterator that it
returns and advances its own.  A turn at an empty record leaves the iterator
valid, and a turn at any other record makes `++it` undefined. -/
set_option autoImplicit false

namespace StoringDevices

open Std (ExtTreeMap)
open Handles (HandleMap Iterator Node Represents iteratorTo)

namespace FlushIterators

abbrev HandledMap (V : Type) := HandleMap CppString V compare

/-- The two maps of the flush, with their elements. -/
structure HandledState where
  usbInterfacesMap : HandledMap UsbInterface
  usbMap : HandledMap UsbInfo

def replaceInUSBsMap (map : HandledMap UsbInfo) (key : CppString) (usbInfoNew : UsbInfo) :
    Option (HandledMap UsbInfo × Iterator) := map.replace key usbInfoNew

def replaceInInterfacesMap (map : HandledMap UsbInterface) (key : CppString)
    (usbInterfaceElementNew : UsbInterface) : Option (HandledMap UsbInterface × Iterator) :=
  map.replace key usbInterfaceElementNew

/-- What a non-empty record does to `usb_map`. -/
def saveInUSBsMap (usbMap : HandledMap UsbInfo) (element : UsbInterface) :
    Option (HandledMap UsbInfo) :=
  if usbMap.count element.serialNumber ≠ 0 then do
    let usbIt := usbMap.find element.serialNumber
    let usbElement ← usbMap.deref usbIt
    let (usbMap, _) ← replaceInUSBsMap usbMap element.serialNumber
      (mergeInterface usbElement.value element)
    some usbMap
  else if element.isStorageDevice then
    some (usbMap.insert element.serialNumber (freshEntry element)).1
  else
    some usbMap

/-- The body of the loop; both reads of `it` are dereferences. -/
def saveElement (it : Iterator) (state : HandledState) : Option HandledState := do
  let node ← state.usbInterfacesMap.deref it
  if node.value.isEmpty then
    some state
  else
    let usbMap ← saveInUSBsMap state.usbMap node.value
    let node ← state.usbInterfacesMap.deref it
    let (interfaces, _) ←
      replaceInInterfacesMap state.usbInterfacesMap node.key initializeUsbInterface
    some ⟨interfaces, usbMap⟩

/-- How far the loop gets, with the keys it has visited. -/
inductive Outcome where
  | reachedEnd (visited : List CppString) (state : HandledState)
  | invalidIterator (visited : List CppString)
  | running

/-- `for (; it != end(); ++it)`, for a number of turns. -/
def flushLoop : Nat → Iterator → HandledState → List CppString → Outcome
  | _, .past, state, visited => .reachedEnd visited state
  | 0, .element _, _, _ => .running
  | turns + 1, .element handle, state, visited =>
      match state.usbInterfacesMap.deref (.element handle) with
      | none => .invalidIterator visited
      | some node =>
          match saveElement (.element handle) state with
          | none => .invalidIterator visited
          | some after =>
              match after.usbInterfacesMap.advance (.element handle) with
              | none => .invalidIterator (visited ++ [node.key])
              | some it => flushLoop turns it after (visited ++ [node.key])

def saveInterfacesInfoInUSBsMap (turns : Nat) (state : HandledState) : Outcome :=
  flushLoop turns state.usbInterfacesMap.begin state []

/-! ## One turn -/

theorem saveElement_of_empty {state : HandledState} {node : Node CppString UsbInterface}
    (member : node ∈ state.usbInterfacesMap.nodes) (empty : node.value.isEmpty = true) :
    saveElement (.element node.handle) state = some state := by
  have read := Handles.deref_eq_some.mpr ⟨member, rfl⟩
  simp [saveElement, read, empty]

/-- The entry of the serial is written as the flush of the port records writes it. -/
theorem saveInUSBsMap_represents {handled : HandledMap UsbInfo} {usbMap : UsbMap}
    (represents : Represents handled usbMap) (slot : CppString × UsbInterface) :
    ∃ after, saveInUSBsMap handled slot.2 = some after ∧
      Represents after (flusher.step usbMap slot) := by
  cases known : usbMap[slot.2.serialNumber]? with
  | some entry =>
      obtain ⟨node, member, own, rfl⟩ := (represents _ _).mp known
      obtain ⟨after, position, run, rest⟩ :=
        Handles.replace_of_mem member (mergeInterface node.value slot.2)
      have counted : handled.count slot.2.serialNumber ≠ 0 :=
        Nat.ne_of_gt (List.countP_pos_iff.mpr ⟨node, member, decide_eq_true own⟩)
      have read := Handles.deref_eq_some.mpr ⟨member, rfl⟩
      have found := Handles.find_of_mem member
      rw [own] at run rest found
      refine ⟨after, ?_, ?_⟩
      · simp [saveInUSBsMap, counted, found, read, replaceInUSBsMap, run]
      · rw [flusher_step_known slot known]
        exact represents.of_new rest
  | none =>
      have absent : ∀ node ∈ handled.nodes, node.key ≠ slot.2.serialNumber := by
        intro node member own
        have present := (represents node.key node.value).mpr ⟨node, member, rfl, rfl⟩
        rw [own, known] at present
        cases present
      have counted : handled.count slot.2.serialNumber = 0 :=
        List.countP_eq_zero.mpr fun node member own => absent node member (of_decide_eq_true own)
      cases storage : slot.2.isStorageDevice with
      | true =>
          refine ⟨_, by simp only [saveInUSBsMap, counted, storage]; rfl, ?_⟩
          rw [flusher_step_storage slot known storage]
          apply represents.of_new
          intro node
          rw [Handles.mem_insert absent]
          constructor
          · intro h
            exact h.imp_right fun member => ⟨member, absent node member⟩
          · intro h
            exact h.imp_right And.left
      | false =>
          refine ⟨handled, by simp [saveInUSBsMap, counted, storage], ?_⟩
          rw [flusher_step_other slot known storage]
          exact represents

/-- The body does to the elements what `saveInterface` does to the maps, and a
non-empty element is gone after it. -/
theorem saveElement_represents {state : HandledState} (maps : State)
    (interfaces : Represents state.usbInterfacesMap maps.usbInterfacesMap)
    (usbMap : Represents state.usbMap maps.usbMap) {node : Node CppString UsbInterface}
    (member : node ∈ state.usbInterfacesMap.nodes) :
    ∃ after mapsAfter, saveElement (.element node.handle) state = some after ∧
      saveInterface maps node.key = some mapsAfter ∧
      Represents after.usbInterfacesMap mapsAfter.usbInterfacesMap ∧
      Represents after.usbMap mapsAfter.usbMap ∧
      (node.value.isEmpty = false →
        ∀ other ∈ after.usbInterfacesMap.nodes, other.handle ≠ node.handle) := by
  have present : maps.usbInterfacesMap[node.key]? = some node.value :=
    (interfaces node.key node.value).mpr ⟨node, member, rfl, rfl⟩
  have read := Handles.deref_eq_some.mpr ⟨member, rfl⟩
  rw [saveInterface_eq present]
  cases empty : node.value.isEmpty with
  | true =>
      refine ⟨state, _, saveElement_of_empty member empty, rfl, ?_, ?_, by simp⟩
      · simpa [flushed, empty, insert_present present] using interfaces
      · simpa using usbMap
  | false =>
      obtain ⟨written, saved, represents⟩ := saveInUSBsMap_represents usbMap (node.key, node.value)
      obtain ⟨replaced, position, run, rest⟩ :=
        Handles.replace_of_mem member initializeUsbInterface
      refine ⟨⟨replaced, written⟩, _, ?_, rfl, ?_, ?_, ?_⟩
      · simp [saveElement, read, empty, saved, replaceInInterfacesMap, run]
      · simpa [flushed, empty] using interfaces.of_new rest
      · simpa using represents
      · intro _
        exact Handles.replaced_gone member rest

/-! ## The loop -/

theorem turn_of_empty {state : HandledState} {before after : List (Node CppString UsbInterface)}
    {node : Node CppString UsbInterface}
    (split : state.usbInterfacesMap.nodes = before ++ node :: after)
    (empty : node.value.isEmpty = true) (turns : Nat) (visited : List CppString) :
    flushLoop (turns + 1) (iteratorTo (node :: after)) state visited =
      flushLoop turns (iteratorTo after) state (visited ++ [node.key]) := by
  have member : node ∈ state.usbInterfacesMap.nodes := by simp [split]
  have read := Handles.deref_eq_some.mpr ⟨member, rfl⟩
  simp only [iteratorTo, flushLoop, read, saveElement_of_empty member empty,
    Handles.advance_of_split split]

theorem turn_of_live {state : HandledState} {before after : List (Node CppString UsbInterface)}
    {node : Node CppString UsbInterface}
    (split : state.usbInterfacesMap.nodes = before ++ node :: after)
    (live : node.value.isEmpty = false) (turns : Nat) (visited : List CppString) :
    flushLoop (turns + 1) (iteratorTo (node :: after)) state visited =
      .invalidIterator (visited ++ [node.key]) := by
  have member : node ∈ state.usbInterfacesMap.nodes := by simp [split]
  have read := Handles.deref_eq_some.mpr ⟨member, rfl⟩
  obtain ⟨interfaces, represents⟩ := Handles.exists_represented state.usbInterfacesMap
  obtain ⟨usbMap, represents'⟩ := Handles.exists_represented state.usbMap
  obtain ⟨next, _, saved, _, _, _, gone⟩ :=
    saveElement_represents ⟨interfaces, usbMap⟩ represents represents' member
  simp only [iteratorTo, flushLoop, read, saved, Handles.advance_of_gone (gone live)]

/-- Over empty records the loop reaches the end. -/
theorem flushLoop_of_empty {state : HandledState} :
    ∀ (after before : List (Node CppString UsbInterface)) (visited : List CppString),
      state.usbInterfacesMap.nodes = before ++ after →
      (∀ node ∈ after, node.value.isEmpty = true) →
      flushLoop after.length (iteratorTo after) state visited =
        .reachedEnd (visited ++ after.map Node.key) state := by
  intro after
  induction after with
  | nil => intro before visited _ _; simp [iteratorTo, flushLoop]
  | cons node after ih =>
      intro before visited split empty
      rw [List.length_cons, turn_of_empty split (empty node (by simp)),
        ih (before ++ [node]) (visited ++ [node.key]) (by simp [split])
          fun other member => empty other (List.mem_cons_of_mem _ member)]
      simp

/-- The loop goes as far as the first record that is not empty. -/
theorem flushLoop_of_live {state : HandledState} {live : Node CppString UsbInterface}
    {rest : List (Node CppString UsbInterface)} (notEmpty : live.value.isEmpty = false) :
    ∀ (empties before : List (Node CppString UsbInterface)) (visited : List CppString)
      (turns : Nat), state.usbInterfacesMap.nodes = before ++ (empties ++ live :: rest) →
      (∀ node ∈ empties, node.value.isEmpty = true) →
      flushLoop turns (iteratorTo (empties ++ live :: rest)) state visited =
        if turns ≤ empties.length then .running
        else .invalidIterator (visited ++ (empties.map Node.key ++ [live.key])) := by
  intro empties
  induction empties with
  | nil =>
      intro before visited turns split _
      cases turns with
      | zero => rfl
      | succ turns => exact turn_of_live split notEmpty turns visited
  | cons node empties ih =>
      intro before visited turns split empty
      cases turns with
      | zero => rfl
      | succ turns =>
          have here : state.usbInterfacesMap.nodes = before ++ node :: (empties ++ live :: rest) :=
            split
          rw [List.cons_append, turn_of_empty here (empty node (by simp)),
            ih (before ++ [node]) (visited ++ [node.key]) turns (by simp [split])
              fun other member => empty other (List.mem_cons_of_mem _ member)]
          simp

/-- The loop visits each key once and reaches the end, with valid iterators
only, exactly when every record is empty. -/
theorem flush_iterators_valid_iff (state : HandledState) :
    (∃ turns final, saveInterfacesInfoInUSBsMap turns state =
      .reachedEnd state.usbInterfacesMap.keys final) ↔
      ∀ node ∈ state.usbInterfacesMap.nodes, node.value.isEmpty = true := by
  constructor
  · intro reaches
    obtain ⟨turns, final, run⟩ := reaches
    by_contra notAll
    cases found : state.usbInterfacesMap.nodes.find? fun node => !node.value.isEmpty with
    | none =>
        apply notAll
        intro node member
        simpa using List.find?_eq_none.mp found node member
    | some live =>
        obtain ⟨notEmpty, empties, rest, split, empty⟩ := List.find?_eq_some_iff_append.mp found
        have outcome := flushLoop_of_live (by simpa using notEmpty) empties [] [] turns split
          (by simpa using empty)
        rw [← split] at outcome
        unfold saveInterfacesInfoInUSBsMap HandleMap.begin at run
        rw [run] at outcome
        split at outcome <;> cases outcome
  · intro empty
    exact ⟨_, state, flushLoop_of_empty state.usbInterfacesMap.nodes [] [] rfl empty⟩

def pluggedRecord : UsbInterface :=
  { initializeUsbInterface with
    isEmpty := false, isStorageDevice := true, serialNumber := "A".toList }

/-- A storage device left on port 1-1. -/
def onePlugged : HandledState where
  usbInterfacesMap := (HandleMap.empty.insert "1-1".toList pluggedRecord).1
  usbMap := .empty

theorem plugged_record_invalidates_iterator :
    saveInterfacesInfoInUSBsMap 1 onePlugged = .invalidIterator ["1-1".toList] ∧
      ¬ ∃ turns final, saveInterfacesInfoInUSBsMap turns onePlugged =
        .reachedEnd onePlugged.usbInterfacesMap.keys final := by
  have outcome : ∀ turns, saveInterfacesInfoInUSBsMap turns onePlugged =
      if turns ≤ 0 then .running else .invalidIterator ["1-1".toList] :=
    fun turns => flushLoop_of_live rfl [] [] [] turns
      (rfl : onePlugged.usbInterfacesMap.nodes = [⟨0, "1-1".toList, pluggedRecord⟩]) (by simp)
  refine ⟨outcome 1, ?_⟩
  rintro ⟨turns, final, run⟩
  rw [outcome turns] at run
  split at run <;> cases run

end FlushIterators

end StoringDevices
