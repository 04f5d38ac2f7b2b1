import StoringDevices.Conservation
import StoringDevices.Kinds

/-! # Attribution of a recorded session

In a run in which every connection line finds the record of its port empty, and
no line writes to an empty record, a port is idle or its record is that of the
last connection line with the lines heard since.  A closing then holds what was
announced in its own session.  The handlers check neither condition: a session
that ends without a reset leaves its values to the next one. -/
set_option autoImplicit false

namespace StoringDevices

/-! ## Orderly runs -/

/-- Each port the line names as new is opened by it, and an empty record stays
as it is. -/
structure Orderly (line : LogLine) (interfaces : InterfacesMap) : Prop where
  opens : ∀ port, NamesNew line port → storagePort line = none ∧ newPort line = some port ∧
    ∀ element, interfaces[port]? = some element → element.isEmpty = true
  untouched : ∀ port element, interfaces[port]? = some element → element.isEmpty = true →
    heard port element line = element

theorem orderly_iff {line : LogLine} {interfaces : InterfacesMap} :
    Orderly line interfaces ↔
      (∀ port ∈ mentions line, NamesNew line port → storagePort line = none ∧
        newPort line = some port ∧ interfaces[port]?.all UsbInterface.isEmpty = true) ∧
      ∀ slot ∈ interfaces.toList, slot.2.isEmpty = true → heard slot.1 slot.2 line = slot.2 := by
  constructor
  · intro orderly
    refine ⟨?_, ?_⟩
    · intro port _ new
      obtain ⟨storage, first, empty⟩ := orderly.opens port new
      refine ⟨storage, first, ?_⟩
      cases here : interfaces[port]? with
      | none => rfl
      | some element => simpa using empty element here
    · intro slot member empty
      exact orderly.untouched slot.1 slot.2
        (Std.ExtTreeMap.mem_toList_iff_getElem?_eq_some.mp member) empty
  · intro h
    refine ⟨?_, ?_⟩
    · intro port new
      obtain ⟨storage, first, empty⟩ := h.1 port (mem_mentions.mpr (.inl new.usb)) new
      refine ⟨storage, first, ?_⟩
      intro element here
      simpa [here] using empty
    · intro port element here empty
      exact h.2 (port, element) (Std.ExtTreeMap.mem_toList_iff_getElem?_eq_some.mpr here) empty

instance (line : LogLine) (interfaces : InterfacesMap) : Decidable (Orderly line interfaces) :=
  decidable_of_iff' _ orderly_iff

/-- Every line of the log is orderly in the state before it. -/
def OrderlyRun (log : List LogLine) : Prop :=
  ∀ position line state, log[position]? = some line →
    readLines (log.take position) {} = some state → Orderly line state.usbInterfacesMap

theorem orderlyRun_iff {log : List LogLine} :
    OrderlyRun log ↔ ∀ position ∈ List.range log.length, ∀ line ∈ log[position]?,
      Orderly line (loopInterfaces (log.take position)) := by
  constructor
  · intro orderly position _ line here
    exact orderly position line _ here (readLines_log _)
  · intro orderly position line state here before
    rw [readLines_log, Option.some.injEq] at before
    have inside : position < log.length := (List.getElem?_eq_some_iff.mp here).1
    rw [← before]
    exact orderly position (List.mem_range.mpr inside) line here

instance (log : List LogLine) : Decidable (OrderlyRun log) := decidable_of_iff' _ orderlyRun_iff

theorem OrderlyRun.append_left {log rest : List LogLine} (orderly : OrderlyRun (log ++ rest)) :
    OrderlyRun log := by
  intro position line state here before
  have inside := (List.getElem?_eq_some_iff.mp here).1
  apply orderly position line state
  · rw [List.getElem?_append_left inside]
    exact here
  · rw [List.take_append_of_le_length (by omega)]
    exact before

theorem Orderly.connects {line : LogLine} {interfaces : InterfacesMap}
    (orderly : Orderly line interfaces) {port : CppString} (new : NamesNew line port) :
    ∃ told, effect line interfaces = .connect told port := by
  obtain ⟨storage, first, empty⟩ := orderly.opens port new
  cases usb : usbPort line with
  | none => exact absurd new.usb (usbPort_none usb port)
  | some told =>
      have free : (informed line told interfaces)[port]?.all UsbInterface.isEmpty = true := by
        rw [informed_all_isEmpty]
        cases here : interfaces[port]? with
        | none => rfl
        | some element => exact empty element here
      have accepted := acceptedPort_of_free first free
      exact ⟨told, effect_connect storage usb accepted⟩

/-- The port is idle, or its record is that of the last connection line. -/
def Tracks (log : List LogLine) (port : CppString) (old : Option UsbInterface) : Prop :=
  (old = none ∨ old = some initializeUsbInterface) ∨
  ∃ start new, log[start]? = some new ∧ NamesNew new port ∧
    (∀ i line, start < i → log[i]? = some line → ¬ NamesNew line port) ∧
    old = some (sessionRecord port new (log.drop (start + 1)))

theorem Tracks.step {log : List LogLine} {port : CppString} {line : LogLine}
    (orderly : Orderly line (loopInterfaces log))
    (tracks : Tracks log port (loopInterfaces log)[port]?) :
    Tracks (log ++ [line]) port (loopInterfaces (log ++ [line]))[port]? := by
  rw [loopInterfaces_snoc]
  by_cases new : NamesNew line port
  · -- the record was idle, and the line leaves nothing else in it
    right
    obtain ⟨told, here⟩ := orderly.connects new
    refine ⟨log.length, line, by simp, new, ?_, ?_⟩
    · intro i other later found
      have inside := (List.getElem?_eq_some_iff.mp found).1
      rw [List.length_append, List.length_singleton] at inside
      omega
    · have fresh : connected line ((loopInterfaces log)[port]?.map fun element =>
          heard port element line) = connected line none := by
        cases old : (loopInterfaces log)[port]? with
        | none => rfl
        | some element =>
            have empty := (orderly.opens port new).2.2 element old
            rw [Option.map_some, orderly.untouched port element old empty]
            rcases tracks with (none_ | idle) | ⟨start, opener, _, _, _, record⟩
            · rw [none_] at old
              cases old
            · rw [idle] at old
              cases old
              rfl
            · rw [record] at old
              cases old
              rw [sessionRecord_eq] at empty
              cases empty
      rw [step_opened here, fresh]
      simp [sessionRecord]
  · have unopened : ∀ told, effect line (loopInterfaces log) ≠ .connect told port :=
      fun told here => new (connect_names here)
    rcases step_unopened unopened with ⟨record, _, closed⟩ | kept
    · exact .inl (.inr closed)
    · rcases tracks with (none_ | idle) | ⟨start, opener, at_, isNew, latest, record⟩
      · left
        left
        rw [kept, none_]
        rfl
      · left
        right
        rw [kept, idle, Option.map_some,
          orderly.untouched port initializeUsbInterface idle rfl]
      · right
        have inside : start < log.length := (List.getElem?_eq_some_iff.mp at_).1
        refine ⟨start, opener, ?_, isNew, ?_, ?_⟩
        · rw [List.getElem?_append_left inside]
          exact at_
        · intro i other later found
          by_cases old : i < log.length
          · rw [List.getElem?_append_left old] at found
            exact latest i other later found
          · have last := (List.getElem?_eq_some_iff.mp found).1
            rw [List.length_append, List.length_singleton] at last
            have same : i = log.length := by omega
            subst same
            rw [List.getElem?_concat_length, Option.some.injEq] at found
            subst found
            exact new
        · rw [kept, record, Option.map_some, List.drop_append_of_le_length (by omega),
            sessionRecord_snoc]

end StoringDevices
