import StoringDevices.Descriptors

/-! # Device paths of the kernel

The patterns read a port as one digit, a dash and one digit.  Of a longer path
they read the first three characters, which name another port; only the pattern
of connection lines goes on to the colon. -/
set_option autoImplicit false

namespace StoringDevices

/-! ## Paths -/

/-- A device path: a bus, a port, and the ports of the hubs below it. -/
def IsPath (path : CppString) : Prop :=
  ∃ (bus port : CppString) (hubs : List CppString), IsNumber bus ∧ IsNumber port ∧
    (∀ n ∈ hubs, IsNumber n) ∧ path = bus ++ '-' :: (port ++ hubs.flatMap fun n => '.' :: n)

/-- The mentions in the line of a port, by either front, are the one that
follows `before`. -/
def OnlyMention (line : LogLine) (front before : CppString) : Prop :=
  ∀ front' ∈ ["usb ".toList, "usb-storage ".toList], ∀ a port b, IsPort port →
    cStr line.text = a ++ (front' ++ (port ++ b)) → front' = front ∧ a = before

/-- The single device path of the line is `path`, in `usb path:` or in
`usb-storage path:`. -/
def PathLine (line : LogLine) (path : CppString) : Prop :=
  IsPath path ∧ ∃ front before after,
    (front = "usb ".toList ∨ front = "usb-storage ".toList) ∧
    cStr line.text = before ++ (front ++ (path ++ ':' :: after)) ∧ OnlyMention line front before

/-- Fronts that start at the end of `before` only. -/
theorem onlyMention_of_starts {line : LogLine} {front before : CppString}
    (inside : before <+: cStr line.text)
    (starts : ∀ n ∈ List.range ((cStr line.text).length + 1),
      ∀ front' ∈ ["usb ".toList, "usb-storage ".toList],
        front' <+: (cStr line.text).drop n → front' = front ∧ n = before.length) :
    OnlyMention line front before := by
  intro front' known a port b _ split
  have bound : a.length < (cStr line.text).length + 1 := by
    rw [split, List.length_append]
    omega
  have here : front' <+: (cStr line.text).drop a.length := by
    rw [split, List.drop_left]
    exact List.prefix_append front' _
  obtain ⟨same, width⟩ := starts a.length (List.mem_range.mpr bound) front' known here
  refine ⟨same, ?_⟩
  have cut : a = (cStr line.text).take before.length := by rw [← width, split, List.take_left]
  rw [cut]
  exact (List.prefix_iff_eq_take.mp inside).symm

/-- The port that the patterns read of a path. -/
def readPort (path : CppString) : Option CppString :=
  if IsPort (path.take 3) then some (path.take 3) else none

theorem IsNumber.ofPath {s : CppString} (isNumber : IsNumber s) : OfPath s :=
  fun c member => .inl (isNumber.2 c member)

theorem IsPath.ofPath {path : CppString} (isPath : IsPath path) : OfPath path := by
  obtain ⟨bus, port, hubs, isBus, isPort, areHubs, rfl⟩ := isPath
  intro c member
  rcases List.mem_append.mp member with inBus | rest
  · exact isBus.ofPath c inBus
  · rcases List.mem_cons.mp rest with dash | rest
    · exact .inr (.inl dash)
    · rcases List.mem_append.mp rest with inPort | inHubs
      · exact isPort.ofPath c inPort
      · obtain ⟨n, isHub, inside⟩ := List.mem_flatMap.mp inHubs
        rcases List.mem_cons.mp inside with dot | inside
        · exact .inr (.inr dot)
        · exact (areHubs n isHub).ofPath c inside

theorem IsPath.no_colon {path : CppString} (isPath : IsPath path) : ':' ∉ path :=
  isPath.ofPath.not_mem (by decide) (by decide) (by decide)

theorem IsPath.length {path : CppString} (isPath : IsPath path) : 3 ≤ path.length := by
  obtain ⟨bus, port, hubs, isBus, isPort, _, rfl⟩ := isPath
  have busLength := List.length_pos_iff.mpr isBus.1
  have portLength := List.length_pos_iff.mpr isPort.1
  rw [List.length_append, List.length_cons, List.length_append]
  omega

/-! ## What the patterns read -/

section Reading
variable {line : LogLine} {path front before after : CppString} (isPath : IsPath path)
  (text : cStr line.text = before ++ (front ++ (path ++ ':' :: after)))
  (only : OnlyMention line front before)
include text

theorem names_path (isPort : IsPort (path.take 3)) : names front line (path.take 3) [] := by
  refine ⟨isPort, before, path.drop 3 ++ ':' :: after, ?_⟩
  rw [text, List.append_nil, List.append_assoc, List.append_assoc, ← List.append_assoc (path.take 3),
    List.take_append_drop]

include only

/-- A mention read in the line is that of the path. -/
theorem mention_of_path {front' port b : CppString}
    (known : front' ∈ ["usb ".toList, "usb-storage ".toList]) (named : names front' line port b) :
    front' = front ∧ port ++ b <+: path ++ ':' :: after := by
  obtain ⟨isPort, a, rest, split⟩ := named
  have shape : cStr line.text = a ++ (front' ++ (port ++ (b ++ rest))) := by
    rw [← split]
    simp only [List.append_assoc]
  obtain ⟨same, here⟩ := only front' known a port (b ++ rest) isPort shape
  refine ⟨same, rest, ?_⟩
  rw [shape, here, same] at text
  have tails := List.append_cancel_left (List.append_cancel_left text)
  rw [List.append_assoc]
  exact tails

include isPath

theorem port_of_path {front' port : CppString}
    (known : front' ∈ ["usb ".toList, "usb-storage ".toList]) (named : names front' line port []) :
    front' = front ∧ port = path.take 3 := by
  obtain ⟨same, rest, split⟩ := mention_of_path text only known named
  refine ⟨same, ?_⟩
  have cut := congrArg (List.take 3) split
  have width := named.1.length
  rw [List.append_nil, List.take_append_of_le_length (by omega),
    List.take_append_of_le_length isPath.length, ← width, List.take_length] at cut
  rw [width] at cut
  exact cut

theorem storagePort_path :
    storagePort line = if front = "usb-storage ".toList then readPort path else none := by
  cases storage : storagePort line with
  | some port =>
      obtain ⟨same, cut⟩ := port_of_path isPath text only (by simp) (storagePort_some storage)
      have isPort := (storagePort_some storage).1
      rw [cut] at isPort
      rw [if_pos same.symm, readPort, if_pos isPort, cut]
  | none =>
      by_cases own : front = "usb-storage ".toList
      · rw [if_pos own, readPort]
        by_cases isPort : IsPort (path.take 3)
        · have named := names_path text isPort
          rw [own] at named
          exact absurd named (storagePort_none storage _)
        · rw [if_neg isPort]
      · rw [if_neg own]

theorem usbPort_path : usbPort line = if front = "usb ".toList then readPort path else none := by
  cases usb : usbPort line with
  | some port =>
      obtain ⟨same, cut⟩ := port_of_path isPath text only (by simp) (usbPort_some usb)
      have isPort := (usbPort_some usb).1
      rw [cut] at isPort
      rw [if_pos same.symm, readPort, if_pos isPort, cut]
  | none =>
      by_cases own : front = "usb ".toList
      · rw [if_pos own, readPort]
        by_cases isPort : IsPort (path.take 3)
        · have named := names_path text isPort
          rw [own] at named
          exact absurd named (usbPort_none usb _)
        · rw [if_neg isPort]
      · rw [if_neg own]

/-- Connection lines are read up to the colon. -/
theorem newPort_path {port : CppString} (new : newPort line = some port) : port = path := by
  have named := newPort_some new
  obtain ⟨_, rest, split⟩ := mention_of_path text only (by simp) named
  have width := named.1.length
  by_cases short : path.length = 3
  · have cut := congrArg (List.take 3) split
    rw [List.append_assoc, List.take_append_of_le_length (by omega),
      List.take_append_of_le_length (by omega), ← width, List.take_length] at cut
    rw [width, ← short, List.take_length] at cut
    exact cut
  · exfalso
    have long : 3 < path.length := by
      have least := isPath.length
      omega
    have fourth := congrArg (fun s : CppString => s[3]?) split
    simp only [List.append_assoc] at fourth
    rw [List.getElem?_append_right (by omega), List.getElem?_append_left long, width] at fourth
    have colon : path[3]? = some ':' := by
      rw [← fourth]
      rfl
    exact isPath.no_colon (List.mem_of_getElem? colon)

/-- A connection line of another path than the port read is not recognised. -/
theorem newPort_none_of_path {other : CppString} (read : readPort path = some other)
    (ne : other ≠ path) : newPort line = none := by
  cases new : newPort line with
  | none => rfl
  | some opened =>
      exfalso
      have same := newPort_path isPath text only new
      obtain ⟨_, cut⟩ := port_of_path isPath text only (by simp) (newPort_some new).usb
      unfold readPort at read
      split at read
      · exact ne (by rw [← same, cut, Option.some.inj read])
      · cases read

end Reading

/-! ## The frame of a line -/

/-- The line changes the record of `path` only, and `usb_map` only by closing
the open storage session of that record. -/
structure FramedBy (path : CppString) (line : LogLine) (state after : State) : Prop where
  records : ∀ k, k ≠ path → after.usbInterfacesMap[k]? = state.usbInterfacesMap[k]?
  entries : after.usbMap ≠ state.usbMap → ∃ element : UsbInterface,
    state.usbInterfacesMap[path]? = some element ∧ element.isOpenStorage = true ∧
    after.usbMap = recordClosing state.usbMap ⟨path, heard path element line, logTime line⟩

/-- The line tells the record of `port` nothing new: where it flags the port, the
record is flagged; where it informs the port, the record holds what the line
announces, and a disconnection finds it empty or not storage. -/
def LeavesRecord (line : LogLine) (interfaces : InterfacesMap) (port : CppString) : Prop :=
  ∀ element : UsbInterface, interfaces[port]? = some element →
    (storagePort line = some port → element.isStorageDevice = true) ∧
    (storagePort line = none → usbPort line = some port → AlreadySaid line element ∧
      (disconnects line = true → element.isEmpty = true ∨ element.isStorageDevice = false))

theorem heard_eq_self_iff {port : CppString} {element : UsbInterface} {line : LogLine} :
    heard port element line = element ↔
      (storagePort line = some port → element.isStorageDevice = true) ∧
        (storagePort line = none → usbPort line = some port → AlreadySaid line element) := by
  unfold heard
  cases storagePort line with
  | some told =>
      by_cases own : told = port
      · simp [own, flagged_eq_self_iff]
      · simp [own]
  | none =>
      by_cases own : usbPort line = some port
      · simp [own, announce_eq_self_iff]
      · simp [own]

section Frame
variable {line : LogLine} {interfaces : InterfacesMap}

theorem closing_of_port {closing : Closing} (found : closingOf line interfaces = some closing) :
    usbPort line = some closing.port ∧ (stepInterfaces line interfaces)[closing.port]? =
        some initializeUsbInterface ∧
      ∃ element, interfaces[closing.port]? = some element ∧ element.isOpenStorage = true ∧
        closing = ⟨closing.port, heard closing.port element line, logTime line⟩ := by
  obtain ⟨here, time⟩ := closingOf_disconnect found
  obtain ⟨_, element, present, live, record⟩ := closing_heard found
  have spec := effect_spec line interfaces
  rw [here] at spec
  cases spec with
  | disconnect _ usb _ _ _ _ =>
      refine ⟨usb, ?_, element, present, live, ?_⟩
      · unfold stepInterfaces
        rw [here, apply_disconnect_getElem?, if_pos rfl]
      · cases closing
        simp only at record time
        rw [← record, ← time]

/-- A line touches no record but the ones it names. -/
theorem step_unnamed {k : CppString} (storage : storagePort line ≠ some k)
    (usb : usbPort line ≠ some k) (new : newPort line ≠ some k) :
    (stepInterfaces line interfaces)[k]? = interfaces[k]? := by
  have unopened : ∀ told, effect line interfaces ≠ .connect told k := by
    intro told here
    have spec := effect_spec line interfaces
    rw [here] at spec
    cases spec with
    | connect _ _ named _ => exact new named
  have quiet : ∀ element, heard k element line = element := by
    intro element
    unfold heard
    cases flag : storagePort line with
    | some other =>
        have ne : other ≠ k := fun same => storage (by rw [flag, same])
        simp [ne]
    | none => simp [usb]
  rcases step_unopened unopened with ⟨record, here, _⟩ | kept
  · exfalso
    have spec := effect_spec line interfaces
    rw [here] at spec
    cases spec with
    | disconnect _ told _ _ _ _ => exact usb told
  · rw [kept]
    cases interfaces[k]? with
    | none => rfl
    | some element => rw [Option.map_some, quiet]

/-- A disconnect line that opens no port closes the open storage record of its port. -/
theorem closes_open_storage {port : CppString} {element : UsbInterface}
    (noNew : newPort line = none) (storage : storagePort line = none)
    (usb : usbPort line = some port) (announced : disconnects line = true)
    (present : interfaces[port]? = some element) (live : element.isOpenStorage = true) :
    (stepInterfaces line interfaces)[port]? = some initializeUsbInterface := by
  have refused : acceptedPort line (informed line port interfaces) = none :=
    acceptedPort_of_none noNew
  have stillOpen : (announce line element).isOpenStorage = true := by
    rw [announce_isOpenStorage, live]
  have record : closedRecord line (informed line port interfaces) port =
      some (announce line element) := by
    unfold closedRecord
    rw [if_pos announced, informed_getElem?, if_pos rfl, present, Option.map_some,
      Option.filter_some, if_pos stillOpen]
  unfold stepInterfaces
  rw [effect_disconnect storage usb refused record, apply_disconnect_getElem?, if_pos rfl]

/-- For a line that opens no port. -/
theorem unchanged_iff_leaves (noNew : newPort line = none) (port : CppString) :
    (stepInterfaces line interfaces)[port]? = interfaces[port]? ↔
      LeavesRecord line interfaces port := by
  have unopened : ∀ told, effect line interfaces ≠ .connect told port := by
    intro told here
    have spec := effect_spec line interfaces
    rw [here] at spec
    cases spec with
    | connect _ _ new _ =>
        rw [noNew] at new
        cases new
  constructor
  · intro unchanged element present
    have kept : (stepInterfaces line interfaces)[port]? = some element := unchanged.trans present
    have same : heard port element line = element := by
      rcases step_unopened unopened with ⟨record, here, closed⟩ | hears
      · -- the closed record was open, and the initial one is not
        exfalso
        have found : closingOf line interfaces = some ⟨port, record, logTime line⟩ := by
          simp [closingOf, here, Effect.closing]
        obtain ⟨_, element', present', live, _⟩ := closing_heard found
        rw [present, Option.some.injEq] at present'
        rw [kept, Option.some.injEq, present'] at closed
        rw [closed] at live
        cases live
      · rw [hears, present, Option.map_some, Option.some.injEq] at kept
        exact kept
    obtain ⟨flagging, informing⟩ := heard_eq_self_iff.mp same
    refine ⟨flagging, fun storage usb => ⟨informing storage usb, ?_⟩⟩
    intro announced
    by_contra live
    simp only [not_or, Bool.not_eq_true, Bool.not_eq_false] at live
    have isOpen : element.isOpenStorage = true := isOpenStorage_iff.mpr live
    rw [closes_open_storage noNew storage usb announced present isOpen, Option.some.injEq] at kept
    rw [← kept] at isOpen
    cases isOpen
  · intro leaves
    rcases step_unopened unopened with ⟨record, here, _⟩ | hears
    · exfalso
      have found : closingOf line interfaces = some ⟨port, record, logTime line⟩ := by
        simp [closingOf, here, Effect.closing]
      obtain ⟨usb, _, element, present, live, _⟩ := closing_of_port found
      have spec := effect_spec line interfaces
      rw [here] at spec
      cases spec with
      | disconnect storage _ _ announced _ _ =>
          obtain ⟨notEmpty, flag⟩ := isOpenStorage_iff.mp live
          rcases ((leaves element present).2 storage usb).2 announced with empty | unflagged
          · rw [notEmpty] at empty
            cases empty
          · rw [flag] at unflagged
            cases unflagged
    · rw [hears]
      cases present : interfaces[port]? with
      | none => rfl
      | some element =>
          obtain ⟨flagging, informing⟩ := leaves element present
          have same := heard_eq_self_iff.mpr
            ⟨flagging, fun storage usb => (informing storage usb).1⟩
          rw [Option.map_some, same]

end Frame

/-- What a line of a path does, in every state: it keeps to the record of the
path exactly when the patterns read no other port of it, or leave that port's
record as it is. -/
theorem path_line_framed_iff {line : LogLine} {path : CppString} (isLine : PathLine line path)
    (state : State) :
    (∃ after, processLine line state = some after ∧ FramedBy path line state after) ↔
      readPort path = none ∨ readPort path = some path ∨
        ∃ other, readPort path = some other ∧ LeavesRecord line state.usbInterfacesMap other := by
  obtain ⟨isPath, front, before, rest, fronts, text, only⟩ := isLine
  have storage := storagePort_path isPath text only
  have usb := usbPort_path isPath text only
  rw [processLine_eq]
  constructor
  · intro framed
    obtain ⟨after, result, frame⟩ := framed
    rw [Option.some.injEq] at result
    cases read : readPort path with
    | none => exact .inl rfl
    | some other =>
        by_cases own : other = path
        · exact .inr (.inl (by rw [own]))
        · have kept := frame.records other own
          rw [← result] at kept
          exact .inr (.inr ⟨other, rfl, (unchanged_iff_leaves
            (newPort_none_of_path isPath text only read own) other).mp kept⟩)
  · intro keeps
    -- another port that the patterns read is left as it is
    have others : ∀ k, k ≠ path → readPort path = some k →
        (stepInterfaces line state.usbInterfacesMap)[k]? = state.usbInterfacesMap[k]? := by
      intro k ne read
      rcases keeps with none_ | own | ⟨other, same, leaves⟩
      · rw [none_] at read
        cases read
      · rw [own, Option.some.injEq] at read
        exact absurd read.symm ne
      · rw [same, Option.some.injEq] at read
        rw [read] at leaves same
        exact (unchanged_iff_leaves (newPort_none_of_path isPath text only same ne) k).mpr leaves
    refine ⟨_, rfl, ?_, ?_⟩
    · intro k ne
      simp only
      by_cases read : readPort path = some k
      · exact others k ne read
      · apply step_unnamed
        · rw [storage]
          split
          · exact read
          · simp
        · rw [usb]
          split
          · exact read
          · simp
        · intro new
          exact ne (newPort_path isPath text only new)
    · intro changed
      simp only at changed ⊢
      cases found : closingOf line state.usbInterfacesMap with
      | none =>
          rw [found] at changed
          exact absurd rfl changed
      | some closing =>
          obtain ⟨told, closed, element, present, live, shape⟩ := closing_of_port found
          have own : closing.port = path := by
            by_contra ne
            have read : readPort path = some closing.port := by
              rw [usb] at told
              split at told
              · exact told
              · cases told
            rw [others closing.port ne read, present, Option.some.injEq] at closed
            rw [closed] at live
            cases live
          rw [own] at present shape
          exact ⟨element, present, live, by rw [shape]⟩

/-! The disconnect line of `1-10`. -/

def tenthPort : LogLine := { text := "usb 1-10: USB disconnect".toList }

theorem tenthPort_pathLine : PathLine tenthPort "1-10".toList := by
  have bus : IsNumber "1".toList := by simp [IsNumber, isDigit]
  have port : IsNumber "10".toList := by simp [IsNumber, isDigit]
  refine ⟨⟨"1".toList, "10".toList, [], bus, port, by simp, by decide +kernel⟩,
    "usb ".toList, [], " USB disconnect".toList, .inl rfl, by decide +kernel, ?_⟩
  exact onlyMention_of_starts List.nil_prefix (by decide +kernel)

theorem tenthPort_framed :
    ∃ after, processLine tenthPort {} = some after ∧
      FramedBy "1-10".toList tenthPort {} after := by
  apply (path_line_framed_iff tenthPort_pathLine {}).mpr
  refine .inr (.inr ⟨"1-1".toList, by decide, ?_⟩)
  intro element present
  cases present

/-- A stick on `1-1`. -/
def stickOnFirst : State where
  usbInterfacesMap := (∅ : InterfacesMap).insert "1-1".toList
    { initializeUsbInterface with isEmpty := false, isStorageDevice := true }

theorem tenthPort_closes_first :
    PathLine tenthPort "1-10".toList ∧
      ¬ ∃ after, processLine tenthPort stickOnFirst = some after ∧
        FramedBy "1-10".toList tenthPort stickOnFirst after := by
  refine ⟨tenthPort_pathLine, ?_⟩
  intro framed
  obtain ⟨after, result, frame⟩ := framed
  have kept := frame.records "1-1".toList (by decide)
  rw [processLine_eq, Option.some.injEq] at result
  rw [← result] at kept
  exact absurd kept (by decide +kernel)

end StoringDevices
