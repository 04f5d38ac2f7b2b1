import StoringDevices.Ledger

/-! # Where the recorded times come from

Events carry the position of their line in the log.  An accepted connection line
opens a port; the record stays open until the one closing that records it, or
until the flush.  So the accepted positions are, each once, those recorded by a
closing and those of the ports open at the end. -/
set_option autoImplicit false

namespace StoringDevices

open Std (ExtTreeMap)

/-! ## Events and their positions -/

section Events
variable {A : Type}

/-- What `f` observes at the line at `position`, in the state before it. -/
def eventAt (f : LogLine → InterfacesMap → Option A) (log : List LogLine) (position : Nat) : Option A :=
  log[position]?.bind fun line => f line (loopInterfaces (log.take position))

def events (f : LogLine → InterfacesMap → Option A) (log : List LogLine) : List (Nat × A) :=
  (List.range log.length).filterMap fun position =>
    (eventAt f log position).map fun a => (position, a)

theorem eventAt_append {f : LogLine → InterfacesMap → Option A} {log : List LogLine}
    {position : Nat} (inside : position < log.length) (rest : List LogLine) :
    eventAt f (log ++ rest) position = eventAt f log position := by
  unfold eventAt
  rw [List.getElem?_append_left inside, List.take_append_of_le_length (by omega)]

theorem eventAt_take {f : LogLine → InterfacesMap → Option A} {log : List LogLine}
    {count position : Nat} (inside : position < (log.take count).length) :
    eventAt f (log.take count) position = eventAt f log position := by
  conv_rhs => rw [← List.take_append_drop count log]
  exact (eventAt_append inside (log.drop count)).symm

theorem eventAt_last (f : LogLine → InterfacesMap → Option A) (log : List LogLine) (line : LogLine) :
    eventAt f (log ++ [line]) log.length = f line (loopInterfaces log) := by
  simp [eventAt]

theorem events_snoc (f : LogLine → InterfacesMap → Option A) (log : List LogLine) (line : LogLine) :
    events f (log ++ [line]) =
      events f log ++ ((f line (loopInterfaces log)).map fun a => (log.length, a)).toList := by
  unfold events
  rw [List.length_append, List.length_singleton, List.range_succ, List.filterMap_append]
  congr 1
  · apply List.filterMap_congr
    intro position member
    rw [eventAt_append (List.mem_range.mp member)]
  · simp only [List.filterMap_cons, List.filterMap_nil, eventAt_last]
    cases f line (loopInterfaces log) <;> rfl

theorem mem_events {f : LogLine → InterfacesMap → Option A} {log : List LogLine} {position : Nat}
    {a : A} : (position, a) ∈ events f log ↔ eventAt f log position = some a := by
  unfold events
  rw [List.mem_filterMap]
  constructor
  · intro h
    obtain ⟨i, _, found⟩ := h
    obtain ⟨b, here, same⟩ := Option.map_eq_some_iff.mp found
    cases same
    exact here
  · intro here
    have inside : position < log.length := by
      by_contra outside
      simp [eventAt, List.getElem?_eq_none (Nat.le_of_not_lt outside)] at here
    exact ⟨position, List.mem_range.mpr inside, by rw [here]; rfl⟩

theorem event_inside {f : LogLine → InterfacesMap → Option A} {log : List LogLine} {position : Nat}
    {a : A} (member : (position, a) ∈ events f log) : position < log.length := by
  by_contra outside
  rw [mem_events] at member
  simp [eventAt, List.getElem?_eq_none (Nat.le_of_not_lt outside)] at member

theorem events_increasing (f : LogLine → InterfacesMap → Option A) (log : List LogLine) :
    (events f log).Pairwise fun a b => a.1 < b.1 := by
  induction log using List.reverseRecOn with
  | nil => exact List.Pairwise.nil
  | append_singleton log line ih =>
      rw [events_snoc, List.pairwise_append]
      refine ⟨ih, by cases f line (loopInterfaces log) <;> simp, ?_⟩
      rintro ⟨i, a⟩ before ⟨j, b⟩ last
      cases h : f line (loopInterfaces log) with
      | none => simp [h] at last
      | some c =>
          simp only [h, Option.map_some, Option.toList_some, List.mem_singleton,
            Prod.mk.injEq] at last
          have := event_inside before
          omega

end Events

/-- The port the line opens. -/
def openedOn (line : LogLine) (interfaces : InterfacesMap) : Option CppString :=
  match effect line interfaces with
  | .connect _ opened => some opened
  | _ => none

def openedEvents (log : List LogLine) : List (Nat × CppString) := events openedOn log

def closingEvents (log : List LogLine) : List (Nat × Closing) := events closingOf log

theorem closingEvents_map_snd (log : List LogLine) :
    (closingEvents log).map Prod.snd = loopClosings log := by
  induction log using List.reverseRecOn with
  | nil => rfl
  | append_singleton log line ih =>
      have closings : loopClosings (log ++ [line]) =
          loopClosings log ++ (closingOf line (loopInterfaces log)).toList := by
        unfold loopClosings
        rw [runClosings_append]
        simp [runClosings, loopInterfaces]
      unfold closingEvents at ih ⊢
      rw [events_snoc, List.map_append, ih, closings]
      cases closingOf line (loopInterfaces log) <;> rfl

/-! ## Open ports -/

def openPorts (interfaces : InterfacesMap) : List CppString := (openRecords interfaces).map Prod.fst

/-- The connection time of a port whose record is not empty. -/
def openTime (interfaces : InterfacesMap) (port : CppString) : Option CppString :=
  (interfaces[port]?.filter fun element => !element.isEmpty).map UsbInterface.connectionTime

theorem mem_openRecords {interfaces : InterfacesMap} {slot : CppString × UsbInterface} :
    slot ∈ openRecords interfaces ↔ interfaces[slot.1]? = some slot.2 ∧ slot.2.isEmpty = false := by
  unfold openRecords
  rw [List.mem_filter, ExtTreeMap.mem_toList_iff_getElem?_eq_some]
  simp

theorem openPorts_nodup (interfaces : InterfacesMap) : (openPorts interfaces).Nodup := by
  have distinct : (interfaces.toList.map Prod.fst).Nodup := by
    rw [ExtTreeMap.map_fst_toList_eq_keys]
    exact ExtTreeMap.nodup_keys
  exact distinct.sublist (List.Sublist.map _ List.filter_sublist)

theorem openRecords_sorted (interfaces : InterfacesMap) :
    (openRecords interfaces).Pairwise fun a b => compare a.1 b.1 = .lt :=
  (Keyed.toList_sorted interfaces).sublist List.filter_sublist

/-- The open records of one port. -/
theorem openRecords_of_port (interfaces : InterfacesMap) (port : CppString) :
    (openRecords interfaces).filter (fun slot => slot.1 = port) =
      (interfaces[port]?.filter fun element => !element.isEmpty).toList.map
        fun element => (port, element) := by
  unfold openRecords
  rw [List.filter_comm, Keyed.toList_at]
  cases interfaces[port]? with
  | none => rfl
  | some element => cases empty : element.isEmpty <;> simp [Option.filter_some, empty]

theorem mem_openPorts {interfaces : InterfacesMap} {port : CppString} :
    port ∈ openPorts interfaces ↔ (openTime interfaces port).isSome = true := by
  unfold openPorts openTime
  rw [List.mem_map, Option.isSome_map]
  constructor
  · intro h
    obtain ⟨slot, member, rfl⟩ := h
    obtain ⟨present, live⟩ := mem_openRecords.mp member
    simp [present, live]
  · intro found
    obtain ⟨element, here⟩ := Option.isSome_iff_exists.mp found
    rw [Option.filter_eq_some_iff] at here
    exact ⟨(port, element), mem_openRecords.mpr ⟨here.1, by simpa using here.2⟩, rfl⟩

theorem openTime_of_eq {interfaces interfaces' : InterfacesMap} {port : CppString}
    {f : UsbInterface → UsbInterface} (same : interfaces'[port]? = interfaces[port]?.map f)
    (empty : ∀ element, (f element).isEmpty = element.isEmpty)
    (time : ∀ element, (f element).connectionTime = element.connectionTime) :
    openTime interfaces' port = openTime interfaces port := by
  unfold openTime
  rw [same]
  cases interfaces[port]? with
  | none => rfl
  | some element =>
      simp only [Option.map_some, Option.filter_some, empty]
      split <;> simp [time]

theorem openTime_informed (line : LogLine) (port k : CppString) (interfaces : InterfacesMap) :
    openTime (informed line port interfaces) k = openTime interfaces k := by
  by_cases here : port = k
  · exact openTime_of_eq (by rw [informed_getElem?, if_pos here]) (announce_isEmpty line)
      (announce_connectionTime line)
  · exact openTime_of_eq (f := id) (by rw [informed_getElem?, if_neg here, Option.map_id_apply])
      (fun _ => rfl) (fun _ => rfl)

/-- How a line changes the open ports and their times. -/
theorem openTime_step (line : LogLine) (interfaces : InterfacesMap) (k : CppString) :
    openTime (stepInterfaces line interfaces) k =
      match effect line interfaces with
      | .connect _ opened => if opened = k then some (logTime line) else openTime interfaces k
      | .disconnect port _ => if port = k then none else openTime interfaces k
      | _ => openTime interfaces k := by
  unfold stepInterfaces
  cases effect line interfaces with
  | ignore => rfl
  | flag port =>
      by_cases here : port = k
      · exact openTime_of_eq (f := flagged) (by rw [apply_flag_getElem?, if_pos here])
          (fun _ => rfl) (fun _ => rfl)
      · exact openTime_of_eq (f := id)
          (by rw [apply_flag_getElem?, if_neg here, Option.map_id_apply]) (fun _ => rfl) (fun _ => rfl)
  | inform port => exact openTime_informed line port k interfaces
  | connect port opened =>
      by_cases here : opened = k
      · simp [openTime, apply_connect_getElem?, here, connected]
      · rw [← openTime_informed line port k interfaces]
        simp [openTime, apply_connect_getElem?, here]
  | disconnect port record =>
      by_cases here : port = k
      · simp [openTime, apply_disconnect_getElem?, here, initializeUsbInterface]
      · simp [openTime, apply_disconnect_getElem?, here]

theorem connect_was_closed {line : LogLine} {interfaces : InterfacesMap} {port opened : CppString}
    (here : effect line interfaces = .connect port opened) : opened ∉ openPorts interfaces := by
  have spec := effect_spec line interfaces
  rw [here] at spec
  cases spec with
  | connect storage usb new free =>
      rw [mem_openPorts, ← openTime_informed line port opened interfaces]
      unfold openTime
      cases present : (informed line port interfaces)[opened]? with
      | none => simp
      | some element =>
          rw [present, Option.all_some] at free
          simp [free]

theorem disconnect_was_open {line : LogLine} {interfaces : InterfacesMap} {port : CppString}
    {record : UsbInterface} (here : effect line interfaces = .disconnect port record) :
    openTime interfaces port = some record.connectionTime := by
  have spec := effect_spec line interfaces
  rw [here] at spec
  cases spec with
  | disconnect storage usb refused announced present live =>
      rw [← openTime_informed line port port interfaces]
      unfold openTime
      simp [present, (isOpenStorage_iff.mp live).1]

/-- The ports open after a line, up to order. -/
theorem openPorts_step (line : LogLine) (interfaces : InterfacesMap) :
    match effect line interfaces with
    | .connect _ opened =>
        (openPorts (stepInterfaces line interfaces)).Perm (opened :: openPorts interfaces)
    | .disconnect port _ =>
        (openPorts interfaces).Perm (port :: openPorts (stepInterfaces line interfaces))
    | _ => (openPorts (stepInterfaces line interfaces)).Perm (openPorts interfaces) := by
  have after := openTime_step line interfaces
  cases here : effect line interfaces with
  | ignore =>
      simp only [here] at after
      exact (List.perm_ext_iff_of_nodup (openPorts_nodup _) (openPorts_nodup _)).mpr fun k => by
        rw [mem_openPorts, mem_openPorts, after k]
  | flag port =>
      simp only [here] at after
      exact (List.perm_ext_iff_of_nodup (openPorts_nodup _) (openPorts_nodup _)).mpr fun k => by
        rw [mem_openPorts, mem_openPorts, after k]
  | inform port =>
      simp only [here] at after
      exact (List.perm_ext_iff_of_nodup (openPorts_nodup _) (openPorts_nodup _)).mpr fun k => by
        rw [mem_openPorts, mem_openPorts, after k]
  | connect port opened =>
      simp only [here] at after
      have fresh := connect_was_closed here
      have distinct : (opened :: openPorts interfaces).Nodup :=
        List.nodup_cons.mpr ⟨fresh, openPorts_nodup interfaces⟩
      exact (List.perm_ext_iff_of_nodup (openPorts_nodup _) distinct).mpr fun k => by
        rw [List.mem_cons, mem_openPorts, mem_openPorts, after k]
        by_cases same : opened = k
        · simp [same]
        · simp [same, Ne.symm same]
  | disconnect port record =>
      simp only [here] at after
      have was : port ∈ openPorts interfaces := by
        rw [mem_openPorts, disconnect_was_open here]
        rfl
      have gone : port ∉ openPorts (stepInterfaces line interfaces) := by
        rw [mem_openPorts, after port]
        simp
      have distinct : (port :: openPorts (stepInterfaces line interfaces)).Nodup :=
        List.nodup_cons.mpr ⟨gone, openPorts_nodup _⟩
      exact (List.perm_ext_iff_of_nodup (openPorts_nodup _) distinct).mpr fun k => by
        rw [List.mem_cons]
        by_cases same : port = k
        · subst same; simp [was]
        · rw [mem_openPorts, mem_openPorts, after k]
          simp [same, Ne.symm same]

/-! ## The line that opened a port -/

/-- The position of the last line that opened the port. -/
def origin (log : List LogLine) (port : CppString) : Nat :=
  (((openedEvents log).filter fun e => e.2 = port).getLast?.map Prod.fst).getD 0

def timeAt (log : List LogLine) (position : Nat) : CppString := (log[position]?.map logTime).getD []

theorem timeAt_append {log : List LogLine} {position : Nat} (inside : position < log.length)
    (rest : List LogLine) : timeAt (log ++ rest) position = timeAt log position := by
  unfold timeAt
  rw [List.getElem?_append_left inside]

theorem timeAt_take {log : List LogLine} {count position : Nat}
    (inside : position < (log.take count).length) :
    timeAt (log.take count) position = timeAt log position := by
  conv_rhs => rw [← List.take_append_drop count log]
  exact (timeAt_append inside (log.drop count)).symm

theorem openedEvents_snoc (log : List LogLine) (line : LogLine) :
    openedEvents (log ++ [line]) =
      openedEvents log ++
        ((openedOn line (loopInterfaces log)).map fun port => (log.length, port)).toList :=
  events_snoc openedOn log line

theorem origin_snoc (log : List LogLine) (line : LogLine) (port : CppString) :
    origin (log ++ [line]) port =
      if openedOn line (loopInterfaces log) = some port then log.length else origin log port := by
  unfold origin
  rw [openedEvents_snoc, List.filter_append]
  cases openedOn line (loopInterfaces log) with
  | none => simp
  | some opened =>
      by_cases same : opened = port
      · simp [same]
      · simp [same]

theorem loopInterfaces_snoc (log : List LogLine) (line : LogLine) :
    loopInterfaces (log ++ [line]) = stepInterfaces line (loopInterfaces log) := by
  unfold loopInterfaces
  rw [runInterfaces_append]
  rfl

/-- An open port carries the time of the line that opened it. -/
theorem origin_of_open (log : List LogLine) :
    ∀ port time, openTime (loopInterfaces log) port = some time →
      (origin log port, port) ∈ openedEvents log ∧ timeAt log (origin log port) = time := by
  induction log using List.reverseRecOn with
  | nil =>
      intro port time live
      simp [openTime, loopInterfaces, runInterfaces] at live
  | append_singleton log line ih =>
      intro port time live
      rw [loopInterfaces_snoc, openTime_step] at live
      rw [origin_snoc, openedEvents_snoc]
      have kept : openTime (loopInterfaces log) port = some time →
          (origin log port, port) ∈ openedEvents log ++
            ((openedOn line (loopInterfaces log)).map fun port => (log.length, port)).toList ∧
          timeAt (log ++ [line]) (origin log port) = time := by
        intro before
        obtain ⟨member, same⟩ := ih port time before
        exact ⟨List.mem_append_left _ member, by rw [timeAt_append (event_inside member), same]⟩
      cases here : effect line (loopInterfaces log) with
      | connect at_ opened =>
          rw [here] at live
          have opens : openedOn line (loopInterfaces log) = some opened := by simp [openedOn, here]
          by_cases same : opened = port
          · subst same
            simp only [if_true, Option.some.injEq] at live
            rw [opens, if_pos rfl]
            exact ⟨by simp, by simp [timeAt, live]⟩
          · simp only [if_neg same] at live
            rw [opens, if_neg (by simpa using same), ← opens]
            exact kept live
      | disconnect at_ record =>
          rw [here] at live
          have opens : openedOn line (loopInterfaces log) = none := by simp [openedOn, here]
          rw [opens, if_neg (by simp), ← opens]
          by_cases same : at_ = port
          · simp [same] at live
          · simp only [if_neg same] at live
            exact kept live
      | _ =>
          rw [here] at live
          have opens : openedOn line (loopInterfaces log) = none := by simp [openedOn, here]
          rw [opens, if_neg (by simp), ← opens]
          exact kept live

/-- The position of the line that opened the session a closing records. -/
def closingOrigin (log : List LogLine) (e : Nat × Closing) : Nat := origin (log.take e.1) e.2.port

theorem closingOrigin_append {log : List LogLine} {e : Nat × Closing} (inside : e.1 < log.length)
    (rest : List LogLine) : closingOrigin (log ++ rest) e = closingOrigin log e := by
  unfold closingOrigin
  rw [List.take_append_of_le_length (by omega)]

theorem closingOrigin_spec {log : List LogLine} {e : Nat × Closing} (member : e ∈ closingEvents log) :
    closingOrigin log e ∈ (openedEvents log).map Prod.fst ∧
      timeAt log (closingOrigin log e) = e.2.record.connectionTime := by
  obtain ⟨position, closing⟩ := e
  have here := mem_events.mp member
  obtain ⟨line, found, closes⟩ := Option.bind_eq_some_iff.mp here
  have live := disconnect_was_open (closingOf_disconnect closes).1
  obtain ⟨opened, time⟩ := origin_of_open (log.take position) closing.port _ live
  have earlier := event_inside opened
  constructor
  · refine List.mem_map.mpr ⟨(closingOrigin log (position, closing), closing.port), ?_, rfl⟩
    exact mem_events.mpr ((eventAt_take earlier).symm.trans (mem_events.mp opened))
  · rw [← time]
    exact (timeAt_take earlier).symm

/-- The lines that opened a port are, each once, those whose session was closed
and those whose port is still open. -/
theorem openedEvents_perm (log : List LogLine) :
    ((openedEvents log).map Prod.fst).Perm
      ((closingEvents log).map (closingOrigin log) ++
        (openPorts (loopInterfaces log)).map (origin log)) := by
  induction log using List.reverseRecOn with
  | nil => simp [openedEvents, closingEvents, events, openPorts, openRecords, loopInterfaces, runInterfaces]
  | append_singleton log line ih =>
      have closedBefore : (closingEvents log).map (closingOrigin (log ++ [line])) =
          (closingEvents log).map (closingOrigin log) := by
        apply List.map_congr_left
        intro e member
        exact closingOrigin_append (event_inside member) [line]
      have ports := openPorts_step line (loopInterfaces log)
      rw [openedEvents_snoc, loopInterfaces_snoc]
      unfold closingEvents at closedBefore ih ⊢
      rw [events_snoc]
      cases here : effect line (loopInterfaces log) with
      | connect at_ opened =>
          simp only [here] at ports
          have opens : openedOn line (loopInterfaces log) = some opened := by simp [openedOn, here]
          have closes : closingOf line (loopInterfaces log) = none := by
            simp [closingOf, here, Effect.closing]
          have others : (openPorts (loopInterfaces log)).map (origin (log ++ [line])) =
              (openPorts (loopInterfaces log)).map (origin log) := by
            apply List.map_congr_left
            intro port member
            have ne : opened ≠ port := fun same => connect_was_closed here (same ▸ member)
            rw [origin_snoc, opens, if_neg (by simpa using ne)]
          have now : origin (log ++ [line]) opened = log.length := by
            rw [origin_snoc, if_pos opens]
          have live := ports.map (origin (log ++ [line]))
          rw [List.map_cons, others, now] at live
          rw [opens, closes]
          simp only [Option.map_some, Option.map_none, Option.toList_some, Option.toList_none,
            List.append_nil, List.map_append, List.map_cons, List.map_nil, closedBefore]
          refine (ih.append_right [log.length]).trans ?_
          rw [List.append_assoc]
          refine List.Perm.append_left _ (List.Perm.trans ?_ live.symm)
          exact List.perm_append_comm
      | disconnect at_ record =>
          simp only [here] at ports
          have opens : openedOn line (loopInterfaces log) = none := by simp [openedOn, here]
          have closes : closingOf line (loopInterfaces log) = some ⟨at_, record, logTime line⟩ := by
            simp [closingOf, here, Effect.closing]
          have same : origin (log ++ [line]) = origin log := by
            funext port
            rw [origin_snoc, opens, if_neg (by simp)]
          have now : closingOrigin (log ++ [line]) (log.length, ⟨at_, record, logTime line⟩) =
              origin log at_ := by
            simp [closingOrigin]
          have live := ports.map (origin log)
          rw [List.map_cons] at live
          rw [opens, closes, same]
          simp only [Option.map_some, Option.map_none, Option.toList_some, Option.toList_none,
            List.append_nil, List.map_append, List.map_cons, List.map_nil, closedBefore, now]
          rw [List.append_assoc]
          exact ih.trans (List.Perm.append_left _ live)
      | _ =>
          simp only [here] at ports
          have opens : openedOn line (loopInterfaces log) = none := by simp [openedOn, here]
          have closes : closingOf line (loopInterfaces log) = none := by
            simp [closingOf, here, Effect.closing]
          have same : origin (log ++ [line]) = origin log := by
            funext port
            rw [origin_snoc, opens, if_neg (by simp)]
          rw [opens, closes, same]
          simp only [Option.map_none, Option.toList_none, List.append_nil, closedBefore]
          exact ih.trans (List.Perm.append_left _ (ports.map (origin log)).symm)

theorem openedPositions_nodup (log : List LogLine) : ((openedEvents log).map Prod.fst).Nodup := by
  have increasing := events_increasing openedOn log
  exact List.pairwise_map.mpr (increasing.imp fun h => Nat.ne_of_lt h)

end StoringDevices
