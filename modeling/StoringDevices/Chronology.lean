import StoringDevices.Conservation
import StoringDevices.Origins
import StoringDevices.Rotation

/-! # Rows in the order of the log

A completed row shows the time of a connection line and that of a disconnection
line after it.  So whatever order the times of a log are written in, no completed
row ends before it begins, and the rows of an entry end one after the other. -/
set_option autoImplicit false

namespace StoringDevices

/-- The line that opened a closed record comes before the line that closes it. -/
theorem closing_after_opening {log : List LogLine} {position : Nat} {closing : Closing}
    (closed : ClosedAt log position closing) :
    ∃ (earlier : Nat) (opening ending : LogLine), earlier < position ∧
      log[earlier]? = some opening ∧ (newPort opening).isSome = true ∧
      logTime opening = closing.record.connectionTime ∧
      log[position]? = some ending ∧ logTime ending = closing.time := by
  obtain ⟨line, here, closes⟩ := Option.bind_eq_some_iff.mp (mem_events.mp (closedAt_iff.mp closed))
  obtain ⟨_, record, known, live, same⟩ := closing_heard closes
  have opened : record.isEmpty = false ∧
      record.connectionTime = closing.record.connectionTime := by
    rw [same]
    exact ⟨(isOpenStorage_iff.mp live).1, (heard_connectionTime closing.port record line).symm⟩
  have time := (closingOf_disconnect closes).2
  obtain ⟨opening, member, new, start⟩ :=
    ((loop_origins (log.take position)).1 closing.port record known).opened opened.1
  obtain ⟨earlier, inside⟩ := List.mem_iff_getElem?.mp member
  rw [List.getElem?_take] at inside
  split at inside
  · next less =>
      exact ⟨earlier, opening, line, less, inside, new, start.trans opened.2, here, time.symm⟩
  · cases inside

section Ordered
variable {R : CppString → CppString → Prop} {log : List LogLine}
  (ordered : (log.map logTime).Pairwise R)
include ordered

theorem ordered_lines {i j : Nat} {first second : LogLine} (less : i < j)
    (here : log[i]? = some first) (there : log[j]? = some second) :
    R (logTime first) (logTime second) := by
  obtain ⟨inside, rfl⟩ := List.getElem?_eq_some_iff.mp here
  obtain ⟨inside', rfl⟩ := List.getElem?_eq_some_iff.mp there
  have related := List.pairwise_iff_getElem.mp ordered i j (by simpa using inside)
    (by simpa using inside') less
  simpa using related

/-- In the report of a log whose times are in some order, the disconnection times of
each entry are in that order, and each completed row begins before it ends. -/
theorem rows_in_log_order :
    ∃ final, getUSBsInfo log = some final ∧
      ∀ (serial : CppString) (entry : UsbInfo), final[serial]? = some entry →
        entry.disconnectionTimes.Pairwise R ∧
          ∀ (i : Nat) (connection disconnection : CppString),
            entry.connectionTimes[i]? = some connection →
            entry.disconnectionTimes[i]? = some disconnection → R connection disconnection := by
  refine ⟨_, getUSBsInfo_eq log, ?_⟩
  intro serial entry present
  obtain ⟨_, _, _, added, _, _, connections, disconnections⟩ := final_entry_flushed present
  cases before : (loopUsbMap log)[serial]? with
  | none =>
      simp only [before, Option.getD_none] at disconnections
      rw [disconnections]
      exact ⟨List.Pairwise.nil, by simp⟩
  | some earlier =>
      simp only [before, Option.getD_some] at connections disconnections
      obtain ⟨pairs, increasing, closings, starts, ends⟩ := (loop_entry_aligned before).appended
      rw [disconnections, connections, starts, ends]
      constructor
      · rw [List.pairwise_map]
        apply increasing.imp_of_mem
        intro a b inFirst inSecond less
        obtain ⟨_, _, ending, _, _, _, _, there, time⟩ := closing_after_opening (closings a inFirst).1.1
        obtain ⟨_, _, ending', _, _, _, _, there', time'⟩ :=
          closing_after_opening (closings b inSecond).1.1
        rw [← time, ← time']
        exact ordered_lines ordered less there there'
      · intro i connection disconnection starting stopping
        rw [List.getElem?_map] at stopping
        obtain ⟨pair, atRow, rfl⟩ := Option.map_eq_some_iff.mp stopping
        have row : i < pairs.length := (List.getElem?_eq_some_iff.mp atRow).1
        rw [List.getElem?_append_left (by simpa using row), List.getElem?_map, atRow,
          Option.map_some, Option.some.injEq] at starting
        obtain ⟨_, opening, ending, less, here, _, start, there, time⟩ :=
          closing_after_opening (closings pair (List.mem_of_getElem? atRow)).1.1
        rw [← starting, ← start, ← time]
        exact ordered_lines ordered less here there

end Ordered

/-- A stick that is used for nine minutes. -/
def datedSession : List LogLine :=
  [{ text := "Jan 12 09:00:01 pc kernel: usb 1-1: new".toList },
    { text := "Jan 12 09:00:02 pc kernel: usb-storage 1-1:1.0".toList },
    { text := "Jan 12 09:09:30 pc kernel: usb 1-1: USB disconnect".toList }]

theorem datedSession_rows :
    ∃ final, getUSBsInfo datedSession = some final ∧
      ∀ (serial : CppString) (entry : UsbInfo), final[serial]? = some entry →
        entry.disconnectionTimes.Pairwise (fun a b => a < b) ∧
          ∀ (i : Nat) (connection disconnection : CppString),
            entry.connectionTimes[i]? = some connection →
            entry.disconnectionTimes[i]? = some disconnection → connection < disconnection := by
  apply rows_in_log_order
  decide +kernel

end StoringDevices
