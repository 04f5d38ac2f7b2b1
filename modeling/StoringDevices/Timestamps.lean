import StoringDevices.DatePattern
import StoringDevices.Messages

/-! # The date of a line

What the two handlers store of a line is the date the pattern finds in it, and it
reads like the header of the line just where the pattern can begin there, or where
the text after a line terminator says the same. -/
set_option autoImplicit false

namespace StoringDevices

/-! ## The stored time -/

/-- The handlers store `time` of the line: as the connection time of the record
they take a connection for, or at the end of the disconnection times of an
entry. -/
inductive StoresTime (line : LogLine) (time : CppString) : Prop where
  | connection {interfaces after : InterfacesMap} {port : CppString} {element : UsbInterface}
      (accepted : checkIfNewDeviceConnected line.text interfaces = some (true, after))
      (new : newPort line = some port) (stored : after[port]? = some element)
      (here : element.connectionTime = time)
  | disconnection {interfaces after : InterfacesMap} {usbMap closed : UsbMap} {serial : CppString}
      {entry : UsbInfo}
      (done : checkIfDeviceDisconnected line.text interfaces usbMap = some (true, after, closed))
      (stored : closed[serial]? = some entry)
      (appended : entry.disconnectionTimes =
        (usbMap[serial]?.getD {}).disconnectionTimes ++ [time])

theorem StoresTime.eq_logTime {line : LogLine} {time : CppString} (stores : StoresTime line time) :
    time = logTime line := by
  cases stores with
  | @connection interfaces after port element accepted new stored here =>
      rw [checkIfNewDeviceConnected_eq] at accepted
      obtain ⟨isNew, rfl⟩ := Prod.mk.inj (Option.some.inj accepted)
      obtain ⟨opened, success⟩ := Option.isSome_iff_exists.mp isNew
      have same : port = opened := by
        have known := (Option.filter_eq_some_iff.mp success).1
        rw [new] at known
        exact Option.some.inj known
      subst same
      rw [success] at stored
      simp only [getElem?_insert_eq, if_true, Option.some.injEq] at stored
      rw [← here, ← stored]
      rfl
  | @disconnection interfaces after usbMap closed serial entry done stored appended =>
      rw [checkIfDeviceDisconnected_getD line interfaces usbMap rfl] at done
      have maps := (Prod.mk.inj (Option.some.inj done)).2
      cases shut : closedRecord line interfaces ((usbPort line).getD []) with
      | none =>
          rw [shut] at maps
          obtain ⟨_, rfl⟩ := Prod.mk.inj maps
          rw [stored, Option.getD_some] at appended
          exact absurd appended (by simp)
      | some record =>
          rw [shut] at maps
          obtain ⟨_, rfl⟩ := Prod.mk.inj maps
          unfold recordClosing at stored
          rw [getElem?_alter_eq] at stored
          by_cases own : record.serialNumber = serial
          · rw [if_pos own, Option.some.injEq] at stored
            rw [← stored] at appended
            cases old : usbMap[serial]? with
            | none =>
                rw [old] at appended
                exact (List.cons.inj appended).1.symm
            | some usbElement =>
                rw [old] at appended
                exact (List.cons.inj (List.append_cancel_left appended)).1.symm
          · rw [if_neg own] at stored
            rw [stored, Option.getD_some] at appended
            exact absurd appended (by simp)

/-- The header of the line is one `time` has. -/
def HasHeader (line : LogLine) (time : SyslogTime) (rest : CppString) : Prop :=
  line.text = time.text ++ (' ' :: rest)

theorem cStr_header {line : LogLine} {time : SyslogTime} {rest : CppString}
    (header : HasHeader line time rest) : cStr line.text = time.text ++ (' ' :: cStr rest) := by
  unfold HasHeader at header
  rw [header, cStr_front (text_noNul time)]
  simp [cStr]

/-- A connection line is stored when its port has no record. -/
theorem storesTime_of_new {line : LogLine} {port : CppString} (new : newPort line = some port) :
    StoresTime line (logTime line) := by
  have free : acceptedPort line ∅ = some port := by
    apply acceptedPort_of_free new
    rw [Std.ExtTreeMap.getElem?_empty]
    rfl
  have accepted := checkIfNewDeviceConnected_eq line ∅
  rw [free] at accepted
  have stored : ((∅ : InterfacesMap).insert port (connected line (∅ : InterfacesMap)[port]?))[port]? =
      some (connected line (∅ : InterfacesMap)[port]?) := by
    rw [getElem?_insert_eq, if_pos rfl]
  exact .connection accepted new stored rfl

/-- The time stored of a line reads like its header just where the day shows a
character from 1 to 3, another time follows, or, past a line terminator, the
first date there spells the header's. -/
theorem stored_time_reads_header_iff {line : LogLine} {time : SyslogTime} {rest stored : CppString}
    (header : HasHeader line time rest) (stores : StoresTime line stored) :
    SameStamp (convertSyslogTimestampToTm stored) time.tm ↔
      ShowsDay time ∨ LaterClock (cStr line.text) ∨ DateRepeated time (cStr rest) := by
  have noNul : '\x00' ∉ cStr rest := by
    intro member
    exact absurd (List.mem_takeWhile_imp member) (by simp)
  rw [stores.eq_logTime, cStr_header header, ← dateIn_header_iff time noNul, ← cStr_header header]
  rfl

def twelfthOfJanuary : SyslogTime where
  month := Calendar.january
  day := 12
  hour := 9
  minute := 0
  second := 1
  day_pos := by decide
  day_le := by decide
  hour_lt := by decide
  minute_lt := by decide
  second_lt := by decide

def fifthOfJanuary : SyslogTime where
  month := Calendar.january
  day := 5
  hour := 9
  minute := 0
  second := 7
  day_pos := by decide
  day_le := by decide
  hour_lt := by decide
  minute_lt := by decide
  second_lt := by decide

def connectedOnTwelfth : LogLine := { text := "Jan 12 09:00:01 usb 1-6: new".toList }

def connectedOnFifth : LogLine := { text := "Jan  5 09:00:07 usb 1-6: new".toList }

theorem twelfth_reads_header :
    SameStamp (convertSyslogTimestampToTm (logTime connectedOnTwelfth)) twelfthOfJanuary.tm ↔
      ShowsDay twelfthOfJanuary ∨ LaterClock (cStr connectedOnTwelfth.text) ∨
        DateRepeated twelfthOfJanuary (cStr "usb 1-6: new".toList) := by
  have new : newPort connectedOnTwelfth = some "1-6".toList := by decide +kernel
  have header : HasHeader connectedOnTwelfth twelfthOfJanuary "usb 1-6: new".toList := by
    unfold HasHeader
    decide +kernel
  exact stored_time_reads_header_iff header (storesTime_of_new new)

/-- The connection of the fifth of January is stored without a time. -/
theorem fifth_stored_empty :
    HasHeader connectedOnFifth fifthOfJanuary "usb 1-6: new".toList ∧
      StoresTime connectedOnFifth [] ∧
      ¬ SameStamp (convertSyslogTimestampToTm []) fifthOfJanuary.tm := by
  have new : newPort connectedOnFifth = some "1-6".toList := by decide +kernel
  have nothing : logTime connectedOnFifth = [] := by decide +kernel
  have header : HasHeader connectedOnFifth fifthOfJanuary "usb 1-6: new".toList := by
    unfold HasHeader
    decide +kernel
  refine ⟨header, ?_, by decide⟩
  rw [← nothing]
  exact storesTime_of_new new

end StoringDevices
